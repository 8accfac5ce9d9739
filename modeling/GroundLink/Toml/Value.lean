/-! # TOML values

A document is a table of values. How a table came about decides what may still be
added to it, so every table remembers its origin. No setting is a fraction or a
point in time; of these only the presence is kept.
-/

namespace GroundLink.Toml

/-- How a table came about. -/
inductive Origin where
  /-- Written between braces, and complete. -/
  | braces
  /-- Opened by a header of its own. -/
  | header
  /-- Needed by a longer header. -/
  | implied
  /-- Needed by a dotted key. -/
  | dotted
  deriving Repr, DecidableEq

inductive Value where
  | string (text : String)
  | integer (n : Int)
  | fraction
  | boolean (b : Bool)
  | moment
  | array (items : List Value)
  /-- An array whose items are tables with headers. -/
  | tables (items : List Value)
  | table (origin : Origin) (entries : List (String × Value))
  deriving Repr

/-- The keys of a table with their values, in the order in which they were written. -/
abbrev Entries := List (String × Value)

namespace Entries

/-- The entries with the value of a key exchanged. -/
def set (entries : Entries) (key : String) (value : Value) : Entries :=
  entries.map fun entry => if entry.1 == key then (key, value) else entry

/-- Follows a path of keys and changes the table at its end; `none` if the way is barred.
Missing tables on the way are made, with the origin `made`. The way goes through the last
item of an array of tables. A dotted key may not pass a table that has a header. -/
def modify (made : Origin) (change : Origin → Entries → Option Entries) :
    List String → Origin → Entries → Option Entries
  | [], origin, entries => change origin entries
  | key :: path, _, entries =>
      match entries.lookup key with
      | none => do
          let inner ← modify made change path made []
          pure (entries ++ [(key, .table made inner)])
      | some (.table origin inner) =>
          if origin = .braces ∨ (made = .dotted ∧ origin = .header) then none
          else do
            let inner ← modify made change path origin inner
            pure (set entries key (.table origin inner))
      | some (.tables items) =>
          match items.getLast? with
          | some (.table origin inner) => do
              let inner ← modify made change path origin inner
              pure (set entries key (.tables (items.dropLast ++ [.table origin inner])))
          | _ => none
      | some _ => none

/-- Adds a new key with its value. A key of several parts ends in a table that only dotted
keys have made. -/
def insert (origin : Origin) (entries : Entries) (path : List String) (key : String)
    (value : Value) : Option Entries :=
  let add (origin : Origin) (entries : Entries) : Option Entries :=
    if (origin == .dotted) == path.isEmpty then none
    else if (entries.lookup key).isSome then none
    else some (entries ++ [(key, value)])
  modify .dotted add path origin entries

end Entries

end GroundLink.Toml
