import GroundLink.Toml.Value

/-! # Reading settings from values

Settings have a type each; a value of another type, or a number out of range, is
refused, and keys that nobody asks for are ignored. A record may also be written as an
array of its settings in order, of which only those with a default may be missing.
-/

namespace GroundLink.Toml

namespace Value

def string? : Value → Option String
  | string text => some text
  | _ => none

/-- A number from zero to below the limit. -/
def natural? (limit : Nat) : Value → Option Nat
  | integer n => if 0 ≤ n ∧ n < limit then some n.toNat else none
  | _ => none

def items? : Value → Option (List Value)
  | array items => some items
  | tables items => some items
  | _ => none

/-- One of several words: a string, or a table whose only key is the word and whose only
value is empty. -/
def word? : Value → Option String
  | string text => some text
  | table _ [(key, array [])] => some key
  | table _ [(key, tables [])] => some key
  | table _ [(key, table _ [])] => some key
  | _ => none

end Value

/-- The settings of a record, by name or by position. -/
inductive Record where
  | named (entries : Entries)
  | listed (items : List Value)

namespace Record

def ofValue? : Value → Option Record
  | .table _ entries => some (.named entries)
  | .array items => some (.listed items)
  | .tables items => some (.listed items)
  | _ => none

/-- The value of a setting, if it is there. -/
def get? (record : Record) (position : Nat) (name : String) : Option Value :=
  match record with
  | named entries => entries.lookup name
  | listed items => items[position]?

/-- A setting that has to be there. -/
def required {α : Type} (record : Record) (position : Nat) (name : String)
    (read : Value → Option α) : Option α :=
  match record.get? position name with
  | some value => read value
  | none => none

/-- A setting with a default. -/
def withDefault {α : Type} (record : Record) (position : Nat) (name : String)
    (read : Value → Option α) (default : α) : Option α :=
  match record.get? position name with
  | some value => read value
  | none => some default

/-- A setting without a default that a named record may leave out. -/
def optional {α : Type} (record : Record) (position : Nat) (name : String)
    (read : Value → Option α) : Option (Option α) :=
  match record.get? position name, record with
  | some value, _ => (read value).map some
  | none, named _ => some none
  | none, listed _ => none

end Record

end GroundLink.Toml
