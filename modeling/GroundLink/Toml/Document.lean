import GroundLink.Toml.Value
import GroundLink.Toml.Text
import GroundLink.Toml.Number
import GroundLink.Toml.Moment

/-! # Documents

A document is a run of statements: headers that open a table, and keys with values that
go into the table opened last. The statements are taken from the text first; the table
is built from them afterwards, header by header.
-/

namespace GroundLink.Toml

/-- A key of several parts with its value. -/
structure Binding where
  path : List String
  key : String
  value : Value

namespace Scan

/-- A value that contains no other one. -/
def scalar : Scan Value := fun text =>
  match text with
  | 't' :: 'r' :: 'u' :: 'e' :: rest => some (.boolean true, rest)
  | 'f' :: 'a' :: 'l' :: 's' :: 'e' :: rest => some (.boolean false, rest)
  | text =>
      ((string text).map fun (text, rest) => (.string text, rest)) <|>
        ((moment text).map fun (_, rest) => (.moment, rest)) <|>
          ((fraction text).map fun (_, rest) => (.fraction, rest)) <|>
            (integer text).map fun (n, rest) => (.integer n, rest)

/-- The items of an array, behind its opening bracket. -/
def arrayItems (item : Scan Value) : Scan Value := fun text => do
  let itemInGap : Scan Value := fun text => do
    let (value, rest) ← item (skipGap text)
    pure (value, skipGap rest)
  let (items, rest) := separated ',' itemInGap text
  let rest := if items.isEmpty then rest else (exactly ',' rest).getD rest
  let rest ← exactly ']' (skipGap rest)
  pure (.array items, rest)

/-- A key, an equals sign and a value. -/
def binding (value : Scan Value) : Scan Binding := fun text => do
  let ((path, key), rest) ← key text
  let rest ← exactly '=' rest
  let (value, rest) ← value (skipBlanks rest)
  pure (⟨path, key, value⟩, rest)

/-- The bindings of a table between braces, behind its opening brace. -/
def tableEntries (value : Scan Value) : Scan Value := fun text => do
  let entry : Scan Binding := fun text => do
    let (found, rest) ← binding value text
    pure (found, skipBlanks rest)
  let (bindings, rest) := separated ',' entry text
  let rest ← exactly '\x7d' (skipBlanks rest)
  let entries ← bindings.foldlM
    (fun entries found => Entries.insert .braces entries found.path found.key found.value) []
  pure (.table .braces entries, rest)

/-- A value in which arrays and tables are nested at most `depth` deep. -/
def value : Nat → Scan Value
  | 0 => scalar
  | depth + 1 => fun text =>
      match text with
      | '[' :: rest => arrayItems (value depth) rest
      | '\x7b' :: rest => tableEntries (value depth) rest
      | text => scalar text

end Scan

/-- What a line of a document says. -/
inductive Statement where
  | empty
  | bind (binding : Binding)
  /-- Opens a table, or another table of an array of tables. -/
  | header (isItem : Bool) (path : List String) (key : String)

namespace Scan

/-- A line, with its end. -/
def statement : Scan Statement := fun text =>
  match skipBlanks text with
  | [] => none
  | '#' :: rest => do
      let rest ← restOfLine ('#' :: rest)
      pure (.empty, rest)
  | '[' :: '[' :: rest => do
      let ((path, key), rest) ← key rest
      let rest ← exactly ']' rest
      let rest ← exactly ']' rest
      let rest ← restOfLine rest
      pure (.header true path key, rest)
  | '[' :: rest => do
      let ((path, key), rest) ← key rest
      let rest ← exactly ']' rest
      let rest ← restOfLine rest
      pure (.header false path key, rest)
  | text =>
      match lineEnd text with
      | some rest => some (.empty, rest)
      | none => do
          let (found, rest) ← binding (value (nestingLimit - 1)) text
          let rest ← restOfLine rest
          pure (.bind found, rest)

/-- All statements of a text, behind the byte order mark that may open it. -/
def statements? (text : List Char) : Option (List Statement) :=
  let text := match text with
    | '\ufeff' :: rest => rest
    | text => text
  let (found, rest) := many statement text
  if (skipBlanks rest).isEmpty then some found else none

end Scan

/-- The bindings in front of the first header, and each header with the bindings that
follow it. -/
structure Section where
  isItem : Bool
  path : List String
  key : String
  bindings : List Binding

/-- Puts statements into the sections to which they belong. -/
def sections : List Statement → List Binding × List Section
  | [] => ([], [])
  | .empty :: rest => sections rest
  | .bind binding :: rest =>
      let (bindings, others) := sections rest
      (binding :: bindings, others)
  | .header isItem path key :: rest =>
      let (bindings, others) := sections rest
      ([], ⟨isItem, path, key, bindings⟩ :: others)

/-- Adds bindings to the entries of a table with a header. -/
def fill (entries : Entries) (bindings : List Binding) : Option Entries :=
  bindings.foldlM
    (fun entries found => Entries.insert .header entries found.path found.key found.value) entries

/-- Adds a section to a document. A table may have one header, which may come after the
headers of tables inside it; an array of tables grows by one with each header. -/
def addSection (document : Entries) (part : Section) : Option Entries :=
  let place (_ : Origin) (parent : Entries) : Option Entries :=
    match part.isItem, parent.lookup part.key with
    | false, none => do
        let entries ← fill [] part.bindings
        pure (parent ++ [(part.key, .table .header entries)])
    | false, some (.table .implied inner) => do
        let entries ← fill inner part.bindings
        pure (Entries.set parent part.key (.table .header entries))
    | true, none => do
        let entries ← fill [] part.bindings
        pure (parent ++ [(part.key, .tables [.table .header entries])])
    | true, some (.tables items) => do
        let entries ← fill [] part.bindings
        pure (Entries.set parent part.key (.tables (items ++ [.table .header entries])))
    | _, _ => none
  Entries.modify .implied place part.path .header document

/-- The document that a text spells. -/
def parse? (text : String) : Option Entries := do
  let statements ← Scan.statements? text.toList
  let (bindings, others) := sections statements
  let document ← fill [] bindings
  others.foldlM addSection document

end GroundLink.Toml
