import GroundLink.Text.Numeral

/-! # Compact JSON text

Snapshots are stored as JSON without blanks. A string escapes the quotation mark,
the backslash and the controls below the space; everything else is written as it is.
-/

namespace GroundLink.JsonText

/-- How one character is written inside a string. -/
def escape (c : Char) : List Char :=
  if c = '"' then ['\\', '"']
  else if c = '\\' then ['\\', '\\']
  else if c = '\n' then ['\\', 'n']
  else if c = '\r' then ['\\', 'r']
  else if c = '\t' then ['\\', 't']
  else if c = '\x08' then ['\\', 'b']
  else if c = '\x0c' then ['\\', 'f']
  else if c.toNat < 0x20 then '\\' :: 'u' :: (Numeral.fixed 16 4 c.toNat).toList
  else [c]

/-- A string. -/
def string (text : String) : String :=
  String.ofList ('"' :: text.toList.flatMap escape ++ ['"'])

/-- An object of members whose values are already written, in the given order. -/
def object (members : List (String × String)) : String :=
  "\x7b" ++ ",".intercalate (members.map fun member => string member.1 ++ ":" ++ member.2) ++ "\x7d"

end GroundLink.JsonText
