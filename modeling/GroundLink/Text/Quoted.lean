import GroundLink.Text.Numeral
import GroundLink.Text.Visible

/-! # Quoted text

Names and command lines appear in messages between quotation marks. What would
break the line, end the quotation or not show at all is escaped; all other
characters stand for themselves.
-/

namespace GroundLink.Text

/-- How one character is written inside a quotation. -/
def escape (c : Char) : List Char :=
  if c = '\x00' then ['\\', '0']
  else if c = '\t' then ['\\', 't']
  else if c = '\n' then ['\\', 'n']
  else if c = '\r' then ['\\', 'r']
  else if c = '"' then ['\\', '"']
  else if c = '\\' then ['\\', '\\']
  else if isVisible c then [c]
  else "\\u\x7b".toList ++ (Numeral.hex c.toNat).toList ++ ['\x7d']

/-- The text between quotation marks. -/
def quoted (text : String) : String :=
  String.ofList ('"' :: text.toList.flatMap escape ++ ['"'])

end GroundLink.Text
