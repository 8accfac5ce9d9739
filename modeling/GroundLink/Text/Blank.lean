import GroundLink.Text.CodePoints

/-! # Blank characters

The characters with the Unicode property White_Space, by which numbers in
responses are trimmed.
-/

namespace GroundLink.Text

/-- The characters with the property White_Space. -/
def blankRanges : CodePoints :=
  [(0x9, 0xD), (0x20, 0x20), (0x85, 0x85), (0xA0, 0xA0), (0x1680, 0x1680), (0x2000, 0x200A),
   (0x2028, 0x2029), (0x202F, 0x202F), (0x205F, 0x205F), (0x3000, 0x3000)]

/-- A character that trimming removes. -/
def isBlank (c : Char) : Bool := blankRanges.contains c

end GroundLink.Text
