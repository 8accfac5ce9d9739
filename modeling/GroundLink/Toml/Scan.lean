/-! # Taking a document apart

A scanner takes a leading part of a text and returns what it means and the rest, or
fails. Each of them looks only at the text in front of it.
-/

namespace GroundLink.Toml

/-- Takes a leading part of a text. -/
abbrev Scan (α : Type) := List Char → Option (α × List Char)

namespace Scan

/-- Items behind each other, as many as there are. An item that takes nothing ends the run. -/
def many {α : Type} (item : Scan α) (text : List Char) : List α × List Char :=
  match item text with
  | none => ([], text)
  | some (first, rest) =>
      if rest.length < text.length then
        let (others, last) := many item rest
        (first :: others, last)
      else ([], text)
termination_by text.length

/-- One character that satisfies the test. -/
def oneOf (test : Char → Bool) : Scan Char
  | c :: rest => if test c then some (c, rest) else none
  | [] => none

/-- Exactly this character. -/
def exactly (expected : Char) (text : List Char) : Option (List Char) :=
  match text with
  | c :: rest => if c = expected then some rest else none
  | [] => none

/-- Items with separators between them, as many as there are, possibly none. A separator
that no item follows is left alone. -/
def separated {α : Type} (separator : Char) (item : Scan α) (text : List Char) :
    List α × List Char :=
  match item text with
  | none => ([], text)
  | some (first, rest) =>
      let next : Scan α := fun text => do
        let text ← exactly separator text
        item text
      let (others, last) := many next rest
      (first :: others, last)

def isBlank (c : Char) : Bool := c == ' ' || c == '\t'

/-- Without blanks in front. -/
def skipBlanks (text : List Char) : List Char := text.dropWhile isBlank

/-- A line feed, alone or behind a carriage return. -/
def lineEnd : List Char → Option (List Char)
  | '\n' :: rest => some rest
  | '\r' :: '\n' :: rest => some rest
  | _ => none

/-- Without blanks and line ends in front. -/
def skipBlankLines : List Char → List Char
  | '\r' :: '\n' :: rest => skipBlankLines rest
  | c :: rest => if isBlank c || c == '\n' then skipBlankLines rest else c :: rest
  | [] => []

/-- What may stand in a comment: tabs and everything that is no control character. -/
def isCommentChar (c : Char) : Bool := c == '\t' || (c.toNat ≥ 0x20 && c.toNat ≠ 0x7F)

/-- Without a comment in front. -/
def skipComment : List Char → List Char
  | '#' :: rest => rest.dropWhile isCommentChar
  | text => text

/-- The end of a line with content: blanks, a comment, and the line end or the end of all. -/
def restOfLine (text : List Char) : Option (List Char) :=
  match skipComment (skipBlanks text) with
  | [] => some []
  | rest => lineEnd rest

/-- One line of an array that holds nothing but blanks and perhaps a comment. -/
def emptyLine : Scan Unit := fun text => do
  let rest ← lineEnd (skipComment (skipBlanks text))
  pure ((), rest)

/-- Without the blanks, comments and line ends between the items of an array. -/
def skipGap (text : List Char) : List Char := skipBlanks (many emptyLine text).2

end Scan

end GroundLink.Toml
