import GroundLink.Text.Blank

/-! # Lines and margins

A response is split at line feeds. A carriage return in front of a line feed
belongs to the line end, and a last line end is not followed by an empty line.
-/

namespace GroundLink.Text

/-- Without the characters at the end that satisfy the test. -/
def dropEnd (test : Char → Bool) (text : List Char) : List Char :=
  (text.reverse.dropWhile test).reverse

/-- Without blanks at both ends. -/
def trim (text : List Char) : List Char := dropEnd isBlank (text.dropWhile isBlank)

/-- Without line breaks at the end. -/
def dropLineEnds (text : List Char) : List Char :=
  dropEnd (fun c => c == '\r' || c == '\n') text

/-- Without one carriage return at the end. -/
def dropReturn (line : List Char) : List Char :=
  if line.getLast? = some '\r' then line.dropLast else line

/-- The lines of a text. The line being read is `current`, in reverse. -/
def linesFrom (current : List Char) : List Char → List (List Char)
  | [] => if current.isEmpty then [] else [current.reverse]
  | c :: rest =>
      if c = '\n' then dropReturn current.reverse :: linesFrom [] rest
      else linesFrom (c :: current) rest

/-- The lines of a text, without their ends. -/
def lines (text : List Char) : List (List Char) := linesFrom [] text

/-- The parts between separators; a text without any has one part. -/
def parts (separator : Char) : List Char → List (List Char)
  | [] => [[]]
  | c :: rest =>
      if c = separator then [] :: parts separator rest
      else
        match parts separator rest with
        | first :: others => (c :: first) :: others
        | [] => [[c]]

/-- The parts before and after the first character equal to `separator`. -/
def splitAt? (separator : Char) (text : List Char) : Option (List Char × List Char) :=
  match text.dropWhile (· != separator) with
  | [] => none
  | _ :: after => some (text.takeWhile (· != separator), after)

end GroundLink.Text
