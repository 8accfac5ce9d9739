import GroundLink.Toml.Scan

/-! # Strings and keys of a document

Basic strings know escapes, literal strings do not. Three quotation marks open a
string that runs over lines; inside it one or two quotation marks stand for
themselves, and up to two more may precede the closing three.
-/

namespace GroundLink.Toml.Scan

def hexDigit? (c : Char) : Option Nat :=
  if c.isDigit then some (c.toNat - '0'.toNat)
  else if 'a' ≤ c ∧ c ≤ 'f' then some (c.toNat - 'a'.toNat + 10)
  else if 'A' ≤ c ∧ c ≤ 'F' then some (c.toNat - 'A'.toNat + 10)
  else none

/-- A character given by exactly `count` hexadecimal digits. -/
def codePoint (count : Nat) : Scan Char := fun text => do
  let digits ← (text.take count).mapM hexDigit?
  if digits.length = count then
    let code := digits.foldl (fun value digit => value * 16 + digit) 0
    if code.isValidChar then some (Char.ofNat code, text.drop count) else none
  else none

/-- What follows a backslash. -/
def escaped : Scan Char
  | 'b' :: rest => some ('\x08', rest)
  | 'f' :: rest => some ('\x0c', rest)
  | 'n' :: rest => some ('\n', rest)
  | 'r' :: rest => some ('\r', rest)
  | 't' :: rest => some ('\t', rest)
  | '"' :: rest => some ('"', rest)
  | '\\' :: rest => some ('\\', rest)
  | 'u' :: rest => codePoint 4 rest
  | 'U' :: rest => codePoint 8 rest
  | _ => none

/-- One character of a basic string. -/
def basicChar : Scan Char
  | '\\' :: rest => escaped rest
  | c :: rest => if isCommentChar c && c != '"' then some (c, rest) else none
  | [] => none

/-- One character of a literal string. -/
def literalChar : Scan Char := oneOf fun c => isCommentChar c && c != '\x27'

/-- A backslash at the end of a line takes the line end and all blanks up to the next
content with it. -/
def continuation : Scan (List Char)
  | '\\' :: rest => do
      let next ← lineEnd (skipBlanks rest)
      pure ([], skipBlankLines next)
  | _ => none

/-- One or two quotation marks that do not begin a closing. -/
def looseQuotes (mark : Char) : Scan (List Char) := fun text =>
  let marks := text.takeWhile (· == mark)
  if marks.length = 1 ∨ marks.length = 2 then some (marks, text.drop marks.length) else none

/-- A line end inside a string counts as a line feed. -/
def innerLineEnd : Scan (List Char) := fun text => do
  let rest ← lineEnd text
  pure (['\n'], rest)

/-- The closing three quotation marks, with up to two that belong to the string. -/
def closing (mark : Char) : Scan (List Char) := fun text =>
  let marks := text.takeWhile (· == mark)
  if 3 ≤ marks.length ∧ marks.length ≤ 5 then
    some (marks.drop 3, text.drop marks.length)
  else none

/-- One piece of a string over several lines. -/
def piece (mark : Char) (inner : Scan Char) : Scan (List Char) := fun text =>
  innerLineEnd text <|> looseQuotes mark text <|>
    (if mark = '"' then continuation text else none) <|>
      (inner text).map fun (c, rest) => ([c], rest)

/-- A string over several lines, behind its opening marks. A line end directly behind them
is dropped. -/
def multiline (mark : Char) (inner : Scan Char) : Scan String := fun text => do
  let (pieces, rest) := many (piece mark inner) ((lineEnd text).getD text)
  let (last, rest) ← closing mark rest
  pure (String.ofList (pieces.flatten ++ last), rest)

/-- A string on one line, behind its opening mark. -/
def singleLine (mark : Char) (inner : Scan Char) : Scan String := fun text => do
  let (chars, rest) := many inner text
  let rest ← exactly mark rest
  pure (String.ofList chars, rest)

/-- A string of any of the four kinds. -/
def string : Scan String
  | '"' :: '"' :: '"' :: rest => multiline '"' basicChar rest
  | '"' :: rest => singleLine '"' basicChar rest
  | '\x27' :: '\x27' :: '\x27' :: rest => multiline '\x27' literalChar rest
  | '\x27' :: rest => singleLine '\x27' literalChar rest
  | _ => none

def isBareKeyChar (c : Char) : Bool := c.isAlphanum || c == '-' || c == '_'

/-- One part of a key. -/
def keyPart : Scan String
  | '"' :: rest => singleLine '"' basicChar rest
  | '\x27' :: rest => singleLine '\x27' literalChar rest
  | text =>
      match text.takeWhile isBareKeyChar with
      | [] => none
      | part => some (String.ofList part, text.dropWhile isBareKeyChar)

/-- One part of a key with blanks around it. -/
def keyPartInBlanks : Scan String := fun text => do
  let (part, rest) ← keyPart (skipBlanks text)
  pure (part, skipBlanks rest)

/-- The number of nested keys, arrays and tables from which on a document is refused. -/
def nestingLimit : Nat := 80

/-- A key of one or more parts with dots between them: all parts but the last, and the
last. -/
def key : Scan (List String × String) := fun text =>
  match separated '.' keyPartInBlanks text with
  | (parts, rest) =>
      match parts.getLast? with
      | some last =>
          if parts.length < nestingLimit then some ((parts.dropLast, last), rest) else none
      | none => none

end GroundLink.Toml.Scan
