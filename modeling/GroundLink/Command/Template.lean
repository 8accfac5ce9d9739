import GroundLink.Text.Alphabetic
import GroundLink.Text.Numeric
import GroundLink.Text.Quoted

/-! # Command templates

A template is a command line with placeholders for arguments. A placeholder is empty,
for the next positional argument, or holds the number of one, or the name of a keyword
argument; doubled braces stand for single ones. Arguments are put in as they are and
never read again. A strict formatter wants every argument to be used.
-/

namespace GroundLink.Command

/-- What is wrong with a template. -/
inductive Flaw where
  /-- A closing brace without an opening one. -/
  | unmatched
  /-- A placeholder without its closing brace. -/
  | unterminated
  /-- Both empty and numbered placeholders. -/
  | mixedNumbering
  | indexTooLarge
  /-- Neither a number nor a name. -/
  | badName
  deriving Repr, DecidableEq

namespace Flaw

def message : Flaw → String
  | unmatched => "unmatched '\x7d'"
  | unterminated => "unterminated placeholder"
  | mixedNumbering => "mixes \x7b\x7d with numbered placeholders"
  | indexTooLarge => "index out of range"
  | badName => "placeholder is neither an index nor a name"

end Flaw

/-- Why a command line could not be made. Positions count octets. -/
inductive FormatError where
  | malformed (template : String) (position : Nat) (flaw : Flaw)
  /-- No argument for the placeholder of this text. -/
  | missingArgument (template placeholder : String)
  | unusedArgument (template argument : String)
  deriving Repr, DecidableEq

namespace FormatError

def message : FormatError → String
  | malformed template position flaw =>
      "malformed template " ++ Text.quoted template ++ s!" at byte {position}: " ++ flaw.message
  | missingArgument template placeholder =>
      "template " ++ Text.quoted template ++ " references \x7b" ++ placeholder
        ++ "\x7d, but no such argument was supplied"
  | unusedArgument template argument =>
      "argument " ++ argument ++ " is never referenced by template " ++ Text.quoted template

end FormatError

/-- A piece of a template, with its position where that may be reported. -/
inductive Piece where
  | literal (c : Char)
  | placeholder (position : Nat) (name : List Char)
  /-- Where the template stops making sense. -/
  | flawed (position : Nat) (flaw : Flaw)
  deriving Repr, DecidableEq

/-- The number of octets of a text. -/
def octetCount (text : List Char) : Nat := text.foldr (fun c total => c.utf8Size + total) 0

def isBrace (c : Char) : Bool := c == '\x7b' || c == '\x7d'

/-- The pieces of a template, up to the first flaw. -/
def pieces (position : Nat) (template : List Char) : List Piece :=
  match template with
  | [] => []
  | '\x7b' :: '\x7b' :: rest => .literal '\x7b' :: pieces (position + 2) rest
  | '\x7d' :: '\x7d' :: rest => .literal '\x7d' :: pieces (position + 2) rest
  | '\x7d' :: _ => [.flawed position .unmatched]
  | '\x7b' :: rest =>
      let name := rest.takeWhile (!isBrace ·)
      match hafter : rest.dropWhile (!isBrace ·) with
      | '\x7d' :: after =>
          have : after.length < rest.length + 1 := by
            have := (List.dropWhile_sublist (!isBrace ·) (l := rest)).length_le
            rw [hafter, List.length_cons] at this
            omega
          .placeholder position name :: pieces (position + octetCount name + 2) after
      | _ => [.flawed position .unterminated]
  | c :: rest => .literal c :: pieces (position + c.utf8Size) rest
termination_by template.length

/-- The arguments of a command. -/
structure Arguments where
  positional : List String := []
  /-- Of several keywords with one name only the first counts. -/
  keywords : List (String × String) := []
  deriving Repr, DecidableEq

/-- What a placeholder asks for. -/
inductive Reference where
  | position (index : Nat)
  | keyword (name : String)
  deriving Repr, DecidableEq

namespace Arguments

def find? (arguments : Arguments) : Reference → Option String
  | .position index => arguments.positional[index]?
  | .keyword name => arguments.keywords.lookup name

/-- The first keyword that is not among the references. A keyword that repeats an earlier
name cannot be referred to. -/
def unusedKeyword? (used : List Reference) (seen : List String) :
    List (String × String) → Option String
  | [] => none
  | (name, _) :: rest =>
      if name ∈ seen ∨ .keyword name ∉ used then some name
      else unusedKeyword? used (name :: seen) rest

/-- The first argument that is not among the references: positional ones come first. -/
def unused? (arguments : Arguments) (used : List Reference) : Option String :=
  match (List.range arguments.positional.length).find? fun index => .position index ∉ used with
  | some index => some (Numeral.decimal index)
  | none => unusedKeyword? used [] arguments.keywords

end Arguments

/-- How the placeholders so far have chosen positional arguments. -/
inductive Numbering where
  | undecided
  /-- By order; `next` is the next one. -/
  | automatic (next : Nat)
  | manual
  deriving Repr, DecidableEq

/-- A name of a keyword begins with a letter of any script or an underscore and goes on with
letters, numbers and underscores. -/
def isName : List Char → Bool
  | [] => false
  | first :: rest =>
      (Text.isAlphabetic first || first == '_') &&
        rest.all fun c => Text.isAlphabetic c || Text.isNumeric c || c == '_'

/-- What the placeholder of a name asks for, and how numbering goes on. -/
def refer (numbering : Numbering) (name : List Char) : Except Flaw (Reference × Numbering) :=
  if name.isEmpty then
    match numbering with
    | .undecided => .ok (.position 0, .automatic 1)
    | .automatic next => .ok (.position next, .automatic (next + 1))
    | .manual => .error .mixedNumbering
  else if name.all Char.isDigit then
    match numbering with
    | .automatic _ => .error .mixedNumbering
    | _ =>
        match Numeral.read Numeral.wordLimit name with
        | .ok index => .ok (.position index, .manual)
        | .error _ => .error .indexTooLarge
  else if isName name then .ok (.keyword (String.ofList name), numbering)
  else .error .badName

/-- Why the pieces of a template do not make a command line. -/
inductive PieceFault where
  | flaw (position : Nat) (flaw : Flaw)
  | missing (name : List Char)
  deriving Repr, DecidableEq

/-- The text that pieces stand for, and the references that were followed. -/
def fill (arguments : Arguments) :
    Numbering → List Piece → Except PieceFault (List Char × List Reference)
  | _, [] => .ok ([], [])
  | numbering, .literal c :: rest => do
      let (text, used) ← fill arguments numbering rest
      pure (c :: text, used)
  | _, .flawed position flaw :: _ => .error (.flaw position flaw)
  | numbering, .placeholder position name :: rest =>
      match refer numbering name with
      | .error flaw => .error (.flaw position flaw)
      | .ok (reference, numbering) =>
          match arguments.find? reference with
          | none => .error (.missing name)
          | some value => do
              let (text, used) ← fill arguments numbering rest
              pure (value.toList ++ text, reference :: used)

/-- Makes command lines from templates. -/
structure Formatter where
  /-- Whether every argument has to be used. -/
  strict : Bool := true
  deriving Repr, DecidableEq

namespace Formatter

def format (formatter : Formatter) (template : String) (arguments : Arguments) :
    Except FormatError String :=
  match fill arguments .undecided (pieces 0 template.toList) with
  | .error (.flaw position flaw) => .error (.malformed template position flaw)
  | .error (.missing name) => .error (.missingArgument template (String.ofList name))
  | .ok (text, used) =>
      match if formatter.strict then arguments.unused? used else none with
      | some argument => .error (.unusedArgument template argument)
      | none => .ok (String.ofList text)

end Formatter

end GroundLink.Command
