import GroundLink.Text.Lines
import GroundLink.Text.Quoted
import GroundLink.Text.Utf8

/-! # Responses as values

The terminal of the satellite answers in text. Each command knows how to read its answer;
an answer that cannot be read is reported with everything that led to the failure,
outermost first.
-/

namespace GroundLink.Command

/-- Why an answer is not what the command expects. -/
inductive ResponseFault where
  | notText (fault : Utf8.Fault)
  | notAcknowledged (text : String)
  | notMilliseconds (text : String) (fault : Numeral.Fault)
  | notByteCount (text : String) (fault : Numeral.Fault)
  | noSize (line : String)
  | badSize (line : String) (fault : Numeral.Fault)
  | transferFailed (output : String)
  deriving Repr, DecidableEq

namespace ResponseFault

/-- What went wrong and why, outermost first. -/
def chain : ResponseFault → List String
  | notText fault => ["Response is not valid UTF-8", fault.message]
  | notAcknowledged text => ["Expected OK, got " ++ Text.quoted text]
  | notMilliseconds text fault =>
      ["Expected milliseconds, got " ++ Text.quoted text, fault.message]
  | notByteCount text fault =>
      ["Expected a byte count, got " ++ Text.quoted text, fault.message]
  | noSize line => ["No size in listing " ++ Text.quoted line]
  | badSize line fault => ["Invalid size in " ++ Text.quoted line, fault.message]
  | transferFailed output => ["I2C transfer failed: " ++ output]

end ResponseFault

/-- Reads the payload of a successful response. -/
abbrev Reading (α : Type) := Bytes → Except ResponseFault α

namespace Reading

/-- The text of an answer without the line breaks at its end. -/
def text : Reading String := fun payload =>
  match Utf8.decode payload with
  | .ok text => .ok (String.ofList (Text.dropLineEnds text.toList))
  | .error fault => .error (.notText fault)

/-- Whatever was answered. -/
def ignored : Reading Unit := fun _ => .ok ()

/-- An answer that says `OK` and nothing else. -/
def acknowledged : Reading Unit := fun payload => do
  let text ← text payload
  if text = "OK" then .ok () else .error (.notAcknowledged text)

/-- The octets as they came. -/
def raw : Reading Bytes := fun payload => .ok payload

/-- A number of 64 bits, with blanks around it. -/
def word (text : String) : Except Numeral.Fault Nat :=
  Numeral.read Numeral.wordLimit (Text.trim text.toList)

def milliseconds : Reading Nat := fun payload => do
  let text ← text payload
  (word text).mapError (.notMilliseconds text)

def byteCount : Reading Nat := fun payload => do
  let text ← text payload
  (word text).mapError (.notByteCount text)

/-- The lines of a listing that are not empty. -/
def listing : Reading (List (List Char)) := fun payload => do
  let text ← text payload
  pure ((Text.lines text.toList).filter fun line => !line.isEmpty)

/-- The part of a line of a listing in front of the first tab, or all of it. -/
def entryName (line : List Char) : String := String.ofList (line.takeWhile (· != '\t'))

def fileNames : Reading (List String) := fun payload => do
  let lines ← listing payload
  pure (lines.map entryName)

/-- A line of a listing, with its size behind the first tab. -/
def entry (line : List Char) : Except ResponseFault (String × Nat) :=
  match Text.splitAt? '\t' line with
  | none => .error (.noSize (String.ofList line))
  | some (name, size) =>
      match Numeral.read Numeral.wordLimit (Text.trim size) with
      | .ok size => .ok (String.ofList name, size)
      | .error fault => .error (.badSize (String.ofList line) fault)

def fileSizes : Reading (List (String × Nat)) := fun payload => do
  let lines ← listing payload
  lines.mapM entry

/-- The output of a bus transfer. The terminal reports a failed transfer in words. -/
def transfer : Reading String := fun payload => do
  let text ← text payload
  if text.startsWith "Error" || text.startsWith "Unknown" then .error (.transferFailed text)
  else .ok text

end Reading

end GroundLink.Command
