import GroundLink.Bytes
import GroundLink.Text.Numeral
import GroundLink.Text.Utf8

/-! # Frames to the satellite

An uplink frame carries a security code, a command and its parameters. The ground uses
one command: a line of text for the terminal of the satellite, with a number to be
repeated in the response and perhaps a block of data behind a zero octet.
-/

namespace GroundLink

/-- Why octets are no frame of the expected kind. -/
inductive FrameError where
  | tooShort (expected actual : Nat)
  | unexpectedCommand (command : UInt8)
  | invalidText (fault : Utf8.Fault)
  deriving Repr, DecidableEq

namespace FrameError

def message : FrameError → String
  | tooShort expected actual => s!"frame is {actual} bytes long, expected at least {expected}"
  | unexpectedCommand command => "unexpected command code " ++ Numeral.octet command
  | invalidText fault => "command line is not valid UTF-8: " ++ fault.message

end FrameError

structure Uplink where
  /-- A number of 32 bits. -/
  securityCode : UInt32
  command : UInt8
  parameters : Bytes
  deriving Repr, DecidableEq

namespace Uplink

/-- The octets in front of the parameters. -/
def headerLength : Nat := 5

def encode (uplink : Uplink) : Bytes :=
  Bytes.ofNatBE 4 uplink.securityCode.toNat ++ uplink.command :: uplink.parameters

def decode (raw : Bytes) : Except FrameError Uplink :=
  match raw with
  | a :: b :: c :: d :: command :: parameters =>
      .ok ⟨UInt32.ofNat (Bytes.toNatBE [a, b, c, d]), command, parameters⟩
  | _ => .error (.tooShort headerLength raw.length)

end Uplink

/-- A command line for the terminal, with or without a block of data. -/
structure TerminalRequest where
  id : UInt8
  line : String
  data : Option Bytes
  deriving Repr, DecidableEq

namespace TerminalRequest

/-- The command code of terminal requests. -/
def command : UInt8 := 0x30

/-- The octet between the line and the data. -/
def separator : UInt8 := 0x00

def toUplink (request : TerminalRequest) (securityCode : UInt32) : Uplink where
  securityCode := securityCode
  command := command
  parameters :=
    request.id :: (Utf8.encode request.line ++
      match request.data with
      | some data => separator :: data
      | none => [])

/-- The line and the data: everything up to the first separator, and everything behind it. -/
def splitData (body : Bytes) : Bytes × Option Bytes :=
  match body.dropWhile (· != separator) with
  | [] => (body, none)
  | _ :: data => (body.takeWhile (· != separator), some data)

def ofUplink (uplink : Uplink) : Except FrameError TerminalRequest :=
  if uplink.command ≠ command then .error (.unexpectedCommand uplink.command)
  else
    match uplink.parameters with
    | [] => .error (.tooShort 1 0)
    | id :: body =>
        let (line, data) := splitData body
        match Utf8.decode line with
        | .ok line => .ok ⟨id, line, data⟩
        | .error fault => .error (.invalidText fault)

end TerminalRequest

end GroundLink
