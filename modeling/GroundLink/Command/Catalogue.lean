import GroundLink.Command.Client

/-! # The telecommands

The terminal of the satellite offers its file system, its mission clock, its buses and its
state. Each telecommand below fixes the line that is sent and the answer that is expected.
-/

namespace GroundLink.Command

/-- Which bus a transfer uses. -/
inductive Bus where
  | system
  | payload
  deriving Repr, DecidableEq

namespace Bus

def argument : Bus → String
  | system => "system"
  | payload => "payload"

end Bus

/-- Whether a transfer only writes, or reads the answer of the device too. -/
inductive TransferMode where
  | write
  | writeRead
  deriving Repr, DecidableEq

namespace TransferMode

def argument : TransferMode → String
  | write => "w"
  | writeRead => "wr"

end TransferMode

namespace Telecommand

def ping : Telecommand String := ⟨"ping", .text, .apid .terminal⟩
def getState : Telecommand String := ⟨"getState", .text, .apid .terminal⟩
def listFiles : Telecommand (List String) := ⟨"listFiles \x7b0\x7d", .fileNames, .apid .terminal⟩
def listFileSizes : Telecommand (List (String × Nat)) :=
  ⟨"listFiles \x7b0\x7d", .fileSizes, .apid .terminal⟩
def writeFile : Telecommand Nat := ⟨"writeFile \x7b0\x7d", .byteCount, .apid .terminal⟩
def fetchFile : Telecommand Bytes := ⟨"readFile \x7b0\x7d", .raw, .apid .terminal⟩
def syncFiles : Telecommand Unit := ⟨"sync_fs", .ignored, .apid .terminal⟩
def erase : Telecommand Unit := ⟨"erase \x7b0\x7d", .ignored, .apid .terminal⟩
def removeFile : Telecommand Unit := ⟨"rm \x7b0\x7d", .ignored, .apid .terminal⟩
def jumpToTime : Telecommand Unit := ⟨"jumpToTime \x7b0\x7d", .acknowledged, .apid .terminal⟩
def advanceTime : Telecommand Unit := ⟨"advance_time \x7b0\x7d", .acknowledged, .apid .terminal⟩
def currentTime : Telecommand Nat := ⟨"currentTime", .milliseconds, .apid .terminal⟩
def transfer : Telecommand String :=
  ⟨"i2c \x7b0\x7d \x7b1\x7d \x7b2\x7d \x7b3\x7d", .transfer, .apid .terminal⟩

end Telecommand

/-- A result and the session after it. -/
abbrev Exchange (α : Type) := Session → Except ClientError α × Session

namespace Client

variable (client : Client)

def ping : Exchange String := client.execute .ping ⟨[], []⟩ none

def getState : Exchange String := client.execute .getState ⟨[], []⟩ none

def listFiles (path : String) : Exchange (List String) :=
  client.execute .listFiles ⟨[path], []⟩ none

def listFileSizes (path : String) : Exchange (List (String × Nat)) :=
  client.execute .listFileSizes ⟨[path], []⟩ none

/-- Writes a file and gives the number of octets that the satellite reports as written. -/
def writeFile (path : String) (content : Bytes) : Exchange Nat :=
  client.execute .writeFile ⟨[path], []⟩ (some content)

def fetchFile (path : String) : Exchange Bytes := client.execute .fetchFile ⟨[path], []⟩ none

def syncFiles : Exchange Unit := client.execute .syncFiles ⟨[], []⟩ none

def erase (chip : Nat) : Exchange Unit :=
  client.execute .erase ⟨[Numeral.decimal chip], []⟩ none

def removeFile (path : String) : Exchange Unit := client.execute .removeFile ⟨[path], []⟩ none

/-- The whole milliseconds of a time, as an argument. -/
def wholeMilliseconds (nanoseconds : Nat) : String := Numeral.decimal (nanoseconds / 1000000)

def jumpToTime (nanoseconds : Nat) : Exchange Unit :=
  client.execute .jumpToTime ⟨[wholeMilliseconds nanoseconds], []⟩ none

def advanceTime (nanoseconds : Nat) : Exchange Unit :=
  client.execute .advanceTime ⟨[wholeMilliseconds nanoseconds], []⟩ none

/-- The mission time in milliseconds. -/
def currentTime : Exchange Nat := client.execute .currentTime ⟨[], []⟩ none

def transfer (mode : TransferMode) (bus : Bus) (device : Nat) (data : String) : Exchange String :=
  client.execute .transfer ⟨[mode.argument, bus.argument, Numeral.decimal device, data], []⟩ none

end Client

end GroundLink.Command
