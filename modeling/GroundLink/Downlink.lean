import GroundLink.Telemetry.BitCursor
import GroundLink.Telemetry.BitWriter

/-! # Frames from the satellite

A frame says what kind of application it comes from and counts itself. A response names
the request that it answers and says whether that succeeded; a beacon carries telemetry;
everything else is kept as it came.
-/

namespace GroundLink

open Telemetry

/-- The application that a frame comes from. -/
inductive Apid where
  | pong
  | operation
  | terminal
  | fileSend
  | fileRemove
  | fileList
  | photo
  | beacon
  deriving Repr, DecidableEq

namespace Apid

def all : List Apid :=
  [pong, operation, terminal, fileSend, fileRemove, fileList, photo, beacon]

/-- The number of bits that a frame has for its application. -/
def bits : Nat := 6

/-- The number of an application in a frame. -/
def code : Apid → Nat
  | pong => 0x01
  | operation => 0x02
  | terminal => 0x03
  | fileSend => 0x04
  | fileRemove => 0x05
  | fileList => 0x06
  | photo => 0x07
  | beacon => 0x3F

def name : Apid → String
  | pong => "Pong"
  | operation => "Operation"
  | terminal => "Terminal"
  | fileSend => "FileSend"
  | fileRemove => "FileRemove"
  | fileList => "FileList"
  | photo => "Photo"
  | beacon => "Beacon"

def ofCode? (code : Nat) : Option Apid := all.find? fun apid => apid.code == code

def ofName? (name : String) : Option Apid := all.find? fun apid => apid.name == name

theorem ofCode?_code (apid : Apid) : ofCode? apid.code = some apid := by
  cases apid <;> rfl

theorem code_of_ofCode? {code : Nat} {apid : Apid} (h : ofCode? code = some apid) :
    apid.code = code := by
  have := List.find?_some h
  simpa using this

theorem code_lt (apid : Apid) : apid.code < 64 := by
  cases apid <;> decide

end Apid

/-- The number that ties a response to its request. It counts around from 255 to 0. -/
abbrev CorrelationId := UInt8

/-- Whether a request succeeded. -/
inductive Status where
  | success
  | error (code : UInt8)
  deriving Repr, DecidableEq

namespace Status

/-- The status that a code stands for. -/
def ofCode (code : UInt8) : Status := if code = 0 then success else error code

def code : Status → UInt8
  | success => 0
  | error code => code

theorem code_ofCode (code : UInt8) : (ofCode code).code = code := by
  unfold ofCode
  split
  · rename_i h
    rw [h]
    rfl
  · rfl

/-- Only the error of code 0 has the code of another status. -/
theorem ofCode_code_eq_iff {status : Status} : ofCode status.code = status ↔ status ≠ .error 0 := by
  cases status with
  | success => simp [ofCode, code]
  | error code =>
      by_cases hzero : code = 0
      · simp [ofCode, Status.code, hzero]
      · simp [ofCode, Status.code, hzero]

end Status

/-- The application and status of a response. -/
structure ResponseKind where
  apid : Apid
  status : Status
  deriving Repr, DecidableEq

/-- The answer to the request of a number. -/
structure Response where
  kind : ResponseKind
  id : CorrelationId
  payload : Bytes
  deriving Repr, DecidableEq

inductive Frame where
  | response (response : Response)
  | beacon (payload : Bytes)
  /-- What is neither of the two, as it came. -/
  | unknown (raw : Bytes)
  deriving Repr, DecidableEq

namespace Frame

/-- The octets in front of the body, with the application and the sequence number. -/
def headerLength : Nat := 3

def sequenceBits : Nat := 18

/-- The header of a frame. Of the sequence number only the low bits are kept. -/
def header (apid : Apid) (sequence : Nat) : Bytes :=
  ((BitWriter.empty.write apid.code Apid.bits).write sequence sequenceBits).bytes

/-- The frame as the satellite sends it. -/
def encode (frame : Frame) (sequence : Nat) : Bytes :=
  match frame with
  | response ⟨kind, id, payload⟩ =>
      header kind.apid sequence ++ id :: kind.status.code :: payload
  | beacon payload => header .beacon sequence ++ payload
  | unknown raw => raw

/-- The frame in the octets of a packet. -/
def decode (raw : Bytes) : Frame :=
  if raw.length < headerLength then unknown raw
  else
    match (BitCursor.ofBytes (raw.take headerLength)).read Apid.bits with
    | .error _ => unknown raw
    | .ok (code, _) =>
        match Apid.ofCode? code, raw.drop headerLength with
        | some .beacon, body => beacon body
        | some apid, id :: code :: payload => response ⟨⟨apid, .ofCode code⟩, id, payload⟩
        | _, _ => unknown raw

def response? : Frame → Option Response
  | response found => some found
  | _ => none

end Frame

/-- The kinds of response that a request waits for. -/
inductive FrameFilter where
  | any
  | apid (apid : Apid)
  | success (apid : Apid)
  /-- Any error of the application, whatever its code. -/
  | error (apid : Apid)
  deriving Repr, DecidableEq

namespace FrameFilter

def accepts (filter : FrameFilter) (kind : ResponseKind) : Bool :=
  match filter with
  | .any => true
  | .apid wanted => kind.apid == wanted
  | .success wanted => kind.apid == wanted && kind.status == .success
  | .error wanted => kind.apid == wanted && kind.status != .success

end FrameFilter

end GroundLink
