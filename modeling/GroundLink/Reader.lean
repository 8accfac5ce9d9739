import GroundLink.Config
import GroundLink.Link.Assembler
import GroundLink.Router.Basic

/-! # Reading the link

The reader turns what arrives on the link into actions: responses go to the router,
beacons become snapshots, noise is noted. Pauses of the source change nothing; the end of
the stream, or a failure of it, closes the router and ends the reading.
-/

namespace GroundLink

open Link Telemetry

/-- What the source gives at one read. -/
inductive ReadResult where
  | octets (chunk : Bytes)
  | endOfStream
  /-- Nothing has arrived in time. -/
  | pause
  | failure (reason : String)
  deriving Repr, DecidableEq

/-- The most octets that one read gives. -/
def readSize : Nat := 256

/-- Octets in pieces of at most the size of a read. -/
def readPieces (bytes : Bytes) : List ReadResult :=
  if bytes.isEmpty then []
  else .octets (bytes.take readSize) :: readPieces (bytes.drop readSize)
termination_by bytes.length
decreasing_by
  cases bytes with
  | nil => simp at *
  | cons => simp only [readSize, List.length_drop, List.length_cons]; omega

/-- What the reader has to say about the link. -/
inductive ReaderNote where
  | strayOctet (octet : UInt8)
  | badChecksum
  | badLength (length : Nat)
  | undecodable (error : TelemetryError)
  | trailing (bits : Nat)
  | nobodyListens
  | incomplete (length : Nat)
  deriving Repr, DecidableEq

namespace ReaderNote

def level : ReaderNote → LogLevel
  | strayOctet _ => .trace
  | badChecksum | badLength _ | trailing _ | incomplete _ => .warn
  | undecodable _ => .error
  | nobodyListens => .debug

def message : ReaderNote → String
  | strayOctet octet =>
      "Skipping " ++ Numeral.octet octet ++ " while looking for a packet header"
  | badChecksum => "Dropping link packet with invalid CRC"
  | badLength length => s!"Dropping link packet announcing {length} bytes"
  | undecodable error => "Could not decode beacon: " ++ error.message
  | trailing bits => "Beacon decoded with " ++ trailingText bits
  | nobodyListens => "Beacon receiver is gone, dropping snapshot"
  | incomplete length => s!"Link closed with {length} bytes of an incomplete packet"

end ReaderNote

/-- What the reader does. -/
inductive ReaderAction where
  | note (note : ReaderNote)
  | publish (snapshot : Snapshot)
  | deliver (frame : Frame)
  | close (reason : String)
  deriving Repr, DecidableEq

/-- Reads the link with a decoder for beacons, for a receiver that may be gone. -/
structure FrameReader where
  decoder : BeaconDecoder
  receiverListens : Bool := true

namespace FrameReader

def beaconActions (reader : FrameReader) (payload : Bytes) : List ReaderAction :=
  match reader.decoder.decode payload with
  | .error error => [.note (.undecodable error)]
  | .ok decoded =>
      let left := match decoded.trailing with
        | some bits => [.note (.trailing bits)]
        | none => []
      left ++
        [if reader.receiverListens then .publish decoded.snapshot else .note .nobodyListens]

/-- The actions for one piece that was cut out of the stream. -/
def packetActions (reader : FrameReader) : Except LinkError Packet → List ReaderAction
  | .ok packet =>
      match Frame.decode packet.data with
      | .beacon payload => reader.beaconActions payload
      | frame => [.deliver frame]
  | .error (.notHeader octet) => [.note (.strayOctet octet)]
  | .error (.lengthTooLarge length) => [.note (.badLength length)]
  | .error .checksumMismatch => [.note .badChecksum]
  | .error .endOfStream => []

/-- The actions for one read, and the octets that wait afterwards; reading ends when there is
nothing to go on with. -/
def step (reader : FrameReader) (assembler : Assembler) :
    ReadResult → List ReaderAction × Option Assembler
  | .pause => ([], some assembler)
  | .failure reason => ([.close reason], none)
  | .endOfStream =>
      let waiting := assembler.buffer.length
      let left := if waiting = 0 then [] else [.note (.incomplete waiting)]
      (left ++ [.close "end of stream"], none)
  | .octets chunk =>
      let (outcomes, assembler) := (assembler.extend chunk).drain
      (outcomes.flatMap reader.packetActions, some assembler)

/-- The actions for a run of reads. A run that ends without the end of the stream or a
failure is one that was stopped. -/
def actions (reader : FrameReader) (assembler : Assembler) : List ReadResult → List ReaderAction
  | [] => []
  | read :: rest =>
      match reader.step assembler read with
      | (actions, none) => actions
      | (actions, some assembler) => actions ++ reader.actions assembler rest

end FrameReader

namespace Router

/-- What an action of the reader does to the router. -/
def perform (router : Router) : ReaderAction → Router
  | .deliver frame => router.deliver frame
  | .close reason => router.close reason
  | .note _ | .publish _ => router

end Router

end GroundLink
