import GroundLink.Link.Checksum
import GroundLink.Text.Numeral

/-! # Packets on the link

A packet is a header octet, the length of the data, the data and their checksum. The
receiver accepts no more data than the maximum; a sender that announces more is taken
for noise.
-/

namespace GroundLink.Link

/-- The octet that opens a packet. -/
def headerOctet : UInt8 := 0x8B

/-- The most data that one packet carries. -/
def maxDataLength : Nat := 2048

/-- The octets around the data: header, length and checksum. -/
def frameLength : Nat := 7

/-- The length of the longest packet. -/
def maxPacketLength : Nat := frameLength + maxDataLength

/-- Why octets are no packet. -/
inductive LinkError where
  /-- A stray octet in front of a header. -/
  | notHeader (octet : UInt8)
  | lengthTooLarge (length : Nat)
  | checksumMismatch
  /-- The stream ended inside a packet or in front of one. -/
  | endOfStream
  deriving Repr, DecidableEq

/-- How failures of the stream below are reported. -/
def streamFaultText (reason : String) : String := "link I/O failed: " ++ reason

namespace LinkError

def message : LinkError → String
  | notHeader octet => "byte " ++ Numeral.octet octet ++ " is not a packet header"
  | lengthTooLarge length => s!"packet announces {length} data bytes"
  | checksumMismatch => "packet checksum mismatch"
  | endOfStream => streamFaultText "failed to fill whole buffer"

end LinkError

/-- The data of one packet. -/
structure Packet where
  data : Bytes
  deriving Repr, DecidableEq

namespace Packet

def checksum (packet : Packet) : Nat := (Link.checksum packet.data).toNat

/-- The packet as it crosses the link. Two octets hold the length. -/
def bytes (packet : Packet) : Bytes :=
  headerOctet :: (Bytes.ofNatLE 2 packet.data.length ++ packet.data
    ++ Bytes.ofNatLE 4 packet.checksum)

/-- The packet at the start of a stream, and the rest of the stream. A stray octet is taken
off alone, so that reading again finds the next header; a stream that ends too soon is
used up. -/
def read (stream : Bytes) : Except LinkError Packet × Bytes :=
  match stream with
  | [] => (.error .endOfStream, [])
  | first :: rest =>
      if first ≠ headerOctet then (.error (.notHeader first), rest)
      else
        match rest with
        | low :: high :: body =>
            let length := Bytes.toNatLE [low, high]
            if length > maxDataLength then (.error (.lengthTooLarge length), body)
            else if body.length < length + 4 then (.error .endOfStream, [])
            else
              let data := body.take length
              let found := Bytes.toNatLE ((body.drop length).take 4)
              let rest := body.drop (length + 4)
              if checksumMatches data found then (.ok ⟨data⟩, rest)
              else (.error .checksumMismatch, rest)
        | _ => (.error .endOfStream, [])

/-- The packet that the octets begin with. -/
def ofBytes (bytes : Bytes) : Except LinkError Packet := (read bytes).1

end Packet

end GroundLink.Link
