import GroundLink.Link.Packet

/-! # Cutting packets out of a stream

Octets arrive in pieces of any size. The assembler keeps those that may still become a
packet and cuts off everything else from the front: complete packets, packets with a
wrong checksum as a whole, and single octets that cannot begin a packet.
-/

namespace GroundLink.Link

/-- What is cut off the front of the buffer: a packet or noise, and how many octets of
the buffer that takes. -/
structure Cut where
  outcome : Except LinkError Packet
  length : Nat

/-- The next cut, or `none` if more octets are needed. A header that announces too much data
is cut off alone. -/
def cut? (buffer : Bytes) : Option Cut :=
  match buffer with
  | [] => none
  | first :: rest =>
      if first ≠ headerOctet then some ⟨.error (.notHeader first), 1⟩
      else
        match rest with
        | low :: high :: body =>
            let length := Bytes.toNatLE [low, high]
            if length > maxDataLength then some ⟨.error (.lengthTooLarge length), 1⟩
            else if body.length < length + 4 then none
            else
              let data := body.take length
              let found := Bytes.toNatLE ((body.drop length).take 4)
              let outcome :=
                if checksumMatches data found then .ok ⟨data⟩ else .error .checksumMismatch
              some ⟨outcome, frameLength + length⟩
        | _ => none

/-- A cut takes at least one octet, and no more than there are. -/
theorem cut?_length {buffer : Bytes} {cut : Cut} (h : cut? buffer = some cut) :
    0 < cut.length ∧ cut.length ≤ buffer.length := by
  unfold cut? at h
  split at h
  · exact nomatch h
  · split at h
    · cases h
      simp
    · split at h
      · rename_i low high body
        simp only at h
        split at h
        · cases h
          simp
        · split at h
          · exact nomatch h
          · cases h
            simp only [frameLength, List.length_cons]
            omega
      · exact nomatch h

/-- The octets that wait for the rest of their packet. -/
structure Assembler where
  buffer : Bytes
  deriving Repr, DecidableEq

namespace Assembler

def empty : Assembler := ⟨[]⟩

def extend (assembler : Assembler) (bytes : Bytes) : Assembler := ⟨assembler.buffer ++ bytes⟩

/-- The next packet or piece of noise; `none` if more octets are needed. -/
def next (assembler : Assembler) : Option (Except LinkError Packet) × Assembler :=
  match cut? assembler.buffer with
  | none => (none, assembler)
  | some cut => (some cut.outcome, ⟨assembler.buffer.drop cut.length⟩)

/-- Everything that can be cut off, in order, and the octets left. -/
def drain (assembler : Assembler) : List (Except LinkError Packet) × Assembler :=
  match hcut : cut? assembler.buffer with
  | none => ([], assembler)
  | some cut =>
      have := cut?_length hcut
      let (others, last) := drain ⟨assembler.buffer.drop cut.length⟩
      (cut.outcome :: others, last)
termination_by assembler.buffer.length
decreasing_by
  simp only [List.length_drop]
  omega

end Assembler

end GroundLink.Link
