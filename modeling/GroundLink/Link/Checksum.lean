import GroundLink.Bytes

/-! # Packet checksums

The checksum is the remainder of the data in a polynomial division over bits, most
significant bit first, with a register that starts with all bits set and is given out
as it stands.
-/

namespace GroundLink.Link

/-- The divisor without its leading bit. -/
def polynomial : BitVec 32 := 0x04C11DB7#32

/-- Divides one bit further. -/
def shiftBit (register : BitVec 32) : BitVec 32 :=
  if register.msb then (register <<< 1) ^^^ polynomial else register <<< 1

/-- Divides a number of bits further. -/
def shiftBits : Nat → BitVec 32 → BitVec 32
  | 0, register => register
  | count + 1, register => shiftBits count (shiftBit register)

/-- Takes one octet into the register. -/
def absorb (register : BitVec 32) (b : UInt8) : BitVec 32 :=
  shiftBits 8 (register ^^^ (b.toBitVec.zeroExtend 32 <<< 24))

/-- The checksum of data. -/
def checksum (data : Bytes) : BitVec 32 := data.foldl absorb (BitVec.allOnes 32)

/-- Whether a number is the checksum of data. -/
def checksumMatches (data : Bytes) (found : Nat) : Bool := (checksum data).toNat == found

end GroundLink.Link
