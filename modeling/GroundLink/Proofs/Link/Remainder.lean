import GroundLink.Proofs.Link.Packet
import Mathlib

/-! # The checksum as a remainder

The bits of a word are the coefficients of a polynomial over the field of two elements, and so are
those of data, the most significant bit of every octet first. A shift of the register multiplies by
`X` and takes the divisor off where it fits. So the register holds a remainder after every octet,
and the checksum is the remainder of all data. Packets are read exactly where they stand as they are
written, with this remainder behind the data.
-/

namespace GroundLink.Link

open Polynomial

/-- The polynomial whose coefficients are the bits of a word. -/
noncomputable def bitPolynomial {width : Nat} (word : BitVec width) : (ZMod 2)[X] :=
  ∑ i ∈ Finset.range width, monomial i (if word.getLsbD i then 1 else 0)

/-- The polynomial by which checksums divide. -/
noncomputable def divisor : (ZMod 2)[X] := X ^ 32 + bitPolynomial polynomial

/-- Data as one polynomial. The first octet comes first, with its most significant bit. -/
noncomputable def dataPolynomial (data : Bytes) : (ZMod 2)[X] :=
  data.foldl (fun sum octet => X ^ 8 * sum + bitPolynomial octet.toBitVec) 0

/-- What is left when 32 zero bits are put behind data, the first 32 bits are inverted, and the
whole is divided. -/
noncomputable def remainder (data : Bytes) : (ZMod 2)[X] :=
  (X ^ (8 * data.length) * bitPolynomial (BitVec.allOnes 32) + X ^ 32 * dataPolynomial data) %ₘ
    divisor

section BitPolynomial

variable {width : Nat}

theorem coeff_bitPolynomial (word : BitVec width) (i : Nat) :
    (bitPolynomial word).coeff i = if word.getLsbD i then 1 else 0 := by
  rw [bitPolynomial, finsetSum_coeff]
  simp only [coeff_monomial, Finset.sum_ite_eq', Finset.mem_range]
  split
  next => rfl
  next h => rw [BitVec.getLsbD_of_ge word i (Nat.le_of_not_lt h), if_neg Bool.false_ne_true]

theorem degree_bitPolynomial_lt (word : BitVec width) : (bitPolynomial word).degree < width := by
  rw [degree_lt_iff_coeff_zero]
  intro i hi
  rw [coeff_bitPolynomial, BitVec.getLsbD_of_ge word i hi, if_neg Bool.false_ne_true]

theorem bitPolynomial_xor (first second : BitVec width) :
    bitPolynomial (first ^^^ second) = bitPolynomial first + bitPolynomial second := by
  ext i
  rw [coeff_add, coeff_bitPolynomial, coeff_bitPolynomial, coeff_bitPolynomial, BitVec.getLsbD_xor]
  cases first.getLsbD i <;> cases second.getLsbD i <;> decide

end BitPolynomial

/-- What a shift drops is the most significant bit. -/
theorem bitPolynomial_shiftLeft_one (register : BitVec 32) :
    X * bitPolynomial register =
      bitPolynomial (register <<< 1) + if register.msb then X ^ 32 else 0 := by
  ext i
  rw [coeff_add, coeff_bitPolynomial, BitVec.getLsbD_shiftLeft, BitVec.msb_eq_getLsbD_last]
  cases i with
  | zero => cases register.getLsbD (32 - 1) <;> simp
  | succ i =>
      rw [coeff_X_mul, coeff_bitPolynomial]
      by_cases hlast : i = 31
      · subst hlast
        cases register.getLsbD 31 <;> simp
      · by_cases hinside : i + 1 < 32
        · cases register.getLsbD (32 - 1) <;> simp [coeff_X_pow, hlast, hinside]
        · have hout := BitVec.getLsbD_of_ge register i (by omega)
          cases register.getLsbD (32 - 1) <;> simp [coeff_X_pow, hlast, hout]

/-- An octet enters the register at its upper end. -/
theorem bitPolynomial_octet (octet : UInt8) :
    bitPolynomial (octet.toBitVec.zeroExtend 32 <<< 24) =
      X ^ 24 * bitPolynomial octet.toBitVec := by
  ext i
  rw [coeff_bitPolynomial, coeff_X_pow_mul', coeff_bitPolynomial, BitVec.getLsbD_shiftLeft,
    BitVec.getLsbD_setWidth]
  by_cases hlow : i < 24
  · simp [hlow]
  · by_cases hinside : i < 32
    · have hoctet : i - 24 < 32 := by omega
      simp [hlow, hinside, hoctet]
    · have hout := BitVec.getLsbD_of_ge octet.toBitVec (i - 24) (by omega)
      simp [hlow, hout]

theorem divisor_monic : divisor.Monic := monic_X_pow_add (degree_bitPolynomial_lt polynomial)

theorem degree_divisor : divisor.degree = 32 := by
  have htop : ((X : (ZMod 2)[X]) ^ 32).degree = 32 := degree_X_pow 32
  rw [divisor, degree_add_eq_left_of_degree_lt, htop]
  rw [htop]
  exact degree_bitPolynomial_lt polynomial

theorem bitPolynomial_shiftBit (register : BitVec 32) :
    X * bitPolynomial register =
      bitPolynomial (shiftBit register) + if register.msb then divisor else 0 := by
  rw [bitPolynomial_shiftLeft_one, shiftBit]
  split
  next =>
    rw [bitPolynomial_xor, divisor, add_assoc, add_left_comm (bitPolynomial polynomial),
      CharTwo.add_self_eq_zero, add_zero]
  next => rfl

/-- Polynomials up to multiples of the divisor. -/
noncomputable def residue : (ZMod 2)[X] →+* AdjoinRoot divisor := AdjoinRoot.mk divisor

theorem residue_shiftBit (register : BitVec 32) :
    residue (bitPolynomial (shiftBit register)) = residue (X * bitPolynomial register) := by
  rw [bitPolynomial_shiftBit, map_add]
  split
  next => rw [residue, AdjoinRoot.mk_self, add_zero]
  next => rw [map_zero, add_zero]

theorem residue_shiftBits (count : Nat) (register : BitVec 32) :
    residue (bitPolynomial (shiftBits count register)) =
      residue (X ^ count * bitPolynomial register) := by
  induction count generalizing register with
  | zero => rw [shiftBits, pow_zero, one_mul]
  | succ count ih => rw [shiftBits, ih, map_mul, residue_shiftBit, ← map_mul, ← mul_assoc, pow_succ]

theorem residue_absorb (register : BitVec 32) (octet : UInt8) :
    residue (bitPolynomial (absorb register octet)) =
      residue (X ^ 8 * bitPolynomial register + X ^ 32 * bitPolynomial octet.toBitVec) := by
  rw [absorb, residue_shiftBits, bitPolynomial_xor, bitPolynomial_octet]
  congr 1
  ring

theorem dataPolynomial_concat (data : Bytes) (octet : UInt8) :
    dataPolynomial (data ++ [octet]) =
      X ^ 8 * dataPolynomial data + bitPolynomial octet.toBitVec := by
  rw [dataPolynomial, List.foldl_concat, dataPolynomial]

theorem residue_checksum (data : Bytes) :
    residue (bitPolynomial (checksum data)) =
      residue (X ^ (8 * data.length) * bitPolynomial (BitVec.allOnes 32) +
        X ^ 32 * dataPolynomial data) := by
  induction data using List.reverseRecOn with
  | nil => simp [checksum, dataPolynomial]
  | append_singleton data octet ih =>
      have hchecksum : checksum (data ++ [octet]) = absorb (checksum data) octet := by
        rw [checksum, List.foldl_concat, checksum]
      have hlength : 8 * (data ++ [octet]).length = 8 + 8 * data.length := by
        rw [List.length_append, List.length_singleton]
        omega
      calc residue (bitPolynomial (checksum (data ++ [octet])))
        _ = residue (X ^ 8) * residue (bitPolynomial (checksum data)) +
            residue (X ^ 32 * bitPolynomial octet.toBitVec) := by
          rw [hchecksum, residue_absorb, map_add, map_mul]
        _ = residue (X ^ (8 * (data ++ [octet]).length) * bitPolynomial (BitVec.allOnes 32) +
            X ^ 32 * dataPolynomial (data ++ [octet])) := by
          rw [ih, ← map_mul, ← map_add, dataPolynomial_concat, hlength]
          exact congrArg residue (by ring)

theorem bitPolynomial_checksum (data : Bytes) :
    bitPolynomial (checksum data) = remainder data := by
  have hdegree : (bitPolynomial (checksum data)).degree < divisor.degree := by
    rw [degree_divisor]
    exact degree_bitPolynomial_lt _
  have hsame := AdjoinRoot.mk_eq_mk.mp (residue_checksum data)
  rw [remainder, ← modByMonic_eq_of_dvd_sub divisor_monic hsame]
  exact ((modByMonic_eq_self_iff divisor_monic).mpr hdegree).symm

/-- Octets are read as a packet exactly if they begin with the packet as it is written and it holds
no more data than the maximum; what follows the packet stays unread. The checksum that is written
with the data is their remainder. -/
theorem packet_is_read_iff_written (stream data rest : Bytes) :
    (Packet.read stream = (.ok ⟨data⟩, rest) ↔
        data.length ≤ maxDataLength ∧ stream = Packet.bytes ⟨data⟩ ++ rest) ∧
      bitPolynomial (checksum data) = remainder data := by
  refine ⟨⟨Packet.eq_bytes_of_read, ?_⟩, bitPolynomial_checksum data⟩
  rintro ⟨hmax, rfl⟩
  exact Packet.read_bytes hmax rest

/-- A packet as it is written. -/
example : Packet.bytes ⟨[0x0A, 0x0B, 0x05, 0x73]⟩ =
    [0x8B, 4, 0, 0x0A, 0x0B, 0x05, 0x73, 0x52, 0x27, 0x92, 0xF4] := by
  decide +kernel

end GroundLink.Link
