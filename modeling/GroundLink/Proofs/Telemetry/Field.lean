import Mathlib.Algebra.Group.Nat.Defs
import GroundLink.Telemetry.Field

/-! # The bits of a field

Every bit of a value lies at one position of the buffer, and every bit of a field is one bit of its
value: in a little endian field they stand in order, in a big endian one octet by octet from the
other end. Reading and writing move the bits in the same way, since doing so twice brings them back.
-/

namespace GroundLink

namespace Bytes

/-- The bit at a position of a buffer, counted through the octets from the least significant bit of
each. No bit behind the end is set. -/
def bit (bytes : Bytes) (position : Nat) : Bool :=
  ((bytes[position / 8]?).getD 0).toNat.testBit (position % 8)

theorem bit_of_le {bytes : Bytes} {position : Nat} (h : 8 * bytes.length ≤ position) :
    bytes.bit position = false := by
  have hindex : bytes.length ≤ position / 8 := by omega
  rw [bit, List.getElem?_eq_none hindex]
  exact Nat.zero_testBit _

/-- Positions are weights in the number that the octets spell. -/
theorem testBit_toNatLE (bytes : Bytes) (position : Nat) :
    (toNatLE bytes).testBit position = bytes.bit position := by
  induction bytes generalizing position with
  | nil => exact (Nat.zero_testBit _).trans (bit_of_le (Nat.zero_le _)).symm
  | cons octet rest ih =>
      have hoctet : octet.toNat < 2 ^ 8 := octet.toNat_lt
      rw [toNatLE, Nat.add_comm, Nat.testBit_two_pow_mul_add _ hoctet]
      split
      next hlow =>
        rw [bit, Nat.div_eq_of_lt hlow, Nat.mod_eq_of_lt hlow]
        rfl
      next hhigh =>
        have hdiv : position / 8 = (position - 8) / 8 + 1 := by omega
        have hmod : position % 8 = (position - 8) % 8 := by omega
        rw [ih, bit, bit, hdiv, hmod, List.getElem?_cons_succ]

theorem bit_ofNatLE {width position : Nat} (h : position < 8 * width) (n : Nat) :
    (ofNatLE width n).bit position = n.testBit position := by
  have hbase : Nat.pow 256 width = 2 ^ (8 * width) := by
    rw [Nat.pow_mul]
    rfl
  rw [← testBit_toNatLE, toNatLE_ofNatLE, hbase, Nat.testBit_mod_two_pow, decide_eq_true h,
    Bool.true_and]

/-- The octets change places, and the bits in each of them stay where they are. -/
theorem bit_reverse {bytes : Bytes} {position : Nat} (h : position < 8 * bytes.length) :
    bit bytes.reverse position =
      bytes.bit (8 * (bytes.length - 1 - position / 8) + position % 8) := by
  have hindex : position / 8 < bytes.length := by omega
  have hdiv : (8 * (bytes.length - 1 - position / 8) + position % 8) / 8 =
      bytes.length - 1 - position / 8 := by omega
  have hmod : (8 * (bytes.length - 1 - position / 8) + position % 8) % 8 = position % 8 := by omega
  rw [bit, bit, hdiv, hmod, List.getElem?_reverse hindex]

end Bytes

namespace Bits

theorem testBit_toNat (bits : List Bool) (weight : Nat) :
    (toNat bits).testBit weight = (bits[weight]?).getD false := by
  induction bits generalizing weight with
  | nil => exact Nat.zero_testBit _
  | cons bit rest ih =>
      have hbit : bit.toNat < 2 ^ 1 := bit.toNat_lt
      rw [toNat, Nat.add_comm]
      have hsplit := Nat.testBit_two_pow_mul_add (toNat rest) hbit weight
      rw [Nat.pow_one] at hsplit
      rw [hsplit]
      cases weight with
      | zero => cases bit <;> rfl
      | succ weight => simpa using ih weight

end Bits

namespace Telemetry

/-- Where a bit of a value lies in the field, counted from the first bit of the field: the octets of
a big endian field stand in the order of falling weight. -/
def FieldSpec.source (spec : FieldSpec) (weight : Nat) : Nat :=
  match spec.byteOrder with
  | .little => weight
  | .big => 8 * (spec.bits / 8 - 1 - weight / 8) + weight % 8

/-- The number in the bits of a field that begins at `offset`, taken from the buffer bit by bit. -/
def FieldSpec.valueAt (spec : FieldSpec) (offset : Nat) (bytes : Bytes) : Nat :=
  Bits.toNat ((List.range spec.bits).map fun weight => bytes.bit (offset + spec.source weight))

/-- Within a word the octets change places from end to end. -/
theorem testBit_swapOctets (word weight : Nat) :
    (swapOctets word).testBit weight =
      (decide (weight < 64) && word.testBit (8 * (7 - weight / 8) + weight % 8)) := by
  have hlength : (Bytes.ofNatLE 8 word).length = 8 := Bytes.length_ofNatLE _ _
  rw [swapOctets, Bytes.toNatBE, Bytes.testBit_toNatLE]
  by_cases h : weight < 64
  · rw [Bytes.bit_reverse (by omega), hlength, Bytes.bit_ofNatLE (by omega), decide_eq_true h,
      Bool.true_and]
  · rw [Bytes.bit_of_le (by rw [List.length_reverse]; omega), decide_eq_false h, Bool.false_and]

namespace FieldSpec

variable {spec : FieldSpec}

theorem source_lt (hvalid : spec.Valid) {weight : Nat} (h : weight < spec.bits) :
    spec.source weight < spec.bits := by
  obtain ⟨-, -, hwhole⟩ := hvalid
  unfold source
  cases horder : spec.byteOrder with
  | little => exact h
  | big =>
      have := hwhole horder
      dsimp only
      omega

/-- The same change of places leads there and back. -/
theorem source_source (hvalid : spec.Valid) {weight : Nat} (h : weight < spec.bits) :
    spec.source (spec.source weight) = weight := by
  obtain ⟨-, -, hwhole⟩ := hvalid
  unfold source
  cases horder : spec.byteOrder with
  | little => rfl
  | big =>
      have := hwhole horder
      dsimp only
      omega

theorem testBit_valueAt (spec : FieldSpec) (offset : Nat) (bytes : Bytes) (weight : Nat) :
    (spec.valueAt offset bytes).testBit weight =
      (decide (weight < spec.bits) && bytes.bit (offset + spec.source weight)) := by
  rw [valueAt, Bits.testBit_toNat, List.getElem?_map]
  by_cases h : weight < spec.bits
  · rw [List.getElem?_range h, decide_eq_true h, Bool.true_and]
    rfl
  · rw [List.getElem?_eq_none (by simpa using h), decide_eq_false h, Bool.false_and]
    rfl

theorem valueAt_lt (spec : FieldSpec) (offset : Nat) (bytes : Bytes) :
    spec.valueAt offset bytes < 2 ^ spec.bits := by
  apply Nat.lt_pow_two_of_testBit
  intro weight hweight
  rw [testBit_valueAt, decide_eq_false (Nat.not_lt.mpr hweight), Bool.false_and]

/-- Reading and writing put every bit of a value that fits in its place. -/
theorem testBit_reorder (hvalid : spec.Valid) {value : Nat} (hvalue : value < 2 ^ spec.bits)
    (weight : Nat) :
    (spec.reorder value).testBit weight =
      (decide (weight < spec.bits) && value.testBit (spec.source weight)) := by
  obtain ⟨-, hmax, hwhole⟩ := hvalid
  unfold maxFieldBits at hmax
  unfold reorder source
  cases horder : spec.byteOrder with
  | little =>
      have hmod := Nat.testBit_mod_two_pow value spec.bits weight
      rwa [Nat.mod_eq_of_lt hvalue] at hmod
  | big =>
      have hbits := hwhole horder
      dsimp only
      rw [reverseOctets, Nat.testBit_shiftRight, testBit_swapOctets]
      by_cases h : weight < spec.bits
      · have hinside : 64 - spec.bits + weight < 64 := by omega
        have hplace : 8 * (7 - (64 - spec.bits + weight) / 8) + (64 - spec.bits + weight) % 8 =
            8 * (spec.bits / 8 - 1 - weight / 8) + weight % 8 := by omega
        rw [decide_eq_true hinside, decide_eq_true h, hplace]
      · have houtside : ¬ 64 - spec.bits + weight < 64 := by omega
        rw [decide_eq_false houtside, decide_eq_false h, Bool.false_and, Bool.false_and]

theorem reorder_lt (hvalid : spec.Valid) {value : Nat} (hvalue : value < 2 ^ spec.bits) :
    spec.reorder value < 2 ^ spec.bits := by
  apply Nat.lt_pow_two_of_testBit
  intro weight hweight
  rw [testBit_reorder hvalid hvalue, decide_eq_false (Nat.not_lt.mpr hweight), Bool.false_and]

/-- What is written in one order is read in the same. -/
theorem reorder_reorder (hvalid : spec.Valid) {value : Nat} (hvalue : value < 2 ^ spec.bits) :
    spec.reorder (spec.reorder value) = value := by
  apply Nat.eq_of_testBit_eq
  intro weight
  rw [testBit_reorder hvalid (reorder_lt hvalid hvalue)]
  by_cases h : weight < spec.bits
  · rw [testBit_reorder hvalid hvalue, source_source hvalid h, decide_eq_true h,
      decide_eq_true (source_lt hvalid h), Bool.true_and, Bool.true_and]
  · have hlarge : value < 2 ^ weight :=
      Nat.lt_of_lt_of_le hvalue (Nat.pow_le_pow_right Nat.zero_lt_two (Nat.not_lt.mp h))
    rw [decide_eq_false h, Bool.false_and, Nat.testBit_lt_two_pow hlarge]

end FieldSpec

namespace BitCursor

variable {cursor : BitCursor} {count : Nat}

/-- The bits seen ahead are those of the buffer from the position on. -/
theorem testBit_peek (weight : Nat) :
    (cursor.peek count).testBit weight =
      (decide (weight < count) && cursor.bytes.bit (cursor.position + weight)) := by
  rw [peek, Bits.toNat_take, ahead, Bits.toNat_drop, Bits.toNat_ofBytes, Nat.pow_eq, Nat.pow_eq,
    Nat.testBit_mod_two_pow, Nat.testBit_div_two_pow, Bytes.testBit_toNatLE, Nat.add_comm]

end BitCursor

namespace FieldSpec

variable {spec : FieldSpec}

/-- What is read as a field is the number in its bits. -/
theorem reorder_peek (hvalid : spec.Valid) (cursor : BitCursor) :
    spec.reorder (cursor.peek spec.bits) = spec.valueAt cursor.position cursor.bytes := by
  apply Nat.eq_of_testBit_eq
  intro weight
  rw [testBit_reorder hvalid (cursor.peek_lt spec.bits), testBit_valueAt,
    BitCursor.testBit_peek]
  by_cases h : weight < spec.bits
  · rw [decide_eq_true (source_lt hvalid h), Bool.true_and]
  · rw [decide_eq_false h, Bool.false_and, Bool.false_and]

theorem validate_of_valid (hvalid : spec.Valid) : spec.validate = .ok () := by
  rw [validate, defect?_eq_none_iff.mpr hvalid]

theorem decode_of_valid (hvalid : spec.Valid) (cursor : BitCursor) :
    spec.decode cursor = (cursor.read spec.bits).map fun (raw, next) =>
      (⟨spec.reorder raw, spec.bits, spec.presentation⟩, next) := by
  rw [decode, validate_of_valid hvalid]
  cases cursor.read spec.bits <;> rfl

/-- A field that can be read is read from its bits, wherever they are. -/
theorem decode_of_skip (hvalid : spec.Valid) {cursor next : BitCursor}
    (h : cursor.skip spec.bits = .ok next) :
    spec.decode cursor =
      .ok (⟨spec.valueAt cursor.position cursor.bytes, spec.bits, spec.presentation⟩, next) := by
  rw [decode_of_valid hvalid, BitCursor.read_of_skip h hvalid.2.1, ← reorder_peek hvalid]
  rfl

/-- A field for which there are too few bits is refused where it begins, and the cursor stays
there. -/
theorem decode_of_short (hvalid : spec.Valid) {cursor : BitCursor}
    (h : cursor.remaining < spec.bits) :
    spec.decode cursor = .error ⟨.outOfRange cursor.position spec.bits cursor.total, cursor⟩ := by
  rw [decode_of_valid hvalid, BitCursor.read_of_short h]
  rfl

/-- A field is read exactly if it can be read at all and its bits are there. -/
theorem decode_eq_ok_iff {cursor next : BitCursor} {value : FieldValue} :
    spec.decode cursor = .ok (value, next) ↔
      spec.Valid ∧ cursor.skip spec.bits = .ok next ∧
        value = ⟨spec.valueAt cursor.position cursor.bytes, spec.bits, spec.presentation⟩ := by
  constructor
  · intro h
    have hvalid : spec.Valid := by
      rw [← defect?_eq_none_iff]
      cases hdefect : spec.defect? with
      | none => rfl
      | some reason =>
          rw [decode, validate, hdefect] at h
          cases h
    rcases Nat.lt_or_ge cursor.remaining spec.bits with hshort | henough
    · rw [decode_of_short hvalid hshort] at h
      cases h
    · obtain ⟨behind, hbehind⟩ := BitCursor.exists_skip henough
      rw [decode_of_skip hvalid hbehind] at h
      obtain ⟨rfl, rfl⟩ := Prod.mk.inj (Except.ok.inj h)
      exact ⟨hvalid, hbehind, rfl⟩
  · rintro ⟨hvalid, hnext, rfl⟩
    exact decode_of_skip hvalid hnext

end FieldSpec

end Telemetry

end GroundLink
