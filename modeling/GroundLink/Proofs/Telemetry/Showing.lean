import Mathlib.Algebra.BigOperators.Ring.Finset
import GroundLink.Proofs.Telemetry.Field
import GroundLink.Proofs.Text.Numeral

/-! # Decoded values, flag by flag and in digits

A value that has been decoded is never too large for its field. So its flags are all of its bits, a
hexadecimal or binary numeral has one digit for each group of bits and no more, and whichever way a
value is shown it can be told again.
-/

namespace GroundLink.Telemetry

/-- The bits of a number below some weight make up the number as far as they go. -/
theorem sum_filter_testBit (width n : Nat) :
    (((List.range width).filter n.testBit).map fun weight => 2 ^ weight).sum = n % 2 ^ width := by
  induction width with
  | zero => rw [Nat.pow_zero, Nat.mod_one]; rfl
  | succ width ih =>
      have hbit : (n.testBit width).toNat = n / 2 ^ width % 2 := Nat.toNat_testBit n width
      rw [List.range_succ, List.filter_append, List.map_append, List.sum_append_nat, ih,
        Nat.mod_pow_succ, ← hbit]
      cases h : n.testBit width <;> simp [h]

namespace FieldValue

variable {value : FieldValue}

theorem mem_setFlags_iff {index : Nat} :
    index ∈ value.setFlags ↔ value.bit? index = some true := by
  simp [setFlags, bit?]

theorem bit?_eq_none_iff {index : Nat} : value.bit? index = none ↔ value.bits ≤ index := by
  simp [bit?]

theorem sum_setFlags (h : value.raw < 2 ^ value.bits) :
    (value.setFlags.map fun index => 2 ^ index).sum = value.raw :=
  (sum_filter_testBit value.bits value.raw).trans (Nat.mod_eq_of_lt h)

theorem pairwise_setFlags (value : FieldValue) : value.setFlags.Pairwise (· < ·) :=
  List.Pairwise.filter _ List.pairwise_lt_range

/-- Four bits are one hexadecimal digit, and those left over are one more. -/
theorem lt_sixteen_pow (h : value.raw < 2 ^ value.bits) :
    value.raw < 16 ^ ((value.bits + 3) / 4) := by
  have hpow : 16 ^ ((value.bits + 3) / 4) = 2 ^ (4 * ((value.bits + 3) / 4)) :=
    (Nat.pow_mul 2 4 _).symm
  rw [hpow]
  exact Nat.lt_of_lt_of_le h (Nat.pow_le_pow_right Nat.zero_lt_two (by omega))

/-- A hexadecimal text shows every bit of a value that fits, and no further digit. -/
theorem exists_hex_digits (hfits : value.raw < 2 ^ value.bits) (hbits : 0 < value.bits)
    (h : value.presentation = .hex ∨ value.presentation = .reserved) :
    ∃ digits, value.text = "0x" ++ String.ofList digits ∧
      digits.length = (value.bits + 3) / 4 ∧ (∀ c ∈ digits, c ∈ "0123456789ABCDEF".toList) ∧
      Numeral.spelled 16 digits = value.raw := by
  have htext : value.text = "0x" ++ Numeral.padded 16 ((value.bits + 3) / 4) value.raw := by
    rcases h with h | h <;> rw [text, h]
  have hdigit : ∀ digit < 16, (Nat.digitChar digit).toUpper ∈ "0123456789ABCDEF".toList := by decide
  refine ⟨(Numeral.padded 16 ((value.bits + 3) / 4) value.raw).toList, ?_, ?_, ?_, ?_⟩
  · rw [htext, String.ofList_toList]
  · exact Numeral.length_padded (by decide) (by omega) (lt_sixteen_pow hfits)
  · intro c hc
    obtain ⟨digit, hlt, rfl⟩ := Numeral.exists_of_mem_padded (by decide) hc
    exact hdigit digit hlt
  · exact Numeral.spelled_padded (by decide) (by decide) _ _

theorem exists_binary_digits (hfits : value.raw < 2 ^ value.bits) (hbits : 0 < value.bits)
    (h : value.presentation = .flags) :
    ∃ digits, value.text = "0b" ++ String.ofList digits ∧ digits.length = value.bits ∧
      (∀ c ∈ digits, c = '0' ∨ c = '1') ∧ Numeral.spelled 2 digits = value.raw := by
  have htext : value.text = "0b" ++ Numeral.padded 2 value.bits value.raw := by
    rw [text, h]
  have hdigit : ∀ digit < 2, (Nat.digitChar digit).toUpper = '0' ∨
      (Nat.digitChar digit).toUpper = '1' := by decide
  refine ⟨(Numeral.padded 2 value.bits value.raw).toList, ?_, ?_, ?_, ?_⟩
  · rw [htext, String.ofList_toList]
  · exact Numeral.length_padded (by decide) hbits hfits
  · intro c hc
    obtain ⟨digit, hlt, rfl⟩ := Numeral.exists_of_mem_padded (by decide) hc
    exact hdigit digit hlt
  · exact Numeral.spelled_padded (by decide) (by decide) _ _

/-- A decimal text is the shortest one that spells the value. -/
theorem exists_decimal_digits (h : value.presentation = .decimal) :
    ∃ digits, value.text = String.ofList digits ∧ digits ≠ [] ∧
      (∀ c ∈ digits, c.isDigit = true) ∧ Numeral.spelled 10 digits = value.raw ∧
      ∀ other : List Char, other ≠ [] → (∀ c ∈ other, c.isDigit = true) →
        Numeral.spelled 10 other = value.raw → digits.length ≤ other.length := by
  have htext : value.text = Numeral.decimal value.raw := by
    rw [text, h]
  refine ⟨(Numeral.decimal value.raw).toList, ?_, Numeral.decimal_ne_nil _,
    fun _ => Numeral.isDigit_decimal, Numeral.spelled_decimal _,
    fun _ => Numeral.length_decimal_le⟩
  rw [htext, String.ofList_toList]

end FieldValue

/-- Whatever is decoded is smaller than the field allows. Its set flags are listed from the lowest
one on and make up its number, each as the single flags are asked for, of which there are as many as
the field has bits. In writing it has one hexadecimal digit for four bits begun, one binary digit
for each bit, or the fewest decimal digits there can be, and the digits spell the number again. -/
theorem decoded_values_show_their_bits {spec : FieldSpec} {cursor next : BitCursor}
    {value : FieldValue} (h : spec.decode cursor = .ok (value, next)) :
    value.bits = spec.bits ∧ value.presentation = spec.presentation ∧
      value.raw < 2 ^ value.bits ∧
      value.setFlags.Pairwise (· < ·) ∧ (∀ index ∈ value.setFlags, index < value.bits) ∧
      (value.setFlags.map fun index => 2 ^ index).sum = value.raw ∧
      (∀ index, index ∈ value.setFlags ↔ value.bit? index = some true) ∧
      (∀ index, value.bit? index = none ↔ value.bits ≤ index) ∧
      (value.presentation = .hex ∨ value.presentation = .reserved →
        ∃ digits, value.text = "0x" ++ String.ofList digits ∧
          digits.length = (value.bits + 3) / 4 ∧ (∀ c ∈ digits, c ∈ "0123456789ABCDEF".toList) ∧
          Numeral.spelled 16 digits = value.raw) ∧
      (value.presentation = .flags →
        ∃ digits, value.text = "0b" ++ String.ofList digits ∧ digits.length = value.bits ∧
          (∀ c ∈ digits, c = '0' ∨ c = '1') ∧ Numeral.spelled 2 digits = value.raw) ∧
      (value.presentation = .decimal →
        ∃ digits, value.text = String.ofList digits ∧ digits ≠ [] ∧
          (∀ c ∈ digits, c.isDigit = true) ∧ Numeral.spelled 10 digits = value.raw ∧
          ∀ other : List Char, other ≠ [] → (∀ c ∈ other, c.isDigit = true) →
            Numeral.spelled 10 other = value.raw → digits.length ≤ other.length) := by
  obtain ⟨hvalid, -, rfl⟩ := FieldSpec.decode_eq_ok_iff.mp h
  have hfits := spec.valueAt_lt cursor.position cursor.bytes
  have hbits : 0 < spec.bits := hvalid.1
  refine ⟨rfl, rfl, hfits, FieldValue.pairwise_setFlags _, ?_, FieldValue.sum_setFlags hfits,
    fun _ => FieldValue.mem_setFlags_iff, fun _ => FieldValue.bit?_eq_none_iff,
    FieldValue.exists_hex_digits hfits hbits, FieldValue.exists_binary_digits hfits hbits,
    FieldValue.exists_decimal_digits⟩
  intro index hindex
  exact List.mem_range.mp (List.mem_filter.mp hindex).1

/-- Eleven flags from the fourth bit on, the last of which is not set. -/
theorem decoded_values_show_their_bits_flags :
    let spec : FieldSpec := ⟨"status", 11, .flags, .little⟩
    let cursor : BitCursor := ⟨[0x28, 0x50], 3, by decide⟩
    let value : FieldValue := ⟨0x205, 11, .flags⟩
    ∃ next, spec.decode cursor = .ok (value, next) ∧
      (value.setFlags.map fun index => 2 ^ index).sum = 0x205 ∧ 9 ∈ value.setFlags ∧
      value.bit? 11 = none ∧
      ∃ digits, value.text = "0b" ++ String.ofList digits ∧ digits.length = 11 ∧
        (∀ c ∈ digits, c = '0' ∨ c = '1') ∧ Numeral.spelled 2 digits = 0x205 := by
  intro spec cursor value
  obtain ⟨next, hnext⟩ := cursor.exists_skip (show 11 ≤ cursor.remaining by decide)
  have hdecoded : spec.decode cursor = .ok (value, next) :=
    FieldSpec.decode_eq_ok_iff.mpr ⟨by decide, hnext, by decide⟩
  obtain ⟨-, -, -, -, -, hsum, hflag, hnone, -, hbinary, -⟩ :=
    decoded_values_show_their_bits hdecoded
  exact ⟨next, hdecoded, hsum, (hflag 9).mpr (by decide), (hnone 11).mpr (by decide), hbinary rfl⟩

end GroundLink.Telemetry
