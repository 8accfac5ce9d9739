import GroundLink.Text.Utf8

/-! # Zero octets in texts

A text is encoded character by character, and the zero character is the only one with a zero among
its octets. So the zero octets of an encoded text tell where its zero characters are, and a text
without them is never mistaken for its own end.
-/

namespace GroundLink.Utf8

theorem encode_eq_flatMap (text : String) :
    encode text = text.toList.flatMap String.utf8EncodeChar := by
  rw [encode, String.toUTF8, ← String.utf8Encode_toList, List.utf8Encode,
    List.toList_data_toByteArray]

theorem encode_append (first second : String) :
    encode (first ++ second) = encode first ++ encode second := by
  simp only [encode_eq_flatMap, String.toList_append, List.flatMap_append]

theorem ofNat_ne_zero {n : Nat} (h : n % 256 ≠ 0) : (0 : UInt8) ≠ UInt8.ofNat n := by
  intro heq
  apply h
  rw [← UInt8.toNat_ofNat', ← heq]
  rfl

/-- The octets of a character are its number, if that is small, or they are marked in their high
bits. -/
theorem eq_zero_of_mem_utf8EncodeChar {c : Char} (h : 0 ∈ String.utf8EncodeChar c) :
    c = '\x00' := by
  simp only [String.utf8EncodeChar] at h
  generalize hcode : c.val.toNat = code at h
  by_cases hzero : code = 0
  · exact Char.toNat_inj.mp (hcode.trans hzero)
  · exfalso
    -- as many octets as the number is large, none of them zero
    split at h
    · exact ofNat_ne_zero (by omega) (List.mem_singleton.mp h)
    · split at h
      · simp only [List.mem_cons, List.not_mem_nil, or_false] at h
        rcases h with h | h <;> exact ofNat_ne_zero (by omega) h
      · split at h
        · simp only [List.mem_cons, List.not_mem_nil, or_false] at h
          rcases h with h | h | h <;> exact ofNat_ne_zero (by omega) h
        · simp only [List.mem_cons, List.not_mem_nil, or_false] at h
          rcases h with h | h | h | h <;> exact ofNat_ne_zero (by omega) h

theorem zero_mem_encode_iff {text : String} : 0 ∈ encode text ↔ '\x00' ∈ text.toList := by
  rw [encode_eq_flatMap, List.mem_flatMap]
  constructor
  · rintro ⟨c, hc, hzero⟩
    rwa [eq_zero_of_mem_utf8EncodeChar hzero] at hc
  · exact fun h => ⟨'\x00', h, by decide⟩

end GroundLink.Utf8
