import Mathlib.Algebra.Group.Nat.Defs
import Mathlib.Data.List.Induction
import GroundLink.Text.Numeral

/-! # Reading numerals

The digits of a numeral, read one after the other, spell its number again, or as much of it as there
are digits for. A numeral consists of digits and letters alone, so that a text tells where it ends.
-/

namespace GroundLink.Numeral

/-- What a digit stands for. Letters of either case come behind the nine. -/
def digitValue (c : Char) : Nat :=
  if c.isDigit then c.toNat - '0'.toNat else c.toLower.toNat - 'a'.toNat + 10

/-- The number that a numeral to the base spells. -/
def spelled (base : Nat) (numeral : List Char) : Nat := ofDigits base (numeral.map digitValue)

variable {base : Nat}

theorem digitValue_digitChar {digit : Nat} (h : digit < 16) :
    digitValue (Nat.digitChar digit) = digit := by
  have hall : ∀ digit < 16, digitValue (Nat.digitChar digit) = digit := by decide
  exact hall digit h

theorem digitValue_toUpper_digitChar {digit : Nat} (h : digit < 16) :
    digitValue (Nat.digitChar digit).toUpper = digit := by
  have hall : ∀ digit < 16, digitValue (Nat.digitChar digit).toUpper = digit := by decide
  exact hall digit h

theorem spelled_concat (numeral : List Char) (c : Char) :
    spelled base (numeral ++ [c]) = spelled base numeral * base + digitValue c := by
  rw [spelled, List.map_append, List.map_singleton, ofDigits_append, spelled]

/-- Digits are spelled again however they are written. -/
theorem spelled_map_toDigits (hbase : 1 < base) {write : Char → Char}
    (hwrite : ∀ digit < base, digitValue (write digit.digitChar) = digit) (n : Nat) :
    spelled base ((Nat.toDigits base n).map write) = n := by
  induction n using Nat.strongRecOn with
  | ind n ih =>
      by_cases hsmall : n < base
      · rw [Nat.toDigits_of_lt_base hsmall, List.map_singleton,
          ← List.nil_append [write n.digitChar], spelled_concat, hwrite n hsmall, spelled,
          List.map_nil, ofDigits, List.foldl_nil, Nat.zero_mul, Nat.zero_add]
      · have hlarge := Nat.not_lt.mp hsmall
        rw [Nat.toDigits_of_base_le hbase hlarge, List.map_append, List.map_singleton,
          spelled_concat, ih (n / base) (Nat.div_lt_self (by omega) hbase),
          hwrite _ (Nat.mod_lt n (by omega)), Nat.div_add_mod']

theorem spelled_decimal (n : Nat) : spelled 10 (decimal n).toList = n := by
  have hread : ∀ digit < 10, digitValue (id digit.digitChar) = digit :=
    fun _ hdigit => digitValue_digitChar (by omega)
  rw [decimal, String.toList_ofList, ← List.map_id (Nat.toDigits 10 n)]
  exact spelled_map_toDigits (by decide) hread n

/-- Zeros in front change nothing. -/
theorem spelled_leftpad (width : Nat) (numeral : List Char) :
    spelled base (numeral.leftpad width '0') = spelled base numeral := by
  have hzeros : ∀ count : Nat, (List.replicate count (digitValue '0')).foldl
      (fun value digit => value * base + digit) 0 = 0 := by
    intro count
    induction count with
    | zero => rfl
    | succ count ih => simpa [List.replicate_succ, digitValue] using ih
  rw [List.leftpad, spelled, List.map_append, List.map_replicate, ofDigits, List.foldl_append,
    hzeros, ← ofDigits, spelled]

/-- A padded numeral spells its number, whether the digits are as many as asked for or more. -/
theorem spelled_padded (hbase : 1 < base) (hmax : base ≤ 16) (width n : Nat) :
    spelled base (padded base width n).toList = n := by
  have hread : ∀ digit < base, digitValue digit.digitChar.toUpper = digit :=
    fun _ hdigit => digitValue_toUpper_digitChar (Nat.lt_of_lt_of_le hdigit hmax)
  rw [padded, String.toList_ofList, spelled_leftpad]
  exact spelled_map_toDigits hbase hread n

/-! ## How many digits there are -/

theorem digitValue_lt {c : Char} (h : c.isDigit = true) : digitValue c < 10 := by
  rw [Char.isDigit, Bool.and_eq_true, decide_eq_true_eq, decide_eq_true_eq] at h
  have hnine : c.toNat ≤ '9'.toNat := h.2
  have hvalue : digitValue c = c.toNat - '0'.toNat := if_pos (by simpa [Char.isDigit] using h)
  rw [hvalue]
  exact Nat.lt_of_le_of_lt (Nat.sub_le_sub_right hnine _) (by decide)

theorem spelled_lt {numeral : List Char} (h : ∀ c ∈ numeral, digitValue c < base) :
    spelled base numeral < base ^ numeral.length := by
  induction numeral using List.reverseRecOn with
  | nil => exact Nat.zero_lt_one
  | append_singleton numeral c ih =>
      have hc := h c (List.mem_append_right _ (List.mem_singleton.mpr rfl))
      have hnumeral := ih fun other hother => h other (List.mem_append_left _ hother)
      rw [spelled_concat, List.length_append, List.length_singleton, Nat.pow_succ]
      calc spelled base numeral * base + digitValue c
          < spelled base numeral * base + base := Nat.add_lt_add_left hc _
        _ = (spelled base numeral + 1) * base := (Nat.succ_mul _ _).symm
        _ ≤ base ^ numeral.length * base := Nat.mul_le_mul_right base hnumeral

/-- No other digits spell a number in fewer places. -/
theorem length_decimal_le {n : Nat} {numeral : List Char} (hne : numeral ≠ [])
    (hdigits : ∀ c ∈ numeral, c.isDigit = true) (h : spelled 10 numeral = n) :
    (decimal n).toList.length ≤ numeral.length := by
  rw [decimal, String.toList_ofList,
    Nat.length_toDigits_le_iff (by decide) (List.length_pos_iff.mpr hne), ← h]
  exact spelled_lt fun c hc => digitValue_lt (hdigits c hc)

/-- A number that fits is padded to just as many digits as are asked for. -/
theorem length_padded (hbase : 1 < base) {width n : Nat} (hwidth : 0 < width)
    (h : n < base ^ width) : (padded base width n).toList.length = width := by
  have hfits := (Nat.length_toDigits_le_iff hbase hwidth).mpr h
  rw [padded, String.toList_ofList, List.length_leftpad, List.length_map, Nat.max_eq_left hfits]

/-! ## Reading with a limit -/

/-- Digits are read until the number grows too large, and it never shrinks again. -/
theorem foldlM_appendDigit {limit : Nat} (hlimit : 0 < limit) {digits : List Char}
    (hdigits : ∀ c ∈ digits, c.isDigit = true) :
    digits.foldlM (appendDigit limit) 0 =
      if spelled 10 digits < limit then .ok (spelled 10 digits) else .error .tooLarge := by
  induction digits using List.reverseRecOn with
  | nil => exact (if_pos hlimit).symm
  | append_singleton digits c ih =>
      have hc := hdigits c (List.mem_append_right _ (List.mem_singleton.mpr rfl))
      have hvalue : digitValue c = c.toNat - '0'.toNat := if_pos hc
      rw [List.foldlM_append, ih fun other hother => hdigits other (List.mem_append_left _ hother),
        spelled_concat, hvalue]
      by_cases hsmall : spelled 10 digits < limit
      · rw [if_pos hsmall]
        change appendDigit limit (spelled 10 digits) c >>= pure = _
        rw [bind_pure, appendDigit, if_pos hc]
      · rw [if_neg hsmall, if_neg (by omega)]
        rfl

/-- A numeral of digits alone is read if the number is below the limit. -/
theorem read_of_isDigit {limit : Nat} (hlimit : 0 < limit) {digits : List Char}
    (hne : digits ≠ []) (hdigits : ∀ c ∈ digits, c.isDigit = true) :
    read limit digits =
      if spelled 10 digits < limit then .ok (spelled 10 digits) else .error .tooLarge := by
  rw [← foldlM_appendDigit hlimit hdigits]
  unfold read
  split
  · exact absurd rfl hne
  · exact absurd (hdigits '+' List.mem_cons_self) (by decide)
  · exact absurd (hdigits '+' List.mem_cons_self) (by decide)
  · rfl

/-! ## Digits and letters -/

theorem isDigit_decimal {n : Nat} {c : Char} (h : c ∈ (decimal n).toList) : c.isDigit = true := by
  rw [decimal, String.toList_ofList] at h
  exact Nat.isDigit_of_mem_toDigits (by decide) (by decide) h

theorem decimal_ne_nil (n : Nat) : (decimal n).toList ≠ [] := by
  rw [decimal, String.toList_ofList]
  exact Nat.toDigits_ne_nil

/-- A number below the limit is read as it is written. -/
theorem read_decimal {limit n : Nat} (h : n < limit) : read limit (decimal n).toList = .ok n := by
  rw [read_of_isDigit (Nat.zero_lt_of_lt h) (decimal_ne_nil n) (fun _ => isDigit_decimal),
    spelled_decimal, if_pos h]

theorem isAlphanum_decimal {n : Nat} {c : Char} (h : c ∈ (decimal n).toList) : c.isAlphanum := by
  rw [Char.isAlphanum, isDigit_decimal h, Bool.or_true]

theorem exists_of_mem_toDigits (hbase : 1 < base) {n : Nat} {c : Char}
    (h : c ∈ Nat.toDigits base n) : ∃ digit < base, digit.digitChar = c := by
  induction n using Nat.strongRecOn with
  | ind n ih =>
      by_cases hsmall : n < base
      · rw [Nat.toDigits_of_lt_base hsmall, List.mem_singleton] at h
        exact ⟨n, hsmall, h.symm⟩
      · rw [Nat.toDigits_of_base_le hbase (Nat.not_lt.mp hsmall), List.mem_append,
          List.mem_singleton] at h
        rcases h with h | rfl
        · exact ih (n / base) (Nat.div_lt_self (by omega) hbase) h
        · exact ⟨n % base, Nat.mod_lt n (by omega), rfl⟩

/-- A padded numeral consists of upper case digits. -/
theorem exists_of_mem_padded (hbase : 1 < base) {width n : Nat} {c : Char}
    (h : c ∈ (padded base width n).toList) : ∃ digit < base, digit.digitChar.toUpper = c := by
  rw [padded, String.toList_ofList, List.leftpad, List.mem_append] at h
  rcases h with h | h
  · exact ⟨0, by omega, (List.eq_of_mem_replicate h).symm⟩
  · obtain ⟨written, hwritten, rfl⟩ := List.mem_map.mp h
    obtain ⟨digit, hdigit, rfl⟩ := exists_of_mem_toDigits hbase hwritten
    exact ⟨digit, hdigit, rfl⟩

theorem isAlphanum_padded (hbase : 1 < base) (hmax : base ≤ 16) {width n : Nat} {c : Char}
    (h : c ∈ (padded base width n).toList) : c.isAlphanum := by
  obtain ⟨digit, hdigit, rfl⟩ := exists_of_mem_padded hbase h
  have hall : ∀ digit < 16, (Nat.digitChar digit).toUpper.isAlphanum = true := by decide
  exact hall digit (Nat.lt_of_lt_of_le hdigit hmax)

end GroundLink.Numeral
