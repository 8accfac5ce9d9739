import GroundLink.Bytes

/-! # Bit lists

The bits of a buffer are counted through its octets in order and, within an octet,
from the least significant bit. This is the view in which cursors, writers and
frame headers are described.
-/

namespace GroundLink.Bits

/-- The `width` low bits of a number, least significant first. -/
def ofNat : Nat → Nat → List Bool
  | 0, _ => []
  | width + 1, n => n.testBit 0 :: ofNat width (n / 2)

/-- The number spelled by bits, least significant first. -/
def toNat : List Bool → Nat
  | [] => 0
  | b :: rest => b.toNat + 2 * toNat rest

/-- The bits of a buffer. -/
def ofBytes (bytes : Bytes) : List Bool := bytes.flatMap fun b => ofNat 8 b.toNat

@[simp] theorem length_ofNat (width n : Nat) : (ofNat width n).length = width := by
  induction width generalizing n with
  | zero => rfl
  | succ width ih => simp [ofNat, ih]

theorem ofBytes_cons (b : UInt8) (rest : Bytes) :
    ofBytes (b :: rest) = ofNat 8 b.toNat ++ ofBytes rest := rfl

@[simp] theorem length_ofBytes (bytes : Bytes) : (ofBytes bytes).length = 8 * bytes.length := by
  induction bytes with
  | nil => rfl
  | cons b rest ih =>
      simp [ofBytes_cons, ih]
      omega

theorem toNat_ofNat (width n : Nat) : toNat (ofNat width n) = n % Nat.pow 2 width := by
  change _ = n % 2 ^ width
  induction width generalizing n with
  | zero => simp [ofNat, toNat, Nat.mod_one]
  | succ width ih =>
      have hsplit : n % 2 ^ (width + 1) = n % 2 + 2 * (n / 2 % 2 ^ width) := by
        rw [Nat.pow_succ', Nat.mod_mul]
      have hbit : (n.testBit 0).toNat = n % 2 := by
        rcases Nat.mod_two_eq_zero_or_one n with h | h <;> simp [Nat.testBit_zero, h]
      rw [ofNat, toNat, ih, hsplit, hbit]

theorem toNat_lt (bits : List Bool) : toNat bits < Nat.pow 2 bits.length := by
  change _ < 2 ^ bits.length
  induction bits with
  | nil => simp [toNat]
  | cons b rest ih =>
      have := b.toNat_le
      simp only [toNat, List.length_cons, Nat.pow_succ]
      omega

theorem toNat_append (low high : List Bool) :
    toNat (low ++ high) = toNat low + Nat.pow 2 low.length * toNat high := by
  change _ = toNat low + 2 ^ low.length * toNat high
  induction low with
  | nil => simp [toNat]
  | cons b rest ih =>
      simp only [List.cons_append, toNat, ih, List.length_cons, Nat.pow_succ]
      rw [Nat.mul_add, ← Nat.add_assoc, Nat.mul_comm (2 ^ rest.length) 2, Nat.mul_assoc]

theorem ofBytes_append (first second : Bytes) :
    ofBytes (first ++ second) = ofBytes first ++ ofBytes second := by
  simp [ofBytes]

theorem ofNat_toNat (bits : List Bool) : ofNat bits.length (toNat bits) = bits := by
  induction bits with
  | nil => rfl
  | cons b rest ih =>
      have hhead : (b.toNat + 2 * toNat rest).testBit 0 = b := by
        cases b <;> simp [Nat.testBit_zero, Nat.add_mul_mod_self_left]
      have htail : (b.toNat + 2 * toNat rest) / 2 = toNat rest := by
        have := b.toNat_lt
        omega
      simp [ofNat, toNat, hhead, htail, ih]

/-- Bits of the same count that spell the same number are the same. -/
theorem toNat_inj {first second : List Bool} (hlength : first.length = second.length) :
    toNat first = toNat second ↔ first = second := by
  constructor
  · intro h
    rw [← ofNat_toNat first, ← ofNat_toNat second, hlength, h]
  · exact congrArg toNat

theorem toNat_drop (count : Nat) (bits : List Bool) :
    toNat (bits.drop count) = toNat bits / Nat.pow 2 count := by
  change _ = toNat bits / 2 ^ count
  induction count generalizing bits with
  | zero => simp
  | succ count ih =>
      cases bits with
      | nil => simp [toNat]
      | cons b rest =>
          have := b.toNat_lt
          have htail : (b.toNat + 2 * toNat rest) / 2 = toNat rest := by omega
          rw [List.drop_succ_cons, ih, toNat, Nat.pow_succ', ← Nat.div_div_eq_div_mul, htail]

theorem toNat_take (count : Nat) (bits : List Bool) :
    toNat (bits.take count) = toNat bits % Nat.pow 2 count := by
  change _ = toNat bits % 2 ^ count
  induction count generalizing bits with
  | zero => simp [toNat, Nat.mod_one]
  | succ count ih =>
      cases bits with
      | nil => simp [toNat]
      | cons b rest =>
          have := b.toNat_lt
          have hhead : (b.toNat + 2 * toNat rest) % 2 = b.toNat := by omega
          have htail : (b.toNat + 2 * toNat rest) / 2 = toNat rest := by omega
          rw [List.take_succ_cons, toNat, toNat, ih, Nat.pow_succ', Nat.mod_mul, hhead, htail]

/-- The bits of octets spell the same number as the octets. -/
theorem toNat_ofBytes (bytes : Bytes) : toNat (ofBytes bytes) = Bytes.toNatLE bytes := by
  induction bytes with
  | nil => rfl
  | cons b rest ih =>
      have hoctet : b.toNat % Nat.pow 2 8 = b.toNat := Nat.mod_eq_of_lt b.toNat_lt
      have hbase : Nat.pow 2 8 = 256 := rfl
      rw [ofBytes_cons, toNat_append, toNat_ofNat, length_ofNat, ih, Bytes.toNatLE, hoctet, hbase]

theorem ofBytes_inj {first second : Bytes} : ofBytes first = ofBytes second ↔ first = second := by
  refine ⟨fun h => ?_, congrArg ofBytes⟩
  have hlength := congrArg List.length h
  rw [length_ofBytes, length_ofBytes] at hlength
  have hsame : first.length = second.length := by omega
  rw [← Bytes.ofNatLE_toNatLE first, ← Bytes.ofNatLE_toNatLE second, ← toNat_ofBytes, h,
    toNat_ofBytes, hsame]

theorem ofBytes_drop (count : Nat) (bytes : Bytes) :
    ofBytes (bytes.drop count) = (ofBytes bytes).drop (8 * count) := by
  induction count generalizing bytes with
  | zero => simp
  | succ count ih =>
      cases bytes with
      | nil => simp [ofBytes]
      | cons b rest =>
          have hlength : 8 * (count + 1) = (ofNat 8 b.toNat).length + 8 * count := by
            rw [length_ofNat]
            omega
          rw [List.drop_succ_cons, ofBytes_cons, ih, hlength, List.drop_length_add_append]

/-! ## Octet by octet

Words are taken apart and put together in chunks that do not reach over the end of an octet.
-/

/-- The number in which just the `count` low bits are set, as far as a word of 64 bits goes. -/
def mask (count : Nat) : Nat := if count ≥ 64 then Nat.pow 2 64 - 1 else (1 <<< count) - 1

theorem mask_eq {count : Nat} (h : count ≤ 64) : mask count = Nat.pow 2 count - 1 := by
  unfold mask
  split
  · have hcount : count = 64 := by omega
    rw [hcount]
  · rw [Nat.one_shiftLeft]
    rfl

theorem and_mask {count : Nat} (h : count ≤ 64) (n : Nat) :
    n &&& mask count = n % Nat.pow 2 count := by
  rw [mask_eq h]
  exact Nat.and_two_pow_sub_one_eq_mod n count

/-- How many of the `wanted` bits from a position on lie in the octet of this position. -/
def inOctet (position wanted : Nat) : Nat := min (8 - position % 8) wanted

theorem inOctet_le (position wanted : Nat) : inOctet position wanted ≤ wanted :=
  Nat.min_le_right _ _

theorem mod_add_inOctet_le (position wanted : Nat) :
    position % 8 + inOctet position wanted ≤ 8 := by
  unfold inOctet
  omega

theorem inOctet_pos (position : Nat) {wanted : Nat} (h : 0 < wanted) :
    0 < inOctet position wanted := by
  unfold inOctet
  omega

theorem pow_octets (octets rest : Nat) :
    Nat.pow 2 (8 * octets + rest) = Nat.pow 256 octets * Nat.pow 2 rest := by
  change 2 ^ (8 * octets + rest) = (2 ^ 8) ^ octets * 2 ^ rest
  rw [Nat.pow_add, Nat.pow_mul]

/-- A number of `high` bits behind one of `low` bits. -/
theorem add_mul_lt {low high value chunk : Nat} (hvalue : value < Nat.pow 2 low)
    (hchunk : chunk < Nat.pow 2 high) : value + Nat.pow 2 low * chunk < Nat.pow 2 (low + high) := by
  have hmul : 2 ^ low * (chunk + 1) ≤ 2 ^ low * 2 ^ high := Nat.mul_le_mul_left (2 ^ low) hchunk
  simp only [Nat.pow_eq] at hvalue ⊢
  rw [← Nat.pow_add, Nat.mul_add, Nat.mul_one] at hmul
  omega

/-- Bits behind the first `done` ones are added to the number by setting them. -/
theorem or_shiftLeft {value done : Nat} (h : value < Nat.pow 2 done) (chunk : Nat) :
    value ||| chunk <<< done = value + Nat.pow 2 done * chunk := by
  have hor := Nat.two_pow_add_eq_or_of_lt h chunk
  rw [Nat.or_comm, Nat.shiftLeft_eq, Nat.mul_comm, ← hor]
  exact Nat.add_comm _ _

end GroundLink.Bits
