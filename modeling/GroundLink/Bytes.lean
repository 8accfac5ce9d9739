/-! # Octets and the numbers they spell

Everything that crosses the link is a list of octets. Numbers travel in a fixed
count of octets, least significant first unless a format says otherwise, and
higher octets of a number that does not fit are dropped.
-/

namespace GroundLink

/-- A run of octets, in the order in which they cross the link. -/
abbrev Bytes := List UInt8

namespace Bytes

/-- The `width` low octets of a number, least significant first. -/
def ofNatLE : Nat → Nat → Bytes
  | 0, _ => []
  | width + 1, n => UInt8.ofNat n :: ofNatLE width (n / 256)

/-- The number spelled by octets, least significant first. -/
def toNatLE : Bytes → Nat
  | [] => 0
  | b :: rest => b.toNat + 256 * toNatLE rest

/-- The `width` low octets of a number, most significant first. -/
def ofNatBE (width n : Nat) : Bytes := (ofNatLE width n).reverse

/-- The number spelled by octets, most significant first. -/
def toNatBE (bytes : Bytes) : Nat := toNatLE bytes.reverse

@[simp] theorem length_ofNatLE (width n : Nat) : (ofNatLE width n).length = width := by
  induction width generalizing n with
  | zero => rfl
  | succ width ih => simp [ofNatLE, ih]

@[simp] theorem length_ofNatBE (width n : Nat) : (ofNatBE width n).length = width := by
  simp [ofNatBE]

theorem toNatLE_ofNatLE (width n : Nat) :
    toNatLE (ofNatLE width n) = n % Nat.pow 256 width := by
  change _ = n % 256 ^ width
  induction width generalizing n with
  | zero => simp [ofNatLE, toNatLE, Nat.mod_one]
  | succ width ih =>
      have hsplit : n % 256 ^ (width + 1) = n % 256 + 256 * (n / 256 % 256 ^ width) := by
        rw [Nat.pow_succ', Nat.mod_mul]
      rw [hsplit, ← ih, ofNatLE, toNatLE, UInt8.toNat_ofNat']

theorem toNatBE_ofNatBE (width n : Nat) :
    toNatBE (ofNatBE width n) = n % Nat.pow 256 width := by
  simp [toNatBE, ofNatBE, toNatLE_ofNatLE]

theorem ofNatLE_toNatLE (bytes : Bytes) : ofNatLE bytes.length (toNatLE bytes) = bytes := by
  induction bytes with
  | nil => rfl
  | cons b rest ih =>
      have hb := b.toNat_lt
      have hhead : UInt8.ofNat (b.toNat + 256 * toNatLE rest) = b := by
        apply UInt8.toNat_inj.mp
        rw [UInt8.toNat_ofNat']
        omega
      have htail : (b.toNat + 256 * toNatLE rest) / 256 = toNatLE rest := by omega
      simp [ofNatLE, toNatLE, hhead, htail, ih]

theorem toNatLE_lt (bytes : Bytes) : toNatLE bytes < Nat.pow 256 bytes.length := by
  change _ < 256 ^ bytes.length
  induction bytes with
  | nil => simp [toNatLE]
  | cons b rest ih =>
      have hb := b.toNat_lt
      simp only [toNatLE, List.length_cons, Nat.pow_succ]
      omega

theorem toNatLE_append (first second : Bytes) :
    toNatLE (first ++ second) = toNatLE first + Nat.pow 256 first.length * toNatLE second := by
  change _ = toNatLE first + 256 ^ first.length * toNatLE second
  induction first with
  | nil => simp [toNatLE]
  | cons b rest ih =>
      rw [List.cons_append, toNatLE, toNatLE, ih, List.length_cons, Nat.pow_succ', Nat.mul_add,
        Nat.mul_assoc, Nat.add_assoc]

/-- The octets with some bits of the last one set. -/
def orLast (bytes : Bytes) (bits : UInt8) : Bytes :=
  match bytes.getLast? with
  | some last => bytes.dropLast ++ [last ||| bits]
  | none => bytes

theorem orLast_concat (bytes : Bytes) (last bits : UInt8) :
    orLast (bytes ++ [last]) bits = bytes ++ [last ||| bits] := by
  simp [orLast]

end Bytes

end GroundLink
