import GroundLink.Bits
import GroundLink.Telemetry.Error

/-! # Reading bits

A cursor is a position in a buffer, counted in bits. Reading takes bits from the
position on, the first of them as the least significant one of the value.
-/

namespace GroundLink.Telemetry

/-- The most bits that one value holds. -/
def maxFieldBits : Nat := 64

/-- A read position inside a buffer. -/
structure BitCursor where
  bytes : Bytes
  position : Nat
  inside : position ≤ 8 * bytes.length

namespace BitCursor

/-- The start of a buffer. -/
def ofBytes (bytes : Bytes) : BitCursor := ⟨bytes, 0, Nat.zero_le _⟩

def total (cursor : BitCursor) : Nat := 8 * cursor.bytes.length

def remaining (cursor : BitCursor) : Nat := cursor.total - cursor.position

/-- The cursor moved on by `count` bits. -/
def skip (cursor : BitCursor) (count : Nat) : Except (Failed BitCursor) BitCursor :=
  if h : cursor.position + count ≤ 8 * cursor.bytes.length then
    .ok ⟨cursor.bytes, cursor.position + count, h⟩
  else
    .error ⟨.outOfRange cursor.position count cursor.total, cursor⟩

/-- The low `taken` bits from the position on, out of the octet there. -/
def chunk (cursor : BitCursor) (taken : Nat)
    (h : cursor.position / 8 < cursor.bytes.length) : Nat :=
  (cursor.bytes[cursor.position / 8] >>> UInt8.ofNat (cursor.position % 8)).toNat &&&
    Bits.mask taken

/-- Collects the bits that are missing to `count` from one octet after the other, behind the `done`
bits that `value` holds. No octet is looked up that is not there. -/
def collect (cursor : BitCursor) (count done value : Nat)
    (inside : count - done ≤ cursor.remaining) : Nat × BitCursor :=
  if more : done < count then
    have enough : 8 * cursor.bytes.length = cursor.position + cursor.remaining := by
      have := cursor.inside
      unfold remaining total
      omega
    let taken := Bits.inOctet cursor.position (count - done)
    have reached : taken ≤ count - done := Bits.inOctet_le _ _
    have progress : 0 < taken := Bits.inOctet_pos _ (by omega)
    let next : BitCursor := ⟨cursor.bytes, cursor.position + taken, by omega⟩
    next.collect count (done + taken) (value ||| cursor.chunk taken (by omega) <<< done) (by
      unfold remaining total
      dsimp only [next]
      omega)
  else (value, cursor)
termination_by count - done

/-- The number in the next `count` bits and the cursor behind them. A missing bit is
reported before too wide a count. -/
def read (cursor : BitCursor) (count : Nat) : Except (Failed BitCursor) (Nat × BitCursor) :=
  if inside : count ≤ cursor.remaining then
    if count ≤ maxFieldBits then
      .ok (cursor.collect count 0 0 inside)
    else
      .error ⟨.inconsistent "bit read" (.wideRead count), cursor⟩
  else
    .error ⟨.outOfRange cursor.position count cursor.total, cursor⟩

theorem position_skip {cursor next : BitCursor} {count : Nat} (h : cursor.skip count = .ok next) :
    next.bytes = cursor.bytes ∧ next.position = cursor.position + count := by
  unfold skip at h
  split at h
  · cases h
    exact ⟨rfl, rfl⟩
  · exact nomatch h

variable {cursor next last : BitCursor} {count : Nat}

theorem skip_eq_ok_iff :
    cursor.skip count = .ok next ↔
      next.bytes = cursor.bytes ∧ next.position = cursor.position + count := by
  refine ⟨position_skip, ?_⟩
  rintro ⟨hbytes, hposition⟩
  have hinside : cursor.position + count ≤ 8 * cursor.bytes.length := by
    rw [← hbytes, ← hposition]
    exact next.inside
  obtain ⟨bytes, position, inside⟩ := next
  obtain rfl : bytes = cursor.bytes := hbytes
  obtain rfl : position = cursor.position + count := hposition
  rw [skip, dif_pos hinside]

theorem skip_of_short (h : cursor.remaining < count) :
    cursor.skip count = .error ⟨.outOfRange cursor.position count cursor.total, cursor⟩ := by
  have houtside : ¬ cursor.position + count ≤ 8 * cursor.bytes.length := by
    unfold remaining total at h
    omega
  rw [skip, dif_neg houtside]

theorem skip_zero (cursor : BitCursor) : cursor.skip 0 = .ok cursor :=
  skip_eq_ok_iff.mpr ⟨rfl, rfl⟩

theorem exists_skip (h : count ≤ cursor.remaining) : ∃ next, cursor.skip count = .ok next := by
  have hinside : cursor.position + count ≤ 8 * cursor.bytes.length := by
    have := cursor.inside
    unfold remaining total at h
    omega
  exact ⟨_, dif_pos hinside⟩

theorem total_of_skip (h : cursor.skip count = .ok next) : next.total = cursor.total := by
  rw [total, (position_skip h).1, total]

theorem remaining_of_skip (h : cursor.skip count = .ok next) :
    cursor.remaining = count + next.remaining := by
  have hinside : next.position ≤ next.total := next.inside
  rw [remaining, remaining, ← total_of_skip h]
  rw [(position_skip h).2] at hinside ⊢
  omega

theorem skip_add {first second : Nat} (hfirst : cursor.skip first = .ok next)
    (hsecond : next.skip second = .ok last) : cursor.skip (first + second) = .ok last := by
  obtain ⟨hnextBytes, hnextPosition⟩ := position_skip hfirst
  obtain ⟨hbytes, hposition⟩ := position_skip hsecond
  refine skip_eq_ok_iff.mpr ⟨hbytes.trans hnextBytes, ?_⟩
  rw [hposition, hnextPosition, Nat.add_assoc]

/-- One way may be gone in two steps. -/
theorem exists_skip_of_skip_add {first second : Nat} (h : cursor.skip (first + second) = .ok last) :
    ∃ next, cursor.skip first = .ok next ∧ next.skip second = .ok last := by
  obtain ⟨hbytes, hposition⟩ := position_skip h
  have hfirst : first ≤ cursor.remaining := by
    rw [remaining_of_skip h]
    omega
  obtain ⟨next, hnext⟩ := exists_skip hfirst
  obtain ⟨hnextBytes, hnextPosition⟩ := position_skip hnext
  refine ⟨next, hnext, skip_eq_ok_iff.mpr ⟨hbytes.trans hnextBytes.symm, ?_⟩⟩
  omega

/-- The bits from the position on. -/
def ahead (cursor : BitCursor) : List Bool := (Bits.ofBytes cursor.bytes).drop cursor.position

@[simp] theorem length_ahead (cursor : BitCursor) : cursor.ahead.length = cursor.remaining := by
  simp [ahead, remaining, total]

theorem ahead_skip {cursor next : BitCursor} {count : Nat} (h : cursor.skip count = .ok next) :
    next.ahead = cursor.ahead.drop count := by
  obtain ⟨hbytes, hposition⟩ := position_skip h
  rw [ahead, ahead, hbytes, hposition, List.drop_drop]

/-- The number that the next bits spell. -/
def peek (cursor : BitCursor) (count : Nat) : Nat := Bits.toNat (cursor.ahead.take count)

/-- What is ahead begins with the rest of the octet at the position. -/
theorem ahead_eq (cursor : BitCursor) (h : cursor.position / 8 < cursor.bytes.length) :
    cursor.ahead =
      (Bits.ofNat 8 cursor.bytes[cursor.position / 8].toNat).drop (cursor.position % 8) ++
        Bits.ofBytes (cursor.bytes.drop (cursor.position / 8 + 1)) := by
  have hposition : cursor.position = 8 * (cursor.position / 8) + cursor.position % 8 := by omega
  have hshift : cursor.position % 8 ≤
      (Bits.ofNat 8 cursor.bytes[cursor.position / 8].toNat).length := by
    rw [Bits.length_ofNat]
    omega
  rw [← List.drop_append_of_le_length hshift, ← Bits.ofBytes_cons, List.getElem_cons_drop,
    Bits.ofBytes_drop, List.drop_drop, ← hposition, ahead]

theorem chunk_eq (cursor : BitCursor) {taken : Nat} (h : cursor.position / 8 < cursor.bytes.length)
    (htaken : cursor.position % 8 + taken ≤ 8) : cursor.chunk taken h = cursor.peek taken := by
  have hoctet : cursor.bytes[cursor.position / 8].toNat % Nat.pow 2 8 =
      cursor.bytes[cursor.position / 8].toNat :=
    Nat.mod_eq_of_lt (UInt8.toNat_lt _)
  have hlength : taken ≤ ((Bits.ofNat 8 cursor.bytes[cursor.position / 8].toNat).drop
      (cursor.position % 8)).length := by
    rw [List.length_drop, Bits.length_ofNat]
    omega
  have hshift : (UInt8.ofNat (cursor.position % 8)).toNat % 8 = cursor.position % 8 := by
    rw [UInt8.toNat_ofNat']
    omega
  rw [chunk, Bits.and_mask (by omega), UInt8.toNat_shiftRight, hshift, Nat.shiftRight_eq_div_pow,
    peek, cursor.ahead_eq h, List.take_append_of_le_length hlength, Bits.toNat_take,
    Bits.toNat_drop, Bits.toNat_ofNat, hoctet]
  rfl

theorem peek_add {first : Nat} (h : cursor.skip first = .ok next) (second : Nat) :
    cursor.peek (first + second) = cursor.peek first + Nat.pow 2 first * next.peek second := by
  have hinside : first ≤ cursor.ahead.length := by
    rw [length_ahead, remaining_of_skip h]
    omega
  rw [peek, List.take_add, Bits.toNat_append, List.length_take, Nat.min_eq_left hinside,
    ← ahead_skip h, peek, peek]

theorem peek_lt (cursor : BitCursor) (count : Nat) : cursor.peek count < Nat.pow 2 count := by
  have hlength : (cursor.ahead.take count).length ≤ count := by
    rw [List.length_take]
    exact Nat.min_le_left _ _
  exact Nat.lt_of_lt_of_le (Bits.toNat_lt _) (Nat.pow_le_pow_right Nat.zero_lt_two hlength)

/-- Chunk by chunk the bits that are missing come behind those read before, in a number that the
bits asked for are enough to hold. -/
theorem collect_eq {done value : Nat} (hdone : done ≤ count) (hvalue : value < Nat.pow 2 done)
    (inside : count - done ≤ cursor.remaining) (h : cursor.skip (count - done) = .ok last) :
    cursor.collect count done value inside =
      (value + Nat.pow 2 done * cursor.peek (count - done), last) := by
  -- along the loop: `hvalue` is what every turn keeps, so that a chunk falls on zero bits
  fun_induction collect cursor count done value inside with
  | case1 cursor done value inside more enough taken reached progress next ih =>
    have hcount : count - done = taken + (count - (done + taken)) := by omega
    obtain ⟨behind, hbehind, hlast⟩ := exists_skip_of_skip_add (hcount ▸ h)
    obtain rfl : behind = next :=
      Except.ok.inj (hbehind.symm.trans (skip_eq_ok_iff.mpr ⟨rfl, rfl⟩))
    have hchunk : cursor.chunk taken (by omega) = cursor.peek taken :=
      cursor.chunk_eq _ (Bits.mod_add_inOctet_le _ _)
    have hsum : value ||| cursor.chunk taken (by omega) <<< done =
        value + Nat.pow 2 done * cursor.peek taken := by
      rw [Bits.or_shiftLeft hvalue, hchunk]
    have hfits : value + Nat.pow 2 done * cursor.peek taken < Nat.pow 2 (done + taken) :=
      Bits.add_mul_lt hvalue (cursor.peek_lt taken)
    have hpow : Nat.pow 2 (done + taken) = Nat.pow 2 done * Nat.pow 2 taken := Nat.pow_add _ _ _
    rw [ih (by omega) (hsum ▸ hfits) hlast, hsum, hcount, peek_add hbehind, hpow, Nat.mul_add,
      Nat.add_assoc, Nat.mul_assoc]
  | case2 cursor done value inside more =>
    have hzero : count - done = 0 := by omega
    obtain rfl : cursor = last := Except.ok.inj (cursor.skip_zero.symm.trans (hzero ▸ h))
    rw [hzero]
    rfl

/-! ## What a read gives -/

theorem read_of_skip (h : cursor.skip count = .ok next) (hcount : count ≤ maxFieldBits) :
    cursor.read count = .ok (cursor.peek count, next) := by
  have inside : count ≤ cursor.remaining := by
    rw [remaining_of_skip h]
    omega
  rw [read, dif_pos inside, if_pos hcount,
    collect_eq (Nat.zero_le _) (Nat.two_pow_pos 0) inside (by rwa [Nat.sub_zero])]
  simp

/-- A missing bit is reported whatever the count, and the cursor stays where it is. -/
theorem read_of_short (h : cursor.remaining < count) :
    cursor.read count = .error ⟨.outOfRange cursor.position count cursor.total, cursor⟩ := by
  rw [read, dif_neg (Nat.not_le.mpr h)]

theorem read_of_wide (h : count ≤ cursor.remaining) (hcount : maxFieldBits < count) :
    cursor.read count = .error ⟨.inconsistent "bit read" (.wideRead count), cursor⟩ := by
  rw [read, dif_pos h, if_neg (Nat.not_le.mpr hcount)]

theorem read_eq_ok_iff {value : Nat} :
    cursor.read count = .ok (value, next) ↔
      count ≤ maxFieldBits ∧ cursor.skip count = .ok next ∧ cursor.peek count = value := by
  constructor
  · intro h
    by_cases hcount : count ≤ maxFieldBits
    · by_cases hinside : count ≤ cursor.remaining
      · obtain ⟨other, hother⟩ := exists_skip hinside
        obtain ⟨rfl, rfl⟩ := Prod.mk.inj (Except.ok.inj ((read_of_skip hother hcount).symm.trans h))
        exact ⟨hcount, hother, rfl⟩
      · rw [read_of_short (Nat.not_le.mp hinside)] at h
        cases h
    · by_cases hinside : count ≤ cursor.remaining
      · rw [read_of_wide hinside (Nat.not_le.mp hcount)] at h
        cases h
      · rw [read_of_short (Nat.not_le.mp hinside)] at h
        cases h
  · rintro ⟨hcount, hnext, rfl⟩
    exact read_of_skip hnext hcount

/-- As long as one value holds all bits, they may be read in two parts. -/
theorem read_add_eq_ok_iff {first second value : Nat} (h : first + second ≤ maxFieldBits) :
    cursor.read (first + second) = .ok (value, last) ↔
      ∃ low high middle, cursor.read first = .ok (low, middle) ∧
        middle.read second = .ok (high, last) ∧ value = low + high * Nat.pow 2 first := by
  simp only [read_eq_ok_iff]
  constructor
  · rintro ⟨-, hlast, rfl⟩
    obtain ⟨middle, hmiddle, hrest⟩ := exists_skip_of_skip_add hlast
    refine ⟨_, _, middle, ⟨by omega, hmiddle, rfl⟩, ⟨by omega, hrest, rfl⟩, ?_⟩
    rw [peek_add hmiddle, Nat.mul_comm]
  · rintro ⟨low, high, middle, ⟨-, hmiddle, rfl⟩, ⟨-, hrest, rfl⟩, rfl⟩
    refine ⟨h, skip_add hmiddle hrest, ?_⟩
    rw [peek_add hmiddle, Nat.mul_comm]

end BitCursor

end GroundLink.Telemetry
