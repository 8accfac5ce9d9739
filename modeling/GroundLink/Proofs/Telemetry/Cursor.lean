import Mathlib.Algebra.BigOperators.Ring.Finset
import GroundLink.Proofs.Telemetry.Field

/-! # Reading as taking bits from a list

A cursor is handed one call after the other. It answers as if the bits of its buffer stood in one
list and were taken from the front, and a call that asks for more than is there takes nothing. How
the bits lie in octets does not show, whatever the counts are.
-/

namespace GroundLink

namespace Bits

/-- Every bit of a number counts twice as much as the one before. -/
theorem toNat_eq_sum (bits : List Bool) :
    toNat bits = ∑ i ∈ Finset.range bits.length, (bits[i]?.getD false).toNat * 2 ^ i := by
  induction bits with
  | nil => rfl
  | cons bit rest ih =>
      rw [List.length_cons, Finset.sum_range_succ', toNat, ih, Finset.mul_sum, Nat.add_comm]
      congr 1
      · refine Finset.sum_congr rfl fun i _ => ?_
        rw [List.getElem?_cons_succ, Nat.pow_succ, Nat.mul_left_comm, Nat.mul_comm 2]
      · simp

end Bits

namespace Telemetry

/-- A call on a cursor. -/
inductive CursorCall where
  | read (count : Nat)
  | skip (count : Nat)
  deriving Repr, DecidableEq

/-- What a call answers: a number if bits were to be read, nothing if they were to be skipped. -/
abbrev CursorAnswer := Except TelemetryError (Option Nat)

/-- What a call does to a list of bits, of which the first `position` ones are gone: the answer, and
how many are gone after it. -/
def CursorCall.answerOn (bits : List Bool) (position : Nat) : CursorCall → CursorAnswer × Nat
  | .read count =>
      if count > bits.length - position then
        (.error (.outOfRange position count bits.length), position)
      else if count > 64 then
        (.error (.inconsistent "bit read" (.wideRead count)), position)
      else
        (.ok (some (∑ i ∈ Finset.range count, (bits[position + i]?.getD false).toNat * 2 ^ i)),
          position + count)
  | .skip count =>
      if count > bits.length - position then
        (.error (.outOfRange position count bits.length), position)
      else
        (.ok none, position + count)

/-- The answers to calls one after the other, and how many bits are gone in the end. -/
def answersOn (bits : List Bool) : Nat → List CursorCall → List CursorAnswer × Nat
  | position, [] => ([], position)
  | position, call :: rest =>
      let (answer, next) := call.answerOn bits position
      let (answers, last) := answersOn bits next rest
      (answer :: answers, last)

namespace BitCursor

/-- A call on a cursor that is used again afterwards, also when the call has failed. -/
def perform (cursor : BitCursor) : CursorCall → CursorAnswer × BitCursor
  | .read count =>
      match cursor.read count with
      | .ok (value, next) => (.ok (some value), next)
      | .error failed => (.error failed, failed.left)
  | .skip count =>
      match cursor.skip count with
      | .ok next => (.ok none, next)
      | .error failed => (.error failed, failed.left)

/-- The answers to calls one after the other, and the cursor in the end. -/
def performAll : BitCursor → List CursorCall → List CursorAnswer × BitCursor
  | cursor, [] => ([], cursor)
  | cursor, call :: rest =>
      let (answer, next) := cursor.perform call
      let (answers, last) := next.performAll rest
      (answer :: answers, last)

variable {cursor : BitCursor} {count : Nat}

theorem peek_eq_sum (h : count ≤ cursor.remaining) :
    cursor.peek count = ∑ i ∈ Finset.range count,
      ((Bits.ofBytes cursor.bytes)[cursor.position + i]?.getD false).toNat * 2 ^ i := by
  have hlength : (cursor.ahead.take count).length = count := by
    rw [List.length_take, length_ahead, Nat.min_eq_left h]
  rw [peek, Bits.toNat_eq_sum, hlength]
  refine Finset.sum_congr rfl fun i hi => ?_
  rw [List.getElem?_take_of_lt (Finset.mem_range.mp hi), ahead, List.getElem?_drop]

/-- One call does to the cursor what it does to the bits of the buffer. -/
theorem perform_eq (cursor : BitCursor) (call : CursorCall) :
    ∃ answer next, cursor.perform call = (answer, next) ∧ next.bytes = cursor.bytes ∧
      call.answerOn (Bits.ofBytes cursor.bytes) cursor.position = (answer, next.position) := by
  have hleft : (Bits.ofBytes cursor.bytes).length - cursor.position = cursor.remaining := by
    rw [Bits.length_ofBytes, remaining, total]
  have htotal : (Bits.ofBytes cursor.bytes).length = cursor.total := Bits.length_ofBytes _
  cases call with
  | read count =>
      simp only [CursorCall.answerOn, perform, hleft]
      by_cases hshort : cursor.remaining < count
      · refine ⟨_, cursor, by rw [read_of_short hshort], rfl, ?_⟩
        rw [if_pos hshort, htotal]
      · obtain ⟨next, hnext⟩ := exists_skip (Nat.not_lt.mp hshort)
        obtain ⟨hbytes, hposition⟩ := position_skip hnext
        rw [if_neg hshort]
        by_cases hwide : 64 < count
        · refine ⟨_, cursor, by rw [read_of_wide (Nat.not_lt.mp hshort) hwide], rfl, ?_⟩
          rw [if_pos hwide]
        · refine ⟨_, next, by rw [read_of_skip hnext (Nat.not_lt.mp hwide)], hbytes, ?_⟩
          rw [if_neg hwide, hposition, peek_eq_sum (Nat.not_lt.mp hshort)]
  | skip count =>
      simp only [CursorCall.answerOn, perform, hleft]
      by_cases hshort : cursor.remaining < count
      · refine ⟨_, cursor, by rw [skip_of_short hshort], rfl, ?_⟩
        rw [if_pos hshort, htotal]
      · obtain ⟨next, hnext⟩ := exists_skip (Nat.not_lt.mp hshort)
        obtain ⟨hbytes, hposition⟩ := position_skip hnext
        refine ⟨_, next, by rw [hnext], hbytes, ?_⟩
        rw [if_neg hshort, hposition]

/-- So do calls one after the other. -/
theorem performAll_eq (cursor : BitCursor) (calls : List CursorCall) :
    ∃ answers last, cursor.performAll calls = (answers, last) ∧ last.bytes = cursor.bytes ∧
      answersOn (Bits.ofBytes cursor.bytes) cursor.position calls = (answers, last.position) := by
  induction calls generalizing cursor with
  | nil => exact ⟨[], cursor, rfl, rfl, rfl⟩
  | cons call rest ih =>
      obtain ⟨answer, next, hnext, hnextBytes, hanswer⟩ := cursor.perform_eq call
      obtain ⟨answers, last, hlast, hlastBytes, hanswers⟩ := ih next
      refine ⟨answer :: answers, last, ?_, hlastBytes.trans hnextBytes, ?_⟩
      · rw [performAll, hnext]
        simp only [hlast]
      · rw [answersOn, hanswer]
        rw [hnextBytes] at hanswers
        simp only [hanswers]

end BitCursor

/-- Calls on a buffer, in any order and with any counts, are answered from the list of its bits, the
least significant one of each octet first. The position is never behind the end, so that what is
left can always be counted, and bits may be read at once or in two parts. -/
theorem cursor_takes_bits_from_list (bytes : Bytes) (calls : List CursorCall) :
    ∃ answers cursor, (BitCursor.ofBytes bytes).performAll calls = (answers, cursor) ∧
      answersOn (Bits.ofBytes bytes) 0 calls = (answers, cursor.position) ∧
      cursor.bytes = bytes ∧
      cursor.position ≤ 8 * bytes.length ∧
      cursor.remaining = 8 * bytes.length - cursor.position ∧
      ∀ first second value last, first + second ≤ 64 →
        (cursor.read (first + second) = .ok (value, last) ↔
          ∃ low high middle, cursor.read first = .ok (low, middle) ∧
            middle.read second = .ok (high, last) ∧ value = low + high * 2 ^ first) := by
  obtain ⟨answers, cursor, hcursor, hbytes, hanswers⟩ :=
    (BitCursor.ofBytes bytes).performAll_eq calls
  have hinside := cursor.inside
  refine ⟨answers, cursor, hcursor, hanswers, hbytes, ?_, ?_, ?_⟩
  · rwa [hbytes] at hinside
  · rw [BitCursor.remaining, BitCursor.total, hbytes]
    rfl
  · intro first second value last h
    exact BitCursor.read_add_eq_ok_iff h

/-- Nine octets hold more bits than one value. What is missing is reported first. -/
theorem cursor_takes_bits_from_list_wide :
    let bytes : Bytes := [0xB6, 0x01, 0, 0, 0, 0, 0, 0x80, 0x2D]
    ∃ cursor, (BitCursor.ofBytes bytes).performAll
        [.read 65, .skip 3, .read 64, .read 65, .skip 6] =
          ([.error (.inconsistent "bit read" (.wideRead 65)), .ok none,
            .ok (some 0xB000000000000036), .error (.outOfRange 67 65 72),
            .error (.outOfRange 67 6 72)], cursor) ∧
      cursor.position = 67 ∧
      ∀ value last, cursor.read 5 = .ok (value, last) ↔
        ∃ low high middle, cursor.read 2 = .ok (low, middle) ∧
          middle.read 3 = .ok (high, last) ∧ value = low + high * 4 := by
  intro bytes
  have hlist : answersOn (Bits.ofBytes bytes) 0 [.read 65, .skip 3, .read 64, .read 65, .skip 6] =
      ([.error (.inconsistent "bit read" (.wideRead 65)), .ok none,
        .ok (some 0xB000000000000036), .error (.outOfRange 67 65 72),
        .error (.outOfRange 67 6 72)], 67) := by decide +kernel
  obtain ⟨answers, cursor, hcursor, hanswers, -, -, -, hparts⟩ := cursor_takes_bits_from_list bytes
    [.read 65, .skip 3, .read 64, .read 65, .skip 6]
  obtain ⟨rfl, hposition⟩ := Prod.mk.inj (hlist.symm.trans hanswers)
  exact ⟨cursor, hcursor, hposition.symm, fun value last => hparts 2 3 value last (by decide)⟩

end Telemetry

end GroundLink
