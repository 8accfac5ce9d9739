import GroundLink.Proofs.Telemetry.Decoding

/-! # Reading one category

Whether a category can be read depends on the number of bits ahead alone. If there are too few, the
fields in front of the first one that does not fit have been read, and the cursor stays there. So a
category can be read again and again from one cursor just as often as its width fits into what is
left.
-/

namespace GroundLink.Telemetry

/-- Fields are read as far as there are bits for them. The cursor is left in front of the first that
does not fit. -/
theorem decodeFields_of_short {fields : List FieldSpec} (hvalid : ∀ spec ∈ fields, spec.Valid)
    {cursor : BitCursor} (h : cursor.remaining < widthOf fields) :
    ∃ earlier spec later last, fields = earlier ++ spec :: later ∧
      cursor.skip (widthOf earlier) = .ok last ∧ last.remaining < spec.bits ∧
      decodeFields fields cursor =
        (.error (.outOfRange last.position spec.bits last.total), last) := by
  induction fields generalizing cursor with
  | nil => exact absurd h (Nat.not_lt_zero _)
  | cons first rest ih =>
      obtain ⟨hfirst, hrest⟩ := List.forall_mem_cons.mp hvalid
      by_cases hshort : cursor.remaining < first.bits
      · refine ⟨[], first, rest, cursor, rfl, cursor.skip_zero, hshort, ?_⟩
        rw [decodeFields, FieldSpec.decode_of_short hfirst hshort]
      · obtain ⟨next, hnext⟩ := BitCursor.exists_skip (Nat.not_lt.mp hshort)
        have hremaining := BitCursor.remaining_of_skip hnext
        rw [widthOf_cons] at h
        have hnextShort : next.remaining < widthOf rest := by omega
        obtain ⟨earlier, spec, later, last, rfl, hlast, hspec, herror⟩ := ih hrest hnextShort
        refine ⟨first :: earlier, spec, later, last, rfl, ?_, hspec, ?_⟩
        · exact BitCursor.skip_add hnext hlast
        · rw [decodeFields, FieldSpec.decode_of_skip hfirst hnext]
          dsimp only
          rw [herror]
          rfl

theorem widthOf_pos {fields : List FieldSpec} (hne : fields ≠ [])
    (hvalid : ∀ spec ∈ fields, spec.Valid) : 0 < widthOf fields := by
  cases fields with
  | nil => exact absurd rfl hne
  | cons spec rest =>
      have hspec := (hvalid spec List.mem_cons_self).1
      rw [widthOf_cons]
      omega

namespace CategorySpec

variable (category : CategorySpec)

theorem width_pos : 0 < category.width := by
  rw [← category.spans]
  exact widthOf_pos category.nonempty category.readable

theorem parse_of_short {cursor : BitCursor} (h : cursor.remaining < category.width) :
    ∃ earlier spec later last, category.fields = earlier ++ spec :: later ∧
      cursor.skip (widthOf earlier) = .ok last ∧ last.remaining < spec.bits ∧
      category.parse cursor = (.error (.outOfRange last.position spec.bits last.total), last) := by
  rw [← category.spans] at h
  obtain ⟨earlier, spec, later, last, hfields, hlast, hspec, herror⟩ :=
    decodeFields_of_short category.readable h
  refine ⟨earlier, spec, later, last, hfields, hlast, hspec, ?_⟩
  rw [parse, herror]

/-- The results of reading a category so many times from one cursor, whatever they are, and where
the cursor stands in the end. -/
def parseTimes : Nat → BitCursor → List (Except TelemetryError Category) × BitCursor
  | 0, cursor => ([], cursor)
  | count + 1, cursor =>
      let (first, next) := category.parse cursor
      let (others, last) := parseTimes count next
      (first :: others, last)

/-- Each success takes one width off what is left, and the first failure comes when less than a
width is left. -/
theorem length_takeWhile_parseTimes (count : Nat) (cursor : BitCursor) :
    ((category.parseTimes count cursor).1.takeWhile Except.isOk).length =
      min count (cursor.remaining / category.width) := by
  induction count generalizing cursor with
  | zero => exact (Nat.zero_min _).symm
  | succ count ih =>
      by_cases hshort : cursor.remaining < category.width
      · obtain ⟨_, _, _, last, -, -, -, herror⟩ := category.parse_of_short hshort
        rw [parseTimes, herror, Nat.div_eq_of_lt hshort, Nat.min_zero]
        rfl
      · obtain ⟨next, hnext⟩ := BitCursor.exists_skip (Nat.not_lt.mp hshort)
        have hquotient : cursor.remaining / category.width =
            next.remaining / category.width + 1 := by
          rw [BitCursor.remaining_of_skip hnext, Nat.add_div_left _ category.width_pos]
        rw [parseTimes, category.parse_of_skip hnext, hquotient, Nat.add_min_add_right, ← ih next]
        rfl

end CategorySpec

/-- A category is read exactly if all its bits are ahead, and then the cursor moves on by just as
many. Otherwise the first field that does not fit is reported where it begins, and there the cursor
stays. So, read from one cursor again and again, a category is found as often as its width goes into
what is left; and that the way was longer or shorter than the category is never reported. -/
theorem category_is_read_iff_bits_remain (category : CategorySpec) (cursor : BitCursor) :
    (category.width ≤ cursor.remaining →
      ∃ values last, category.parse cursor = (.ok ⟨category.name, values⟩, last) ∧
        last.bytes = cursor.bytes ∧ last.position = cursor.position + category.width) ∧
    (cursor.remaining < category.width →
      ∃ earlier field later last, category.fields = earlier ++ field :: later ∧
        widthOf earlier ≤ cursor.remaining ∧ cursor.remaining < widthOf earlier + field.bits ∧
        category.parse cursor =
          (.error (.outOfRange (cursor.position + widthOf earlier) field.bits
            (8 * cursor.bytes.length)), last) ∧
        last.bytes = cursor.bytes ∧ last.position = cursor.position + widthOf earlier) ∧
    (∀ count, ((category.parseTimes count cursor).1.takeWhile Except.isOk).length =
      min count (cursor.remaining / category.width)) ∧
    ∀ name reason, (category.parse cursor).1 ≠ .error (.inconsistent name reason) := by
  have hread (henough : category.width ≤ cursor.remaining) :
      ∃ values last, category.parse cursor = (.ok ⟨category.name, values⟩, last) ∧
        last.bytes = cursor.bytes ∧ last.position = cursor.position + category.width := by
    obtain ⟨last, hlast⟩ := BitCursor.exists_skip henough
    exact ⟨_, last, category.parse_of_skip hlast, BitCursor.position_skip hlast⟩
  refine ⟨hread, ?_, fun count => category.length_takeWhile_parseTimes count cursor, ?_⟩
  · intro hshort
    obtain ⟨earlier, field, later, last, hfields, hlast, hfield, herror⟩ :=
      category.parse_of_short hshort
    obtain ⟨hbytes, hposition⟩ := BitCursor.position_skip hlast
    have hremaining := BitCursor.remaining_of_skip hlast
    refine ⟨earlier, field, later, last, hfields, by omega, by omega, ?_, hbytes, hposition⟩
    rw [herror, hposition, BitCursor.total, hbytes]
  · intro name reason hinconsistent
    rcases Nat.lt_or_ge cursor.remaining category.width with hshort | henough
    · obtain ⟨_, _, _, _, -, -, -, herror⟩ := category.parse_of_short hshort
      rw [herror] at hinconsistent
      cases hinconsistent
    · obtain ⟨values, last, hparsed, -⟩ := hread henough
      rw [hparsed] at hinconsistent
      cases hinconsistent

/-- Six octets hold the clock twice from the sixth bit on, and the reserved run once more. -/
theorem category_is_read_iff_bits_remain_thrice :
    let start : BitCursor := ⟨[1, 2, 3, 4, 5, 6], 5, by decide⟩
    let third : BitCursor := ⟨[1, 2, 3, 4, 5, 6], 43, by decide⟩
    (∃ values last, skewedClock.parse start = (.ok ⟨"clock", values⟩, last) ∧
        last.position = 24) ∧
      ((skewedClock.parseTimes 9 start).1.takeWhile Except.isOk).length = 2 ∧
      ∃ last, skewedClock.parse third = (.error (.outOfRange 46 16 48), last) ∧
        last.position = 46 := by
  intro start third
  obtain ⟨hread, -, htimes, -⟩ := category_is_read_iff_bits_remain skewedClock start
  obtain ⟨-, hshort, -, -⟩ := category_is_read_iff_bits_remain skewedClock third
  obtain ⟨values, last, hparsed, -, hposition⟩ := hread (by decide)
  obtain ⟨earlier, field, later, stopped, hfields, hfits, hfield, herror, -, hstopped⟩ :=
    hshort (by decide)
  refine ⟨⟨values, last, hparsed, hposition⟩, (htimes 9).trans (by decide), ?_⟩
  -- five bits are left, which is enough for the run and not for the ticks behind it
  rcases earlier with _ | ⟨gap, _ | ⟨ticks, earlier⟩⟩
  · obtain ⟨rfl, -⟩ := List.cons.inj hfields
    exact absurd hfield (by decide)
  · obtain ⟨rfl, hrest⟩ := List.cons.inj hfields
    obtain ⟨rfl, -⟩ := List.cons.inj hrest
    exact ⟨stopped, herror, hstopped⟩
  · obtain ⟨rfl, hrest⟩ := List.cons.inj hfields
    obtain ⟨-, hnil⟩ := List.cons.inj hrest
    simp at hnil

end GroundLink.Telemetry
