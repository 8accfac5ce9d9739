import GroundLink.Proofs.Telemetry.Decoding

/-! # What a snapshot depends on

Two payloads give the same snapshot exactly if they agree on the bits of all fields that are not
reserved. In one direction no value looks past the bits of its field; in the other every bit of the
field is a bit of the value, whatever the width and the byte order.
-/

namespace GroundLink.Telemetry

variable {first second : Bytes}

/-- Values are the same exactly if the bits of the field are. -/
theorem FieldSpec.valueAt_eq_iff {spec : FieldSpec} (hvalid : spec.Valid) {offset : Nat} :
    spec.valueAt offset first = spec.valueAt offset second ↔
      ∀ index < spec.bits, first.bit (offset + index) = second.bit (offset + index) := by
  constructor
  · intro hvalue index hindex
    have hbit := congrArg (fun value => value.testBit (spec.source index)) hvalue
    simpa [testBit_valueAt, source_lt hvalid hindex, source_source hvalid hindex] using hbit
  · intro hbits
    apply Nat.eq_of_testBit_eq
    intro weight
    rw [testBit_valueAt, testBit_valueAt]
    by_cases h : weight < spec.bits
    · rw [hbits _ (source_lt hvalid h)]
    · rw [decide_eq_false h, Bool.false_and, Bool.false_and]

theorem Place.value_eq_iff {place : Place} (hvalid : place.field.Valid) :
    place.value first = place.value second ↔
      ∀ position, place.Holds position → first.bit position = second.bit position := by
  have hraw : place.value first = place.value second ↔
      place.field.valueAt place.offset first = place.field.valueAt place.offset second := by
    simp only [value, FieldValue.mk.injEq, and_true]
  rw [hraw, FieldSpec.valueAt_eq_iff hvalid]
  constructor
  · rintro hbits position ⟨hstart, hend⟩
    have hbit := hbits (position - place.offset) (by omega)
    rwa [Nat.add_sub_cancel' hstart] at hbit
  · intro hbits index hindex
    exact hbits _ ⟨Nat.le_add_right _ _, Nat.add_lt_add_left hindex _⟩

theorem namedValues_eq_iff {places : List Place} :
    namedValues first places = namedValues second places ↔
      ∀ place ∈ places, place.isVisible → place.value first = place.value second := by
  simp only [namedValues, List.map_inj_left, List.mem_filter, Prod.mk.injEq, true_and, and_imp]

namespace BeaconDecoder

variable (decoder : BeaconDecoder)

/-- The positions that fields cover, reserved ones left out. -/
def Covers (position : Nat) : Prop :=
  ∃ place ∈ decoder.places, place.field.isReserved = false ∧ place.Holds position

/-- The positions that reserved fields take. -/
def Reserves (position : Nat) : Prop :=
  ∃ place ∈ decoder.places, place.field.isReserved = true ∧ place.Holds position

variable {decoder}

theorem lt_width_of_covers {position : Nat} (h : decoder.Covers position) :
    position < decoder.width := by
  obtain ⟨place, hplace, -, -, hend⟩ := h
  exact Nat.lt_of_lt_of_le hend (decoder.end_le_width hplace)

theorem not_covers_of_reserves {position : Nat} (h : decoder.Reserves position) :
    ¬ decoder.Covers position := by
  rintro ⟨place, hplace, hvisible, hholds⟩
  obtain ⟨other, hother, hreserved, hotherHolds⟩ := h
  obtain rfl := decoder.adjoin_places.eq_of_holds hplace hother hholds hotherHolds
  rw [hvisible] at hreserved
  exact nomatch hreserved

theorem snapshotAt_eq_iff_values :
    decoder.snapshotAt first = decoder.snapshotAt second ↔
      ∀ place ∈ decoder.places, place.isVisible → place.value first = place.value second := by
  simp only [snapshotAt, Snapshot.mk.injEq, List.map_inj_left, categoryAt, Category.mk.injEq,
    true_and, namedValues_eq_iff, places, List.mem_flatMap]
  constructor
  · rintro hvalues place ⟨group, hgroup, hmem⟩ hvisible
    exact hvalues group hgroup place hmem hvisible
  · intro hvalues group hgroup place hmem hvisible
    exact hvalues place ⟨group, hgroup, hmem⟩ hvisible

theorem snapshotAt_eq_iff :
    decoder.snapshotAt first = decoder.snapshotAt second ↔
      ∀ position, decoder.Covers position → first.bit position = second.bit position := by
  rw [snapshotAt_eq_iff_values]
  constructor
  · rintro hvalues position ⟨place, hplace, hvisible, hholds⟩
    have hvalue := hvalues place hplace (Place.isVisible_iff.mpr hvisible)
    exact (Place.value_eq_iff (decoder.valid_of_mem_places hplace)).mp hvalue position hholds
  · intro hbits place hplace hvisible
    rw [Place.value_eq_iff (decoder.valid_of_mem_places hplace)]
    exact fun position hholds =>
      hbits position ⟨place, hplace, Place.isVisible_iff.mp hvisible, hholds⟩

end BeaconDecoder

/-- Payloads that can be decoded, of whatever lengths, have the same snapshot exactly if they agree
on all bits that visible fields cover. So bits in reserved runs and behind the last category never
make a difference, and one changed bit of a field always does. -/
theorem snapshot_depends_on_covered_bits {decoder : BeaconDecoder} {first second : Bytes}
    {decodedFirst decodedSecond : DecodedBeacon} (hfirst : decoder.decode first = .ok decodedFirst)
    (hsecond : decoder.decode second = .ok decodedSecond) :
    (decodedFirst.snapshot = decodedSecond.snapshot ↔
        ∀ position, decoder.Covers position → first.bit position = second.bit position) ∧
      ((∀ position, first.bit position ≠ second.bit position →
          decoder.Reserves position ∨ decoder.width ≤ position) →
        decodedFirst.snapshot = decodedSecond.snapshot) ∧
      ∀ position, decoder.Covers position → first.bit position ≠ second.bit position →
        decodedFirst.snapshot ≠ decodedSecond.snapshot := by
  have hiff : decodedFirst.snapshot = decodedSecond.snapshot ↔
      ∀ position, decoder.Covers position → first.bit position = second.bit position := by
    rw [BeaconDecoder.snapshot_of_decode hfirst, BeaconDecoder.snapshot_of_decode hsecond,
      BeaconDecoder.snapshotAt_eq_iff]
  refine ⟨hiff, ?_, ?_⟩
  · intro hdiffer
    rw [hiff]
    intro position hcovers
    refine Decidable.not_not.mp fun hne => ?_
    rcases hdiffer position hne with hreserves | hbehind
    · exact BeaconDecoder.not_covers_of_reserves hreserves hcovers
    · exact Nat.not_lt.mpr hbehind (BeaconDecoder.lt_width_of_covers hcovers)
  · intro position hcovers hne hsnapshot
    exact hne (hiff.mp hsnapshot position hcovers)

/-- Two payloads of different lengths differ in all bits of the first reserved run, in some of the
other and behind the last category; in a third one the last bit of a field has changed. -/
theorem snapshot_depends_on_covered_bits_skewed :
    ∃ decoded filled changed,
      skewedBeacon.decode [0xA1, 0x11, 0xF8, 0] = .ok decoded ∧
        skewedBeacon.decode [0xA6, 0x11, 0x18, 0xFF, 9] = .ok filled ∧
        skewedBeacon.decode [0xA1, 0x11, 0xFC, 0] = .ok changed ∧
        decoded.snapshot = filled.snapshot ∧ decoded.snapshot ≠ changed.snapshot := by
  obtain ⟨decoded, hdecoded⟩ := BeaconDecoder.exists_decode_iff.mpr
    (show skewedBeacon.width ≤ 8 * List.length [0xA1, 0x11, 0xF8, 0] by decide)
  obtain ⟨filled, hfilled⟩ := BeaconDecoder.exists_decode_iff.mpr
    (show skewedBeacon.width ≤ 8 * List.length [0xA6, 0x11, 0x18, 0xFF, 9] by decide)
  obtain ⟨changed, hchanged⟩ := BeaconDecoder.exists_decode_iff.mpr
    (show skewedBeacon.width ≤ 8 * List.length [0xA1, 0x11, 0xFC, 0] by decide)
  refine ⟨decoded, filled, changed, hdecoded, hfilled, hchanged, ?_, ?_⟩
  · refine (snapshot_depends_on_covered_bits hdecoded hfilled).2.1 ?_
    intro position hne
    by_cases hinside : position < 30
    · have hreserved : ∀ position < 30,
          Bytes.bit [0xA1, 0x11, 0xF8, 0] position ≠
            Bytes.bit [0xA6, 0x11, 0x18, 0xFF, 9] position →
          position < 3 ∨ 21 ≤ position := by decide
      rcases hreserved position hinside hne with hgap | hmode
      · exact .inl ⟨⟨"clock", ⟨"gap", 3, .reserved, .little⟩, 0⟩, by decide, rfl,
          Nat.zero_le _, hgap⟩
      · exact .inl ⟨⟨"state", ⟨"mode", 9, .reserved, .little⟩, 21⟩, by decide, rfl,
          hmode, hinside⟩
    · exact .inr (Nat.not_lt.mp hinside)
  · refine (snapshot_depends_on_covered_bits hdecoded hchanged).2.2 18 ?_ (by decide)
    exact ⟨⟨"clock", ⟨"ticks", 16, .hex, .big⟩, 3⟩, by decide, rfl, by decide, by decide⟩

end GroundLink.Telemetry
