import GroundLink.Proofs.Telemetry.Decoding

/-! # Encoding a whole beacon

The values of all fields, written one behind the other, are a payload of the layout: every field
stands at its place, and what is written later leaves it as it is. So the values come back when the
payload is decoded.
-/

namespace GroundLink.Telemetry

namespace BitWriter

variable (writer : BitWriter)

/-- A value comes behind all bits written before. -/
theorem testBit_content_write (value count position : Nat) :
    (writer.write value count).content.testBit position =
      if position < writer.bitLength then writer.content.testBit position
      else decide (position - writer.bitLength < count) &&
        value.testBit (position - writer.bitLength) := by
  have hcontent : (writer.write value count).content =
      2 ^ writer.bitLength * (value % 2 ^ count) + writer.content :=
    (writer.content_write value count).trans (Nat.add_comm _ _)
  have hbounded : writer.content < 2 ^ writer.bitLength := writer.bounded
  rw [hcontent, Nat.testBit_two_pow_mul_add _ hbounded, Nat.testBit_mod_two_pow]

theorem bit_bytes (position : Nat) :
    writer.bytes.bit position = writer.content.testBit position :=
  (Bytes.testBit_toNatLE writer.bytes position).symm

end BitWriter

theorem FieldSpec.encode_of_lt {spec : FieldSpec} (hvalid : spec.Valid) {value : Nat}
    (hvalue : value < 2 ^ spec.bits) (writer : BitWriter) :
    spec.encode writer value = .ok (writer.write (spec.reorder value) spec.bits) := by
  have hmask : ¬ value > Bits.mask spec.bits := by
    rw [Bits.mask_eq hvalid.2.1, Nat.pow_eq]
    omega
  rw [encode, validate_of_valid hvalid]
  exact if_neg hmask

/-- Appends values of fields, one behind the other. -/
def encodeFields : List (FieldSpec × Nat) → BitWriter → Except (Failed BitWriter) BitWriter
  | [], writer => .ok writer
  | (spec, value) :: rest, writer => do
      let next ← spec.encode writer value
      encodeFields rest next

/-- What a writer holds after values have been written at places: the bits from before, and every
value at its place. -/
structure Wrote (assigned : Place → Nat) (places : List Place) (writer last : BitWriter) :
    Prop where
  bitLength_eq : last.bitLength = writer.bitLength + widthOf (places.map Place.field)
  before : ∀ position < writer.bitLength,
    last.content.testBit position = writer.content.testBit position
  at_place : ∀ place ∈ places, ∀ weight < place.field.bits,
    last.content.testBit (place.offset + weight) =
      (place.field.reorder (assigned place)).testBit weight

variable {assigned : Place → Nat} {places : List Place}

/-- Values that fit are written behind each other, each at its place. -/
theorem exists_wrote (hvalid : ∀ place ∈ places, place.field.Valid)
    (hfits : ∀ place ∈ places, assigned place < 2 ^ place.field.bits) {writer : BitWriter}
    (hplaces : Adjoin writer.bitLength places) :
    ∃ last, encodeFields (places.map fun place => (place.field, assigned place)) writer =
      .ok last ∧ Wrote assigned places writer last := by
  induction places generalizing writer with
  | nil => exact ⟨writer, rfl, rfl, fun _ _ => rfl, fun _ h => nomatch h⟩
  | cons place rest ih =>
      obtain ⟨hplace, hrest⟩ := hplaces
      obtain ⟨hplaceValid, hrestValid⟩ := List.forall_mem_cons.mp hvalid
      obtain ⟨hplaceFits, hrestFits⟩ := List.forall_mem_cons.mp hfits
      have hnext : Adjoin (writer.write (place.field.reorder (assigned place))
          place.field.bits).bitLength rest := by
        rwa [BitWriter.bitLength_write]
      obtain ⟨last, hlast, hlength, hbefore, hat⟩ := ih hrestValid hrestFits hnext
      rw [BitWriter.bitLength_write] at hlength hbefore
      refine ⟨last, ?_, ?_, ?_, ?_⟩
      · rw [List.map_cons, encodeFields, FieldSpec.encode_of_lt hplaceValid hplaceFits]
        exact hlast
      · rw [hlength, List.map_cons, widthOf_cons, Nat.add_assoc]
      · intro position hposition
        rw [hbefore position (by omega), BitWriter.testBit_content_write, if_pos hposition]
      · intro other hother weight hweight
        rcases List.mem_cons.mp hother with rfl | hother
        · -- the value just written, behind which the others come
          have hpast : ¬ other.offset + weight < writer.bitLength := by omega
          have hindex : other.offset + weight - writer.bitLength = weight := by omega
          rw [hbefore _ (by omega), BitWriter.testBit_content_write, if_neg hpast, hindex,
            decide_eq_true hweight, Bool.true_and]
        · exact hat other hother weight hweight

/-- What has been written at a place is found there. -/
theorem Wrote.valueAt {writer last : BitWriter} (h : Wrote assigned places writer last)
    {place : Place} (hmem : place ∈ places) (hvalid : place.field.Valid)
    (hfits : assigned place < 2 ^ place.field.bits) :
    place.field.valueAt place.offset last.bytes = assigned place := by
  apply Nat.eq_of_testBit_eq
  intro weight
  rw [FieldSpec.testBit_valueAt]
  by_cases hweight : weight < place.field.bits
  · have hsource := FieldSpec.source_lt hvalid hweight
    rw [decide_eq_true hweight, Bool.true_and, last.bit_bytes,
      h.at_place place hmem _ hsource, FieldSpec.testBit_reorder hvalid hfits,
      decide_eq_true hsource, Bool.true_and, FieldSpec.source_source hvalid hweight]
  · have hlarge : assigned place < 2 ^ weight :=
      Nat.lt_of_lt_of_le hfits (Nat.pow_le_pow_right Nat.zero_lt_two (Nat.not_lt.mp hweight))
    rw [decide_eq_false hweight, Bool.false_and, Nat.testBit_lt_two_pow hlarge]

/-- Whatever is assigned to the fields of a beacon, reserved ones included, can be encoded in the
order of the layout as long as it fits; the payload takes as many octets as it needs, and decoding
it gives every value back that is not reserved. The bits that fill up the last octet are counted as
left over. -/
theorem encoded_beacon_decodes_to_its_values (decoder : BeaconDecoder) (assigned : Place → Nat)
    (hfits : ∀ place ∈ decoder.places, assigned place < 2 ^ place.field.bits) :
    ∃ writer decoded,
      encodeFields (decoder.places.map fun place => (place.field, assigned place)) .empty =
        .ok writer ∧
      writer.bytes.length = (decoder.width + 7) / 8 ∧
      decoder.decode writer.bytes = .ok decoded ∧
      (∀ place ∈ decoder.places, place.field.isReserved = false →
        decoded.snapshot.value? place.category place.field.name = some (assigned place)) ∧
      decoded.trailing =
        if decoder.width % 8 = 0 then none else some (8 - decoder.width % 8) := by
  obtain ⟨writer, hwriter, hwrote⟩ := exists_wrote (fun _ => decoder.valid_of_mem_places) hfits
    (show Adjoin BitWriter.empty.bitLength decoder.places from decoder.adjoin_places)
  have hlength : writer.bitLength = decoder.width := by
    rw [hwrote.bitLength_eq, decoder.widthOf_places]
    exact Nat.zero_add _
  have hbytes : writer.bytes.length = (decoder.width + 7) / 8 := by
    rw [writer.length_bytes, hlength]
  have hcomplete : decoder.width ≤ 8 * writer.bytes.length := by omega
  refine ⟨writer, _, hwriter, hbytes, BeaconDecoder.decode_of_complete hcomplete, ?_, ?_⟩
  · intro place hplace hreserved
    rw [decoder.value?_snapshotAt_eq_some_iff]
    refine ⟨place, hplace, Place.isVisible_iff.mpr hreserved, rfl, rfl, ?_⟩
    exact hwrote.valueAt hplace (decoder.valid_of_mem_places hplace) (hfits place hplace)
  · have hwhole : 8 * writer.bytes.length = decoder.width ↔ decoder.width % 8 = 0 := by omega
    have hleft : decoder.width % 8 ≠ 0 →
        8 * writer.bytes.length - decoder.width = 8 - decoder.width % 8 := by omega
    dsimp only
    simp only [hwhole]
    split
    next => rfl
    next hpartial => rw [hleft hpartial]

/-- All bits are set in the reserved runs. -/
theorem encoded_beacon_decodes_to_its_values_skewed :
    let assigned : Place → Nat := fun place =>
      if place.field.isReserved then 2 ^ place.field.bits - 1
      else if place.field.name = "ticks" then 0xABCD else 2
    (∀ place ∈ skewedBeacon.places, assigned place < 2 ^ place.field.bits) ∧
      ∃ writer decoded,
        encodeFields (skewedBeacon.places.map fun place => (place.field, assigned place)) .empty =
          .ok writer ∧
        writer.bytes.length = 4 ∧ skewedBeacon.decode writer.bytes = .ok decoded ∧
        decoded.snapshot.value? "clock" "ticks" = some 0xABCD ∧
        decoded.snapshot.value? "state" "mode" = some 2 ∧ decoded.trailing = some 2 := by
  intro assigned
  have hfits : ∀ place ∈ skewedBeacon.places, assigned place < 2 ^ place.field.bits := by decide
  obtain ⟨writer, decoded, hwriter, hlength, hdecoded, hvalues, htrailing⟩ :=
    encoded_beacon_decodes_to_its_values skewedBeacon assigned hfits
  refine ⟨hfits, writer, decoded, hwriter, hlength, hdecoded, ?_, ?_, htrailing.trans (by decide)⟩
  · exact hvalues ⟨"clock", ⟨"ticks", 16, .hex, .big⟩, 3⟩ (by decide) rfl
  · exact hvalues ⟨"state", ⟨"mode", 2, .decimal, .little⟩, 19⟩ (by decide) rfl

end GroundLink.Telemetry
