import GroundLink.Proofs.Telemetry.Places

/-! # Decoding a beacon

Decoding reads one field after the other and checks on its way that it has gone as far as the layout
says. For every layout that a decoder is made of these checks never fail: a payload is decoded if it
is long enough, and what comes out are the values at the places of the layout. A payload that is too
short ends inside a category, and this is all that is ever reported.
-/

namespace GroundLink.Telemetry

/-- Where names are distinct, nothing stands under a name before its only bearer. -/
theorem ne_of_nodup_map {α : Type} {name : α → String} {before after : List α} {bearer : α}
    (h : ((before ++ bearer :: after).map name).Nodup) :
    ∀ other ∈ before, name other ≠ name bearer := by
  intro other hother
  rw [List.map_append, List.nodup_append] at h
  exact h.2.2 (name other) (List.mem_map_of_mem hother) (name bearer) List.mem_cons_self

theorem lookup_eq_some_iff_mem {α : Type} {entries : List (String × α)}
    (hnodup : (entries.map Prod.fst).Nodup) {name : String} {value : α} :
    entries.lookup name = some value ↔ (name, value) ∈ entries := by
  rw [List.lookup_eq_some_iff]
  constructor
  · rintro ⟨before, after, rfl, -⟩
    exact List.mem_append_cons_self
  · intro hmem
    obtain ⟨before, after, rfl⟩ := List.append_of_mem hmem
    exact ⟨before, after, rfl, fun entry hentry =>
      bne_iff_ne.mpr (ne_of_nodup_map hnodup entry hentry).symm⟩

namespace Snapshot

theorem category?_eq_some_iff {snapshot : Snapshot}
    (hnodup : (snapshot.categories.map Category.name).Nodup) {name : String} {category : Category} :
    snapshot.category? name = some category ↔
      category ∈ snapshot.categories ∧ category.name = name := by
  rw [category?, List.find?_eq_some_iff_append]
  constructor
  · rintro ⟨hname, before, after, hcategories, -⟩
    rw [hcategories]
    exact ⟨List.mem_append_cons_self, beq_iff_eq.mp hname⟩
  · rintro ⟨hmem, rfl⟩
    obtain ⟨before, after, hcategories⟩ := List.append_of_mem hmem
    refine ⟨beq_self_eq_true _, before, after, hcategories, ?_⟩
    rw [hcategories] at hnodup
    intro other hother
    rw [Bool.not_eq_true', beq_eq_false_iff_ne]
    exact ne_of_nodup_map hnodup other hother

theorem value?_eq_some_iff {snapshot : Snapshot} {category field : String} {raw : Nat} :
    snapshot.value? category field = some raw ↔
      ∃ found value, snapshot.category? category = some found ∧ found.get? field = some value ∧
        value.raw = raw := by
  simp only [value?, bind, Option.bind_eq_some_iff, pure, Option.some.injEq]
  constructor
  · rintro ⟨found, hfound, value, hvalue, hraw⟩
    exact ⟨found, value, hfound, hvalue, hraw⟩
  · rintro ⟨found, value, hfound, hvalue, hraw⟩
    exact ⟨found, hfound, value, hvalue, hraw⟩

end Snapshot

theorem mem_namedValues_iff {payload : Bytes} {places : List Place} {name : String}
    {value : FieldValue} :
    (name, value) ∈ namedValues payload places ↔
      ∃ place ∈ places, place.isVisible ∧ place.field.name = name ∧
        place.value payload = value := by
  rw [namedValues, List.mem_map]
  constructor
  · rintro ⟨place, hplace, heq⟩
    obtain ⟨hmem, hvisible⟩ := List.mem_filter.mp hplace
    obtain ⟨hname, hvalue⟩ := Prod.mk.inj heq
    exact ⟨place, hmem, hvisible, hname, hvalue⟩
  · rintro ⟨place, hmem, hvisible, rfl, rfl⟩
    exact ⟨place, List.mem_filter.mpr ⟨hmem, hvisible⟩, rfl⟩

/-- A category gives the values at its visible places. -/
theorem get?_categoryAt_eq_some_iff {payload : Bytes} {category : CategorySpec} {start : Nat}
    {field : String} {value : FieldValue} :
    (categoryAt payload (category.name, fieldPlaces category.name start category.fields)).get?
        field = some value ↔
      ∃ place ∈ fieldPlaces category.name start category.fields, place.isVisible ∧
        place.field.name = field ∧ place.value payload = value := by
  have hdistinct : ((namedValues payload
      (fieldPlaces category.name start category.fields)).map Prod.fst).Nodup := by
    rw [map_fst_namedValues]
    exact category.distinct
  rw [categoryAt, Category.get?, lookup_eq_some_iff_mem hdistinct, mem_namedValues_iff]

namespace BeaconDecoder

variable (decoder : BeaconDecoder)

theorem map_name_snapshotAt (payload : Bytes) :
    (decoder.snapshotAt payload).categories.map Category.name =
      decoder.categories.map CategorySpec.name := by
  rw [snapshotAt, List.map_map]
  exact map_categoryPlaces (fun _ _ => rfl) 0 decoder.categories

/-- The values that can be asked for by name are those at the visible places. -/
theorem value?_snapshotAt_eq_some_iff {payload : Bytes} {category field : String} {raw : Nat} :
    (decoder.snapshotAt payload).value? category field = some raw ↔
      ∃ place ∈ decoder.places, place.isVisible ∧ place.category = category ∧
        place.field.name = field ∧ place.field.valueAt place.offset payload = raw := by
  have hcategories : ((decoder.snapshotAt payload).categories.map Category.name).Nodup := by
    rw [map_name_snapshotAt]
    exact decoder.distinct
  rw [Snapshot.value?_eq_some_iff]
  constructor
  · rintro ⟨found, value, hfound, hvalue, rfl⟩
    obtain ⟨hmem, rfl⟩ := (Snapshot.category?_eq_some_iff hcategories).mp hfound
    obtain ⟨⟨name, places⟩, hgroup, rfl⟩ := List.mem_map.mp hmem
    obtain ⟨before, spec, after, -, rfl, rfl⟩ := mem_categoryPlaces_iff.mp hgroup
    obtain ⟨place, hplace, hvisible, hname, rfl⟩ := get?_categoryAt_eq_some_iff.mp hvalue
    obtain ⟨-, -, -, hcategory, -⟩ := mem_fieldPlaces_iff.mp hplace
    exact ⟨place, List.mem_flatMap.mpr ⟨_, hgroup, hplace⟩, hvisible, hcategory, hname, rfl⟩
  · rintro ⟨place, hmem, hvisible, rfl, rfl, rfl⟩
    obtain ⟨⟨name, places⟩, hgroup, hplace⟩ := List.mem_flatMap.mp hmem
    obtain ⟨before, spec, after, -, rfl, rfl⟩ := mem_categoryPlaces_iff.mp hgroup
    obtain ⟨-, -, -, hcategory, -⟩ := mem_fieldPlaces_iff.mp hplace
    have hfound := (Snapshot.category?_eq_some_iff hcategories).mpr
      ⟨List.mem_map_of_mem hgroup, hcategory.symm⟩
    exact ⟨_, place.value payload, hfound,
      get?_categoryAt_eq_some_iff.mpr ⟨place, hplace, hvisible, rfl, rfl⟩, rfl⟩

end BeaconDecoder

/-- Fields that can be read are read from their places. -/
theorem decodeFields_of_skip (category : String) {fields : List FieldSpec}
    (hvalid : ∀ spec ∈ fields, spec.Valid) {cursor last : BitCursor}
    (h : cursor.skip (widthOf fields) = .ok last) :
    decodeFields fields cursor =
      (.ok (namedValues cursor.bytes (fieldPlaces category cursor.position fields)), last) := by
  induction fields generalizing cursor with
  | nil =>
      obtain rfl := Except.ok.inj (cursor.skip_zero.symm.trans h)
      rfl
  | cons spec rest ih =>
      obtain ⟨hspec, hrest⟩ := List.forall_mem_cons.mp hvalid
      obtain ⟨next, hnext, hlast⟩ := BitCursor.exists_skip_of_skip_add h
      obtain ⟨hbytes, hposition⟩ := BitCursor.position_skip hnext
      rw [decodeFields, FieldSpec.decode_of_skip hspec hnext]
      dsimp only
      rw [ih hrest hlast, fieldPlaces, namedValues_cons, hbytes, hposition]
      rfl

/-- The way through a category is as long as its width, so that the check behind it never fails. -/
theorem CategorySpec.parse_of_skip (category : CategorySpec) {cursor last : BitCursor}
    (h : cursor.skip category.width = .ok last) :
    category.parse cursor =
      (.ok ⟨category.name, namedValues cursor.bytes
        (fieldPlaces category.name cursor.position category.fields)⟩, last) := by
  have hconsumed : last.position - cursor.position = category.width := by
    rw [(BitCursor.position_skip h).2]
    omega
  rw [← category.spans] at h
  rw [parse, decodeFields_of_skip category.name category.readable h]
  simp only [hconsumed, if_true]

/-- Categories for which there are enough bits are read from their places. -/
theorem decodeCategories_of_skip {categories : List CategorySpec} {cursor last : BitCursor}
    (h : cursor.skip (totalWidth categories) = .ok last) :
    decodeCategories categories cursor =
      .ok ((categoryPlaces cursor.position categories).map (categoryAt cursor.bytes), last) := by
  induction categories generalizing cursor with
  | nil =>
      obtain rfl := Except.ok.inj (cursor.skip_zero.symm.trans h)
      rfl
  | cons category rest ih =>
      obtain ⟨next, hnext, hlast⟩ := BitCursor.exists_skip_of_skip_add h
      obtain ⟨hbytes, hposition⟩ := BitCursor.position_skip hnext
      have henough : ¬ cursor.remaining < category.width := by
        rw [BitCursor.remaining_of_skip hnext]
        omega
      rw [decodeCategories, if_neg henough, category.parse_of_skip hnext]
      dsimp only
      rw [ih hlast, hbytes, hposition]
      rfl

/-- Where there are too few bits for all categories, the first that does not fit is reported, and
where it ends. -/
theorem decodeCategories_of_short {categories : List CategorySpec} {cursor : BitCursor}
    (h : cursor.remaining < totalWidth categories) :
    ∃ before category after, categories = before ++ category :: after ∧
      totalWidth before ≤ cursor.remaining ∧
      cursor.remaining < totalWidth before + category.width ∧
      decodeCategories categories cursor =
        .error (.truncated category.name cursor.total
          (cursor.position + (totalWidth before + category.width))) := by
  induction categories generalizing cursor with
  | nil => exact absurd h (Nat.not_lt_zero _)
  | cons first rest ih =>
      by_cases hfirst : cursor.remaining < first.width
      · refine ⟨[], first, rest, rfl, Nat.zero_le _, by simpa using hfirst, ?_⟩
        rw [decodeCategories, if_pos hfirst, totalWidth_nil, Nat.zero_add]
      · obtain ⟨next, hnext⟩ := BitCursor.exists_skip (Nat.not_lt.mp hfirst)
        have hremaining := BitCursor.remaining_of_skip hnext
        have hrest : next.remaining < totalWidth rest := by
          rw [totalWidth_cons] at h
          omega
        obtain ⟨before, category, after, rfl, hbefore, hcategory, herror⟩ := ih hrest
        refine ⟨first :: before, category, after, rfl, ?_, ?_, ?_⟩
        · rw [totalWidth_cons]
          omega
        · rw [totalWidth_cons]
          omega
        · rw [decodeCategories, if_neg hfirst, first.parse_of_skip hnext]
          dsimp only
          rw [herror, BitCursor.total_of_skip hnext, (BitCursor.position_skip hnext).2,
            totalWidth_cons]
          simp only [bind, Except.bind, Nat.add_assoc]

namespace BeaconDecoder

variable {decoder : BeaconDecoder} {payload : Bytes}

/-- A complete payload is decoded to what the places say. -/
theorem decode_of_complete (h : decoder.width ≤ 8 * payload.length) :
    decoder.decode payload =
      .ok ⟨decoder.snapshotAt payload,
        if 8 * payload.length = decoder.width then none
        else some (8 * payload.length - decoder.width)⟩ := by
  obtain ⟨last, hlast⟩ := (BitCursor.ofBytes payload).exists_skip h
  have hremaining : last.remaining = 8 * payload.length - decoder.width := by
    have hall : 8 * payload.length = decoder.width + last.remaining :=
      BitCursor.remaining_of_skip hlast
    omega
  have hnone : 8 * payload.length - decoder.width = 0 ↔ 8 * payload.length = decoder.width := by
    omega
  rw [decode, decodeCategories_of_skip hlast]
  simp only [bind, Except.bind, hremaining, hnone]
  rfl

theorem decode_of_short (h : 8 * payload.length < decoder.width) :
    ∃ before category after, decoder.categories = before ++ category :: after ∧
      totalWidth before ≤ 8 * payload.length ∧
      8 * payload.length < totalWidth before + category.width ∧
      decoder.decode payload =
        .error (.truncated category.name (8 * payload.length)
          (totalWidth before + category.width)) := by
  obtain ⟨before, category, after, hcategories, hbefore, hcategory, herror⟩ :=
    decodeCategories_of_short
      (show (BitCursor.ofBytes payload).remaining < totalWidth decoder.categories from h)
  refine ⟨before, category, after, hcategories, hbefore, hcategory, ?_⟩
  rw [decode, herror]
  simp only [bind, Except.bind, BitCursor.ofBytes, BitCursor.total, Nat.zero_add]

theorem exists_decode_iff :
    (∃ decoded, decoder.decode payload = .ok decoded) ↔ decoder.width ≤ 8 * payload.length := by
  refine ⟨?_, fun h => ⟨_, decode_of_complete h⟩⟩
  rintro ⟨decoded, hdecoded⟩
  refine Nat.not_lt.mp fun hshort => ?_
  obtain ⟨_, _, _, -, -, -, herror⟩ := decode_of_short hshort
  exact nomatch hdecoded.symm.trans herror

theorem snapshot_of_decode {decoded : DecodedBeacon} (h : decoder.decode payload = .ok decoded) :
    decoded.snapshot = decoder.snapshotAt payload := by
  rw [decode_of_complete (exists_decode_iff.mp ⟨decoded, h⟩)] at h
  exact congrArg DecodedBeacon.snapshot (Except.ok.inj h).symm

/-- What a decoded payload says, told from the layout and the bits of the payload. -/
structure Shows (decoder : BeaconDecoder) (payload : Bytes) (decoded : DecodedBeacon) : Prop where
  /-- The categories are listed in the order of the layout, each with its fields in order, but for
  the reserved ones. -/
  listed :
    (decoded.snapshot.categories.map fun category =>
        (category.name, category.fields.map fun entry =>
          (entry.1, entry.2.bits, entry.2.presentation))) =
      decoder.categories.map fun category =>
        (category.name, (category.fields.filter fun spec => !spec.isReserved).map fun spec =>
          (spec.name, spec.bits, spec.presentation))
  /-- A field has the value in its bits, which lie behind all earlier categories and all earlier
  fields of its own one. -/
  value_eq : ∀ before category after earlier field later,
    decoder.categories = before ++ category :: after →
    category.fields = earlier ++ field :: later → field.isReserved = false →
    decoded.snapshot.value? category.name field.name =
      some (field.valueAt (totalWidth before + widthOf earlier) payload)
  /-- Nothing else has a value. -/
  value_none : ∀ category field,
    (∀ spec ∈ decoder.categories, spec.name = category →
      ∀ found ∈ spec.fields, found.isReserved = false → found.name ≠ field) →
    decoded.snapshot.value? category field = none
  trailing_eq : decoded.trailing =
    if 8 * payload.length = decoder.width then none
    else some (8 * payload.length - decoder.width)

theorem shows_of_decode {decoded : DecodedBeacon} (h : decoder.decode payload = .ok decoded) :
    decoder.Shows payload decoded := by
  have hcomplete := exists_decode_iff.mp ⟨decoded, h⟩
  rw [decode_of_complete hcomplete] at h
  cases h
  refine ⟨?_, ?_, ?_, rfl⟩
  · dsimp only
    rw [snapshotAt, List.map_map]
    exact map_categoryPlaces (fun category start =>
      congrArg (category.name, ·) (map_namedValues (fun _ => rfl) _ _ _)) 0 decoder.categories
  · intro before category after earlier field later hcategories hfields hreserved
    rw [value?_snapshotAt_eq_some_iff]
    have hplace : ⟨category.name, field, totalWidth before + widthOf earlier⟩ ∈ decoder.places :=
      decoder.mem_places_iff.mpr
        ⟨before, category, after, earlier, later, hcategories, hfields, rfl, rfl⟩
    exact ⟨_, hplace, Place.isVisible_iff.mpr hreserved, rfl, rfl, rfl⟩
  · intro category field hother
    rw [Option.eq_none_iff_forall_ne_some]
    intro raw hraw
    obtain ⟨place, hplace, hvisible, rfl, rfl, -⟩ :=
      decoder.value?_snapshotAt_eq_some_iff.mp hraw
    obtain ⟨spec, hspec, hname, hfield⟩ := decoder.exists_category_of_mem_places hplace
    exact hother spec hspec hname.symm place.field hfield (Place.isVisible_iff.mp hvisible) rfl

end BeaconDecoder

/-- A payload is decoded exactly if it has the bits of the layout. Then its snapshot has the names
of the layout and the values in the bits of its fields, wherever they lie, and whatever is left over
is counted; otherwise the first category that ends behind the payload is reported, and nothing
else. -/
theorem beacon_is_read_from_places (decoder : BeaconDecoder) (payload : Bytes) :
    ((∃ decoded, decoder.decode payload = .ok decoded) ↔ decoder.width ≤ 8 * payload.length) ∧
      (∀ decoded, decoder.decode payload = .ok decoded → decoder.Shows payload decoded) ∧
      (8 * payload.length < decoder.width →
        ∃ before category after, decoder.categories = before ++ category :: after ∧
          totalWidth before ≤ 8 * payload.length ∧
          8 * payload.length < totalWidth before + category.width ∧
          decoder.decode payload =
            .error (.truncated category.name (8 * payload.length)
              (totalWidth before + category.width))) :=
  ⟨BeaconDecoder.exists_decode_iff, fun _ => BeaconDecoder.shows_of_decode,
    BeaconDecoder.decode_of_short⟩

/-- The payload has two bits too many, or ends inside the second category. -/
theorem beacon_is_read_from_places_skewed :
    (∃ decoded, skewedBeacon.decode [0xA1, 0x11, 0xF8, 0] = .ok decoded ∧
      decoded.snapshot.value? "clock" "ticks" = some 0x3402 ∧
      decoded.snapshot.value? "clock" "gap" = none ∧
      decoded.snapshot.value? "state" "mode" = some 3 ∧ decoded.trailing = some 2) ∧
      skewedBeacon.decode [0xA1, 0x11, 0xF8] = .error (.truncated "state" 24 30) := by
  constructor
  · obtain ⟨hdecodes, hshows, -⟩ := beacon_is_read_from_places skewedBeacon [0xA1, 0x11, 0xF8, 0]
    obtain ⟨decoded, hdecoded⟩ := hdecodes.mpr (by decide)
    obtain ⟨-, hvalue, hnone, htrailing⟩ := hshows decoded hdecoded
    refine ⟨decoded, hdecoded, ?_, ?_, ?_, htrailing⟩
    · exact (hvalue [] skewedClock [skewedState] [⟨"gap", 3, .reserved, .little⟩]
        ⟨"ticks", 16, .hex, .big⟩ [] rfl rfl rfl).trans (congrArg some (by decide))
    · exact hnone "clock" "gap" (by decide)
    · exact (hvalue [skewedClock] skewedState [] [] ⟨"mode", 2, .decimal, .little⟩
        [⟨"mode", 9, .reserved, .little⟩] rfl rfl rfl).trans (congrArg some (by decide))
  · obtain ⟨-, -, hshort⟩ := beacon_is_read_from_places skewedBeacon [0xA1, 0x11, 0xF8]
    obtain ⟨before, category, after, hcategories, hbefore, hcategory, herror⟩ := hshort (by decide)
    rcases before with _ | ⟨first, _ | ⟨second, before⟩⟩
    · obtain ⟨rfl, rfl⟩ := List.cons.inj hcategories
      exact absurd hcategory (by decide)
    · obtain ⟨rfl, hrest⟩ := List.cons.inj hcategories
      obtain ⟨rfl, rfl⟩ := List.cons.inj hrest
      exact herror
    · simp [skewedBeacon] at hcategories

end GroundLink.Telemetry
