import GroundLink.Proofs.Telemetry.Dependence
import GroundLink.Proofs.Text.Numeral
import GroundLink.Proofs.Text.Pieces

/-! # Snapshots in writing

Snapshots are kept as text or by name, to be compared with later ones. Of two beacons with one
layout nothing gets lost on the way: every value is written with digits that spell it, and ends
where the layout goes on, whatever the names look like.
-/

namespace GroundLink.Telemetry

open Text

/-! ## Values -/

/-- The base to which values are written. -/
def Presentation.base : Presentation → Nat
  | .decimal => 10
  | .flags => 2
  | .hex | .reserved => 16

namespace FieldValue

variable {first second value : FieldValue}

/-- The text of a value without the letters in front that tell the base. -/
def digits (value : FieldValue) : List Char :=
  match value.presentation with
  | .decimal => value.text.toList
  | _ => value.text.toList.drop 2

/-- A value is spelled by its text. -/
theorem spelled_digits (value : FieldValue) :
    Numeral.spelled value.presentation.base value.digits = value.raw := by
  cases hpresentation : value.presentation with
  | decimal =>
      simp only [digits, text, hpresentation]
      exact Numeral.spelled_decimal value.raw
  | flags =>
      simp only [digits, text, hpresentation, String.toList_append]
      exact Numeral.spelled_padded (by decide) (by decide) _ _
  | hex | reserved =>
      simp only [digits, text, hpresentation, String.toList_append]
      exact Numeral.spelled_padded (by decide) (by decide) _ _

theorem isAlphanum_text (value : FieldValue) {c : Char} (h : c ∈ value.text.toList) :
    c.isAlphanum := by
  have hzeroB : ∀ c ∈ "0b".toList, c.isAlphanum := by simp
  have hzeroX : ∀ c ∈ "0x".toList, c.isAlphanum := by simp
  cases hpresentation : value.presentation with
  | decimal =>
      simp only [text, hpresentation] at h
      exact Numeral.isAlphanum_decimal h
  | flags =>
      simp only [text, hpresentation, String.toList_append] at h
      rcases List.mem_append.mp h with h | h
      · exact hzeroB c h
      · exact Numeral.isAlphanum_padded (by decide) (by decide) h
  | hex | reserved =>
      simp only [text, hpresentation, String.toList_append] at h
      rcases List.mem_append.mp h with h | h
      · exact hzeroX c h
      · exact Numeral.isAlphanum_padded (by decide) (by decide) h

/-- Two values of one field. -/
structure Alike (first second : FieldValue) : Prop where
  bits : first.bits = second.bits
  presentation : first.presentation = second.presentation

theorem Alike.eq_of_raw (halike : Alike first second) (h : first.raw = second.raw) :
    first = second := by
  obtain ⟨raw, bits, presentation⟩ := first
  obtain ⟨hbits, hpresentation⟩ := halike
  cases h
  cases hbits
  cases hpresentation
  rfl

theorem Alike.eq_of_text (halike : Alike first second) (h : first.text = second.text) :
    first = second := by
  apply halike.eq_of_raw
  have hdigits : first.digits = second.digits := by
    rw [digits, digits, halike.presentation, h]
  rw [← first.spelled_digits, ← second.spelled_digits, halike.presentation, hdigits]

/-- A number and a text are never the same, so it does not matter that large values are stored as
their texts. -/
theorem Alike.eq_of_stored (halike : Alike first second) (h : first.stored = second.stored) :
    first = second := by
  unfold stored at h
  split at h
  · split at h
    · exact halike.eq_of_raw (StoredValue.number.inj h)
    · cases h
  · split at h
    · cases h
    · exact halike.eq_of_text (StoredValue.text.inj h)

end FieldValue

theorem escape_of_isAlphanum {c : Char} (h : c.isAlphanum) : JsonText.escape c = [c] := by
  have hne : ∀ other : Char, other.isAlphanum = false → c ≠ other := by
    rintro other hother rfl
    rw [h] at hother
    cases hother
  have hcontrol : ¬ c.toNat < 0x20 := by
    have hall : ∀ code < 0x20, (Char.ofNat code).isAlphanum = false := by decide
    intro hlow
    exact hne _ (hall c.toNat hlow) (Char.ofNat_toNat c).symm
  simp only [JsonText.escape, hne '"' rfl, hne '\\' rfl, hne '\n' rfl, hne '\r' rfl, hne '\t' rfl,
    hne '\x08' rfl, hne '\x0c' rfl, hcontrol, if_false]

/-- A text of digits and letters is quoted as it is. -/
theorem toList_string_of_isAlphanum {text : String} (h : ∀ c ∈ text.toList, c.isAlphanum) :
    (JsonText.string text).toList = '"' :: (text.toList ++ ['"']) := by
  have hsame : text.toList.flatMap JsonText.escape = text.toList := by
    rw [List.flatMap_def, List.map_congr_left fun c hc => escape_of_isAlphanum (h c hc),
      ← List.flatMap_def, List.flatMap_singleton']
  rw [JsonText.string, String.toList_ofList, hsame, List.cons_append]

namespace FieldValue

variable {first second : FieldValue}

/-- What a stored value looks like: digits alone, or digits and letters between quotation marks. -/
theorem mem_serialized (value : FieldValue) {c : Char} (h : c ∈ value.stored.serialized.toList) :
    c.isAlphanum ∨ c = '"' := by
  unfold stored at h
  split at h
  · exact Or.inl (Numeral.isAlphanum_decimal h)
  · rw [StoredValue.serialized, toList_string_of_isAlphanum fun _ => value.isAlphanum_text] at h
    simp only [List.mem_cons, List.mem_append, List.not_mem_nil, or_false] at h
    rcases h with rfl | h | rfl
    · exact Or.inr rfl
    · exact Or.inl (value.isAlphanum_text h)
    · exact Or.inr rfl

theorem stored_eq_of_serialized (h : first.stored.serialized = second.stored.serialized) :
    first.stored = second.stored := by
  have hquote : ∀ n, '"' ∉ (Numeral.decimal n).toList := fun n hmem =>
    absurd (Numeral.isAlphanum_decimal hmem) (by decide)
  have hquoted : ∀ value : FieldValue, (JsonText.string value.text).toList =
      '"' :: (value.text.toList ++ ['"']) := fun value =>
    toList_string_of_isAlphanum fun _ => value.isAlphanum_text
  unfold stored at h ⊢
  split at h
  · split at h
    · have hspelled := congrArg (fun text => Numeral.spelled 10 text.toList) h
      simp only [StoredValue.serialized, Numeral.spelled_decimal] at hspelled
      simp [*]
    · have hmem := hquote first.raw
      simp only [StoredValue.serialized] at h
      rw [h, hquoted] at hmem
      exact absurd List.mem_cons_self hmem
  · split at h
    · have hmem := hquote second.raw
      simp only [StoredValue.serialized] at h
      rw [← h, hquoted] at hmem
      exact absurd List.mem_cons_self hmem
    · have hlists := congrArg String.toList h
      simp only [StoredValue.serialized, hquoted] at hlists
      have htexts := List.append_cancel_right (List.cons.inj hlists).2
      simp [*, String.toList_inj.mp htexts]

end FieldValue

/-! ## Snapshots -/

/-- What is stored under a name in a category. -/
def Snapshot.stored? (snapshot : Snapshot) (category field : String) : Option StoredValue :=
  (snapshot.stored.lookup category).bind fun fields => fields.lookup field

variable {first second : Bytes}

theorem Place.alike (place : Place) (first second : Bytes) :
    (place.value first).Alike (place.value second) :=
  ⟨rfl, rfl⟩

/-- A row made of the values at some places is a row of pieces, one for each visible place. -/
theorem map_namedValues_eq {α : Type} (payload : Bytes) (places : List Place)
    (piece : String × FieldValue → α) :
    (namedValues payload places).map piece = (places.filter Place.isVisible).map fun place =>
      piece (place.field.name, place.value payload) := by
  rw [namedValues, List.map_map]
  rfl

/-- The values at the visible places of a category are the same. -/
def SameValues (first second : Bytes) (group : String × List Place) : Prop :=
  ∀ place ∈ group.2.filter Place.isVisible, place.value first = place.value second

/-- The text of a category shows where each of its values ends, by a line break. -/
theorem text_categoryAt_inj {group : String × List Place} {restFirst restSecond : List Char}
    (h : (categoryAt first group).text.toList ++ restFirst =
      (categoryAt second group).text.toList ++ restSecond) :
    SameValues first second group ∧ restFirst = restSecond := by
  have hbreak : ∀ rest, Breaks Char.isAlphanum ("\n".toList ++ rest) :=
    fun rest => breaks_cons rfl rest
  have hline : ∀ place ∈ group.2.filter Place.isVisible, ∀ restFirst restSecond,
      ("    " ++ place.field.name ++ ": " ++ (place.value first).text ++ "\n").toList ++ restFirst =
        ("    " ++ place.field.name ++ ": " ++ (place.value second).text ++ "\n").toList ++
          restSecond →
      place.value first = place.value second ∧ restFirst = restSecond := by
    intro place _ restFirst restSecond hline
    simp only [String.toList_append, List.append_assoc, List.append_cancel_left_eq] at hline
    obtain ⟨htext, hrest⟩ := word_append_inj (fun _ => FieldValue.isAlphanum_text _)
      (fun _ => FieldValue.isAlphanum_text _) (hbreak restFirst) (hbreak restSecond) hline
    exact ⟨(place.alike first second).eq_of_text (String.toList_inj.mp htext),
      List.append_cancel_left hrest⟩
  apply flatMap_append_inj hline
  simpa only [Category.text, categoryAt, String.toList_append, String.toList_join,
    map_namedValues_eq, List.flatMap_map, List.append_assoc, List.append_cancel_left_eq] using h

/-- The stored form of a category shows where each of its values ends, by a comma or a brace. -/
theorem serialized_categoryAt_inj {group : String × List Place} {restFirst restSecond : List Char}
    (h : (categoryAt first group).serialized.toList ++ restFirst =
      (categoryAt second group).serialized.toList ++ restSecond) :
    SameValues first second group ∧ restFirst = restSecond := by
  have hword : ∀ (value : FieldValue) (c : Char), c ∈ value.stored.serialized.toList →
      (c != ',' && c != '\x7d') = true := by
    intro value c hc
    rcases value.mem_serialized hc with halphanum | rfl
    · have hcomma : c ≠ ',' := by
        rintro rfl
        exact absurd halphanum (by decide)
      have hbrace : c ≠ '\x7d' := by
        rintro rfl
        exact absurd halphanum (by decide)
      simp [hcomma, hbrace]
    · decide
  have hvalue : ∀ place ∈ group.2.filter Place.isVisible, ∀ restFirst restSecond,
      Breaks (fun c => c != ',' && c != '\x7d') restFirst →
      Breaks (fun c => c != ',' && c != '\x7d') restSecond →
      (place.value first).stored.serialized.toList ++ restFirst =
        (place.value second).stored.serialized.toList ++ restSecond →
      place.value first = place.value second ∧ restFirst = restSecond := by
    intro place _ restFirst restSecond hrestFirst hrestSecond hvalue
    obtain ⟨hserialized, hrest⟩ :=
      word_append_inj (hword _) (hword _) hrestFirst hrestSecond hvalue
    have hstored := FieldValue.stored_eq_of_serialized (String.toList_inj.mp hserialized)
    exact ⟨(place.alike first second).eq_of_stored hstored, hrest⟩
  simp only [Category.serialized, Category.stored, categoryAt, map_namedValues_eq,
    List.map_map] at h
  exact object_append_inj hvalue h

namespace BeaconDecoder

variable {decoder : BeaconDecoder}

/-- Categories are alike exactly if the snapshots are. -/
theorem snapshotAt_eq_of_sameValues
    (h : ∀ group ∈ categoryPlaces 0 decoder.categories, SameValues first second group) :
    decoder.snapshotAt first = decoder.snapshotAt second := by
  rw [snapshotAt_eq_iff_values]
  intro place hplace hvisible
  obtain ⟨group, hgroup, hmem⟩ := List.mem_flatMap.mp hplace
  exact h group hgroup place (List.mem_filter.mpr ⟨hmem, hvisible⟩)

theorem snapshotAt_eq_of_text
    (h : (decoder.snapshotAt first).text = (decoder.snapshotAt second).text) :
    decoder.snapshotAt first = decoder.snapshotAt second := by
  have hpieces : (categoryPlaces 0 decoder.categories).flatMap
        (fun group => (categoryAt first group).text.toList) ++ [] =
      (categoryPlaces 0 decoder.categories).flatMap
        (fun group => (categoryAt second group).text.toList) ++ [] := by
    have hlists := congrArg String.toList h
    simp only [Snapshot.text, snapshotAt, String.toList_join, List.map_map, List.flatMap_map]
      at hlists
    rw [List.append_nil, List.append_nil]
    exact hlists
  exact snapshotAt_eq_of_sameValues
    (flatMap_append_inj (fun _ _ _ _ => text_categoryAt_inj) hpieces).1

theorem snapshotAt_eq_of_serialized
    (h : (decoder.snapshotAt first).serialized = (decoder.snapshotAt second).serialized) :
    decoder.snapshotAt first = decoder.snapshotAt second := by
  have hobjects : (JsonText.object ((categoryPlaces 0 decoder.categories).map fun group =>
        (group.1, (categoryAt first group).serialized))).toList ++ [] =
      (JsonText.object ((categoryPlaces 0 decoder.categories).map fun group =>
        (group.1, (categoryAt second group).serialized))).toList ++ [] := by
    have hlists := congrArg String.toList h
    simp only [Snapshot.serialized, snapshotAt, List.map_map] at hlists
    rw [List.append_nil, List.append_nil]
    exact hlists
  exact snapshotAt_eq_of_sameValues
    (object_append_inj (fun _ _ _ _ _ _ => serialized_categoryAt_inj) hobjects).1

/-- No two categories are stored under one name. -/
theorem nodup_stored (decoder : BeaconDecoder) (payload : Bytes) :
    ((decoder.snapshotAt payload).stored.map Prod.fst).Nodup := by
  have hnames : (decoder.snapshotAt payload).stored.map Prod.fst =
      decoder.categories.map CategorySpec.name := by
    rw [← decoder.map_name_snapshotAt payload, Snapshot.stored, List.map_map]
    rfl
  rw [hnames]
  exact decoder.distinct

/-- No two values of a category are stored under one name, as reserved fields, which may repeat a
name, are not stored. -/
theorem nodup_stored_fields {payload : Bytes} {entry : String × List (String × StoredValue)}
    (h : entry ∈ (decoder.snapshotAt payload).stored) : (entry.2.map Prod.fst).Nodup := by
  obtain ⟨category, hcategory, rfl⟩ := List.mem_map.mp h
  obtain ⟨⟨name, places⟩, hgroup, rfl⟩ := List.mem_map.mp hcategory
  obtain ⟨before, spec, after, -, rfl, rfl⟩ := mem_categoryPlaces_iff.mp hgroup
  have hnames : ∀ start, (categoryAt payload
      (spec.name, fieldPlaces spec.name start spec.fields)).stored.map Prod.fst =
        fieldNames spec.fields := by
    intro start
    rw [← map_fst_namedValues payload spec.name start, Category.stored, List.map_map]
    rfl
  rw [hnames]
  exact spec.distinct

theorem stored?_snapshotAt (payload : Bytes) {place : Place} (hplace : place ∈ decoder.places)
    (hvisible : place.isVisible) :
    (decoder.snapshotAt payload).stored? place.category place.field.name =
      some (place.value payload).stored := by
  obtain ⟨group, hgroup, hmem⟩ := List.mem_flatMap.mp hplace
  have hcategory : place.category = group.1 := by
    obtain ⟨before, spec, after, -, hname, hplaces⟩ := mem_categoryPlaces_iff.mp hgroup
    rw [hplaces] at hmem
    obtain ⟨-, -, -, hcategory, -⟩ := mem_fieldPlaces_iff.mp hmem
    rw [hcategory, hname]
  have hentry : (place.category, (categoryAt payload group).stored) ∈
      (decoder.snapshotAt payload).stored := by
    rw [hcategory]
    exact List.mem_map_of_mem (List.mem_map_of_mem hgroup)
  have hfield : (place.field.name, (place.value payload).stored) ∈
      (categoryAt payload group).stored :=
    List.mem_map_of_mem (mem_namedValues_iff.mpr ⟨place, hmem, hvisible, rfl, rfl⟩)
  rw [Snapshot.stored?, (lookup_eq_some_iff_mem (decoder.nodup_stored payload)).mpr hentry,
    Option.bind_some, (lookup_eq_some_iff_mem (nodup_stored_fields hentry)).mpr hfield]

theorem snapshotAt_eq_of_stored?
    (h : ∀ category field, (decoder.snapshotAt first).stored? category field =
      (decoder.snapshotAt second).stored? category field) :
    decoder.snapshotAt first = decoder.snapshotAt second := by
  rw [snapshotAt_eq_iff_values]
  intro place hplace hvisible
  have hsame := h place.category place.field.name
  rw [stored?_snapshotAt first hplace hvisible, stored?_snapshotAt second hplace hvisible] at hsame
  exact (place.alike first second).eq_of_stored (Option.some.inj hsame)

end BeaconDecoder

/-- Snapshots of one layout differ exactly if what is kept of them differs, be it their text, what
they store by name, or the file that this is written to. This needs no order of what is stored: two
snapshots are told apart by asking for the values by their names, of which none occurs twice. -/
theorem golden_files_see_every_change {decoder : BeaconDecoder} {first second : Bytes}
    {decodedFirst decodedSecond : DecodedBeacon} (hfirst : decoder.decode first = .ok decodedFirst)
    (hsecond : decoder.decode second = .ok decodedSecond) :
    (decodedFirst.snapshot = decodedSecond.snapshot ↔
        decodedFirst.snapshot.text = decodedSecond.snapshot.text) ∧
      (decodedFirst.snapshot = decodedSecond.snapshot ↔
        decodedFirst.snapshot.stored = decodedSecond.snapshot.stored) ∧
      (decodedFirst.snapshot = decodedSecond.snapshot ↔
        ∀ category field, decodedFirst.snapshot.stored? category field =
          decodedSecond.snapshot.stored? category field) ∧
      (decodedFirst.snapshot = decodedSecond.snapshot ↔
        decodedFirst.snapshot.serialized = decodedSecond.snapshot.serialized) ∧
      (decodedFirst.snapshot.stored.map Prod.fst).Nodup ∧
      ∀ entry ∈ decodedFirst.snapshot.stored, (entry.2.map Prod.fst).Nodup := by
  rw [BeaconDecoder.snapshot_of_decode hfirst, BeaconDecoder.snapshot_of_decode hsecond]
  have hstored : (∀ category field, (decoder.snapshotAt first).stored? category field =
      (decoder.snapshotAt second).stored? category field) →
      decoder.snapshotAt first = decoder.snapshotAt second :=
    BeaconDecoder.snapshotAt_eq_of_stored?
  refine ⟨⟨congrArg _, BeaconDecoder.snapshotAt_eq_of_text⟩, ⟨congrArg _, ?_⟩, ⟨?_, hstored⟩,
    ⟨congrArg _, BeaconDecoder.snapshotAt_eq_of_serialized⟩, decoder.nodup_stored first,
    fun entry => BeaconDecoder.nodup_stored_fields⟩
  · intro hsame
    refine hstored fun category field => ?_
    rw [Snapshot.stored?, Snapshot.stored?, hsame]
  · intro hsame category field
    rw [hsame]

/-- A layout whose names look like lines of a text. -/
def misleadingBeacon : BeaconDecoder :=
  ⟨[⟨"log\n    count: 7\nlog", [⟨"count: 7\n    size", 64, .decimal, .big⟩], 64, by decide,
    by decide, by decide, rfl⟩], by decide⟩

/-- The largest value that is stored as a number and the smallest one that is stored as a text. -/
theorem golden_files_see_every_change_misleading :
    ∃ decodedFirst decodedSecond,
      misleadingBeacon.decode [0x7F, 0xFF, 0xFF, 0xFF, 0xFF, 0xFF, 0xFF, 0xFF] = .ok decodedFirst ∧
        misleadingBeacon.decode [0x80, 0, 0, 0, 0, 0, 0, 0] = .ok decodedSecond ∧
        decodedFirst.snapshot.text ≠ decodedSecond.snapshot.text ∧
        decodedFirst.snapshot.stored ≠ decodedSecond.snapshot.stored ∧
        decodedFirst.snapshot.serialized ≠ decodedSecond.snapshot.serialized := by
  obtain ⟨decodedFirst, hfirst⟩ := BeaconDecoder.exists_decode_iff.mpr
    (show misleadingBeacon.width ≤
      8 * List.length [0x7F, 0xFF, 0xFF, 0xFF, 0xFF, 0xFF, 0xFF, 0xFF] by decide)
  obtain ⟨decodedSecond, hsecond⟩ := BeaconDecoder.exists_decode_iff.mpr
    (show misleadingBeacon.width ≤ 8 * List.length [0x80, 0, 0, 0, 0, 0, 0, 0] by decide)
  have hne : decodedFirst.snapshot ≠ decodedSecond.snapshot := by
    rw [BeaconDecoder.snapshot_of_decode hfirst, BeaconDecoder.snapshot_of_decode hsecond, Ne,
      BeaconDecoder.snapshotAt_eq_iff]
    intro hbits
    exact absurd (hbits 0 ⟨⟨_, ⟨"count: 7\n    size", 64, .decimal, .big⟩, 0⟩,
      List.mem_singleton_self _, rfl, by decide, by decide⟩) (by decide)
  obtain ⟨htext, hstored, -, hserialized, -⟩ := golden_files_see_every_change hfirst hsecond
  exact ⟨decodedFirst, decodedSecond, hfirst, hsecond, mt htext.mpr hne, mt hstored.mpr hne,
    mt hserialized.mpr hne⟩

end GroundLink.Telemetry
