import GroundLink.Proofs.Telemetry.Construction
import GroundLink.Proofs.Telemetry.Places
import GroundLink.Telemetry.Layout
import Mathlib.Algebra.BigOperators.Group.List.Basic
import Mathlib.Algebra.GroupWithZero.Nat

/-! # Consistent layouts

Whether a layout is consistent can be told from its fields, widths and names. A decoder is made of
a layout exactly if it is; otherwise there is one first defect, field by field inside a category and
category by category inside the layout, and this is what is reported.
-/

namespace GroundLink.Telemetry

/-! ## Layouts as they should be -/

/-- A value holds the field, and a big endian field consists of octets. -/
def FieldLayout.Readable (field : FieldLayout) : Prop :=
  1 ≤ field.bits ∧ field.bits ≤ 64 ∧ (field.byteOrder = .big → 8 ∣ field.bits)

/-- The names of the fields that are not reserved. -/
def visibleNames (fields : List FieldLayout) : List String :=
  (fields.filter fun field => field.presentation ≠ .reserved).map FieldLayout.name

/-- Fields that may stand together in one category. -/
structure Compatible (fields : List FieldLayout) : Prop where
  readable : ∀ field ∈ fields, field.Readable
  distinct : (visibleNames fields).Nodup

/-- The number of bits that fields take together. -/
def bitsOf (fields : List FieldLayout) : Nat := (fields.map FieldLayout.bits).sum

/-- A category that is consistent by itself. -/
structure CategoryLayout.Consistent (category : CategoryLayout) : Prop where
  nonempty : category.fields ≠ []
  compatible : Compatible category.fields
  declared : ∀ bits ∈ category.bits, bits = bitsOf category.fields

structure BeaconLayout.Consistent (layout : BeaconLayout) : Prop where
  categories : ∀ category ∈ layout.categories, category.Consistent
  distinct : (layout.categories.map CategoryLayout.name).Nodup

instance (field : FieldLayout) : Decidable field.Readable := by
  unfold FieldLayout.Readable
  infer_instance

instance (fields : List FieldLayout) : Decidable (Compatible fields) :=
  decidable_of_iff ((∀ field ∈ fields, field.Readable) ∧ (visibleNames fields).Nodup)
    ⟨fun h => ⟨h.1, h.2⟩, fun h => ⟨h.readable, h.distinct⟩⟩

instance (category : CategoryLayout) : Decidable category.Consistent :=
  decidable_of_iff
    (category.fields ≠ [] ∧ Compatible category.fields ∧
      ∀ bits ∈ category.bits, bits = bitsOf category.fields)
    ⟨fun h => ⟨h.1, h.2.1, h.2.2⟩, fun h => ⟨h.nonempty, h.compatible, h.declared⟩⟩

instance (layout : BeaconLayout) : Decidable layout.Consistent :=
  decidable_of_iff
    ((∀ category ∈ layout.categories, category.Consistent) ∧
      (layout.categories.map CategoryLayout.name).Nodup)
    ⟨fun h => ⟨h.1, h.2⟩, fun h => ⟨h.categories, h.distinct⟩⟩

/-! ## First defects -/

/-- Why a field cannot be read. -/
inductive FieldLayout.Fault (field : FieldLayout) : Inconsistency → Prop
  | width (h : field.bits = 0 ∨ 64 < field.bits) : Fault field (.fieldWidth field.bits)
  | partialOctets (hmin : 1 ≤ field.bits) (hmax : field.bits ≤ 64) (horder : field.byteOrder = .big)
      (h : ¬ 8 ∣ field.bits) : Fault field (.partialOctets field.bits)

/-- The first defect of a category. A field that cannot be read is blamed itself, everything else on
the category; the declared width comes last. -/
inductive CategoryLayout.Fault (category : CategoryLayout) : TelemetryError → Prop
  | empty (h : category.fields = []) : Fault category (.inconsistent category.name .noFields)
  | unreadable {earlier later : List FieldLayout} {field : FieldLayout} {reason : Inconsistency}
      (hfields : category.fields = earlier ++ field :: later) (hearlier : Compatible earlier)
      (h : field.Fault reason) : Fault category (.inconsistent field.name reason)
  | repeated {earlier later : List FieldLayout} {field : FieldLayout}
      (hfields : category.fields = earlier ++ field :: later) (hearlier : Compatible earlier)
      (hreadable : field.Readable) (hvisible : field.presentation ≠ .reserved)
      (h : field.name ∈ visibleNames earlier) :
      Fault category (.inconsistent category.name (.repeatedField field.name))
  | width {bits : Nat} (hnonempty : category.fields ≠ []) (hcompatible : Compatible category.fields)
      (hdeclared : category.bits = some bits) (h : bits ≠ bitsOf category.fields) :
      Fault category
        (.inconsistent category.name (.declaredWidth (bitsOf category.fields) bits))

/-- The first defect of a layout: that of its first inconsistent category or, if there is none, the
first name that an earlier category has. -/
inductive BeaconLayout.Fault (layout : BeaconLayout) : TelemetryError → Prop
  | category {before after : List CategoryLayout} {category : CategoryLayout}
      {error : TelemetryError} (hcategories : layout.categories = before ++ category :: after)
      (hbefore : ∀ other ∈ before, other.Consistent) (h : category.Fault error) :
      Fault layout error
  | repeated {before after : List CategoryLayout} {category : CategoryLayout}
      (hconsistent : ∀ other ∈ layout.categories, other.Consistent)
      (hcategories : layout.categories = before ++ category :: after)
      (hbefore : (before.map CategoryLayout.name).Nodup)
      (h : category.name ∈ before.map CategoryLayout.name) :
      Fault layout (.inconsistent category.name .repeatedCategory)

theorem CategoryLayout.Fault.inconsistent {category : CategoryLayout} {error : TelemetryError}
    (h : category.Fault error) : ∃ name reason, error = .inconsistent name reason := by
  cases h <;> exact ⟨_, _, rfl⟩

theorem BeaconLayout.Fault.inconsistent {layout : BeaconLayout} {error : TelemetryError}
    (h : layout.Fault error) : ∃ name reason, error = .inconsistent name reason := by
  cases h with
  | category _ _ hcategory => exact hcategory.inconsistent
  | repeated _ _ _ _ => exact ⟨_, _, rfl⟩

/-! ## Fields -/

namespace FieldLayout

variable {field : FieldLayout}

theorem valid_spec_iff : field.spec.Valid ↔ field.Readable := by
  unfold FieldSpec.Valid Readable
  rw [Nat.dvd_iff_mod_eq_zero]
  rfl

theorem defect?_spec_eq_some_iff {reason : Inconsistency} :
    field.spec.defect? = some reason ↔ field.Fault reason := by
  unfold FieldSpec.defect?
  change (if field.bits = 0 ∨ 64 < field.bits then some (.fieldWidth field.bits)
    else if field.byteOrder = .big ∧ field.bits % 8 ≠ 0 then some (.partialOctets field.bits)
    else none) = some reason ↔ _
  constructor
  · intro h
    split at h
    next hwidth =>
      cases h
      exact .width hwidth
    next hwidth =>
      split at h
      next hoctets =>
        cases h
        exact .partialOctets (by omega) (by omega) hoctets.1 (mt Nat.mod_eq_zero_of_dvd hoctets.2)
      next => cases h
  · rintro (hwidth | ⟨hmin, hmax, horder, hoctets⟩)
    · rw [if_pos hwidth]
    · rw [if_neg (by omega), if_pos ⟨horder, mt Nat.dvd_of_mod_eq_zero hoctets⟩]

theorem isReserved_spec_eq_false_iff :
    field.spec.isReserved = false ↔ field.presentation ≠ .reserved := by
  rw [FieldSpec.isReserved, beq_eq_false_iff_ne]
  rfl

end FieldLayout

theorem fieldNames_map_spec (fields : List FieldLayout) :
    fieldNames (fields.map FieldLayout.spec) = visibleNames fields := by
  rw [fieldNames, visibleNames, List.filter_map, List.map_map]
  congr 1
  apply List.filter_congr
  intro field _
  rw [Function.comp_apply, Bool.eq_iff_iff, Bool.not_eq_true', decide_eq_true_iff]
  exact FieldLayout.isReserved_spec_eq_false_iff

theorem widthOf_map_spec (fields : List FieldLayout) :
    widthOf (fields.map FieldLayout.spec) = bitsOf fields := by
  induction fields with
  | nil => rfl
  | cons field rest ih =>
      rw [List.map_cons, widthOf_cons, ih, bitsOf, bitsOf, List.map_cons, List.sum_cons]
      rfl

theorem fieldsDefect?_map_spec_eq_none_iff (category : String) {fields : List FieldLayout} :
    fieldsDefect? category [] (fields.map FieldLayout.spec) = none ↔ Compatible fields := by
  rw [fieldsDefect?_eq_none_iff, fieldNames_map_spec, List.forall_mem_map]
  constructor
  · rintro ⟨hvalid, hdistinct, -⟩
    exact ⟨fun field hfield => FieldLayout.valid_spec_iff.mp (hvalid field hfield), hdistinct⟩
  · rintro ⟨hreadable, hdistinct⟩
    exact ⟨fun field hfield => FieldLayout.valid_spec_iff.mpr (hreadable field hfield), hdistinct,
      fun _ _ => List.not_mem_nil⟩

/-! ## Categories -/

namespace CategoryLayout

variable {category : CategoryLayout} {error : TelemetryError}

theorem exists_ofFields_iff :
    (∃ spec, CategorySpec.ofFields category.name (category.fields.map FieldLayout.spec) =
        .ok spec) ↔
      category.fields ≠ [] ∧ Compatible category.fields := by
  rw [CategorySpec.exists_ofFields_iff, fieldsDefect?_map_spec_eq_none_iff, ne_eq,
    List.map_eq_nil_iff]

theorem spec_eq_ok_iff {spec : CategorySpec} :
    category.spec = .ok spec ↔
      category.Consistent ∧ spec.name = category.name ∧
        spec.fields = category.fields.map FieldLayout.spec := by
  rw [CategoryLayout.spec, CategorySpec.create_eq_ok_iff, widthOf_map_spec]
  constructor
  · rintro ⟨hname, hfields, hdeclared⟩
    obtain ⟨hnonempty, hcompatible⟩ := exists_ofFields_iff.mp
      ⟨spec, CategorySpec.ofFields_eq_ok_iff.mpr ⟨hname, hfields⟩⟩
    exact ⟨⟨hnonempty, hcompatible, hdeclared⟩, hname, hfields⟩
  · rintro ⟨hconsistent, hname, hfields⟩
    exact ⟨hname, hfields, hconsistent.declared⟩

theorem exists_spec_iff : (∃ spec, category.spec = .ok spec) ↔ category.Consistent := by
  constructor
  · rintro ⟨spec, hspec⟩
    exact (spec_eq_ok_iff.mp hspec).1
  · intro hconsistent
    obtain ⟨spec, hspec⟩ := exists_ofFields_iff.mpr ⟨hconsistent.nonempty, hconsistent.compatible⟩
    exact ⟨spec, spec_eq_ok_iff.mpr ⟨hconsistent, CategorySpec.ofFields_eq_ok_iff.mp hspec⟩⟩

/-- The first of the fields that does not fit is the one that is blamed. -/
theorem fault_of_fieldsDefect?
    (h : fieldsDefect? category.name [] (category.fields.map FieldLayout.spec) = some error) :
    category.Fault error := by
  obtain ⟨earlier, spec, later, hsplit, hearlier, hspec⟩ := exists_of_fieldsDefect? h
  obtain ⟨before, rest, hfields, rfl, hrest⟩ := List.map_eq_append_iff.mp hsplit
  obtain ⟨field, after, rfl, rfl, rfl⟩ := List.map_eq_cons_iff.mp hrest
  have hcompatible := (fieldsDefect?_map_spec_eq_none_iff category.name).mp hearlier
  rcases fieldsDefect?_singleton_eq_some_iff.mp hspec with
    ⟨reason, hreason, rfl⟩ | ⟨hvalid, hvisible, hseen, rfl⟩
  · exact .unreadable hfields hcompatible (FieldLayout.defect?_spec_eq_some_iff.mp hreason)
  · refine .repeated hfields hcompatible (FieldLayout.valid_spec_iff.mp hvalid)
      (FieldLayout.isReserved_spec_eq_false_iff.mp hvisible) ?_
    rwa [List.mem_reverse, fieldNames_map_spec] at hseen

theorem fieldsDefect?_of_split {earlier later : List FieldLayout} {field : FieldLayout}
    (hfields : category.fields = earlier ++ field :: later) (hearlier : Compatible earlier)
    (h : fieldsDefect? category.name (fieldNames (earlier.map FieldLayout.spec)).reverse
      [field.spec] = some error) :
    fieldsDefect? category.name [] (category.fields.map FieldLayout.spec) = some error := by
  have hnone := (fieldsDefect?_map_spec_eq_none_iff category.name).mpr hearlier
  rw [hfields, List.map_append, List.map_cons, ← List.singleton_append, fieldsDefect?_append, hnone,
    Option.none_or, fieldsDefect?_append, List.append_nil, h, Option.some_or]

/-- The first defect is what is reported. -/
theorem spec_eq_error_iff : category.spec = .error error ↔ category.Fault error := by
  rw [CategoryLayout.spec, CategorySpec.create_eq_error_iff, CategorySpec.ofFields_eq_error_iff,
    exists_ofFields_iff, widthOf_map_spec, List.map_eq_nil_iff]
  constructor
  · rintro ((⟨hempty, rfl⟩ | ⟨-, hdefect⟩) | ⟨⟨hnonempty, hcompatible⟩, bits, hdeclared, hne, rfl⟩)
    · exact .empty hempty
    · exact fault_of_fieldsDefect? hdefect
    · exact .width hnonempty hcompatible hdeclared hne
  · intro hfault
    cases hfault with
    | empty hempty => exact .inl (.inl ⟨hempty, rfl⟩)
    | @unreadable earlier later field reason hfields hearlier hfield =>
        refine .inl (.inr ⟨by simp [hfields], fieldsDefect?_of_split hfields hearlier ?_⟩)
        exact fieldsDefect?_singleton_eq_some_iff.mpr
          (.inl ⟨reason, FieldLayout.defect?_spec_eq_some_iff.mpr hfield, rfl⟩)
    | @repeated earlier later field hfields hearlier hreadable hvisible hname =>
        refine .inl (.inr ⟨by simp [hfields], fieldsDefect?_of_split hfields hearlier ?_⟩)
        refine fieldsDefect?_singleton_eq_some_iff.mpr
          (.inr ⟨FieldLayout.valid_spec_iff.mpr hreadable,
            FieldLayout.isReserved_spec_eq_false_iff.mpr hvisible, ?_, rfl⟩)
        rw [List.mem_reverse, fieldNames_map_spec]
        exact hname
    | @width bits hnonempty hcompatible hdeclared hne =>
        exact .inr ⟨⟨hnonempty, hcompatible⟩, bits, hdeclared, hne, rfl⟩

end CategoryLayout

/-! ## Layouts -/

namespace BeaconLayout

variable {layout : BeaconLayout}

/-- What a category is called and what its fields are, in a layout. -/
def contents (category : CategoryLayout) : String × List FieldSpec :=
  (category.name, category.fields.map FieldLayout.spec)

/-- The categories made of a layout are those of the layout, in order. -/
theorem mapM_spec_eq_ok_iff {categories : List CategoryLayout} {specs : List CategorySpec} :
    categories.mapM CategoryLayout.spec = .ok specs ↔
      (∀ category ∈ categories, category.Consistent) ∧
        categories.map contents = specs.map fun spec => (spec.name, spec.fields) := by
  -- both sides are told of each category and its result
  rw [mapM_eq_ok_iff, ← List.forall₂_eq_eq_eq, List.forall₂_map_left_iff,
    List.forall₂_map_right_iff, ← List.forall₂_and_left]
  have hitem (category : CategoryLayout) (spec : CategorySpec) :
      category.spec = .ok spec ↔
        category.Consistent ∧ contents category = (spec.name, spec.fields) := by
    rw [CategoryLayout.spec_eq_ok_iff, contents, Prod.mk.injEq, eq_comm, @eq_comm _ spec.fields]
  simp only [hitem]

theorem map_name_of_mapM_spec {categories : List CategoryLayout} {specs : List CategorySpec}
    (h : categories.mapM CategoryLayout.spec = .ok specs) :
    categories.map CategoryLayout.name = specs.map CategorySpec.name :=
  map_eq_of_mapM h fun _ _ hspec => (CategoryLayout.spec_eq_ok_iff.mp hspec).2.1.symm

theorem exists_mapM_spec {categories : List CategoryLayout}
    (h : ∀ category ∈ categories, category.Consistent) :
    ∃ specs, categories.mapM CategoryLayout.spec = .ok specs := by
  cases hspecs : categories.mapM CategoryLayout.spec with
  | ok specs => exact ⟨specs, rfl⟩
  | error error =>
      obtain ⟨before, category, after, rfl, -, herror⟩ := mapM_eq_error_iff.mp hspecs
      obtain ⟨spec, hspec⟩ := CategoryLayout.exists_spec_iff.mpr (h category (by simp))
      cases hspec.symm.trans herror

theorem decoder_eq_ok_iff {decoder : BeaconDecoder} :
    layout.decoder = .ok decoder ↔
      layout.categories.mapM CategoryLayout.spec = .ok decoder.categories := by
  rw [BeaconLayout.decoder, bind_eq_ok_iff]
  constructor
  · rintro ⟨specs, hspecs, hdecoder⟩
    rwa [BeaconDecoder.ofCategories_eq_ok_iff.mp hdecoder]
  · exact fun hspecs => ⟨_, hspecs, BeaconDecoder.ofCategories_eq_ok_iff.mpr rfl⟩

theorem exists_decoder_iff : (∃ decoder, layout.decoder = .ok decoder) ↔ layout.Consistent := by
  constructor
  · rintro ⟨decoder, hdecoder⟩
    have hspecs := decoder_eq_ok_iff.mp hdecoder
    exact ⟨(mapM_spec_eq_ok_iff.mp hspecs).1, map_name_of_mapM_spec hspecs ▸ decoder.distinct⟩
  · rintro ⟨hconsistent, hdistinct⟩
    obtain ⟨specs, hspecs⟩ := exists_mapM_spec hconsistent
    exact ⟨⟨specs, map_name_of_mapM_spec hspecs ▸ hdistinct⟩, decoder_eq_ok_iff.mpr hspecs⟩

/-- The first defect is what is reported. -/
theorem decoder_eq_error_iff {error : TelemetryError} :
    layout.decoder = .error error ↔ layout.Fault error := by
  -- either a category is refused, or all have been made and two have the same name
  rw [decoder, bind_eq_error_iff, mapM_eq_error_iff]
  constructor
  · rintro (⟨before, category, after, hcategories, hbefore, herror⟩ | ⟨specs, hspecs, herror⟩)
    · exact .category hcategories
        (fun other hother => CategoryLayout.exists_spec_iff.mp (hbefore other hother))
        (CategoryLayout.spec_eq_error_iff.mp herror)
    · obtain ⟨name, hrepeated, rfl⟩ := BeaconDecoder.ofCategories_eq_error_iff.mp herror
      rw [← map_name_of_mapM_spec hspecs] at hrepeated
      obtain ⟨earlier, later, hnames, hearlier, hname⟩ := repeated?_eq_some_iff.mp hrepeated
      obtain ⟨before, rest, hcategories, rfl, hrest⟩ := List.map_eq_append_iff.mp hnames
      obtain ⟨category, after, rfl, rfl, rfl⟩ := List.map_eq_cons_iff.mp hrest
      rw [List.append_nil] at hname
      exact .repeated (mapM_spec_eq_ok_iff.mp hspecs).1 hcategories
        (repeated?_eq_none_iff.mp hearlier).1 hname
  · intro hfault
    cases hfault with
    | category hcategories hbefore hcategory =>
        exact .inl ⟨_, _, _, hcategories,
          fun other hother => CategoryLayout.exists_spec_iff.mpr (hbefore other hother),
          CategoryLayout.spec_eq_error_iff.mpr hcategory⟩
    | @repeated before after category hconsistent hcategories hbefore hname =>
        obtain ⟨specs, hspecs⟩ := exists_mapM_spec hconsistent
        refine .inr ⟨specs, hspecs,
          BeaconDecoder.ofCategories_eq_error_iff.mpr ⟨category.name, ?_, rfl⟩⟩
        rw [← map_name_of_mapM_spec hspecs, hcategories, List.map_append, List.map_cons]
        refine repeated?_eq_some_iff.mpr ⟨_, _, rfl, ?_, List.mem_append_left _ hname⟩
        exact repeated?_eq_none_iff.mpr ⟨hbefore, fun _ _ => List.not_mem_nil⟩

/-- A decoder has the fields of its layout, one category behind the other. -/
theorem width_of_decoder {decoder : BeaconDecoder} (h : layout.decoder = .ok decoder) :
    decoder.width = bitsOf (layout.categories.flatMap CategoryLayout.fields) := by
  have hcontents := (mapM_spec_eq_ok_iff.mp (decoder_eq_ok_iff.mp h)).2
  have hfields := congrArg (List.flatMap Prod.snd) hcontents
  rw [List.flatMap_map, List.flatMap_map] at hfields
  rw [decoder.width_eq, ← widthOf_flatMap_fields, ← widthOf_map_spec, List.map_flatMap]
  exact congrArg widthOf hfields.symm

end BeaconLayout

/-- A decoder is made of a layout exactly if every category has fields, each from 1 to 64 bits wide
and of whole octets if it is big endian, with names of their own unless they are reserved, and the
width that it may declare, and if no two categories have the same name. It has the categories of the
layout in order, and as many bits as all fields together. Otherwise the error is an inconsistency,
and it is that of the first inconsistent category, of its first field that does not fit or, behind
all fields, of its width; a repeated name of a category is reported only if every category is
consistent by itself. -/
theorem layout_is_accepted_iff_consistent (layout : BeaconLayout) :
    ((∃ decoder, layout.decoder = .ok decoder) ↔ layout.Consistent) ∧
      (∀ decoder, layout.decoder = .ok decoder →
        decoder.categories.map (fun category => (category.name, category.fields)) =
            layout.categories.map (fun category =>
              (category.name, category.fields.map FieldLayout.spec)) ∧
          decoder.width = bitsOf (layout.categories.flatMap CategoryLayout.fields)) ∧
      (∀ error, layout.decoder = .error error ↔ layout.Fault error) ∧
      ∀ error, layout.decoder = .error error →
        ∃ name reason, error = .inconsistent name reason := by
  refine ⟨BeaconLayout.exists_decoder_iff, ?_, fun _ => BeaconLayout.decoder_eq_error_iff, ?_⟩
  · intro decoder hdecoder
    have hspecs := BeaconLayout.decoder_eq_ok_iff.mp hdecoder
    have hcontents := (BeaconLayout.mapM_spec_eq_ok_iff.mp hspecs).2
    exact ⟨hcontents.symm, BeaconLayout.width_of_decoder hdecoder⟩
  · exact fun _ herror => (BeaconLayout.decoder_eq_error_iff.mp herror).inconsistent

/-- A name is repeated in front of a field that is too wide, the declared width is wrong, and the
next category has the name of the first. Two consistent categories of one name are refused, and one
of them alone is accepted. -/
theorem layout_is_accepted_iff_consistent_flawed :
    let clock : CategoryLayout :=
      ⟨"clock", some 19, [⟨"gap", 3, .reserved, .little⟩, ⟨"ticks", 16, .hex, .big⟩]⟩
    let state : CategoryLayout :=
      ⟨"state", some 7, [⟨"mode", 2, .decimal, .little⟩, ⟨"mode", 9, .reserved, .little⟩,
        ⟨"mode", 5, .flags, .little⟩, ⟨"wide", 65, .hex, .little⟩]⟩
    (BeaconLayout.mk [clock, state, clock]).decoder =
        .error (.inconsistent "state" (.repeatedField "mode")) ∧
      (BeaconLayout.mk [clock, clock]).decoder = .error (.inconsistent "clock" .repeatedCategory) ∧
      ∃ decoder, (BeaconLayout.mk [clock]).decoder = .ok decoder ∧ decoder.width = 19 := by
  intro clock state
  have hstate : state.Fault (.inconsistent "state" (.repeatedField "mode")) :=
    @CategoryLayout.Fault.repeated state
      [⟨"mode", 2, .decimal, .little⟩, ⟨"mode", 9, .reserved, .little⟩]
      [⟨"wide", 65, .hex, .little⟩] ⟨"mode", 5, .flags, .little⟩ rfl (by decide) (by decide)
      (by decide) (by decide)
  have hflawed : (BeaconLayout.mk [clock, state, clock]).Fault
      (.inconsistent "state" (.repeatedField "mode")) :=
    @BeaconLayout.Fault.category _ [clock] [clock] state _ rfl (by decide) hstate
  have htwice : (BeaconLayout.mk [clock, clock]).Fault (.inconsistent "clock" .repeatedCategory) :=
    @BeaconLayout.Fault.repeated _ [clock] [] clock (by decide) rfl (by decide) (by decide)
  obtain ⟨decoder, hdecoder⟩ := (layout_is_accepted_iff_consistent ⟨[clock]⟩).1.mpr (by decide)
  exact ⟨((layout_is_accepted_iff_consistent _).2.2.1 _).mpr hflawed,
    ((layout_is_accepted_iff_consistent _).2.2.1 _).mpr htwice,
    decoder, hdecoder, ((layout_is_accepted_iff_consistent _).2.1 decoder hdecoder).2⟩

end GroundLink.Telemetry
