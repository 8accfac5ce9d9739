import GroundLink.Proofs.Attempts
import GroundLink.Telemetry.Beacon
import Mathlib.Data.List.Induction

/-! # What categories and decoders are made of

A category is made of any fields that carry what its type asks for, and a decoder of any categories
of different names. Where something is missing, the checks go through fields and names in order, and
the first of them that does not fit behind those before it is reported.
-/

namespace GroundLink.Telemetry

/-! ## Fields -/

/-- Fields are looked at one after the other, and the names of earlier ones are remembered. -/
theorem fieldsDefect?_append (category : String) (seen : List String)
    (first second : List FieldSpec) :
    fieldsDefect? category seen (first ++ second) =
      (fieldsDefect? category seen first).or
        (fieldsDefect? category ((fieldNames first).reverse ++ seen) second) := by
  induction first generalizing seen with
  | nil => rfl
  | cons spec rest ih =>
      rw [List.cons_append, fieldsDefect?, fieldsDefect?]
      cases hdefect : spec.defect? with
      | some reason => rfl
      | none =>
          cases hreserved : spec.isReserved with
          | true => simp [ih, fieldNames, hreserved]
          | false =>
              by_cases hseen : spec.name ∈ seen
              · simp [hseen]
              · simp [ih, fieldNames, hreserved, hseen]

/-- The first field that does not fit behind the fields before it. -/
theorem exists_of_fieldsDefect? {category : String} {fields : List FieldSpec}
    {error : TelemetryError} (h : fieldsDefect? category [] fields = some error) :
    ∃ earlier spec later, fields = earlier ++ spec :: later ∧
      fieldsDefect? category [] earlier = none ∧
      fieldsDefect? category (fieldNames earlier).reverse [spec] = some error := by
  induction fields using List.reverseRecOn with
  | nil => cases h
  | append_singleton fields spec ih =>
      rw [fieldsDefect?_append, List.append_nil] at h
      cases hfields : fieldsDefect? category [] fields with
      | none =>
          rw [hfields, Option.none_or] at h
          exact ⟨fields, spec, [], rfl, hfields, h⟩
      | some other =>
          rw [hfields, Option.some_or] at h
          obtain ⟨earlier, found, later, rfl, hearlier, hfound⟩ := ih (hfields.trans h)
          exact ⟨earlier, found, later ++ [spec], by simp, hearlier, hfound⟩

theorem fieldsDefect?_singleton_eq_some_iff {category : String} {seen : List String}
    {spec : FieldSpec} {error : TelemetryError} :
    fieldsDefect? category seen [spec] = some error ↔
      (∃ reason, spec.defect? = some reason ∧ error = .inconsistent spec.name reason) ∨
        spec.Valid ∧ spec.isReserved = false ∧ spec.name ∈ seen ∧
          error = .inconsistent category (.repeatedField spec.name) := by
  rw [← FieldSpec.defect?_eq_none_iff, fieldsDefect?]
  cases hdefect : spec.defect? with
  | some reason =>
      constructor
      · intro h
        exact .inl ⟨reason, rfl, (Option.some.inj h).symm⟩
      · rintro (⟨_, ⟨⟩, rfl⟩ | ⟨hnone, -⟩)
        · rfl
        · cases hnone
  | none =>
      cases hreserved : spec.isReserved with
      | true => simp [fieldsDefect?]
      | false =>
          by_cases hseen : spec.name ∈ seen
          · simp [hseen, eq_comm]
          · simp [hseen, fieldsDefect?]

/-! ## Categories -/

namespace CategorySpec

variable {name : String} {fields : List FieldSpec} {category : CategorySpec}
  {error : TelemetryError}

theorem fieldsDefect?_fields (category : CategorySpec) :
    fieldsDefect? category.name [] category.fields = none :=
  fieldsDefect?_eq_none_iff.mpr ⟨category.readable, category.distinct, fun _ _ => List.not_mem_nil⟩

/-- Every category is the one that is made of its fields and its width. -/
theorem ofDeclared_eq_ok_iff {declared : Nat} :
    ofDeclared name fields declared = .ok category ↔
      category.name = name ∧ category.fields = fields ∧ category.width = declared := by
  unfold ofDeclared
  constructor
  · intro h
    split at h
    next => cases h
    next =>
      split at h
      next => cases h
      next =>
        split at h
        next =>
          cases h
          exact ⟨rfl, rfl, rfl⟩
        next => cases h
  · rintro ⟨rfl, rfl, rfl⟩
    rw [dif_neg category.nonempty]
    split
    next hsome => cases category.fieldsDefect?_fields.symm.trans hsome
    next => exact dif_pos category.spans

theorem ofFields_eq_ok_iff :
    ofFields name fields = .ok category ↔ category.name = name ∧ category.fields = fields := by
  rw [ofFields, ofDeclared_eq_ok_iff]
  refine and_congr_right fun _ => and_iff_left_of_imp ?_
  rintro rfl
  exact category.spans.symm

/-- The width is looked at last. -/
theorem ofDeclared_eq_error_iff {declared : Nat} :
    ofDeclared name fields declared = .error error ↔
      fields = [] ∧ error = .inconsistent name .noFields ∨
        fields ≠ [] ∧ (fieldsDefect? name [] fields = some error ∨
          fieldsDefect? name [] fields = none ∧ declared ≠ widthOf fields ∧
            error = .inconsistent name (.declaredWidth (widthOf fields) declared)) := by
  unfold ofDeclared
  by_cases hempty : fields = []
  · simp [hempty, eq_comm]
  · rw [dif_neg hempty]
    split
    next other hother => simp [hempty, hother]
    next hnone =>
      by_cases hwidth : widthOf fields = declared
      · simp [hempty, hnone, hwidth]
      · simp [hempty, hnone, hwidth, Ne.symm hwidth, eq_comm]

theorem ofFields_eq_error_iff :
    ofFields name fields = .error error ↔
      fields = [] ∧ error = .inconsistent name .noFields ∨
        fields ≠ [] ∧ fieldsDefect? name [] fields = some error := by
  rw [ofFields, ofDeclared_eq_error_iff]
  simp

theorem exists_ofFields_iff :
    (∃ category, ofFields name fields = .ok category) ↔
      fields ≠ [] ∧ fieldsDefect? name [] fields = none := by
  constructor
  · rintro ⟨category, hcategory⟩
    obtain ⟨rfl, rfl⟩ := ofFields_eq_ok_iff.mp hcategory
    exact ⟨category.nonempty, category.fieldsDefect?_fields⟩
  · rintro ⟨hnonempty, hnone⟩
    obtain ⟨hreadable, hdistinct, -⟩ := fieldsDefect?_eq_none_iff.mp hnone
    exact ⟨⟨name, fields, _, hnonempty, hreadable, hdistinct, rfl⟩,
      ofFields_eq_ok_iff.mpr ⟨rfl, rfl⟩⟩

theorem create_eq_ok_iff {declared : Option Nat} :
    create name fields declared = .ok category ↔
      category.name = name ∧ category.fields = fields ∧
        ∀ bits ∈ declared, bits = widthOf fields := by
  cases declared with
  | none => simp [create, ofFields_eq_ok_iff]
  | some bits =>
      rw [create, ofDeclared_eq_ok_iff]
      refine and_congr_right fun _ => and_congr_right fun hfields => ?_
      simp [← hfields, category.spans, eq_comm]

theorem create_eq_error_iff {declared : Option Nat} :
    create name fields declared = .error error ↔
      ofFields name fields = .error error ∨
        (∃ category, ofFields name fields = .ok category) ∧ ∃ bits ∈ declared,
          bits ≠ widthOf fields ∧
            error = .inconsistent name (.declaredWidth (widthOf fields) bits) := by
  cases declared with
  | none => simp [create]
  | some bits =>
      rw [create, ofDeclared_eq_error_iff, ofFields_eq_error_iff, exists_ofFields_iff]
      simp only [Option.mem_some_iff, exists_eq_left', and_or_left, or_assoc, and_assoc]

end CategorySpec

/-! ## Decoders -/

/-- The first name that stands among the names before it. -/
theorem repeated?_eq_some_iff {seen names : List String} {name : String} :
    repeated? seen names = some name ↔
      ∃ earlier later, names = earlier ++ name :: later ∧ repeated? seen earlier = none ∧
        name ∈ earlier ++ seen := by
  induction names generalizing seen with
  | nil => simp [repeated?]
  | cons first rest ih =>
      by_cases hseen : first ∈ seen
      · rw [repeated?, if_pos hseen]
        constructor
        · rintro ⟨⟩
          exact ⟨[], rest, rfl, rfl, hseen⟩
        · rintro ⟨_ | ⟨other, earlier⟩, later, heq, hearlier, -⟩
          · rw [(List.cons.inj heq).1]
          · rw [← (List.cons.inj heq).1, repeated?, if_pos hseen] at hearlier
            cases hearlier
      · rw [repeated?, if_neg hseen, ih]
        constructor
        · rintro ⟨earlier, later, rfl, hearlier, hname⟩
          refine ⟨first :: earlier, later, rfl, ?_, ?_⟩
          · rw [repeated?, if_neg hseen, hearlier]
          · exact List.perm_middle.mem_iff.mp hname
        · rintro ⟨_ | ⟨other, earlier⟩, later, heq, hearlier, hname⟩
          · exact absurd ((List.cons.inj heq).1 ▸ hname) hseen
          · obtain ⟨rfl, rfl⟩ := List.cons.inj heq
            rw [repeated?, if_neg hseen] at hearlier
            exact ⟨earlier, later, rfl, hearlier, List.perm_middle.mem_iff.mpr hname⟩

namespace BeaconDecoder

variable {categories : List CategorySpec}

theorem ofCategories_eq_ok_iff {decoder : BeaconDecoder} :
    ofCategories categories = .ok decoder ↔ decoder.categories = categories := by
  unfold ofCategories
  constructor
  · intro h
    split at h
    next => cases h
    next =>
      cases h
      rfl
  · rintro rfl
    split
    next name hrepeated =>
      have hnone := repeated?_eq_none_iff.mpr ⟨decoder.distinct, fun _ _ => List.not_mem_nil⟩
      cases hnone.symm.trans hrepeated
    next => rfl

theorem ofCategories_eq_error_iff {error : TelemetryError} :
    ofCategories categories = .error error ↔
      ∃ name, repeated? [] (categories.map CategorySpec.name) = some name ∧
        error = .inconsistent name .repeatedCategory := by
  unfold ofCategories
  split
  next name hrepeated => simp [hrepeated, eq_comm]
  next hnone => simp [hnone]

end BeaconDecoder

end GroundLink.Telemetry
