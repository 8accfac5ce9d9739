import GroundLink.Telemetry.Field

/-! # Categories

A category is a named run of fields. It is built only if every field can be read and
no name is used for two fields, so that reading it needs nothing but enough bits.
Reserved fields take their bits, but have no name and no value.
-/

namespace GroundLink.Telemetry

/-- The names under which fields can be found, in order. -/
def fieldNames (fields : List FieldSpec) : List String :=
  (fields.filter fun spec => !spec.isReserved).map FieldSpec.name

/-- The first reason why one of the fields does not fit behind fields of the names `seen`.
A field that cannot be read is blamed itself, a repeated name the category. -/
def fieldsDefect? (category : String) (seen : List String) : List FieldSpec → Option TelemetryError
  | [] => none
  | spec :: rest =>
      match spec.defect? with
      | some reason => some (.inconsistent spec.name reason)
      | none =>
          if spec.isReserved then fieldsDefect? category seen rest
          else if spec.name ∈ seen then some (.inconsistent category (.repeatedField spec.name))
          else fieldsDefect? category (spec.name :: seen) rest

theorem fieldsDefect?_eq_none_iff {category : String} {seen : List String}
    {fields : List FieldSpec} :
    fieldsDefect? category seen fields = none ↔
      (∀ spec ∈ fields, spec.Valid) ∧ (fieldNames fields).Nodup ∧
        ∀ name ∈ fieldNames fields, name ∉ seen := by
  induction fields generalizing seen with
  | nil => simp [fieldsDefect?, fieldNames]
  | cons spec rest ih =>
      unfold fieldsDefect?
      cases hdefect : spec.defect? with
      | some reason =>
          have hinvalid : ¬ spec.Valid := by
            rw [← FieldSpec.defect?_eq_none_iff, hdefect]
            exact Option.some_ne_none reason
          simp [hinvalid]
      | none =>
          have hvalid : spec.Valid := FieldSpec.defect?_eq_none_iff.mp hdefect
          by_cases hreserved : spec.isReserved
          · simp [hreserved, ih, hvalid, fieldNames]
          · by_cases hseen : spec.name ∈ seen
            · simp [hreserved, hseen, fieldNames]
            · simp only [hreserved, Bool.false_eq_true, if_false, hseen, ih, fieldNames,
                List.mem_cons, forall_eq_or_imp, List.filter_cons,
                List.map_cons, List.nodup_cons, not_false_eq_true, true_and, hvalid,
                Bool.not_false, if_true, not_or]
              constructor
              · rintro ⟨hrest, hnodup, hnew⟩
                exact ⟨hrest, ⟨fun hmem => (hnew _ hmem).1 rfl, hnodup⟩,
                  fun name hname => (hnew name hname).2⟩
              · rintro ⟨hrest, ⟨hfresh, hnodup⟩, hnew⟩
                exact ⟨hrest, hnodup,
                  fun name hname => ⟨fun heq => hfresh (heq ▸ hname), hnew name hname⟩⟩

/-- The number of bits that fields take together. -/
def widthOf (fields : List FieldSpec) : Nat := fields.foldr (fun spec total => spec.bits + total) 0

/-- A category that can be read, and that is as wide as was declared. -/
structure CategorySpec where
  name : String
  fields : List FieldSpec
  /-- The declared number of bits. -/
  width : Nat
  nonempty : fields ≠ []
  readable : ∀ spec ∈ fields, spec.Valid
  distinct : (fieldNames fields).Nodup
  spans : widthOf fields = width

namespace CategorySpec

/-- The category of the given fields, whose widths have to add up to the declared one. -/
def ofDeclared (name : String) (fields : List FieldSpec) (declared : Nat) :
    Except TelemetryError CategorySpec :=
  if hnonempty : fields = [] then .error (.inconsistent name .noFields)
  else
    match hdefect : fieldsDefect? name [] fields with
    | some error => .error error
    | none =>
        if hspans : widthOf fields = declared then
          have hfields := fieldsDefect?_eq_none_iff.mp hdefect
          .ok ⟨name, fields, declared, hnonempty, hfields.1, hfields.2.1, hspans⟩
        else .error (.inconsistent name (.declaredWidth (widthOf fields) declared))

/-- The category that is just as wide as the given fields. -/
def ofFields (name : String) (fields : List FieldSpec) : Except TelemetryError CategorySpec :=
  ofDeclared name fields (widthOf fields)

/-- With or without a declared width. -/
def create (name : String) (fields : List FieldSpec) (declared : Option Nat) :
    Except TelemetryError CategorySpec :=
  match declared with
  | some bits => ofDeclared name fields bits
  | none => ofFields name fields

end CategorySpec

/-- The values of one category, in the order of its fields. -/
structure Category where
  name : String
  fields : List (String × FieldValue)
  deriving Repr, DecidableEq

namespace Category

def get? (category : Category) (field : String) : Option FieldValue :=
  category.fields.lookup field

/-- The name on a line of its own, then one indented line a field. -/
def text (category : Category) : String :=
  category.name ++ "\n" ++
    String.join (category.fields.map fun field => "    " ++ field.1 ++ ": " ++ field.2.text ++ "\n")

/-- The values by field name, as they are stored. -/
def stored (category : Category) : List (String × StoredValue) :=
  category.fields.map fun field => (field.1, field.2.stored)

/-- The stored values in JSON. -/
def serialized (category : Category) : String :=
  JsonText.object (category.stored.map fun field => (field.1, field.2.serialized))

end Category

/-- The values of the fields from the cursor on, and where the cursor stands afterwards:
behind the last field or, on failure, in front of the field that failed. -/
def decodeFields : List FieldSpec → BitCursor →
    Except TelemetryError (List (String × FieldValue)) × BitCursor
  | [], cursor => (.ok [], cursor)
  | spec :: rest, cursor =>
      match spec.decode cursor with
      | .error failed => (.error failed, failed.left)
      | .ok (value, next) =>
          let (values, last) := decodeFields rest next
          (values.map fun values =>
            if spec.isReserved then values else (spec.name, value) :: values, last)

namespace CategorySpec

/-- Reads the category at the cursor. The widths of the fields are checked against the way
the cursor went. -/
def parse (category : CategorySpec) (cursor : BitCursor) :
    Except TelemetryError Category × BitCursor :=
  match decodeFields category.fields cursor with
  | (.error error, last) => (.error error, last)
  | (.ok values, last) =>
      let consumed := last.position - cursor.position
      if consumed = category.width then (.ok ⟨category.name, values⟩, last)
      else (.error (.inconsistent category.name (.consumedWidth consumed category.width)), last)

end CategorySpec

end GroundLink.Telemetry
