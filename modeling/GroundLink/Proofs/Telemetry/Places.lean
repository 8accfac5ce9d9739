import GroundLink.Telemetry.Beacon
import GroundLink.Proofs.Telemetry.Field

/-! # Where the fields of a beacon lie

A layout puts every field at one offset, the sum of all widths before it. With these offsets each
value of a beacon can be told from the payload alone, without reading what comes before, and a
snapshot is nothing but these values by name.
-/

namespace GroundLink.Telemetry

/-- A field where it lies in a beacon: in the category of that name, with its first bit at
`offset`. -/
structure Place where
  category : String
  field : FieldSpec
  offset : Nat
  deriving Repr, DecidableEq

namespace Place

/-- What a payload says at the place. -/
def value (place : Place) (payload : Bytes) : FieldValue where
  raw := place.field.valueAt place.offset payload
  bits := place.field.bits
  presentation := place.field.presentation

/-- Whether the value gets into snapshots. -/
def isVisible (place : Place) : Bool := !place.field.isReserved

theorem isVisible_iff {place : Place} : place.isVisible ↔ place.field.isReserved = false := by
  rw [isVisible, Bool.not_eq_true']

/-- The bits of the field. -/
def Holds (place : Place) (position : Nat) : Prop :=
  place.offset ≤ position ∧ position < place.offset + place.field.bits

end Place

/-- The places of fields of one category that lie behind each other from `start` on. -/
def fieldPlaces (category : String) (start : Nat) : List FieldSpec → List Place
  | [] => []
  | spec :: rest => ⟨category, spec, start⟩ :: fieldPlaces category (start + spec.bits) rest

/-- Categories that lie behind each other from `start` on, by name and with the places of their
fields. -/
def categoryPlaces (start : Nat) : List CategorySpec → List (String × List Place)
  | [] => []
  | category :: rest =>
      (category.name, fieldPlaces category.name start category.fields) ::
        categoryPlaces (start + category.width) rest

/-- The number of bits that categories take together. -/
def totalWidth (categories : List CategorySpec) : Nat :=
  categories.foldr (fun category total => category.width + total) 0

@[simp] theorem widthOf_nil : widthOf [] = 0 := rfl

@[simp] theorem widthOf_cons (spec : FieldSpec) (rest : List FieldSpec) :
    widthOf (spec :: rest) = spec.bits + widthOf rest := rfl

@[simp] theorem totalWidth_nil : totalWidth [] = 0 := rfl

@[simp] theorem totalWidth_cons (category : CategorySpec) (rest : List CategorySpec) :
    totalWidth (category :: rest) = category.width + totalWidth rest := rfl

theorem mem_fieldPlaces_iff {category : String} {start : Nat} {fields : List FieldSpec}
    {place : Place} :
    place ∈ fieldPlaces category start fields ↔
      ∃ earlier later, fields = earlier ++ place.field :: later ∧ place.category = category ∧
        place.offset = start + widthOf earlier := by
  induction fields generalizing start with
  | nil => simp [fieldPlaces]
  | cons spec rest ih =>
      rw [fieldPlaces, List.mem_cons, ih]
      constructor
      · rintro (rfl | ⟨earlier, later, hfields, hcategory, hoffset⟩)
        · exact ⟨[], rest, rfl, rfl, rfl⟩
        · refine ⟨spec :: earlier, later, by rw [hfields, List.cons_append], hcategory, ?_⟩
          rw [hoffset, widthOf_cons, Nat.add_assoc]
      · rintro ⟨_ | ⟨first, earlier⟩, later, hfields, hcategory, hoffset⟩
        · obtain ⟨rfl, rfl⟩ := List.cons.inj hfields
          exact .inl (by cases place; simp_all)
        · obtain ⟨rfl, rfl⟩ := List.cons.inj hfields
          refine .inr ⟨earlier, later, rfl, hcategory, ?_⟩
          rw [hoffset, widthOf_cons, Nat.add_assoc]

theorem mem_categoryPlaces_iff {start : Nat} {categories : List CategorySpec} {name : String}
    {places : List Place} :
    (name, places) ∈ categoryPlaces start categories ↔
      ∃ before category after, categories = before ++ category :: after ∧ name = category.name ∧
        places = fieldPlaces category.name (start + totalWidth before) category.fields := by
  induction categories generalizing start with
  | nil => simp [categoryPlaces]
  | cons first rest ih =>
      rw [categoryPlaces, List.mem_cons, ih]
      constructor
      · rintro (heq | ⟨before, category, after, hcategories, hname, hplaces⟩)
        · obtain ⟨rfl, rfl⟩ := Prod.mk.inj heq
          exact ⟨[], first, rest, rfl, rfl, rfl⟩
        · refine ⟨first :: before, category, after, ?_, hname, ?_⟩
          · rw [hcategories, List.cons_append]
          · rw [hplaces, totalWidth_cons, Nat.add_assoc]
      · rintro ⟨_ | ⟨other, before⟩, category, after, hcategories, hname, hplaces⟩
        · obtain ⟨rfl, rfl⟩ := List.cons.inj hcategories
          exact .inl (Prod.ext hname hplaces)
        · obtain ⟨rfl, rfl⟩ := List.cons.inj hcategories
          refine .inr ⟨before, category, after, rfl, hname, ?_⟩
          rw [hplaces, totalWidth_cons, Nat.add_assoc]

theorem widthOf_append (first second : List FieldSpec) :
    widthOf (first ++ second) = widthOf first + widthOf second := by
  induction first with
  | nil => exact (Nat.zero_add _).symm
  | cons spec rest ih => rw [List.cons_append, widthOf_cons, widthOf_cons, ih, Nat.add_assoc]

theorem map_field_fieldPlaces (category : String) (start : Nat) (fields : List FieldSpec) :
    (fieldPlaces category start fields).map Place.field = fields := by
  induction fields generalizing start with
  | nil => rfl
  | cons spec rest ih => exact congrArg (spec :: ·) (ih _)

theorem map_field_categoryPlaces (start : Nat) (categories : List CategorySpec) :
    ((categoryPlaces start categories).flatMap Prod.snd).map Place.field =
      categories.flatMap CategorySpec.fields := by
  induction categories generalizing start with
  | nil => rfl
  | cons category rest ih =>
      rw [categoryPlaces, List.flatMap_cons, List.map_append, map_field_fieldPlaces, ih,
        List.flatMap_cons]

theorem widthOf_flatMap_fields (categories : List CategorySpec) :
    widthOf (categories.flatMap CategorySpec.fields) = totalWidth categories := by
  induction categories with
  | nil => rfl
  | cons category rest ih =>
      rw [List.flatMap_cons, widthOf_append, category.spans, ih, totalWidth_cons]

/-- The places follow each other without gaps, the first of them at `start`. -/
def Adjoin (start : Nat) : List Place → Prop
  | [] => True
  | place :: rest => place.offset = start ∧ Adjoin (start + place.field.bits) rest

theorem Adjoin.append {start : Nat} {first second : List Place} (hfirst : Adjoin start first)
    (hsecond : Adjoin (start + widthOf (first.map Place.field)) second) :
    Adjoin start (first ++ second) := by
  induction first generalizing start with
  | nil => exact hsecond
  | cons place rest ih =>
      refine ⟨hfirst.1, ih hfirst.2 ?_⟩
      rwa [List.map_cons, widthOf_cons, ← Nat.add_assoc] at hsecond

/-- Places that follow each other lie inside the bits that their fields take together. -/
theorem Adjoin.inside {start : Nat} {places : List Place} (h : Adjoin start places) {place : Place}
    (hmem : place ∈ places) :
    start ≤ place.offset ∧
      place.offset + place.field.bits ≤ start + widthOf (places.map Place.field) := by
  induction places generalizing start with
  | nil => exact nomatch hmem
  | cons first rest ih =>
      rw [List.map_cons, widthOf_cons]
      obtain ⟨hfirst, hrest⟩ := h
      rcases List.mem_cons.mp hmem with rfl | hmem
      · omega
      · have := ih hrest hmem
        omega

/-- No bit belongs to two places. -/
theorem Adjoin.eq_of_holds {start : Nat} {places : List Place} (h : Adjoin start places)
    {first second : Place} (hfirst : first ∈ places) (hsecond : second ∈ places) {position : Nat}
    (hfirstHolds : first.Holds position) (hsecondHolds : second.Holds position) :
    first = second := by
  induction places generalizing start with
  | nil => exact nomatch hfirst
  | cons place rest ih =>
      obtain ⟨hplace, hrest⟩ := h
      -- the places behind the first one begin where it ends
      have hbehind : ∀ other ∈ rest, place.Holds position → ¬ other.Holds position := by
        intro other hother hholds hotherHolds
        have := (hrest.inside hother).1
        unfold Place.Holds at hholds hotherHolds
        omega
      rcases List.mem_cons.mp hfirst with rfl | hfirstRest
      · rcases List.mem_cons.mp hsecond with rfl | hsecondRest
        · rfl
        · exact absurd hsecondHolds (hbehind second hsecondRest hfirstHolds)
      · rcases List.mem_cons.mp hsecond with rfl | hsecondRest
        · exact absurd hfirstHolds (hbehind first hfirstRest hsecondHolds)
        · exact ih hrest hfirstRest hsecondRest

theorem adjoin_fieldPlaces (category : String) (start : Nat) (fields : List FieldSpec) :
    Adjoin start (fieldPlaces category start fields) := by
  induction fields generalizing start with
  | nil => trivial
  | cons spec rest ih => exact ⟨rfl, ih _⟩

theorem adjoin_categoryPlaces (start : Nat) (categories : List CategorySpec) :
    Adjoin start ((categoryPlaces start categories).flatMap Prod.snd) := by
  induction categories generalizing start with
  | nil => trivial
  | cons category rest ih =>
      refine (adjoin_fieldPlaces category.name start category.fields).append ?_
      rw [map_field_fieldPlaces, category.spans]
      exact ih _

/-- The visible values at places, by field name. -/
def namedValues (payload : Bytes) (places : List Place) : List (String × FieldValue) :=
  (places.filter Place.isVisible).map fun place => (place.field.name, place.value payload)

theorem namedValues_cons (payload : Bytes) (place : Place) (rest : List Place) :
    namedValues payload (place :: rest) =
      if place.field.isReserved then namedValues payload rest
      else (place.field.name, place.value payload) :: namedValues payload rest := by
  unfold namedValues
  by_cases hreserved : place.field.isReserved
  · rw [List.filter_cons_of_neg (by simp [Place.isVisible, hreserved]), if_pos hreserved]
  · rw [List.filter_cons_of_pos (by simp [Place.isVisible, hreserved]), if_neg hreserved,
      List.map_cons]

/-- What shows in a value but its number comes from the fields that are not reserved, in order. -/
theorem map_namedValues {α : Type} {payload : Bytes} {view : String × FieldValue → α}
    {select : FieldSpec → α}
    (h : ∀ place : Place, view (place.field.name, place.value payload) = select place.field)
    (category : String) (start : Nat) (fields : List FieldSpec) :
    (namedValues payload (fieldPlaces category start fields)).map view =
      (fields.filter fun spec => !spec.isReserved).map select := by
  induction fields generalizing start with
  | nil => rfl
  | cons spec rest ih =>
      rw [fieldPlaces, namedValues_cons, List.filter_cons]
      cases hreserved : spec.isReserved with
      | true => exact ih _
      | false => exact congrArg₂ List.cons (h ⟨category, spec, start⟩) (ih _)

theorem map_fst_namedValues (payload : Bytes) (category : String) (start : Nat)
    (fields : List FieldSpec) :
    (namedValues payload (fieldPlaces category start fields)).map Prod.fst = fieldNames fields :=
  map_namedValues (fun _ => rfl) category start fields

/-- A category of a snapshot, told from the places. -/
def categoryAt (payload : Bytes) (group : String × List Place) : Category :=
  ⟨group.1, namedValues payload group.2⟩

theorem map_categoryPlaces {α : Type} {view : String × List Place → α} {select : CategorySpec → α}
    (h : ∀ category start,
      view (category.name, fieldPlaces category.name start category.fields) = select category)
    (start : Nat) (categories : List CategorySpec) :
    (categoryPlaces start categories).map view = categories.map select := by
  induction categories generalizing start with
  | nil => rfl
  | cons category rest ih => exact congrArg₂ List.cons (h category start) (ih _)

namespace BeaconDecoder

variable (decoder : BeaconDecoder)

/-- All fields of a beacon where they lie, in order. -/
def places : List Place := (categoryPlaces 0 decoder.categories).flatMap Prod.snd

/-- The snapshot of a complete payload, told from the places. -/
def snapshotAt (payload : Bytes) : Snapshot :=
  ⟨(categoryPlaces 0 decoder.categories).map (categoryAt payload)⟩

theorem width_eq : decoder.width = totalWidth decoder.categories := rfl

/-- A field lies behind all earlier categories and all earlier fields of its own one. -/
theorem mem_places_iff {place : Place} :
    place ∈ decoder.places ↔
      ∃ before category after earlier later,
        decoder.categories = before ++ category :: after ∧
          category.fields = earlier ++ place.field :: later ∧ place.category = category.name ∧
          place.offset = totalWidth before + widthOf earlier := by
  rw [places, List.mem_flatMap]
  constructor
  · rintro ⟨⟨name, places⟩, hgroup, hplace⟩
    obtain ⟨before, category, after, hcategories, -, rfl⟩ := mem_categoryPlaces_iff.mp hgroup
    obtain ⟨earlier, later, hfields, hcategory, hoffset⟩ := mem_fieldPlaces_iff.mp hplace
    rw [Nat.zero_add] at hoffset
    exact ⟨before, category, after, earlier, later, hcategories, hfields, hcategory, hoffset⟩
  · rintro ⟨before, category, after, earlier, later, hcategories, hfields, hcategory, hoffset⟩
    refine ⟨_, mem_categoryPlaces_iff.mpr ⟨before, category, after, hcategories, rfl, rfl⟩, ?_⟩
    refine mem_fieldPlaces_iff.mpr ⟨earlier, later, hfields, hcategory, ?_⟩
    rw [hoffset, Nat.zero_add]

/-- The places are those of all fields, in the order of the layout. -/
theorem map_field_places :
    decoder.places.map Place.field = decoder.categories.flatMap CategorySpec.fields :=
  map_field_categoryPlaces 0 decoder.categories

theorem widthOf_places : widthOf (decoder.places.map Place.field) = decoder.width := by
  rw [map_field_places, widthOf_flatMap_fields, width_eq]

theorem adjoin_places : Adjoin 0 decoder.places := adjoin_categoryPlaces 0 decoder.categories

theorem end_le_width {place : Place} (h : place ∈ decoder.places) :
    place.offset + place.field.bits ≤ decoder.width := by
  have hinside := (decoder.adjoin_places.inside h).2
  rwa [widthOf_places, Nat.zero_add] at hinside

/-- A place is that of a field of the category whose name it has. -/
theorem exists_category_of_mem_places {place : Place} (h : place ∈ decoder.places) :
    ∃ category ∈ decoder.categories, place.category = category.name ∧
      place.field ∈ category.fields := by
  obtain ⟨before, category, after, earlier, later, hcategories, hfields, hname, -⟩ :=
    decoder.mem_places_iff.mp h
  refine ⟨category, ?_, hname, ?_⟩
  · rw [hcategories]
    exact List.mem_append_cons_self
  · rw [hfields]
    exact List.mem_append_cons_self

theorem valid_of_mem_places {place : Place} (h : place ∈ decoder.places) : place.field.Valid := by
  obtain ⟨category, -, -, hfield⟩ := decoder.exists_category_of_mem_places h
  exact category.readable place.field hfield

end BeaconDecoder

/-- A reserved run and a big endian field that its octets do not share with those of a payload. -/
def skewedClock : CategorySpec :=
  ⟨"clock", [⟨"gap", 3, .reserved, .little⟩, ⟨"ticks", 16, .hex, .big⟩], 19, by decide, by decide,
    by decide, rfl⟩

/-- A field and a reserved run of the same name. -/
def skewedState : CategorySpec :=
  ⟨"state", [⟨"mode", 2, .decimal, .little⟩, ⟨"mode", 9, .reserved, .little⟩], 11, by decide,
    by decide, by decide, rfl⟩

/-- A layout for examples, in which hardly anything begins with an octet. -/
def skewedBeacon : BeaconDecoder := ⟨[skewedClock, skewedState], by decide⟩

end GroundLink.Telemetry
