import GroundLink.Telemetry.Category

/-! # Beacons

A beacon describes nothing of itself: its payload is the configured categories, one
behind the other. Decoding gives a snapshot of all their values, and counts the bits
left over behind the last category.
-/

namespace GroundLink.Telemetry

/-- Everything decoded from one beacon, category by category. -/
structure Snapshot where
  categories : List Category
  deriving Repr, DecidableEq

namespace Snapshot

def category? (snapshot : Snapshot) (name : String) : Option Category :=
  snapshot.categories.find? fun category => category.name == name

/-- The raw value of one field. -/
def value? (snapshot : Snapshot) (category field : String) : Option Nat := do
  let found ← snapshot.category? category
  let value ← found.get? field
  pure value.raw

def text (snapshot : Snapshot) : String :=
  String.join (snapshot.categories.map Category.text)

/-- The values by category and field name, as they are stored. -/
def stored (snapshot : Snapshot) : List (String × List (String × StoredValue)) :=
  snapshot.categories.map fun category => (category.name, category.stored)

/-- The stored values in JSON. -/
def serialized (snapshot : Snapshot) : String :=
  JsonText.object (snapshot.categories.map fun category => (category.name, category.serialized))

end Snapshot

/-- A snapshot and, if there are any, the number of bits behind the last category. -/
structure DecodedBeacon where
  snapshot : Snapshot
  trailing : Option Nat
  deriving Repr, DecidableEq

/-- How left-over bits are reported. -/
def trailingText (bits : Nat) : String := s!"{bits} trailing bits after the last category"

/-- The categories of a beacon, no two of one name. -/
structure BeaconDecoder where
  categories : List CategorySpec
  distinct : (categories.map CategorySpec.name).Nodup

/-- The first name that is `seen` or repeats an earlier one. -/
def repeated? (seen : List String) : List String → Option String
  | [] => none
  | name :: rest => if name ∈ seen then some name else repeated? (name :: seen) rest

theorem repeated?_eq_none_iff {seen names : List String} :
    repeated? seen names = none ↔ names.Nodup ∧ ∀ name ∈ names, name ∉ seen := by
  induction names generalizing seen with
  | nil => simp [repeated?]
  | cons name rest ih =>
      by_cases hseen : name ∈ seen
      · simp [repeated?, hseen]
      · simp only [repeated?, hseen, if_false, ih, List.nodup_cons, List.mem_cons, not_or,
          forall_eq_or_imp, not_false_eq_true, true_and]
        constructor
        · rintro ⟨hnodup, hnew⟩
          exact ⟨⟨fun hmem => (hnew _ hmem).1 rfl, hnodup⟩,
            fun other hother => (hnew other hother).2⟩
        · rintro ⟨⟨hfresh, hnodup⟩, hnew⟩
          exact ⟨hnodup,
            fun other hother => ⟨fun heq => hfresh (heq ▸ hother), hnew other hother⟩⟩

/-- The categories from the cursor on, and the cursor behind them. A payload that ends
inside a category is refused before anything of the category is read. -/
def decodeCategories : List CategorySpec → BitCursor →
    Except TelemetryError (List Category × BitCursor)
  | [], cursor => .ok ([], cursor)
  | category :: rest, cursor =>
      if cursor.remaining < category.width then
        .error (.truncated category.name cursor.total (cursor.position + category.width))
      else
        match category.parse cursor with
        | (.error error, _) => .error error
        | (.ok first, next) => do
            let (others, last) ← decodeCategories rest next
            .ok (first :: others, last)

namespace BeaconDecoder

def ofCategories (categories : List CategorySpec) : Except TelemetryError BeaconDecoder :=
  match h : repeated? [] (categories.map CategorySpec.name) with
  | some name => .error (.inconsistent name .repeatedCategory)
  | none => .ok ⟨categories, (repeated?_eq_none_iff.mp h).1⟩

/-- The number of bits of a complete beacon. -/
def width (decoder : BeaconDecoder) : Nat :=
  decoder.categories.foldr (fun category total => category.width + total) 0

def decode (decoder : BeaconDecoder) (payload : Bytes) : Except TelemetryError DecodedBeacon := do
  let (categories, last) ← decodeCategories decoder.categories (BitCursor.ofBytes payload)
  .ok ⟨⟨categories⟩, if last.remaining = 0 then none else some last.remaining⟩

end BeaconDecoder

end GroundLink.Telemetry
