import GroundLink.Telemetry.Beacon
import GroundLink.Toml.Document
import GroundLink.Toml.Reading

/-! # Layouts

Ground and satellite agree on the layout of a beacon in a document of categories and
fields. A layout is data; only the decoder made from it is known to be consistent.
-/

namespace GroundLink.Telemetry

/-- A field as it is written in a layout. -/
structure FieldLayout where
  name : String
  bits : Nat
  presentation : Presentation
  byteOrder : ByteOrder
  deriving Repr, DecidableEq

/-- A category as it is written in a layout, with or without the width it should have. -/
structure CategoryLayout where
  name : String
  bits : Option Nat
  fields : List FieldLayout
  deriving Repr, DecidableEq

structure BeaconLayout where
  categories : List CategoryLayout
  deriving Repr, DecidableEq

open Toml in
/-- A field has at most 255 bits as far as the document goes; a name, a presentation and a
byte order need not be given. -/
def FieldLayout.read? (value : Value) : Option FieldLayout := do
  let record ← Record.ofValue? value
  let name ← record.withDefault 0 "name" Value.string? "reserved"
  let bits ← record.required 1 "bits" (Value.natural? 256)
  let presentation ← record.withDefault 2 "presentation"
    (fun value => value.word?.bind Presentation.ofName?) .hex
  let byteOrder ← record.withDefault 3 "byte_order"
    (fun value => value.word?.bind ByteOrder.ofName?) .little
  pure ⟨name, bits, presentation, byteOrder⟩

open Toml in
def CategoryLayout.read? (value : Value) : Option CategoryLayout := do
  let record ← Record.ofValue? value
  let name ← record.required 0 "name" Value.string?
  let bits ← record.optional 1 "bits" (Value.natural? Numeral.wordLimit)
  let fields ← record.required 2 "field" fun value => value.items?.bind (·.mapM FieldLayout.read?)
  pure ⟨name, bits, fields⟩

namespace FieldLayout

def spec (field : FieldLayout) : FieldSpec where
  name := field.name
  bits := field.bits
  presentation := field.presentation
  byteOrder := field.byteOrder

end FieldLayout

namespace CategoryLayout

def spec (category : CategoryLayout) : Except TelemetryError CategorySpec :=
  CategorySpec.create category.name (category.fields.map FieldLayout.spec) category.bits

end CategoryLayout

namespace BeaconLayout

open Toml in
/-- The layout that a document describes, or `none` if it is no such document. -/
def parse? (text : String) : Option BeaconLayout := do
  let document ← Toml.parse? text
  let categories ← (Record.named document).required 0 "category" fun value =>
    value.items?.bind (·.mapM CategoryLayout.read?)
  pure ⟨categories⟩

/-- The decoder for the layout. The first category that is not consistent decides the error;
repeated names of categories come last. -/
def decoder (layout : BeaconLayout) : Except TelemetryError BeaconDecoder := do
  let categories ← layout.categories.mapM CategoryLayout.spec
  BeaconDecoder.ofCategories categories

/-- The layout that is used when none is configured. -/
def builtIn : BeaconLayout where
  categories :=
    [{ name := "02: Program State"
       bits := some 16
       fields :=
         [{ name := "Program CRC", bits := 16, presentation := .hex, byteOrder := .little }] }]

end BeaconLayout

end GroundLink.Telemetry
