import GroundLink.Telemetry.BitCursor
import GroundLink.Telemetry.BitWriter
import GroundLink.Text.JsonText

/-! # Fields of a fixed width

A field is an unsigned number in a fixed run of bits. The bits are taken in stream
order; a big endian field consists of whole octets, and its octets are reversed.
How a value is shown does not change how it is read.
-/

namespace GroundLink.Telemetry

/-- How a value is shown. -/
inductive Presentation where
  | hex
  | decimal
  | flags
  /-- Read, but left out of the decoded category. -/
  | reserved
  deriving Repr, DecidableEq

namespace Presentation

def all : List Presentation := [hex, decimal, flags, reserved]

def name : Presentation → String
  | hex => "hex"
  | decimal => "decimal"
  | flags => "flags"
  | reserved => "reserved"

def ofName? (text : String) : Option Presentation := all.find? fun p => p.name == text

end Presentation

inductive ByteOrder where
  | little
  | big
  deriving Repr, DecidableEq

namespace ByteOrder

def all : List ByteOrder := [little, big]

def name : ByteOrder → String
  | little => "little"
  | big => "big"

def ofName? (text : String) : Option ByteOrder := all.find? fun order => order.name == text

end ByteOrder

/-- One field of a category. -/
structure FieldSpec where
  name : String
  bits : Nat
  presentation : Presentation
  byteOrder : ByteOrder := .little
  deriving Repr, DecidableEq

namespace FieldSpec

/-- A field can be read if a value holds it and its octets, if they are to be reversed,
are whole. -/
def Valid (spec : FieldSpec) : Prop :=
  1 ≤ spec.bits ∧ spec.bits ≤ maxFieldBits ∧ (spec.byteOrder = .big → spec.bits % 8 = 0)

instance (spec : FieldSpec) : Decidable spec.Valid := by unfold Valid; infer_instance

/-- The first reason why the field cannot be read. -/
def defect? (spec : FieldSpec) : Option Inconsistency :=
  if spec.bits = 0 ∨ spec.bits > maxFieldBits then some (.fieldWidth spec.bits)
  else if spec.byteOrder = .big ∧ spec.bits % 8 ≠ 0 then some (.partialOctets spec.bits)
  else none

theorem defect?_eq_none_iff {spec : FieldSpec} : spec.defect? = none ↔ spec.Valid := by
  unfold defect? Valid
  split
  · simp
    omega
  · split
    · simp_all
    · simp_all
      omega

def isReserved (spec : FieldSpec) : Bool := spec.presentation == .reserved

end FieldSpec

/-- A value together with the width and presentation of the field it came from. -/
structure FieldValue where
  raw : Nat
  bits : Nat
  presentation : Presentation
  deriving Repr, DecidableEq

namespace FieldValue

/-- The state of one flag, or `none` if the field has no such bit. -/
def bit? (value : FieldValue) (index : Nat) : Option Bool :=
  if index < value.bits then some (value.raw.testBit index) else none

/-- The indices of all set flags, lowest first. -/
def setFlags (value : FieldValue) : List Nat :=
  (List.range value.bits).filter value.raw.testBit

/-- Decimals are written as short as possible; in front of flags and hexadecimals stand as
many zeros as it takes to show every bit of the field. -/
def text (value : FieldValue) : String :=
  match value.presentation with
  | .decimal => Numeral.decimal value.raw
  | .flags => "0b" ++ Numeral.padded 2 value.bits value.raw
  | .hex | .reserved => "0x" ++ Numeral.padded 16 ((value.bits + 3) / 4) value.raw

/-- The value with its width and presentation, as stored in JSON. -/
def serialized (value : FieldValue) : String :=
  JsonText.object
    [("raw", Numeral.decimal value.raw), ("bits", Numeral.decimal value.bits),
      ("presentation", JsonText.string value.presentation.name)]

end FieldValue

/-- A value as it is stored for comparison with later ones. -/
inductive StoredValue where
  | number (n : Nat)
  | text (text : String)
  deriving Repr, DecidableEq

namespace StoredValue

/-- A number is stored bare and a text quoted. -/
def serialized : StoredValue → String
  | .number n => Numeral.decimal n
  | .text found => JsonText.string found

end StoredValue

/-- A value is stored as a number as long as 63 bits hold it, else as its text. -/
def FieldValue.stored (value : FieldValue) : StoredValue :=
  if value.raw < Nat.pow 2 63 then .number value.raw else .text value.text

/-- The eight octets of a word in reverse order. -/
def swapOctets (word : Nat) : Nat := Bytes.toNatBE (Bytes.ofNatLE 8 word)

/-- The number with its octets reversed, where `bits` of it are in use: reversed in a whole word,
they stand at its upper end. -/
def reverseOctets (bits value : Nat) : Nat := swapOctets value >>> (64 - bits)

namespace FieldSpec

/-- Between stream order and value: the octets of a big endian field are reversed. The
same change serves reading and writing. -/
def reorder (spec : FieldSpec) (value : Nat) : Nat :=
  match spec.byteOrder with
  | .little => value
  | .big => reverseOctets spec.bits value

def validate (spec : FieldSpec) : Except TelemetryError Unit :=
  match spec.defect? with
  | some reason => .error (.inconsistent spec.name reason)
  | none => .ok ()

/-- The value of the field at the cursor, and the cursor behind it. -/
def decode (spec : FieldSpec) (cursor : BitCursor) :
    Except (Failed BitCursor) (FieldValue × BitCursor) := do
  spec.validate.mapError (⟨·, cursor⟩)
  let (raw, next) ← cursor.read spec.bits
  .ok (⟨spec.reorder raw, spec.bits, spec.presentation⟩, next)

/-- Appends a value of the field. -/
def encode (spec : FieldSpec) (writer : BitWriter) (value : Nat) :
    Except (Failed BitWriter) BitWriter := do
  spec.validate.mapError (⟨·, writer⟩)
  if value > Bits.mask spec.bits then
    .error ⟨.valueTooLarge value spec.bits, writer⟩
  else
    .ok (writer.write (spec.reorder value) spec.bits)

end FieldSpec

end GroundLink.Telemetry
