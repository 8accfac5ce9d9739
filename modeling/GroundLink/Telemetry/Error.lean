import GroundLink.Text.Quoted

/-! # What can go wrong with telemetry

A layout is refused when it is inconsistent; a buffer is refused when it holds too
few bits. Each cause carries what its message needs.
-/

namespace GroundLink.Telemetry

/-- Why a layout, or a read of too many bits, makes no sense. -/
inductive Inconsistency where
  /-- The field has no bits, or more than a value can hold. -/
  | fieldWidth (bits : Nat)
  /-- The octets of the field cannot be reversed, because it does not consist of octets. -/
  | partialOctets (bits : Nat)
  | noFields
  | repeatedField (field : String)
  | declaredWidth (sum declared : Nat)
  | consumedWidth (consumed declared : Nat)
  | repeatedCategory
  /-- So many bits do not fit into one value. -/
  | wideRead (count : Nat)
  deriving Repr, DecidableEq

namespace Inconsistency

def message : Inconsistency → String
  | fieldWidth bits => s!"width of {bits} bits is outside 1..=64"
  | partialOctets bits =>
      s!"big endian field spans {bits} bits, which is not a whole number of bytes"
  | noFields => "category has no fields"
  | repeatedField field => "field " ++ Text.quoted field ++ " is declared twice"
  | declaredWidth sum declared =>
      s!"fields span {sum} bits, but the category declares {declared}"
  | consumedWidth consumed declared =>
      s!"decoding consumed {consumed} bits instead of {declared}"
  | repeatedCategory => "category is declared twice"
  | wideRead count => s!"{count} bits do not fit into a single value"

end Inconsistency

/-- Why reading or writing telemetry failed. -/
inductive TelemetryError where
  /-- A read at `offset` would run past the last of `available` bits. -/
  | outOfRange (offset requested available : Nat)
  | valueTooLarge (value bits : Nat)
  | inconsistent (name : String) (reason : Inconsistency)
  /-- The payload ends inside the category, which ends at bit `required`. -/
  | truncated (category : String) (available required : Nat)
  deriving Repr, DecidableEq

namespace TelemetryError

def message : TelemetryError → String
  | outOfRange offset requested available =>
      s!"reading {requested} bits at bit offset {offset} exceeds the {available} bit buffer"
  | valueTooLarge value bits =>
      "value 0x" ++ Numeral.hex value ++ s!" does not fit into {bits} bits"
  | inconsistent name reason =>
      "inconsistent layout " ++ Text.quoted name ++ ": " ++ reason.message
  | truncated category available required =>
      s!"beacon payload of {available} bits ends inside category " ++ Text.quoted category
        ++ s!", which needs {required} bits"

end TelemetryError

/-- A failure, and the cursor or the writer as it has been left. -/
structure Failed (σ : Type) where
  error : TelemetryError
  left : σ

instance {σ : Type} : CoeOut (Failed σ) TelemetryError := ⟨Failed.error⟩

end GroundLink.Telemetry
