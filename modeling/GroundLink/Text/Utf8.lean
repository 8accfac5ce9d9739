import GroundLink.Bytes

/-! # UTF-8 text on the link

Command lines and responses are UTF-8. Decoding either gives the text or says
where the valid part ends and whether the octets there are wrong or merely cut
short.
-/

namespace GroundLink.Utf8

/-- What is wrong with octets that are no text. The position is the length of the
valid part. -/
inductive Fault where
  /-- The octets that follow begin no character; `length` of them already rule one out. -/
  | invalid (position length : Nat)
  /-- The octets end inside a character that was valid so far. -/
  | incomplete (position : Nat)
  deriving Repr, DecidableEq

namespace Fault

def message : Fault → String
  | invalid position length =>
      s!"invalid utf-8 sequence of {length} bytes from index {position}"
  | incomplete position => s!"incomplete utf-8 byte sequence from index {position}"

end Fault

/-- The ranges of the octets that complete a character begun by `lead`, or `none`
if no character begins with it. The narrow second ranges exclude overlong forms,
surrogates and numbers beyond the last code point. -/
def followers? (lead : UInt8) : Option (List (UInt8 × UInt8)) :=
  let any : UInt8 × UInt8 := (0x80, 0xBF)
  if lead < 0x80 then some []
  else if lead < 0xC2 then none
  else if lead < 0xE0 then some [any]
  else if lead = 0xE0 then some [(0xA0, 0xBF), any]
  else if lead = 0xED then some [(0x80, 0x9F), any]
  else if lead < 0xF0 then some [any, any]
  else if lead = 0xF0 then some [(0x90, 0xBF), any, any]
  else if lead < 0xF4 then some [any, any, any]
  else if lead = 0xF4 then some [(0x80, 0x8F), any, any]
  else none

/-- The first fault of the octets, where `position` counts those before the current
character, `seen` those of the character itself, and `expected` holds the ranges
still to come. -/
def faultFrom (position seen : Nat) (expected : List (UInt8 × UInt8)) : Bytes → Option Fault
  | [] => if seen = 0 then none else some (.incomplete position)
  | b :: rest =>
      match expected with
      | [] =>
          match followers? b with
          | none => some (.invalid position 1)
          | some [] => faultFrom (position + 1) 0 [] rest
          | some (range :: more) => faultFrom position 1 (range :: more) rest
      | (low, high) :: more =>
          if low ≤ b ∧ b ≤ high then
            match more with
            | [] => faultFrom (position + seen + 1) 0 [] rest
            | range :: others => faultFrom position (seen + 1) (range :: others) rest
          else some (.invalid position seen)

/-- The first fault of octets that are no text. -/
def fault (bytes : Bytes) : Fault := (faultFrom 0 0 [] bytes).getD (.incomplete bytes.length)

/-- The octets of a text. -/
def encode (text : String) : Bytes := text.toUTF8.data.toList

/-- The text that the octets spell. -/
def decode (bytes : Bytes) : Except Fault String :=
  match String.fromUTF8? ⟨bytes.toArray⟩ with
  | some text => .ok text
  | none => .error (fault bytes)

theorem fromUTF8?_eq_some {octets : ByteArray} {text : String} :
    String.fromUTF8? octets = some text ↔ octets = text.toUTF8 := by
  unfold String.fromUTF8?
  split
  · rename_i h
    constructor
    · intro heq
      cases heq
      rfl
    · intro heq
      cases heq
      rfl
  · rename_i h
    constructor
    · intro heq
      exact nomatch heq
    · intro heq
      exact absurd (heq ▸ text.isValidUTF8) h

@[simp] theorem decode_encode (text : String) : decode (encode text) = .ok text := by
  have h : String.fromUTF8? ⟨(encode text).toArray⟩ = some text :=
    fromUTF8?_eq_some.mpr (by simp [encode])
  simp [decode, h]

theorem encode_of_decode {bytes : Bytes} {text : String} (h : decode bytes = .ok text) :
    encode text = bytes := by
  unfold decode at h
  split at h
  · rename_i found hfound
    have heq := fromUTF8?_eq_some.mp hfound
    cases h
    rw [encode, ← heq]
  · exact nomatch h

end GroundLink.Utf8
