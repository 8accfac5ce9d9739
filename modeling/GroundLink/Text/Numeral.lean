/-! # Numerals

Numbers are written in decimal without padding, or to a base with a fixed or a least count
of digits. A decimal is read digit by digit up to a limit, so that the first thing
wrong with it decides what is reported.
-/

namespace GroundLink.Numeral

/-- Decimal digits, as few as possible. -/
def decimal (n : Nat) : String := String.ofList (Nat.toDigits 10 n)

/-- Lower case hexadecimal digits, as few as possible. -/
def hex (n : Nat) : String := String.ofList (Nat.toDigits 16 n)

/-- The `width` low digits of a number to the base, most significant first. -/
def fixedDigits (base : Nat) : Nat → Nat → List Nat
  | 0, _ => []
  | width + 1, n => fixedDigits base width (n / base) ++ [n % base]

/-- The number that digits spell, most significant first. -/
def ofDigits (base : Nat) (digits : List Nat) : Nat :=
  digits.foldl (fun value digit => value * base + digit) 0

/-- Exactly `width` lower case digits to the base. -/
def fixed (base width n : Nat) : String :=
  String.ofList ((fixedDigits base width n).map Nat.digitChar)

/-- Upper case digits to the base, as few as possible but no fewer than `width`, with zeros in front
where there are not enough. -/
def padded (base width n : Nat) : String :=
  String.ofList (((Nat.toDigits base n).map Char.toUpper).leftpad width '0')

/-- An octet as `0x` and two lower case digits. -/
def octet (b : UInt8) : String := "0x" ++ fixed 16 2 b.toNat

theorem ofDigits_append (base : Nat) (digits : List Nat) (digit : Nat) :
    ofDigits base (digits ++ [digit]) = ofDigits base digits * base + digit := by
  simp [ofDigits]

/-- Why a text is no number. -/
inductive Fault where
  | empty
  | invalidDigit
  | tooLarge
  deriving Repr, DecidableEq

namespace Fault

def message : Fault → String
  | empty => "cannot parse integer from empty string"
  | invalidDigit => "invalid digit found in string"
  | tooLarge => "number too large to fit in target type"

end Fault

/-- Appends one digit to a value that has to stay below the limit. -/
def appendDigit (limit value : Nat) (c : Char) : Except Fault Nat :=
  if c.isDigit then
    let next := value * 10 + (c.toNat - '0'.toNat)
    if next < limit then .ok next else .error .tooLarge
  else .error .invalidDigit

/-- A number below `limit` in decimal, with an optional plus sign in front. -/
def read (limit : Nat) (text : List Char) : Except Fault Nat :=
  match text with
  | [] => .error .empty
  | ['+'] => .error .invalidDigit
  | '+' :: digits => digits.foldlM (appendDigit limit) 0
  | digits => digits.foldlM (appendDigit limit) 0

/-- One more than the largest number of 64 bits. -/
def wordLimit : Nat := Nat.pow 2 64

end GroundLink.Numeral
