import GroundLink.Toml.Scan

/-! # Numbers of a document

Integers are decimal with a sign, or unsigned to one of three other bases, and have to
fit into 64 signed bits. Underscores stand between digits only. A decimal number does
not begin with a superfluous zero. A fraction is refused if it is too large to be
finite.
-/

namespace GroundLink.Toml.Scan

/-- One further digit, perhaps behind an underscore. -/
def furtherDigit (isDigit : Char → Bool) : Scan Char
  | '_' :: rest => oneOf isDigit rest
  | text => oneOf isDigit text

/-- Digits with underscores between them. -/
def digits (isDigit : Char → Bool) : Scan (List Char) := fun text => do
  let (first, rest) ← oneOf isDigit text
  let (others, rest) := many (furtherDigit isDigit) rest
  pure (first :: others, rest)

/-- A sign, if there is one, and whether it is a minus. -/
def sign : List Char → Bool × List Char
  | '+' :: rest => (false, rest)
  | '-' :: rest => (true, rest)
  | text => (false, text)

/-- The digits of a decimal number: a lone zero, or digits that begin with another one. -/
def wholeDigits : Scan (List Char)
  | '0' :: rest => some (['0'], rest)
  | text => digits Char.isDigit text

/-- The number that decimal digits spell. -/
def decimalValue (digits : List Char) : Nat :=
  digits.foldl (fun value c => value * 10 + (c.toNat - '0'.toNat)) 0

/-- Digits to another base. -/
def digitsToBase (base : Nat) (text : List Char) : Option (Nat × List Char) := do
  let digit? (c : Char) : Option Nat :=
    let n := if c.isDigit then c.toNat - '0'.toNat
      else if 'a' ≤ c ∧ c ≤ 'f' then c.toNat - 'a'.toNat + 10
      else if 'A' ≤ c ∧ c ≤ 'F' then c.toNat - 'A'.toNat + 10
      else base
    if n < base then some n else none
  let (found, rest) ← digits (fun c => (digit? c).isSome) text
  pure (found.foldl (fun value c => value * base + (digit? c).getD 0) 0, rest)

/-- An integer of 64 signed bits. -/
def inRange (n : Int) : Option Int :=
  let bound : Int := Nat.pow 2 63
  if -bound ≤ n ∧ n < bound then some n else none

def integer : Scan Int := fun text =>
  match text with
  | '0' :: 'x' :: rest => unsigned 16 rest
  | '0' :: 'o' :: rest => unsigned 8 rest
  | '0' :: 'b' :: rest => unsigned 2 rest
  | text => do
      let (negative, rest) := sign text
      let (found, rest) ← wholeDigits rest
      let n : Int := decimalValue found
      let n ← inRange (if negative then -n else n)
      pure (n, rest)
where
  unsigned (base : Nat) : Scan Int := fun text => do
    let (n, rest) ← digitsToBase base text
    let n ← inRange n
    pure (n, rest)

/-- Whether `mantissa` with the decimal point moved by `exponent` places is at least half a
step above the largest finite number of double precision. -/
def exceedsDouble (mantissa : Nat) (exponent : Int) : Bool :=
  let bound := Nat.pow 2 1024 - Nat.pow 2 970
  if mantissa = 0 then false
  else if exponent > 400 then true
  else if exponent ≥ 0 then mantissa * Nat.pow 10 exponent.toNat ≥ bound
  else
    let places := exponent.natAbs
    if places ≥ (Nat.toDigits 10 mantissa).length then false
    else mantissa ≥ bound * Nat.pow 10 places

/-- The part of a fraction behind the point. -/
def fractionPart : Scan (List Char)
  | '.' :: rest => digits Char.isDigit rest
  | _ => none

/-- The exponent of a fraction. -/
def exponentPart : Scan Int
  | c :: rest =>
      if c = 'e' ∨ c = 'E' then do
        let (negative, rest) := sign rest
        let (found, rest) ← digits Char.isDigit rest
        let n : Int := decimalValue found
        pure (if negative then -n else n, rest)
      else none
  | [] => none

/-- A number with a point or an exponent, or one of the words for what is no number. -/
def fraction : Scan Unit := fun text =>
  let (negative, rest) := sign text
  match rest with
  | 'i' :: 'n' :: 'f' :: rest => some ((), rest)
  | 'n' :: 'a' :: 'n' :: rest => some ((), rest)
  | rest => do
      let (whole, rest) ← wholeDigits rest
      let (places, exponent, rest) ←
        match fractionPart rest with
        | some (places, rest) =>
            match exponentPart rest with
            | some (exponent, rest) => some (places, exponent, rest)
            | none => some (places, 0, rest)
        | none =>
            match exponentPart rest with
            | some (exponent, rest) => some ([], exponent, rest)
            | none => none
      if !negative && exceedsDouble (decimalValue (whole ++ places)) (exponent - places.length) then
        none
      else some ((), rest)

end GroundLink.Toml.Scan
