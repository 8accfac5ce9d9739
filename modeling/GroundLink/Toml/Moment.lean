import GroundLink.Toml.Scan

/-! # Dates and times of a document

A moment is a date, a time of day, or both with or without an offset. It has to exist
in the calendar; a minute may have a leap second.
-/

namespace GroundLink.Toml.Scan

/-- A number of exactly `count` digits between the bounds. -/
def fixedNumber (count low high : Nat) : Scan Nat := fun text =>
  let found := text.take count
  if found.length = count ∧ found.all Char.isDigit then
    let n := found.foldl (fun value c => value * 10 + (c.toNat - '0'.toNat)) 0
    if low ≤ n ∧ n ≤ high then some (n, text.drop count) else none
  else none

def daysInMonth (year month : Nat) : Nat :=
  if month = 2 then
    if year % 4 = 0 ∧ (year % 100 ≠ 0 ∨ year % 400 = 0) then 29 else 28
  else if month = 4 ∨ month = 6 ∨ month = 9 ∨ month = 11 then 30
  else 31

def date : Scan Unit := fun text => do
  let (year, rest) ← fixedNumber 4 0 9999 text
  let rest ← exactly '-' rest
  let (month, rest) ← fixedNumber 2 1 12 rest
  let rest ← exactly '-' rest
  let (_, rest) ← fixedNumber 2 1 (daysInMonth year month) rest
  pure ((), rest)

/-- The decimals of a second. -/
def secondParts (text : List Char) : Option (List Char) :=
  match text with
  | '.' :: rest =>
      match rest.takeWhile Char.isDigit with
      | [] => none
      | _ => some (rest.dropWhile Char.isDigit)
  | rest => some rest

def timeOfDay : Scan Unit := fun text => do
  let (_, rest) ← fixedNumber 2 0 23 text
  let rest ← exactly ':' rest
  let (_, rest) ← fixedNumber 2 0 59 rest
  let rest ← exactly ':' rest
  let (_, rest) ← fixedNumber 2 0 60 rest
  let rest ← secondParts rest
  pure ((), rest)

/-- The distance from universal time. -/
def offset : Scan Unit
  | 'Z' :: rest => some ((), rest)
  | 'z' :: rest => some ((), rest)
  | c :: rest =>
      if c = '+' ∨ c = '-' then do
        let (_, rest) ← fixedNumber 2 0 23 rest
        let rest ← exactly ':' rest
        let (_, rest) ← fixedNumber 2 0 59 rest
        pure ((), rest)
      else none
  | [] => none

/-- Behind a date, a time of day with a letter or a space in front. -/
def timeBehindDate : Scan Unit
  | c :: rest =>
      if c = 'T' ∨ c = 't' ∨ c = ' ' then do
        let (_, rest) ← timeOfDay rest
        match offset rest with
        | some (_, rest) => pure ((), rest)
        | none => pure ((), rest)
      else none
  | [] => none

def moment : Scan Unit := fun text =>
  match date text with
  | some (_, rest) =>
      match timeBehindDate rest with
      | some (_, rest) => some ((), rest)
      | none => some ((), rest)
  | none => timeOfDay text

end GroundLink.Toml.Scan
