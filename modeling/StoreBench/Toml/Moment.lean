import StoreBench.Toml.Lexis

/-!
Contract: dates and times of day.

Owns: the reading of a date, of a time of day, and of both with a distance from universal time.
-/

namespace StoreBench.Toml

/-- Takes a number of exactly `count` digits off the front. -/
def fixedDigits? (count : Nat) (input : List Char) : Option (Nat × List Char) :=
  let digits := input.take count
  if digits.length = count ∧ digits.all Char.isDigit then
    some (digits.foldl (fun value digit => value * 10 + (digit.toNat - 48)) 0, input.drop count)
  else none

/-- Takes a two-digit number in a range off the front. -/
def twoDigits? (least greatest : Nat) (input : List Char) : Option (Nat × List Char) := do
  let (value, rest) ← fixedDigits? 2 input
  if least ≤ value ∧ value ≤ greatest then return (value, rest) else none

/-- Takes a character off the front. -/
def mark? (mark : Char) : List Char → Option (List Char)
  | first :: rest => if first = mark then some rest else none
  | [] => none

/-- The number of days of a month. -/
def daysIn (year month : Nat) : Nat :=
  let isLeap := year % 4 = 0 ∧ (year % 100 ≠ 0 ∨ year % 400 = 0)
  if month = 2 then (if isLeap then 29 else 28)
  else if month = 4 ∨ month = 6 ∨ month = 9 ∨ month = 11 then 30
  else 31

/-- Takes a date off the front. -/
def date? (input : List Char) : Option (List Char) := do
  let (year, rest) ← fixedDigits? 4 input
  let rest ← mark? '-' rest
  let (month, rest) ← twoDigits? 1 12 rest
  let rest ← mark? '-' rest
  let (_, rest) ← twoDigits? 1 (daysIn year month) rest
  return rest

/-- Takes a fraction of a second off the front, if there is one. -/
def secondFraction? : List Char → Option (List Char)
  | '.' :: digit :: rest => if digit.isDigit then some (rest.dropWhile Char.isDigit) else none
  | '.' :: [] => none
  | input => some input

/-- Takes a time of day off the front. -/
def time? (input : List Char) : Option (List Char) := do
  let (_, rest) ← twoDigits? 0 23 input
  let rest ← mark? ':' rest
  let (_, rest) ← twoDigits? 0 59 rest
  let rest ← mark? ':' rest
  let (_, rest) ← twoDigits? 0 60 rest
  secondFraction? rest

/-- Takes a distance from universal time off the front, if there is one. -/
def offset? : List Char → Option (List Char)
  | first :: rest =>
    if first = 'Z' ∨ first = 'z' then some rest
    else if first = '+' ∨ first = '-' then do
      let (_, rest) ← twoDigits? 0 23 rest
      let rest ← mark? ':' rest
      let (_, rest) ← twoDigits? 0 59 rest
      return rest
    else some (first :: rest)
  | [] => some []

/-- Takes the time of day behind a date off the front, if there is one. -/
def timeBehindDate? : List Char → Option (List Char)
  | separator :: rest =>
    if separator = 'T' ∨ separator = 't' ∨ separator = ' ' then
      match time? rest with
      | some rest => offset? rest
      | none => some (separator :: rest)
    else some (separator :: rest)
  | [] => some []

/-- Takes a date, a time of day or both off the front. -/
def moment? (input : List Char) : Option (List Char) :=
  match date? input with
  | some rest => timeBehindDate? rest
  | none => time? input

end StoreBench.Toml
