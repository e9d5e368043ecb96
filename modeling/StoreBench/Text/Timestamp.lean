/-!
Contract: the text of an instant in coordinated universal time.

Owns: the calendar date of a day number, and the layout
`year-month-day hour:minute:second.millisecond`.
-/

namespace StoreBench.Text

/-- A day of the proleptic Gregorian calendar. -/
structure Date where
  year : Int
  month : Nat
  day : Nat
  deriving DecidableEq, Repr

/-- The date of the day `days` after 1970-01-01.

Years are counted from March, so that the leap day is the last day of a year; an era is
the 146097 days in which the calendar repeats. -/
def Date.ofDays (days : Int) : Date :=
  let shifted := days + 719468
  let era := shifted.fdiv 146097
  let dayOfEra := (shifted.fmod 146097).toNat
  let yearOfEra := (dayOfEra - dayOfEra / 1460 + dayOfEra / 36524 - dayOfEra / 146096) / 365
  let dayOfYear := dayOfEra - (365 * yearOfEra + yearOfEra / 4 - yearOfEra / 100)
  let marchMonth := (5 * dayOfYear + 2) / 153
  let month := if marchMonth < 10 then marchMonth + 3 else marchMonth - 9
  let year := (yearOfEra : Int) + era * 400
  { year := if month ≤ 2 then year + 1 else year
    month
    day := dayOfYear - (153 * marchMonth + 2) / 5 + 1 }

/-- A number padded with zeros to at least `width` digits. -/
def padded (width number : Nat) : String :=
  String.ofList (List.leftpad width '0' (toString number).toList)

/-- A year has at least four digits, and a sign unless it lies between 0 and 9999. -/
def yearText (year : Int) : String :=
  if year < 0 then "-" ++ padded 4 year.natAbs
  else if 9999 < year then "+" ++ padded 4 year.natAbs
  else padded 4 year.natAbs

/-- The instant `seconds` after the start of 1970 and `nanos` nanoseconds later.  A second
that is a leap second is written as one beyond 59. -/
def timestamp (seconds : Int) (nanos : Nat) : String :=
  let date := Date.ofDays (seconds.fdiv 86400)
  let second := (seconds.fmod 86400).toNat
  let fraction := nanos % 1000000000
  yearText date.year ++ "-" ++ padded 2 date.month ++ "-" ++ padded 2 date.day ++ " " ++
    padded 2 (second / 3600) ++ ":" ++ padded 2 (second / 60 % 60) ++ ":" ++
    padded 2 (second % 60 + nanos / 1000000000) ++ "." ++ padded 3 (fraction / 1000000)

end StoreBench.Text
