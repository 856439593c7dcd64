/-!
# Points in time

The text of a point in time, given as the number of seconds since the beginning of 1970 in universal
time.  Dates follow the Gregorian calendar.  The days are counted from the first of March of the
year 0, so that a leap day is the last day of its year.
-/

namespace CodeDigest

/-- A day of the calendar. -/
structure Date where
  year : Nat
  month : Nat
  day : Nat
deriving Repr, DecidableEq

namespace Date

/-- The days from the first of March of the year 0 to the beginning of 1970. -/
def daysBefore1970 : Nat := 719468

/-- The days of four hundred years. -/
def daysOfEra : Nat := 146097

/-- The day that comes `days` days after the beginning of 1970. -/
def ofDays (days : Nat) : Date :=
  let days := days + daysBefore1970
  let inEra := days % daysOfEra
  let year := (inEra - inEra / 1460 + inEra / 36524 - inEra / 146096) / 365
  let inYear := inEra - (365 * year + year / 4 - year / 100)
  let monthFromMarch := (5 * inYear + 2) / 153
  let month := if monthFromMarch < 10 then monthFromMarch + 3 else monthFromMarch - 9
  { year := 400 * (days / daysOfEra) + year + if month ≤ 2 then 1 else 0
    month := month
    day := inYear - (153 * monthFromMarch + 2) / 5 + 1 }

example : ofDays 0 = ⟨1970, 1, 1⟩ := by decide

example : ofDays 11016 = ⟨2000, 2, 29⟩ := by decide

example : ofDays 20089 = ⟨2025, 1, 1⟩ := by decide

end Date

/-- A number with leading zeros. -/
def padded (width n : Nat) : String :=
  let digits := Nat.toDigits 10 n
  String.ofList (List.replicate (width - digits.length) '0' ++ digits)

/-- A point in time, given in seconds. -/
def timestamp (seconds : Nat) : String :=
  let date := Date.ofDays (seconds / 86400)
  let time := seconds % 86400
  padded 4 date.year ++ "-" ++ padded 2 date.month ++ "-" ++ padded 2 date.day ++ "T"
    ++ padded 2 (time / 3600) ++ ":" ++ padded 2 (time / 60 % 60) ++ ":" ++ padded 2 (time % 60)
    ++ "Z"

end CodeDigest
