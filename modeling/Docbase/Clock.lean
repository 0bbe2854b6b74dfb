/-!
# Clock

Time as a count of microseconds since the beginning of 1970, and its text in the proleptic
Gregorian calendar with milliseconds, the rest being cut off.
-/

namespace Docbase

/-- Microseconds since the beginning of 1970. -/
abbrev Instant := Int

namespace Clock

/-- A day of the calendar. -/
structure Date where
  /-- The year. -/
  year : Int
  /-- The month, from one. -/
  month : Nat
  /-- The day of the month, from one. -/
  day : Nat
  deriving DecidableEq, Repr

/-- The date that lies a number of days after the first of March of year zero. Years are counted
from March, so that the leap day is the last day of its year. -/
def dateOfMarchDay (days : Int) : Date :=
  let era := days.fdiv 146097
  let dayOfEra := (days.fmod 146097).toNat
  let yearOfEra := (dayOfEra - dayOfEra / 1460 + dayOfEra / 36524 - dayOfEra / 146096) / 365
  let dayOfYear := dayOfEra - (365 * yearOfEra + yearOfEra / 4 - yearOfEra / 100)
  let monthOfYear := (5 * dayOfYear + 2) / 153
  let day := dayOfYear - (153 * monthOfYear + 2) / 5 + 1
  let month := if monthOfYear < 10 then monthOfYear + 3 else monthOfYear - 9
  let year := era * 400 + yearOfEra + (if month ≤ 2 then 1 else 0)
  ⟨year, month, day⟩

/-- The days from the first of March of year zero to the beginning of 1970. -/
def epochDay : Int := 719468

/-- The date of a day counted from the beginning of 1970. -/
def dateOfDay (day : Int) : Date :=
  dateOfMarchDay (day + epochDay)

/-- The microseconds of a day. -/
def dayLength : Int := 86400000000

/-- A number with leading zeros, at least `width` digits long. -/
def padded (width n : Nat) : List Char :=
  let digits := Nat.toDigits 10 n
  List.replicate (width - digits.length) '0' ++ digits

/-- Hours, minutes and seconds of a day, from its microseconds. -/
def timeOfDay (micros : Nat) : List Char :=
  let seconds := micros / 1000000
  padded 2 (seconds / 3600) ++ ':' :: padded 2 (seconds / 60 % 60) ++ ':' :: padded 2 (seconds % 60)

/-- The time of day of an instant, to the second. -/
def timeText (instant : Instant) : String :=
  String.ofList (timeOfDay (instant.fmod dayLength).toNat)

/-- The text of an instant, to the millisecond. -/
def text (instant : Instant) : String :=
  let date := dateOfDay (instant.fdiv dayLength)
  let micros := (instant.fmod dayLength).toNat
  String.ofList <|
    padded 4 date.year.toNat ++ '-' :: padded 2 date.month ++ '-' :: padded 2 date.day ++ 'T' ::
      timeOfDay micros ++ '.' :: padded 3 (micros / 1000 % 1000) ++ ['Z']

end Clock

end Docbase
