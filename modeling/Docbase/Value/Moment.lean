import Docbase.Clock
import Docbase.Value.Basic

/-!
# Days and times as leaves

The leaves that settings and schema files write as days, times of day and moments, with an offset
from universal time in minutes where one is given.
-/

namespace Docbase

/-- A time of day. -/
structure DayTime where
  /-- The hour. -/
  hour : Nat
  /-- The minute. -/
  minute : Nat
  /-- The second. -/
  second : Nat
  /-- The microsecond. -/
  micros : Nat := 0

namespace Moment

/-- Whether a year has a leap day. -/
def isLeap (year : Nat) : Bool :=
  year % 4 == 0 && (year % 100 != 0 || year % 400 == 0)

/-- The number of days of a month. -/
def monthLength (year month : Nat) : Nat :=
  if month = 2 then if isLeap year then 29 else 28
  else if month ∈ [4, 6, 9, 11] then 30
  else 31

/-- Whether there is such a day. -/
def isDay (year month day : Nat) : Bool :=
  1 ≤ year && year ≤ 9999 && 1 ≤ month && month ≤ 12 && 1 ≤ day && day ≤ monthLength year month

/-- Whether there is such a time of day. -/
def isTime (time : DayTime) : Bool :=
  time.hour < 24 && time.minute < 60 && time.second < 60

/-- A number in decimal digits. -/
def numeral (n : Nat) : String :=
  String.ofList (Nat.toDigits 10 n)

/-- A number in at least so many decimal digits. -/
def padded (width n : Nat) : String :=
  String.ofList (Clock.padded width n)

/-- The text of a day. -/
def dayText (year month day : Nat) : String :=
  padded 4 year ++ "-" ++ padded 2 month ++ "-" ++ padded 2 day

/-- The text of a time of day; a fraction is written when there is one. -/
def timeText (time : DayTime) : String :=
  padded 2 time.hour ++ ":" ++ padded 2 time.minute ++ ":" ++ padded 2 time.second
    ++ if time.micros = 0 then "" else "." ++ padded 6 time.micros

/-- The text of an offset in minutes. -/
def offsetText (minutes : Int) : String :=
  (if minutes < 0 then "-" else "+") ++ padded 2 (minutes.natAbs / 60) ++ ":"
    ++ padded 2 (minutes.natAbs % 60)

/-- The parts of a time of day as shown: seconds and microseconds only as far as they are not
zero. -/
def shownTime (time : DayTime) : List String :=
  let parts := if time.micros ≠ 0 then [time.hour, time.minute, time.second, time.micros]
    else if time.second ≠ 0 then [time.hour, time.minute, time.second]
    else [time.hour, time.minute]
  parts.map numeral

/-- An offset as shown: whole days downwards, then seconds. -/
def shownOffset (minutes : Int) : String :=
  if minutes = 0 then "tzinfo=datetime.timezone.utc"
  else
    let days := if minutes < 0 then "days=-1, " else ""
    "tzinfo=datetime.timezone(datetime.timedelta(" ++ days ++ "seconds="
      ++ numeral ((minutes.fmod 1440).toNat * 60) ++ "))"

end Moment

namespace Leaf

open Moment

/-- A day, if there is such a day. -/
def day? (year month day : Nat) : Option Leaf :=
  if isDay year month day then
    some
      { kind := "date", text := dayText year month day
        shown := "datetime.date(" ++ ", ".intercalate ([year, month, day].map numeral) ++ ")" }
  else none

/-- A time of day. -/
def time (time : DayTime) : Leaf where
  kind := "time"
  text := timeText time
  shown := "datetime.time(" ++ ", ".intercalate (shownTime time) ++ ")"

/-- A moment, if there is such a day and time and the offset is shorter than a day. -/
def moment? (year month day : Nat) (time : DayTime) (offset : Option Int) : Option Leaf :=
  if isDay year month day && isTime time && decide ((offset.getD 0).natAbs < 1440) then
    let parts := [year, month, day].map numeral ++ shownTime time ++ (offset.map shownOffset).toList
    some
      { kind := "datetime"
        text := dayText year month day ++ " " ++ timeText time ++ (offset.map offsetText).getD ""
        shown := "datetime.datetime(" ++ ", ".intercalate parts ++ ")" }
  else none

end Leaf

end Docbase
