import BannedApi.Number.Decimal

/-!
Dates and times of a document, their order on the line of time, and their texts.
-/
namespace BannedApi

/-- A calendar date, or a date with a time of day and perhaps an offset from universal time in
minutes. -/
inductive Moment where
  | date (year month day : Nat)
  | dateTime (year month day hour minute second micro : Nat) (offset : Option Int)
  deriving DecidableEq, Repr

namespace Moment

/-! ### The calendar -/

/-- Whether a year has a twenty-ninth of February. -/
def isLeap (year : Nat) : Bool := year % 4 == 0 && (year % 100 != 0 || year % 400 == 0)

/-- The number of days of a month. -/
def daysIn (year month : Nat) : Nat :=
  if month == 2 then (if isLeap year then 29 else 28)
  else if month == 4 || month == 6 || month == 9 || month == 11 then 30
  else 31

/-- The number of days before a year, counted from the first day of year one. -/
def daysBefore (year : Nat) : Nat :=
  let y := year - 1
  365 * y + y / 4 - y / 100 + y / 400

/-- The number of a day; the first day of year one has the number one. -/
def dayNumber (year month day : Nat) : Nat :=
  daysBefore year
    + (List.range (month - 1)).foldr (fun m n => daysIn year (m + 1) + n) 0 + day

/-- The date of a day number: the year and the month are searched from an estimate on. -/
def dateOfDay (number : Nat) : Nat × Nat × Nat :=
  let guess := (number - 1) / 366 + 1
  let years := (List.range (number / 146097 + 400)).map (guess + ·)
  let year := (years.find? fun y => number ≤ daysBefore (y + 1)).getD guess
  let months := (List.range 12).map (· + 1)
  let month := (months.find? fun m => number ≤ dayNumber year m (daysIn year m)).getD 12
  (year, month, number - dayNumber year month 0)

/-! ### Moments that are none -/

/-- What is wrong with a date and time. -/
inductive Problem where
  | year | month | day | hour | minute | second
  /-- The offset, in minutes, is a day or more. -/
  | offset (minutes : Int)
  deriving DecidableEq, Repr

/-- A span of minutes as it is shown inside the listing of a value: whole days, and the seconds
left. -/
def spanQuoted (minutes : Int) : String :=
  let days := Int.fdiv minutes 1440
  let seconds := 60 * Int.fmod minutes 1440
  let parts :=
    (if days = 0 then [] else [s!"days={days}"])
      ++ (if seconds = 0 then [] else [s!"seconds={seconds}"])
  "datetime.timedelta(" ++ (if parts.isEmpty then "0" else String.intercalate ", " parts) ++ ")"

/-- The problem in words. -/
def Problem.message : Problem → String
  | .year => "year 0 is out of range"
  | .month => "month must be in 1..12"
  | .day => "day is out of range for month"
  | .hour => "hour must be in 0..23"
  | .minute => "minute must be in 0..59"
  | .second => "second must be in 0..59"
  | .offset minutes =>
    "offset must be a timedelta strictly between -timedelta(hours=24) and timedelta(hours=24), not "
      ++ spanQuoted minutes ++ "."

/-- The first part of a date out of its range. -/
def dateProblem? (year month day : Nat) : Option Problem :=
  if year = 0 then some .year
  else if month = 0 || 12 < month then some .month
  else if day = 0 || daysIn year month < day then some .day
  else none

/-- The first part of a time of day out of its range. -/
def timeProblem? (hour minute second : Nat) : Option Problem :=
  if 23 < hour then some .hour
  else if 59 < minute then some .minute
  else if 59 < second then some .second
  else none

/-- What is wrong with an offset. -/
def offsetProblem? (offset : Option Int) : Option Problem :=
  offset.bind fun minutes => if 1440 ≤ minutes.natAbs then some (.offset minutes) else none

/-- What is wrong with a moment: its offset, else the first part out of its range. -/
def problem? : Moment → Option Problem
  | .date y m d => dateProblem? y m d
  | .dateTime y m d hh mm ss _ offset =>
    (offsetProblem? offset).or ((dateProblem? y m d).or (timeProblem? hh mm ss))

/-! ### Comparison -/

/-- The microseconds of a date and time since the start of the calendar, as far as an offset tells
them. -/
def instant (year month day hour minute second micro : Nat) (offset : Int) : Int :=
  let minutes : Int := (dayNumber year month day * 24 + hour) * 60 + minute - offset
  (minutes * 60 + second) * 1000000 + micro

/-- The two moments are one: equal dates, equal times, or with offsets the same instant. -/
def same : Moment → Moment → Bool
  | .dateTime y m d hh mm ss us (some o), .dateTime y' m' d' hh' mm' ss' us' (some o') =>
    instant y m d hh mm ss us o == instant y' m' d' hh' mm' ss' us' o'
  | a, b => a == b

/-! ### Texts -/

/-- Digits with zeros in front, as a text. -/
def pad (width n : Nat) : String := String.ofList (Number.padded width n)

/-- An offset as hours and minutes with a sign. -/
def offsetText (minutes : Int) : String :=
  let n := minutes.natAbs
  let sign := if minutes < 0 then "-" else "+"
  s!"{sign}{pad 2 (n / 60)}:{pad 2 (n % 60)}"

/-- The text of a moment, largest unit first. -/
def text : Moment → String
  | .date y m d => s!"{pad 4 y}-{pad 2 m}-{pad 2 d}"
  | .dateTime y m d hh mm ss us offset =>
    let fraction := if us = 0 then "" else "." ++ pad 6 us
    s!"{pad 4 y}-{pad 2 m}-{pad 2 d} {pad 2 hh}:{pad 2 mm}:{pad 2 ss}{fraction}"
      ++ (offset.map offsetText).getD ""

/-- An offset as it is shown inside the listing of a value. -/
def offsetQuoted (minutes : Int) : String :=
  if minutes = 0 then "datetime.timezone.utc" else s!"datetime.timezone({spanQuoted minutes})"

/-- A moment as it is shown inside the listing of a value. -/
def quoted : Moment → String
  | .date y m d => s!"datetime.date({y}, {m}, {d})"
  | .dateTime y m d hh mm ss us offset =>
    let seconds := if ss = 0 && us = 0 then "" else s!", {ss}"
    let micros := if us = 0 then "" else s!", {us}"
    let zone := (offset.map fun o => ", tzinfo=" ++ offsetQuoted o).getD ""
    s!"datetime.datetime({y}, {m}, {d}, {hh}, {mm}{seconds}{micros}{zone})"

end Moment

end BannedApi
