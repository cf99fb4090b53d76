import BannedApi.Number.Decimal
import BannedApi.Value.Moment

/-!
Dates and times in worksheets. A moment is saved as the number of days since the end of 1899, the time
of day being a part of a day. The calendar of worksheets has a twenty-ninth of February 1900, which
never was, so earlier days count one less.
-/
namespace BannedApi.Serial

open Number (Binary64 roundDiv)

/-- The number of the day with the serial number zero. -/
def epoch : Nat := Moment.dayNumber 1899 12 30

/-- The seconds of a day. -/
def daySeconds : Nat := 86400

/-- A time of day as a part of a day. -/
def ofTime (hour minute second micro : Nat) : Binary64 :=
  let whole := Binary64.ofInt (hour * 3600 + minute * 60 + second : Nat)
  match whole.add (.ofRatio false micro 1000000) with
  | .finite n m e =>
    let (num, den) := Binary64.ratio m e
    .ofRatio n num (den * daySeconds)
  | x => x

/-- The serial number of a date, with a part of a day. -/
def ofDay (year month day : Nat) (part : Binary64) : Binary64 :=
  let days : Int := Moment.dayNumber year month day - epoch
  (Binary64.ofInt (if 0 < days && days ≤ 60 then days - 1 else days)).add part

/-- The serial number of a moment; an offset is left out. -/
def ofMoment : Moment → Binary64
  | .date y m d => ofDay y m d (ofTime 0 0 0 0)
  | .dateTime y m d hh mm ss us _ => ofDay y m d (ofTime hh mm ss us)

/-- What a serial number stands for. -/
inductive Reading where
  | moment (m : Moment)
  | time (hour minute second micro : Nat)
  /-- The date is beyond the calendar. -/
  | outOfRange
  deriving DecidableEq, Repr

/-- The days before a number, and the part of a day that is left. -/
def split (num den : Nat) (negative : Bool) : Int × Binary64 :=
  let n : Int := if negative then -num else num
  (n.fdiv den, .ofRatio false (n.fmod den).toNat den)

/-- A part of a day in milliseconds. -/
def milliseconds (part : Binary64) : Nat :=
  match (part.mul (.ofInt daySeconds)).mul (.ofInt 1000) with
  | .finite _ m e =>
    let (num, den) := Binary64.ratio m e
    roundDiv num den
  | _ => 0

/-- Hours, minutes, seconds and microseconds of so many milliseconds. -/
def clock (ms : Nat) : Nat × Nat × Nat × Nat :=
  let seconds := ms / 1000
  (seconds / 3600, seconds / 60 % 60, seconds % 60, ms % 1000 * 1000)

/-- The milliseconds of a day. -/
def dayLength : Nat := daySeconds * 1000

/-- The last day of the calendar. -/
def lastDay : Nat := Moment.dayNumber 9999 12 31

/-- The moment so many milliseconds after the start of a day. -/
def momentAt (day : Int) (ms : Nat) : Reading :=
  let number := day + epoch + (ms / dayLength : Nat)
  if number < 1 || (lastDay : Int) < number then .outOfRange
  else
    let (y, m, d) := Moment.dateOfDay number.toNat
    let (hh, mm, ss, us) := clock (ms % dayLength)
    .moment (.dateTime y m d hh mm ss us none)

/-- What the serial number `± num / den` stands for: below one day it is a time of day. -/
def read (num den : Nat) (negative : Bool) : Reading :=
  let (day, part) := split num den negative
  let ms := milliseconds part
  if day = 0 && ms < dayLength then
    let (hh, mm, ss, us) := clock ms
    .time hh mm ss us
  else
    let isEarly := !negative && 0 < num && num < 60 * den
    momentAt (if isEarly then day + 1 else day) ms

/-- The text of a time of day. -/
def timeText (hour minute second micro : Nat) : String :=
  let two (n : Nat) : String := String.ofList (Number.padded 2 n)
  let fraction := if micro = 0 then "" else "." ++ String.ofList (Number.padded 6 micro)
  s!"{two hour}:{two minute}:{two second}{fraction}"

end BannedApi.Serial
