import BannedApi.Value.Moment
import BannedApi.Yaml.Cursor

/-!
Dates and times as they are written: year, month and day, and perhaps a time of day with a fraction of
a second and a zone.
-/
namespace BannedApi.Yaml

/-- A decimal digit. -/
def isDigit (c : Char) : Bool := '0' ≤ c && c ≤ '9'

/-- The parts of a date and time. -/
structure MomentText where
  year : Nat
  month : Nat
  day : Nat
  /-- Hour, minute, second and the digits of the fraction. -/
  time : Option (Nat × Nat × Nat × List Char) := none
  /-- The offset: its sign, hours and minutes; none of them for universal time. -/
  zone : Option (Option (Bool × Nat × Nat)) := none

/-- The value of decimal digits. -/
def decimal (ds : List Char) : Nat := ds.foldl (fun n d => 10 * n + (d.toNat - '0'.toNat)) 0

/-- At least `least` and at most `most` digits at the start of a text. -/
def takeDigits (least most : Nat) (cs : List Char) : Option (Nat × List Char) :=
  let ds := (cs.take most).takeWhile isDigit
  if least ≤ ds.length then some (decimal ds, cs.drop ds.length) else none

/-- The character a text must begin with. -/
def expect (c : Char) : List Char → Option (List Char)
  | d :: cs => if d = c then some cs else none
  | [] => none

/-- A zone: universal time, or an offset of hours and perhaps minutes. Nothing may follow. -/
def readZone (cs : List Char) : Option (Option (Option (Bool × Nat × Nat))) :=
  match cs.dropWhile isSpace with
  | [] => if cs.isEmpty then some none else none
  | ['Z'] => some (some none)
  | sign :: rest =>
    if sign == '-' || sign == '+' then
      match takeDigits 1 2 rest with
      | none => none
      | some (hours, []) => some (some (some (sign == '-', hours, 0)))
      | some (hours, rest) =>
        match (expect ':' rest).bind (takeDigits 2 2) with
        | some (minutes, []) => some (some (some (sign == '-', hours, minutes)))
        | _ => none
    else none

/-- A time of day, and behind it perhaps a zone. -/
def readTime (cs : List Char) :
    Option ((Nat × Nat × Nat × List Char) × Option (Option (Bool × Nat × Nat))) := do
  let (hour, cs) ← takeDigits 1 2 cs
  let (minute, cs) ← (expect ':' cs).bind (takeDigits 2 2)
  let (second, cs) ← (expect ':' cs).bind (takeDigits 2 2)
  let (fraction, cs) :=
    match expect '.' cs with
    | some rest => (rest.takeWhile isDigit, rest.dropWhile isDigit)
    | none => ([], cs)
  let zone ← readZone cs
  return ((hour, minute, second, fraction), zone)

/-- What separates a date from a time: a letter, or blanks. -/
def afterSeparator : List Char → Option (List Char)
  | c :: cs =>
    if c == 'T' || c == 't' then some cs
    else if isSpace c then some (cs.dropWhile isSpace)
    else none
  | [] => none

/-- A date, or a date and a time. -/
def readMoment (cs : List Char) : Option MomentText := do
  let (year, cs) ← takeDigits 4 4 cs
  let (month, cs) ← (expect '-' cs).bind (takeDigits 1 2)
  let (day, cs) ← (expect '-' cs).bind (takeDigits 1 2)
  if cs.isEmpty then return { year, month, day }
  else
    let (time, zone) ← readTime (← afterSeparator cs)
    return { year, month, day, time := some time, zone }

/-- A text that is a date or time without being called so: a date alone must then have two digits for
the month and the day. -/
def isMoment (cs : List Char) : Bool :=
  match readMoment cs with
  | some t => t.time.isSome || cs.length == 10
  | none => false

/-- The first six digits of a fraction of a second. -/
def micros (fraction : List Char) : Nat :=
  decimal ((fraction ++ List.replicate 6 '0').take 6)

/-- The offset from universal time, in minutes. -/
def offsetMinutes : Option (Bool × Nat × Nat) → Int
  | none => 0
  | some (negative, hours, minutes) =>
    let n : Int := 60 * hours + minutes
    if negative then -n else n

/-- The date or time that the parts name, whether they are in their ranges or not. -/
def MomentText.moment (t : MomentText) : Moment :=
  match t.time with
  | none => .date t.year t.month t.day
  | some (hour, minute, second, fraction) =>
    .dateTime t.year t.month t.day hour minute second (micros fraction) (t.zone.map offsetMinutes)

end BannedApi.Yaml
