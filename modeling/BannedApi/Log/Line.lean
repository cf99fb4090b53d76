import BannedApi.Log.Record

/-!
How a record is written as a line: the level and the message, or all that is known about the record.
The level can be coloured for a terminal.
-/
namespace BannedApi.Log

/-- When a record was made, and where in the program. -/
structure Stamp where
  time : String
  file : String
  line : Nat
  deriving DecidableEq, Repr

/-! ### Colours -/

/-- The sign that a colour code follows. -/
def escapeSign : String := "\x1b["

/-- The end of a coloured text. -/
def plainAgain : String := escapeSign ++ "0m"

/-- The colour code of the name of a level; other names have none. -/
def levelColor? : String → Option String
  | "DEBUG" => some "36m"
  | "INFO" => some "32m"
  | "WARNING" => some "33m"
  | "ERROR" => some "31m"
  | "CRITICAL" => some "35m"
  | _ => none

/-- The name of a level, coloured if colours are used and it has one. -/
def paintLevel (colors : Bool) (name : String) : String :=
  match levelColor? name with
  | some code => if colors then escapeSign ++ code ++ name ++ plainAgain else name
  | none => name

/-! ### Lines -/

/-- What a line tells. -/
inductive Style where
  /-- The level and the message. -/
  | brief
  /-- All that is known. -/
  | full
  deriving DecidableEq, Repr

/-- The line of a record. -/
def Style.line (style : Style) (colors : Bool) (stamp : Stamp) (r : Record) : String :=
  let level := paintLevel colors r.level.name
  match style with
  | .brief => s!"{level} - {r.message}"
  | .full =>
    s!"{stamp.time} - {r.origin.name} - {level} - {stamp.file}:{stamp.line} - {r.message}"

end BannedApi.Log
