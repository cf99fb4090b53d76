import BannedApi.Log.Line
import BannedApi.Log.Template
import BannedApi.Text.Segment

/-!
Records written by a template of the user's choice.
-/
namespace BannedApi.Log

/-- A record as a template sees it: the rank of its level may be any number. -/
structure Event where
  rank : Number
  channel : String
  message : String
  deriving Repr

namespace Event

/-- The name of the level. -/
def levelName (e : Event) : String := rankName e.rank

/-- The fields of a record. -/
def fields (colors : Bool) (stamp : Stamp) (e : Event) : Fields :=
  [("name", .text e.channel), ("msg", .text e.message), ("args", .null),
    ("levelname", .text (paintLevel colors e.levelName)), ("levelno", .number e.rank),
    ("pathname", .text stamp.file), ("filename", .text stamp.file),
    ("module", .text (String.ofList (Text.beforeLast '.' stamp.file.toList))),
    ("exc_info", .null), ("exc_text", .null), ("stack_info", .null),
    ("lineno", .number (.int stamp.line)), ("funcName", .null),
    ("threadName", .text "MainThread"), ("processName", .text "MainProcess"),
    ("message", .text e.message), ("asctime", .text stamp.time)]

/-- The line of a record. -/
def line (t : Template) (colors : Bool) (stamp : Stamp) (e : Event) : Except FormatFault String :=
  t.write (e.fields colors stamp)

end Event

end BannedApi.Log
