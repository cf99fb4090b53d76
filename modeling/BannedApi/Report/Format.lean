/-!
The formats of reports.
-/
namespace BannedApi.Report

/-- A format of reports. -/
inductive Format where
  | text | json | markdown | excel
  deriving DecidableEq, Repr

namespace Format

/-- The name of a format. -/
def name : Format → String
  | .text => "text"
  | .json => "json"
  | .markdown => "markdown"
  | .excel => "excel"

/-- All formats, in the order in which they are offered. -/
def all : List Format := [.text, .json, .markdown, .excel]

/-- The format of a name. -/
def ofName? (name : String) : Option Format := all.find? (·.name == name)

/-- The names of all formats. -/
def names : List String := all.map name

/-- The names of all formats in one text. -/
def choices : String := String.intercalate ", " names

/-- The fault of asking for a format that there is not. -/
def unknownMessage (name : String) : String :=
  s!"Unknown report format '{name}'. Choose one of: {choices}"

end Format

end BannedApi.Report
