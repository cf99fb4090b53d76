/-!
How a fault names the place it was found in: a ban list, a typed tree, a report.
-/
namespace BannedApi.Fault

/-- A text that is given and not empty. -/
def given? (s : Option String) : Option String := s.filter (!·.isEmpty)

/-- A fault of a ban list. -/
def inBanList (source : Option String) (message : String) : String :=
  match given? source with
  | none => message
  | some s => s!"Ban list error in '{s}': {message}"

/-- A fault of a typed tree, at a place of the tree if it is known. -/
def inTree (file path : Option String) (message : String) : String :=
  match given? file, given? path with
  | none, _ => message
  | some f, none => s!"Error parsing typed tree '{f}': {message}"
  | some f, some p => s!"Error parsing typed tree '{f}': {message} (at {p})"

/-- A fault of a report in a format, written to a file if it was. -/
def inReport (format output : Option String) (message : String) : String :=
  match given? format, given? output with
  | none, _ => message
  | some f, none => s!"Report generation error for format '{f}': {message}"
  | some f, some o => s!"Report generation error for format '{f}': {message} (output: {o})"

end BannedApi.Fault
