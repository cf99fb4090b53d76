import BannedApi.Report.Color
import BannedApi.Report.Data

/-!
The report as text for a terminal: one line for each diagnostic, then a short summary.
-/
namespace BannedApi.Report

/-- How a text report looks. -/
structure TextOptions where
  colors : Bool := false
  /-- Counts by rule are added to the summary. -/
  detailed : Bool := false
  deriving Repr

/-- The place of a diagnostic. A position can only follow a file that is a text. -/
def placeText (l : Location) : Except ValueFault String :=
  if l.line.isNull then l.file.shown
  else do
    let line ← Location.position l.line
    match l.file with
    | .text file => (Location.position l.column).map fun column => file ++ line ++ column
    | v => .error (.notAppendable v.kind)

/-- The line of a diagnostic. -/
def diagnosticLine (colors : Bool) (d : Diagnostic) : Except ValueFault String := do
  let place ← placeText d.location
  let grade := paint colors .red (severity ++ ":")
  let check := paint colors .bold ("[" ++ d.check ++ "]")
  return s!"{place}: {grade} {check} {d.message}"

/-- The lines at the end. -/
def summaryLines (o : TextOptions) (d : Data) : List String :=
  let headline :=
    if d.total = 0 then
      paint o.colors .green s!"No banned API usage found in {d.filesAnalyzed} file(s)."
    else
      paint o.colors .red
        s!"{d.total} banned API usage(s) in {d.files.length} of {d.filesAnalyzed} file(s)."
  let unread :=
    if d.errors.isEmpty then []
    else [paint o.colors .yellow s!"{d.errors.length} input(s) could not be read."]
  let rules :=
    if o.detailed && !d.byRule.isEmpty then
      "By rule:" :: d.byRule.map fun r => s!"  {r.1}: {r.2}"
    else []
  headline :: unread ++ rules

/-- The report as a text. -/
def text (o : TextOptions) (d : Data) : Except ValueFault String := do
  let found ← d.diagnostics.mapM (diagnosticLine o.colors)
  let lines := found ++ d.errors.map fun e => paint o.colors .yellow s!"error: {e}"
  let gap := if lines.isEmpty then [] else [""]
  return String.intercalate "\n" (lines ++ gap ++ summaryLines o d) ++ "\n"

end BannedApi.Report
