import BannedApi.Analysis.Basic
import BannedApi.Version

/-!
What every report tells: a summary, the diagnostics, counts, the inputs that could not be read, and
when and with which ban lists the analysis was made.
-/
namespace BannedApi.Report

/-- When and from what a report was made. -/
structure Metadata where
  generatedAt : String
  tool : String
  inputs : List String
  banSources : List String
  deriving Repr

/-- The contents of a report. -/
structure Data where
  diagnostics : List Diagnostic
  /-- Diagnostics by file, in the order in which the files first come. -/
  files : List (Scalar × List Diagnostic)
  /-- Counts by rule and by kind of node, sorted by name. -/
  byRule : List (String × Nat)
  byNodeKind : List (String × Nat)
  filesAnalyzed : Int
  nodesVisited : Int
  errors : List String
  /-- The time taken, in seconds, to three places. -/
  seconds : Number
  metadata : Metadata

namespace Data

/-- The contents of the report on an analysis made at a time. -/
def ofAnalysis (now : String) (a : Analysis) : Except ValueFault Data := do
  let files ← a.byFile
  return {
    diagnostics := a.diagnostics
    files
    byRule := a.byRule.sorted
    byNodeKind := a.byNodeKind.sorted
    filesAnalyzed := a.filesAnalyzed
    nodesVisited := a.nodesVisited
    errors := a.errors
    seconds := a.elapsed.roundTo 3
    metadata := ⟨now, Version.fullName, a.inputs, a.banSources⟩ }

/-- The number of diagnostics. -/
def total (d : Data) : Nat := d.diagnostics.length

/-- Something was found, or could not be read. -/
def hasIssues (d : Data) : Bool := !d.diagnostics.isEmpty || !d.errors.isEmpty

end Data

end BannedApi.Report
