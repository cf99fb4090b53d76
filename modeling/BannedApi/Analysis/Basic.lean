import BannedApi.Abort
import BannedApi.Analysis.Pool
import BannedApi.Match

/-!
Analysis: the nodes of every unit are matched, and the diagnostics are collected in the order of the
units whatever number of workers there is.
-/
namespace BannedApi

/-- The result of an analysis. -/
structure Analysis where
  diagnostics : List Diagnostic
  filesAnalyzed : Int
  nodesVisited : Int
  errors : List String
  /-- The time taken, in seconds. -/
  elapsed : Number
  inputs : List String := []
  banSources : List String := []
  deriving Repr

namespace Analysis

open Log (Record)

/-- A record about the analysis. -/
def record (level : Log.Level) (message : String) : Record := ⟨level, .analysis, message⟩

/-- Group items by their keys, in the order in which the keys first come. -/
def groupBy {α : Type} (key : α → Scalar) (items : List α) : List (Scalar × List α) :=
  items.foldl
    (fun groups x =>
      let before := ((groups.find? fun g => g.1.sameKey (key x)).map (·.2)).getD []
      putEntry (key x) (before ++ [x]) groups)
    []

/-- The file of a diagnostic, as a key. -/
def fileKey (d : Diagnostic) : Except ValueFault Scalar := d.location.file.key

/-- The diagnostics of each file, in the order in which the files first come. -/
def byFile (a : Analysis) : Except ValueFault (List (Scalar × List Diagnostic)) := do
  let keyed ← a.diagnostics.mapM fun d => (fileKey d).map fun k => (k, d)
  return (groupBy (·.1) keyed).map fun g => (g.1, g.2.map (·.2))

/-- How often each name comes, in the order in which the names first come; what has no name is
unknown. -/
def tally (names : List (Option String)) : OrderedMap Nat :=
  names.foldl
    (fun counts name =>
      let key := (name.filter (!·.isEmpty)).getD "unknown"
      counts.insert key ((counts.get? key).getD 0 + 1))
    .empty

/-- The number of diagnostics of each rule. -/
def byRule (a : Analysis) : OrderedMap Nat := tally (a.diagnostics.map (·.rule))

/-- The number of diagnostics of each kind of node. -/
def byNodeKind (a : Analysis) : OrderedMap Nat := tally (a.diagnostics.map (·.nodeKind))

/-! ### Running -/

/-- The diagnostics of a unit. The file is put into words when they are known, so it must not have too
many digits. -/
def unitDiagnostics (r : Registry) (u : CompilationUnit) : Except ValueFault (List Diagnostic) := do
  let found ← u.nodes.mapM (Match.diagnose r)
  let _ ← u.file.shown
  return found.filterMap id

/-- What is logged about a unit. -/
def unitRecords (u : CompilationUnit) (ds : List Diagnostic) : List Record :=
  ds.map Match.record
    ++ [record .debug s!"{u.file.display}: {u.nodes.length} nodes, {ds.length} diagnostics"]

/-- The diagnostics of each unit; several workers share the units when both are more than one. -/
def perUnit (r : Registry) (jobs : Int) (units : List CompilationUnit) :
    List (Except ValueFault (List Diagnostic)) :=
  if 1 < jobs && 1 < units.length then Pool.run jobs.toNat (unitDiagnostics r) units
  else units.map (unitDiagnostics r)

/-- The number of nodes of all units. -/
def nodeCount (units : List CompilationUnit) : Nat :=
  units.foldr (fun u n => u.nodes.length + n) 0

/-- Analyze units; the time taken is given. -/
def ofUnits (r : Registry) (jobs : Int) (elapsed : Number) (units : List CompilationUnit)
    (errors inputs : List String) : Except ValueFault (Analysis × List Record) := do
  let start := record .info
    (s!"Checking {units.length} compilation unit(s) against {r.count .classes} class, "
      ++ s!"{r.count .packages} package and {r.count .methods} method ban(s)")
  let found ← (perUnit r jobs units).mapM id
  let diagnostics := found.flatten
  let finish := record .info
    s!"Found {diagnostics.length} banned API use(s) in {elapsed.fixed 3}s"
  let analysis : Analysis :=
    { diagnostics
      filesAnalyzed := units.length
      nodesVisited := nodeCount units
      errors, elapsed, inputs
      banSources := r.sources }
  let details := (units.zip found).flatMap fun p => unitRecords p.1 p.2
  return (analysis, start :: details ++ [finish])

end Analysis

end BannedApi
