import BannedApi.Analysis.Basic
import BannedApi.Store.Journal
import BannedApi.Tree.Document

/-!
Analysis of tree files. A file that cannot be read is recorded as an error, and the others are still
analyzed.
-/
namespace BannedApi.Analysis

/-- What reading several files gives. -/
structure Inputs where
  units : List CompilationUnit := []
  errors : List String := []
  records : List Log.Record := []

/-- Add what reading one more file gave. -/
def Inputs.add (path : String) (reading : Tree.Reading) (inputs : Inputs) : Except Abort Inputs :=
  let records := inputs.records ++ reading.records
  match reading.units with
  | .ok units => .ok { inputs with units := inputs.units ++ units, records }
  | .error (.fatal f) => .error f
  | .error fault =>
    let message := fault.message path
    .ok { inputs with
      errors := inputs.errors ++ [message]
      records := records ++ [record .error message] }

/-- Read one more file, while records go to a journal. -/
def readNext (journal : Journal) (markers : Markers) (sofar : Store × Inputs) (path : String) :
    Except Abort (Store × Inputs) := do
  let (store, inputs) := sofar
  let next ← inputs.add path (Tree.ofFile markers store path)
  return (journal store (next.records.drop inputs.records.length), next)

/-- Read files in turn, while records go to a journal. -/
def readFilesWith (journal : Journal) (markers : Markers) (store : Store) (paths : List String) :
    Except Abort (Store × Inputs) :=
  paths.foldlM (readNext journal markers) (store, {})

/-- Read files in turn. -/
def readFiles (markers : Markers) (store : Store) (paths : List String) : Except Abort Inputs :=
  (readFilesWith .silent markers store paths).map (·.2)

/-- Analyze what was read from files. -/
def ofInputs (r : Registry) (jobs : Int) (elapsed : Number) (paths : List String) (inputs : Inputs) :
    Except Abort (Analysis × List Log.Record) :=
  (ofUnits r jobs elapsed inputs.units inputs.errors paths).mapError .value

/-- Analyze the trees in files. -/
def ofFiles (r : Registry) (markers : Markers) (store : Store) (jobs : Int) (elapsed : Number)
    (paths : List String) : Except Abort (Analysis × List Log.Record) := do
  let inputs ← readFiles markers store paths
  let (analysis, records) ← ofInputs r jobs elapsed paths inputs
  return (analysis, inputs.records ++ records)

end BannedApi.Analysis
