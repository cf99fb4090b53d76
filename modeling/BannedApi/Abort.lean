import BannedApi.Log.Record
import BannedApi.Store.Basic
import BannedApi.Value.Kind
import BannedApi.Workbook.Fault
import BannedApi.Yaml.Fault

/-!
What ends a run: faults that no later step can work around.
-/
namespace BannedApi

/-- A fault that ends the run. -/
inductive Abort where
  /-- A value does not allow what is done with it. -/
  | value (fault : ValueFault)
  /-- A scalar of a YAML text has no value. -/
  | scalar (fault : Yaml.ScalarFault)
  /-- A whole number of a JSON text is too long. -/
  | integer (fault : Text.IntegerFault)
  /-- A text file is not encoded as it must be. -/
  | encoding (fault : Text.Utf8.Fault)
  /-- A file cannot be opened. -/
  | opening (fault : OpenFault)
  /-- A workbook cannot be made or saved. -/
  | cell (fault : CellFault)
  /-- A name stands for no level. -/
  | level (fault : Log.LevelFault)
  /-- The number of workers was asked for without a number. -/
  | workers
  /-- A tree that holds itself is walked without end. -/
  | endless
  deriving DecidableEq, Repr

/-- The fault in words. -/
def Abort.message : Abort → String
  | .value f => f.message
  | .scalar f => f.message
  | .integer f => f.message
  | .encoding f => f.message
  | .opening f => f.message
  | .cell f => f.message
  | .level f => f.message
  | .workers => "'<' not supported between instances of 'list' and 'int'"
  | .endless => "maximum recursion depth exceeded"

end BannedApi
