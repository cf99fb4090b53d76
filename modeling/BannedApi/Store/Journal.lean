import BannedApi.Log.Record
import BannedApi.Store.Basic

/-!
Journals: what becomes of the files when records are made. A log file grows with every record, so what
is read later may be the log itself.
-/
namespace BannedApi

/-- The files after records were made. -/
abbrev Journal := Store → List Log.Record → Store

/-- Records leave no trace in the files. -/
def Journal.silent : Journal := fun store _ => store

end BannedApi
