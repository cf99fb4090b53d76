import BannedApi.Fault
import BannedApi.Registry.Load
import BannedApi.Store.Journal

/-!
The registry of a run: the standard ban list, which must load, and over it the user's own list, if
there is one and it can be loaded.
-/
namespace BannedApi

/-- Mutable date types have one reason in common. -/
private def mutableDates : String := "mutable date types are unsupported on the web"

/-- The ban list that comes with the program. -/
def bundledList : Value :=
  .object
    [("classes", .object
      [("org.joda.time.Chronology", .text ""),
        ("org.joda.time.DateTimeUtils",
          .text "its global clock and provider hooks are not available on the web."),
        ("org.joda.time.MutableDateTime", .text s!"{mutableDates}; use DateTime."),
        ("org.joda.time.MutableInterval", .text s!"{mutableDates}; use Interval."),
        ("org.joda.time.MutablePeriod", .text s!"{mutableDates}; use Period."),
        ("org.joda.time.ReadWritableDateTime", .text s!"{mutableDates}."),
        ("org.joda.time.ReadWritableInstant", .text s!"{mutableDates}."),
        ("org.joda.time.ReadWritableInterval", .text s!"{mutableDates}."),
        ("org.joda.time.ReadWritablePeriod", .text s!"{mutableDates}.")]),
      ("packages", .object
        [("org.joda.time.chrono", .text ""),
          ("org.joda.time.convert", .text ""),
          ("org.joda.time.tz", .text "time zone data providers differ between platforms.")]),
      ("methods", .object
        [("org.joda.time.DateTimeZone", .object
          [("getAvailableIDs", .text "the set of zone ids differs between platforms."),
            ("getNameProvider", .text ""),
            ("getProvider", .text ""),
            ("setDefault", .text "the default zone cannot be changed on all platforms."),
            ("setNameProvider", .text ""),
            ("setProvider", .text "")]),
          ("org.joda.time.DateTime", .object
            [("toCalendar", .text "java.util.Calendar is unavailable on the web."),
              ("toGregorianCalendar",
                .text "java.util.GregorianCalendar is unavailable on the web.")])])]

/-- Where the standard ban list comes from. -/
inductive StandardSource where
  /-- The list that comes with the program, under a name. -/
  | bundled (label : String)
  | file (path : String)
  deriving DecidableEq, Repr

/-- The name of the source. -/
def StandardSource.label : StandardSource → String
  | .bundled label => label
  | .file path => path

/-- What the source says. -/
def StandardSource.read (store : Store) : StandardSource → Except Abort Reading
  | .bundled label => .ok (Reading.ofDocument label bundledList)
  | .file path => Reading.ofFile store path

/-- The standard ban list could not be loaded. -/
structure StandardListFault where
  error : String
  source : String
  deriving DecidableEq, Repr

/-- The fault in words. -/
def StandardListFault.message (f : StandardListFault) : String :=
  Fault.inBanList (some f.source) f.error

/-- The outcome of building the registry of a run: the registry, what was logged and fetched, and the
files after it. -/
structure RegistryBuild where
  registry : Except StandardListFault Registry
  records : List Log.Record
  fetched : List Fetch := []
  store : Store

/-- How long a fetch may take when nothing else is said, in seconds. -/
def defaultTimeout : Number := .float (.ofDecimal false 10 0)

/-- The user's own list, with a warning if it cannot be used. -/
def readOverride (store : Store) (web : Web) (source : String) : Except Abort Reading := do
  let own ← Reading.ofSource store web source
  let warning := own.result.error?.map fun error => Reading.record .warning
    (s!"Ban list {source} could not be loaded ({error}). "
      ++ "Custom bans will not be in effect.")
  return { own with records := own.records ++ warning.toList }

/-- The registry of all that was loaded, and what is logged about it. -/
def finishRegistry (loader : Loader) : Registry × Log.Record :=
  let registry := loader.build
  (registry, Reading.record .debug
    s!"Built {registry.summary} from {registry.sources.length} source(s)")

/-- Load the standard list and then the user's list over it, while records go to a journal. -/
def buildRegistryWith (journal : Journal) (store : Store) (web : Web) (standard : StandardSource)
    (override : Option String) (timeout : Number) : Except Abort RegistryBuild := do
  let base ← standard.read store
  match base.result.error? with
  | some error =>
    let records := base.records ++ [Reading.record .error
      s!"Default ban list {standard.label} could not be loaded: {error}"]
    return { registry := .error ⟨error, standard.label⟩, records, store := journal store records }
  | none =>
    let store := journal store base.records
    let loader := Loader.merge {} base
    match Fault.given? override with
    | none =>
      let (registry, built) := finishRegistry loader
      return { registry := .ok registry, records := base.records ++ [built]
               store := journal store [built] }
    | some source =>
      let own ← readOverride store web source
      let (registry, built) := finishRegistry (loader.merge own)
      let more := own.records ++ [built]
      return { registry := .ok registry, records := base.records ++ more
               fetched := Reading.fetches source timeout, store := journal store more }

/-- Load the standard list and then the user's list over it. -/
def buildRegistry (store : Store) (web : Web) (standard : StandardSource) (override : Option String)
    (timeout : Number) : Except Abort RegistryBuild :=
  buildRegistryWith .silent store web standard override timeout

end BannedApi
