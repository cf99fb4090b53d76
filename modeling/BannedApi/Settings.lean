import BannedApi.Abort
import BannedApi.Log.Record
import BannedApi.Marker
import BannedApi.Registry.Standard
import BannedApi.Report.Format
import BannedApi.Store.Document
import BannedApi.Text.Capital
import BannedApi.Value.Display

/-!
Settings, read from a YAML file. What the file does not state keeps its default; what it states is
checked in a fixed order, and the first wrong value is the fault.
-/
namespace BannedApi

/-- The settings of a run. -/
structure Settings where
  /-- A ban list laid over the standard one. -/
  override : Option String := none
  fetchTimeout : Number := defaultTimeout
  markers : List String := Markers.standard.names
  format : Report.Format := .text
  /-- Colours in text reports, taken as it stands; null leaves it to the terminal. -/
  useColors : Value := .null
  jobs : Int := 1
  logLevel : String := "WARNING"
  logFile : Option String := none
  verbose : Bool := false
  deriving Repr

namespace Settings

/-- The names of the levels that can be chosen. -/
def levelNames : List String := ["DEBUG", "INFO", "WARNING", "ERROR", "CRITICAL"]

/-- What is wrong with the settings. -/
inductive Problem where
  | invalidYaml
  | unreadable (fault : FileFault)
  | notMapping
  | sectionNotMapping (name : String)
  | unknownFormat (format : Value)
  | markers | jobs | fetchTimeout | override | logLevel | verbose | logFile
  deriving Repr

/-- The problem in words. -/
def Problem.message : Problem → String
  | .invalidYaml => "Invalid YAML in configuration file: <yaml error>"
  | .unreadable f => s!"Error loading configuration file: {f.message}"
  | .notMapping => "Configuration file must contain a mapping at the top level"
  | .sectionNotMapping name => s!"The '{name}' section must be a mapping"
  | .unknownFormat v =>
    s!"Unknown output format '{v.display}'. Choose one of: {Report.Format.choices}"
  | .markers => "suppression.markers must be a list of annotation names"
  | .jobs => "analysis.jobs must be a positive integer"
  | .fetchTimeout => "bans.fetch_timeout must be a positive number"
  | .override => "bans.override must be a path or URL string"
  | .logLevel => "logging.level must be one of: " ++ String.intercalate ", " levelNames
  | .verbose => "logging.verbose must be true or false"
  | .logFile => "logging.log_file must be a file path"

/-- The problem can be put into words, unless a number in it has too many digits. -/
def Problem.check : Problem → Except ValueFault Unit
  | .unknownFormat v => v.shown.map fun _ => ()
  | _ => .ok ()

/-! ### Checks of single values -/

/-- A section of the settings; a missing or null one is empty. -/
def sectionOf (name : String) (document : Value) : Except Problem Value :=
  let v := document.field name
  if v.isNull then .ok (.map [])
  else if v.entries?.isSome then .ok v
  else .error (.sectionNotMapping name)

/-- The format of reports. -/
def formatOf (v : Value) : Except Problem Report.Format :=
  match v.text?.bind Report.Format.ofName? with
  | some f => .ok f
  | none => .error (.unknownFormat v)

/-- A name that is a text and not empty. -/
def nameOf? : Value → Option String
  | .text s => if s.isEmpty then none else some s
  | _ => none

/-- A positive whole number. -/
def count? : Value → Option Int
  | .int n => if n < 1 then none else some n
  | _ => none

/-- A number that is neither zero nor less. -/
def period? : Value → Option Number
  | .scalar (.number n) => if n.atMostZero then none else some n
  | _ => none

/-- A text or nothing. -/
def textOrNone? : Value → Option (Option String)
  | .null => some none
  | .text s => some (some s)
  | _ => none

/-- The name of a level, in letters of either case. -/
def levelName? : Value → Option String
  | .text s => if levelNames.contains (Text.upper s) then some s else none
  | _ => none

/-- A truth value. -/
def truth? : Value → Option Bool
  | .bool b => some b
  | _ => none

/-- A check that finds one problem with whatever it does not take. -/
def checked {α : Type} (problem : Problem) (take? : Value → Option α) (v : Value) :
    Except Problem α :=
  match take? v with
  | some a => .ok a
  | none => .error problem

/-- The markers. -/
def markersOf : Value → Except Problem (List String) :=
  checked .markers fun v => v.items?.bind (·.mapM nameOf?)

/-- The number of workers. -/
def jobsOf : Value → Except Problem Int := checked .jobs count?

/-- How long a fetch may take. -/
def timeoutOf : Value → Except Problem Number := checked .fetchTimeout period?

/-- A text or nothing. -/
def optionalText (problem : Problem) : Value → Except Problem (Option String) :=
  checked problem textOrNone?

/-- The level from which on records are shown. -/
def levelOf : Value → Except Problem String := checked .logLevel levelName?

/-- Whether everything is shown. -/
def verboseOf : Value → Except Problem Bool := checked .verbose truth?

/-- A stated value, checked; what is not stated keeps its default. -/
def stated {α : Type} (raw : Value) (key : String) (check : Value → Except Problem α)
    (default : α) : Except Problem α :=
  match raw.field? key with
  | none => .ok default
  | some v => check v

/-! ### The whole file -/

/-- The sections of the settings. -/
structure Sections where
  bans : Value := .map []
  suppression : Value := .map []
  output : Value := .map []
  analysis : Value := .map []
  logging : Value := .map []
  deriving Repr

/-- The sections of a document; an empty document has empty ones. -/
def Sections.ofDocument (document : Value) : Except Problem Sections :=
  if !document.truthy then .ok {}
  else if document.entries?.isNone then .error .notMapping
  else do
    return {
      bans := ← sectionOf "bans" document
      suppression := ← sectionOf "suppression" document
      output := ← sectionOf "output" document
      analysis := ← sectionOf "analysis" document
      logging := ← sectionOf "logging" document }

/-- The settings in the sections of a document. -/
def ofSections (s : Sections) : Except Problem Settings := do
  let base : Settings := {}
  let format ← stated s.output "default_format" formatOf base.format
  let markers ← stated s.suppression "markers" markersOf base.markers
  let jobs ← stated s.analysis "jobs" jobsOf base.jobs
  let fetchTimeout ← stated s.bans "fetch_timeout" timeoutOf base.fetchTimeout
  let override ← stated s.bans "override" (optionalText .override) base.override
  let logLevel ← stated s.logging "level" levelOf base.logLevel
  let verbose ← stated s.logging "verbose" verboseOf base.verbose
  let logFile ← stated s.logging "log_file" (optionalText .logFile) base.logFile
  return {
    override, fetchTimeout, markers, format, jobs, logLevel, logFile, verbose
    useColors := s.output.field "use_colors" }

/-- The settings in a document. The sections are looked at first, then the values. -/
def ofDocument (document : Value) : Except Problem Settings :=
  Sections.ofDocument document >>= ofSections

/-- What loading settings gives: settings, or what is wrong with them, and what is logged. -/
structure Loaded where
  settings : Except Problem Settings
  records : List Log.Record := []

/-- A record about settings. -/
def record (level : Log.Level) (message : String) : Log.Record := ⟨level, .settings, message⟩

/-- What is logged about a document: that it was loaded, if it holds anything and its sections are in
order. -/
def recordsOf (path : String) (document : Value) : List Log.Record :=
  match Sections.ofDocument document with
  | .ok _ => if document.truthy then [record .info s!"Loaded configuration from {path}"] else []
  | .error _ => []

/-- The settings in the content of a file. -/
def ofContent (path : String) (content : Content) : Except Abort Loaded :=
  match content.yaml with
  | .error .malformed => .ok { settings := .error .invalidYaml }
  | .error .unfinished => .ok { settings := .error .invalidYaml }
  | .error (.encoding f) => .error (.encoding f)
  | .error (.scalar f) => .error (.scalar f)
  | .ok document => do
    let settings := ofDocument document
    match settings with
    | .ok _ => pure ()
    | .error p => p.check.mapError .value
    return ⟨settings, recordsOf path document⟩

/-- Load settings from a file, if one is named. A file that is not there leaves all defaults. -/
def load (store : Store) (path : Option String) : Except Abort Loaded :=
  match Fault.given? path with
  | none => .ok { settings := .ok {} }
  | some path =>
    if store.holds path then
      match store.read path with
      | .error .nullCharacter => .error (.opening .nullCharacter)
      | .error (.file f) => .ok { settings := .error (.unreadable f) }
      | .ok content => ofContent path content
    else
      .ok ⟨.ok {}, [record .warning s!"Configuration file not found: {path}"]⟩

/-- The home directory without slashes at its end. -/
def homeName (home : String) : String :=
  String.ofList (home.toList.reverse.dropWhile (· == '/')).reverse

/-- The places where settings are looked for, in order. -/
def usualPaths (home : String) : List String :=
  ["xplat_bans.yaml", "xplat_bans.yml", homeName home ++ "/.xplat_bans.yaml",
    homeName home ++ "/.xplat_bans.yml"]

/-- The settings file to use when none is named. -/
def usualPath? (store : Store) (home : String) : Option String := (usualPaths home).find? store.holds

end Settings

end BannedApi
