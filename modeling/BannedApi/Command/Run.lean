import BannedApi.Analysis.Files
import BannedApi.Command.Invocation
import BannedApi.Log.Setup
import BannedApi.Report.Basic

/-!
A run of the program: from the arguments and all that it can see to what it prints, writes and answers
with.
-/
namespace BannedApi.Command

/-- All that a run can see. -/
structure World where
  store : Store := {}
  web : Web := {}
  standard : StandardSource
  /-- Where reports are shown. -/
  screen : Report.Screen := {}
  /-- Records are shown on a terminal. -/
  logTerminal : Bool := false
  /-- The user's own directory. -/
  home : String := "home"
  /-- The full path of the working directory. -/
  directory : String
  now : String
  elapsed : Number
  stamp : Log.Stamp

/-- What a run leaves behind. -/
structure Outcome where
  exit : Nat
  stdout : String := ""
  stderr : String := ""
  store : Store
  fetched : List Fetch := []

/-- Nothing was found. -/
def exitOk : Nat := 0

/-- Something was found. -/
def exitFound : Nat := 1

/-- The run could not be done. -/
def exitFatal : Nat := 2

/-- A record about the run. -/
def record (level : Log.Level) (message : String) : Log.Record := ⟨level, .command, message⟩

/-- What a command does: its answer, what it prints, the files after it, its requests, and its
records. -/
structure Effect where
  exit : Nat
  stdout : String := ""
  store : Store
  fetched : List Fetch := []
  records : List Log.Record := []

/-- Records that were made last go to the journal. -/
def Effect.note (journal : Journal) (records : List Log.Record) (e : Effect) : Effect :=
  { e with store := journal e.store records, records := e.records ++ records }

/-- The settings with what the command line says over them. -/
def override (c : Common) (s : Settings) : Settings :=
  { s with
    override := c.bans.orElse fun _ => s.override
    logLevel := c.logLevel.getD s.logLevel
    logFile := c.logFile.orElse fun _ => s.logFile
    verbose := c.verbose || s.verbose }

/-- A run that ends with an error. -/
def failed (journal : Journal) (message : String) (e : Effect) : Effect :=
  { e with exit := exitFatal }.note journal [record .error message]

/-- The registry of the run, or the end of it. -/
def withRegistry (w : World) (journal : Journal) (s : Settings)
    (go : Registry → Effect → Except Abort Effect) : Except Abort Effect := do
  let built ← buildRegistryWith journal w.store w.web w.standard s.override s.fetchTimeout
  let effect : Effect :=
    { exit := exitOk, store := built.store, fetched := built.fetched, records := built.records }
  match built.registry with
  | .error fault => return failed journal s!"Cannot start: {fault.message}" effect
  | .ok registry => go registry effect

/-- The options of the report. Colours are never written to a file. -/
def reportOptions (w : World) (s : Settings) (c : Check) (format : Report.Format) : Report.Options :=
  match format with
  | .text =>
    let colors :=
      if c.noColor || c.output.isSome then false
      else if s.useColors.isNull then w.screen.supportsColor
      else s.useColors.truthy
    .text ⟨colors, c.detailed⟩
  | .json => .json {}
  | .markdown => .markdown true
  | .excel => .excel

/-- The answer of a check. -/
def exitOf (a : Analysis) : Nat :=
  if !a.diagnostics.isEmpty then exitFound else if !a.errors.isEmpty then exitFatal else exitOk

/-- A text that ends with a line end. -/
def ensureNewline (s : String) : String := if s.toList.getLast? = some '\n' then s else s ++ "\n"

/-- The number of workers of a check. -/
def workersOf (s : Settings) (c : Check) : Except Abort Int :=
  match c.workers with
  | .usual => .ok s.jobs
  | .number n => .ok n
  | .missing => .error .workers

/-- Analyze trees, while records go to a journal. -/
def analyze (journal : Journal) (w : World) (s : Settings) (jobs : Int) (trees : List String)
    (registry : Registry) (e : Effect) : Except Abort (Analysis × Effect) := do
  let (store, inputs) ← Analysis.readFilesWith journal ⟨s.markers⟩ e.store trees
  let (analysis, records) ← Analysis.ofInputs registry jobs w.elapsed trees inputs
  let e := { e with store, records := e.records ++ inputs.records }
  return (analysis, e.note journal records)

/-- Show or write the report on an analysis. -/
def report (journal : Journal) (w : World) (s : Settings) (c : Check) (format : Report.Format)
    (analysis : Analysis) (e : Effect) : Except Abort Effect := do
  let rendered ← Report.render (reportOptions w s c format) w.now analysis
  let e := { e with exit := exitOf analysis }
  match Report.write e.store format c.output rendered with
  | .error (.fatal f) => .error f
  | .error fault => return failed journal fault.message e
  | .ok store =>
    match c.output with
    | some path => return { e with store }.note journal [record .info s!"Report written to {path}"]
    | none => return { e with store, stdout := ensureNewline (rendered.shown none "") }

/-- Check trees. -/
def check (w : World) (journal : Journal) (s : Settings) (c : Check) : Except Abort Effect := do
  let start : Effect := { exit := exitOk, store := w.store }
  let format := c.format.getD s.format
  if format = .excel && c.output.isNone then
    return failed journal "The excel format needs --output" start
  else
    let jobs ← workersOf s c
    if jobs < 1 then return failed journal "--jobs must be a positive integer" start
    else
      withRegistry w journal s fun registry e => do
        let (analysis, e) ← analyze journal w s jobs c.trees registry e
        report journal w s c format analysis e

/-- The line of a ban. -/
def banLine (e : BanEntry) : Except ValueFault String := do
  let key := match Fault.given? e.owner with
    | some owner => owner ++ "#" ++ e.key
    | none => e.key
  let reason ← Message.reasonOr e.reason
  return s!"{e.part.name}\t{key}\t{reason}"

/-- The list of bans. -/
def listText (format : ListFormat) (r : Registry) : Except ValueFault String := do
  match format with
  | .text => return String.intercalate "\n" (← r.banEntries.mapM banLine) ++ "\n"
  | .json => return (← Json.print .pretty r.toDocument) ++ "\n"

/-- List the bans. -/
def listBans (w : World) (journal : Journal) (s : Settings) (l : Listing) : Except Abort Effect :=
  withRegistry w journal s fun registry e => do
    let content ← (listText l.format registry).mapError .value
    match l.output with
    | none => return { e with stdout := content }
    | some path =>
      match e.store.write path (.text content) with
      | .ok store => return { e with store }
      | .error (.file f) => return failed journal s!"Could not write output: {f.message}" e
      | .error .nullCharacter => .error (.opening .nullCharacter)

/-- Run a command with its settings, and show its records. -/
def runTask (w : World) (s : Settings) (before : List Log.Record) (task : Task) :
    Except Abort Outcome := do
  let logging ← (Log.Setup.ofOptions w.logTerminal
    { level := s.logLevel, file := s.logFile, verbose := s.verbose }).mapError .level
  let store ← (logging.openFile w.store w.directory).mapError .opening
  let w := { w with store }
  let journal := logging.journal w.stamp
  let effect ←
    match task with
    | .check c => check w journal s c
    | .listBans l => listBans w journal s l
  return {
    exit := effect.exit
    stdout := effect.stdout
    stderr := Log.bareText before ++ logging.consoleText w.stamp effect.records
    store := effect.store
    fetched := effect.fetched }

/-- A run whose settings are wrong. -/
def badSettings (w : World) (before : List Log.Record) (p : Settings.Problem) :
    Except Abort Outcome := do
  let logging ← (Log.Setup.ofOptions w.logTerminal {}).mapError .level
  let records := [record .error s!"Configuration error: {p.message}"]
  return {
    exit := exitFatal
    stderr := Log.bareText before ++ logging.consoleText w.stamp records
    store := w.store }

/-- A run of the program. What is wrong with the arguments is told in one line, the last one. -/
def run (w : World) (arguments : List String) : Except Abort Outcome :=
  match Invocation.parse arguments with
  | .error fault =>
    .ok { exit := exitFatal, stderr := Text.lastLine (fault.message ++ "\n"), store := w.store }
  | .ok .version => .ok { exit := exitOk, stdout := Version.fullName ++ "\n", store := w.store }
  | .ok .help =>
    .ok { exit := exitOk, stdout := s!"usage: {programName} [check|list-bans] ...\n", store := w.store }
  | .ok (.run common task) => do
    let path := common.config.orElse fun _ => Settings.usualPath? w.store w.home
    let loaded ← Settings.load w.store path
    match loaded.settings with
    | .error p => badSettings w loaded.records p
    | .ok s => runTask w (override common s) loaded.records task

end BannedApi.Command
