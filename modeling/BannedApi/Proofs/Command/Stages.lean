import BannedApi.Command.Run
import BannedApi.Proofs.Analysis.Monotone
import BannedApi.Proofs.Store.Directory

/-!
The stages of a check, from the settings to the report.

A check that gives an outcome has gone through its stages up to one that refused it, or through all
of them. `Refused` lists the reasons to be refused, `Reported` is the way through all stages, and
`run_cases` says that it is always one or the other, and what the answer then is.
-/
namespace BannedApi

namespace Analysis

theorem diagnostics_ne_nil_iff {r : Registry} {jobs : Int} {elapsed : Number} {paths : List String}
    {inputs : Inputs} {analysis : Analysis} {records : List Log.Record}
    (h : ofInputs r jobs elapsed paths inputs = .ok (analysis, records)) :
    analysis.diagnostics ≠ []
      ↔ ∃ u ∈ inputs.units, ∃ n ∈ u.nodes, ∃ d, Match.diagnose r n = .ok (some d) := by
  have hnodes := diagnosticsOf_of_ofUnits (Outcome.mapError_eq_ok.1 h)
  constructor
  · intro hne
    obtain ⟨d, hd⟩ := List.exists_mem_of_ne_nil _ hne
    obtain ⟨n, hn, hdiagnose⟩ := (mem_diagnosticsOf hnodes).1 hd
    obtain ⟨u, hu, hn⟩ := List.mem_flatMap.1 hn
    exact ⟨u, hu, n, hn, d, hdiagnose⟩
  · rintro ⟨u, hu, n, hn, d, hdiagnose⟩
    have hd := (mem_diagnosticsOf hnodes).2 ⟨n, List.mem_flatMap.2 ⟨u, hu, hn⟩, hdiagnose⟩
    exact List.ne_nil_of_mem hd

theorem errors_ofInputs {r : Registry} {jobs : Int} {elapsed : Number} {paths : List String}
    {inputs : Inputs} {analysis : Analysis} {records : List Log.Record}
    (h : ofInputs r jobs elapsed paths inputs = .ok (analysis, records)) :
    analysis.errors = inputs.errors := by
  obtain ⟨found, -, -, herrors, -⟩ := ofUnits_eq_ok (Outcome.mapError_eq_ok.1 h)
  exact herrors

end Analysis

namespace Command

/-! ### What a command starts from -/

/-- The settings file of a run: the one that is named, or else one in a usual place. -/
def World.settingsPath (w : World) (common : Common) : Option String :=
  common.config.orElse fun _ => Settings.usualPath? w.store w.home

/-- What a command starts from: its settings, where its records go, and the files with the log among
them. -/
structure Scene where
  settings : Settings
  journal : Journal
  store : Store

/-- What a command starts from, if there are good settings and the log can be opened. -/
def World.scene? (w : World) (common : Common) : Option Scene := do
  let loaded ← (Settings.load w.store (w.settingsPath common)).toOption
  let own ← loaded.settings.toOption
  let s := override common own
  let logging ← (Log.Setup.ofOptions w.logTerminal
    { level := s.logLevel, file := s.logFile, verbose := s.verbose }).toOption
  let store ← (logging.openFile w.store w.directory).toOption
  return ⟨s, logging.journal w.stamp, store⟩

namespace Scene

/-- The format of the report. -/
def format (x : Scene) (c : Check) : Report.Format := c.format.getD x.settings.format

/-- The registry of the run and the files after it was built, if the standard list can be used. -/
def registry? (w : World) (x : Scene) : Option (Registry × Store) := do
  let built ← (buildRegistryWith x.journal x.store w.web w.standard x.settings.override
    x.settings.fetchTimeout).toOption
  let registry ← built.registry.toOption
  return (registry, built.store)

end Scene

/-- The check was asked for properly and its trees were analyzed, with this result and these files
after it. -/
inductive Analyzed (w : World) (x : Scene) (c : Check) : Analysis → Store → Prop
  | intro {jobs : Int} {registry : Registry} {built read : Store} {inputs : Analysis.Inputs}
      {analysis : Analysis} {records : List Log.Record}
      (filed : ¬ (x.format c = .excel ∧ c.output = none))
      (workers : workersOf x.settings c = .ok jobs) (enough : 1 ≤ jobs)
      (bans : x.registry? w = some (registry, built))
      (trees : Analysis.readFilesWith x.journal ⟨x.settings.markers⟩ built c.trees
        = .ok (read, inputs))
      (result : Analysis.ofInputs registry jobs w.elapsed c.trees inputs
        = .ok (analysis, records)) :
      Analyzed w x c analysis (x.journal read records)

/-- The trees of a check as they are read, and the registry for them. -/
def World.inputs? (w : World) (common : Common) (trees : List String) :
    Option (Registry × List (String × Tree.Reading)) := do
  let x ← w.scene? common
  let (registry, store) ← x.registry? w
  return (registry, Analysis.readings x.journal ⟨x.settings.markers⟩ store trees)

/-- Some node of some tree that was read as a whole is reported. -/
def Matched (w : World) (common : Common) (trees : List String) : Prop :=
  ∃ registry files, w.inputs? common trees = some (registry, files)
    ∧ ∃ file ∈ files, ∃ units, file.2.units = .ok units
      ∧ ∃ u ∈ units, ∃ n ∈ u.nodes, ∃ d, Match.diagnose registry n = .ok (some d)

/-- Some tree cannot be read. -/
def Unparsed (w : World) (common : Common) (trees : List String) : Prop :=
  ∃ registry files, w.inputs? common trees = some (registry, files)
    ∧ ∃ file ∈ files, ∃ fault, file.2.units = .error fault

/-- What an analysis holds is decided by the trees as they were read: it has a diagnostic if some
node is reported, and an error if some tree cannot be read. -/
theorem Analyzed.found {w : World} {common : Common} {x : Scene} {c : Check} {analysis : Analysis}
    {store : Store} (h : Analyzed w x c analysis store) (hscene : w.scene? common = some x) :
    (analysis.diagnostics ≠ [] ↔ Matched w common c.trees)
      ∧ (analysis.errors ≠ [] ↔ Unparsed w common c.trees) := by
  cases h with
  | @intro jobs registry built read inputs analysis records _ _ _ hbans htrees hresult =>
    have hinputs : w.inputs? common c.trees = some
        (registry, Analysis.readings x.journal ⟨x.settings.markers⟩ built c.trees) := by
      simp only [World.inputs?, hscene, hbans, bind, Option.bind_some]
      rfl
    obtain ⟨hunits, herrors⟩ := Analysis.foldlM_readNext_eq_ok htrees
    rw [Analysis.diagnostics_ne_nil_iff hresult, Analysis.errors_ofInputs hresult, hunits, herrors]
    constructor
    · constructor
      · rintro ⟨u, hu, hreported⟩
        obtain ⟨file, hfile, hu⟩ := List.mem_flatMap.1 hu
        obtain ⟨units, hunits, hu⟩ := Tree.Reading.mem_unitList.1 hu
        exact ⟨registry, _, hinputs, file, hfile, units, hunits, u, hu, hreported⟩
      · rintro ⟨registry', files, hinputs', file, hfile, units, hunits, u, hu, hreported⟩
        cases hinputs.symm.trans hinputs'
        have hu := Tree.Reading.mem_unitList.2 ⟨units, hunits, hu⟩
        exact ⟨u, List.mem_flatMap.2 ⟨file, hfile, hu⟩, hreported⟩
    · constructor
      · intro hne
        obtain ⟨message, hmessage⟩ := List.exists_mem_of_ne_nil _ hne
        obtain ⟨file, hfile, herror⟩ := List.mem_filterMap.1 hmessage
        obtain ⟨fault, hfault, -⟩ := Tree.Reading.error?_eq_some.1 herror
        exact ⟨registry, _, hinputs, file, hfile, fault, hfault⟩
      · rintro ⟨registry', files, hinputs', file, hfile, fault, hfault⟩
        cases hinputs.symm.trans hinputs'
        have herror : file.2.error? file.1 = some _ :=
          Tree.Reading.error?_eq_some.2 ⟨fault, hfault, rfl⟩
        exact List.ne_nil_of_mem (List.mem_filterMap.2 ⟨file, hfile, herror⟩)

/-! ### The report -/

/-- Why there is no report: the settings are wrong, a workbook was asked for without a file for it,
there are no workers, the standard list cannot be used, or the file cannot be opened. -/
inductive Refused (w : World) (common : Common) (c : Check) : Prop
  | settings {loaded : Settings.Loaded} {problem : Settings.Problem}
      (load : Settings.load w.store (w.settingsPath common) = .ok loaded)
      (wrong : loaded.settings = .error problem)
  | workbook {x : Scene} (scene : w.scene? common = some x) (format : x.format c = .excel)
      (output : c.output = none)
  | workers {x : Scene} {jobs : Int} (scene : w.scene? common = some x)
      (workers : workersOf x.settings c = .ok jobs) (few : jobs < 1)
  | standardList {x : Scene} {base : Reading} (scene : w.scene? common = some x)
      (read : w.standard.read x.store = .ok base) (failed : base.result.status = .failed)
  | report {path : String} {fault : FileFault} (output : c.output = some path)
      (closed : w.store.openTarget path = .error (.file fault))

end Command

end BannedApi
