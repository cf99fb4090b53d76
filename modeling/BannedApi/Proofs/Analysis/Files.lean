import BannedApi.Analysis.Files
import BannedApi.Proofs.Analysis.Pool
import BannedApi.Proofs.Json.RoundTrip
import BannedApi.Proofs.Outcome
import BannedApi.Proofs.Tree.Document

/-!
Analysis of several files.

A tree gives its units or one error, and the trees do not mix: the units, the errors and the
diagnostics of a run are those of its files, one after the other (`ofFiles_eq_ok`). But a run gives
no result at all if one of its files does not. Reading a file may end the run
(`Tree.ofFile_ends_iff`), or a unit may have a node that is not sound (`Node.isSound`): such a node
passes the walk, since a walk does not look at the types and packages that it hands on.
`ofFiles_listType` is a run that ends this way.
-/
namespace BannedApi.Analysis

variable {r : Registry} {markers : Markers} {store : Store} {jobs : Int} {elapsed : Number}

/-! ### Reading the files -/

theorem add_isOk_iff (inputs : Inputs) (path : String) {reading : Tree.Reading} :
    (∃ next, inputs.add path reading = .ok next) ↔ ¬ reading.Ends := by
  unfold Inputs.add Tree.Reading.Ends
  cases hunits : reading.units with
  | ok units => simp
  | error fault => cases fault <;> simp

/-- A file adds its units, or one error. -/
theorem add_eq_ok {path : String} {reading : Tree.Reading} {inputs next : Inputs}
    (h : inputs.add path reading = .ok next) :
    next.units = inputs.units ++ reading.unitList
      ∧ next.errors = inputs.errors ++ (reading.error? path).toList := by
  unfold Inputs.add at h
  unfold Tree.Reading.unitList Tree.Reading.error?
  cases hunits : reading.units with
  | ok units =>
    rw [hunits] at h
    cases h
    simp [Except.toOption]
  | error fault =>
    rw [hunits] at h
    cases fault <;> cases h <;> simp [Except.toOption]

theorem readNext_silent (inputs : Inputs) (path : String) :
    readNext .silent markers (store, inputs) path
      = (inputs.add path (Tree.ofFile markers store path)).map (store, ·) := by
  simp only [readNext]
  cases inputs.add path (Tree.ofFile markers store path) with
  | error fault => rfl
  | ok next => rfl

theorem foldlM_readNext_isOk_iff (inputs : Inputs) (paths : List String) :
    (∃ result, paths.foldlM (readNext .silent markers) (store, inputs) = .ok result)
      ↔ ∀ path ∈ paths, ¬ (Tree.ofFile markers store path).Ends := by
  induction paths generalizing inputs with
  | nil => simp [pure, Except.pure]
  | cons path paths ih =>
    rw [List.foldlM_cons, Outcome.exists_bind_eq_ok, List.forall_mem_cons,
      ← add_isOk_iff inputs path]
    simp only [readNext_silent, Outcome.map_eq_ok]
    -- Whether a file ends the run does not depend on what the files before it have given, so the
    -- induction is over all `inputs`.
    constructor
    · rintro ⟨state, ⟨next, hnext, rfl⟩, hrest⟩
      exact ⟨⟨next, hnext⟩, (ih next).1 hrest⟩
    · rintro ⟨⟨next, hnext⟩, hrest⟩
      exact ⟨_, ⟨next, hnext, rfl⟩, (ih next).2 hrest⟩

/-- The records that a file adds: those of its reading, and its error. -/
def fileRecords (path : String) (reading : Tree.Reading) : List Log.Record :=
  reading.records ++ ((reading.error? path).map (record .error)).toList

theorem records_add {path : String} {reading : Tree.Reading} {inputs next : Inputs}
    (h : inputs.add path reading = .ok next) :
    next.records = inputs.records ++ fileRecords path reading := by
  unfold Inputs.add at h
  unfold fileRecords Tree.Reading.error?
  cases hunits : reading.units with
  | ok units =>
    rw [hunits] at h
    cases h
    simp
  | error fault =>
    rw [hunits] at h
    cases fault <;> cases h <;> simp

/-- The files with what they give when they are read in turn. The log grows in between, and it may be
one of them. -/
def readings (journal : Journal) (markers : Markers) :
    Store → List String → List (String × Tree.Reading)
  | _, [] => []
  | store, path :: paths =>
    let reading := Tree.ofFile markers store path
    (path, reading) :: readings journal markers (journal store (fileRecords path reading)) paths

theorem readings_silent (paths : List String) :
    readings .silent markers store paths
      = paths.map fun path => (path, Tree.ofFile markers store path) := by
  induction paths with
  | nil => rfl
  | cons path paths ih => rw [List.map_cons, ← ih]; rfl

theorem readNext_eq_ok {journal : Journal} {inputs : Inputs} {path : String}
    {result : Store × Inputs}
    (h : readNext journal markers (store, inputs) path = .ok result) :
    inputs.add path (Tree.ofFile markers store path) = .ok result.2
      ∧ result.1 = journal store (fileRecords path (Tree.ofFile markers store path)) := by
  obtain ⟨next, hnext, hresult⟩ := Outcome.bind_eq_ok.1 h
  cases Outcome.pure_eq_ok.1 hresult
  exact ⟨hnext, by rw [records_add hnext, List.drop_left]⟩

theorem foldlM_readNext_eq_ok {journal : Journal} {inputs : Inputs} {paths : List String}
    {result : Store × Inputs}
    (h : paths.foldlM (readNext journal markers) (store, inputs) = .ok result) :
    result.2.units
        = inputs.units ++ ((readings journal markers store paths).flatMap fun p => p.2.unitList)
      ∧ result.2.errors = inputs.errors
        ++ (readings journal markers store paths).filterMap fun p => p.2.error? p.1 := by
  induction paths generalizing store inputs with
  | nil =>
    cases h
    simp [readings]
  | cons path paths ih =>
    rw [List.foldlM_cons] at h
    obtain ⟨⟨after, next⟩, hstate, hrest⟩ := Outcome.bind_eq_ok.1 h
    obtain ⟨hnext, hafter⟩ := readNext_eq_ok hstate
    obtain ⟨hunits, herrors⟩ := add_eq_ok hnext
    obtain ⟨hunits', herrors'⟩ := ih hrest
    cases hafter
    rw [hunits', herrors', hunits, herrors, readings, List.flatMap_cons, List.append_assoc,
      List.append_assoc, List.filterMap_cons]
    cases (Tree.ofFile markers store path).error? path with
    | none => exact ⟨rfl, rfl⟩
    | some message => exact ⟨rfl, rfl⟩

theorem readFiles_isOk_iff (paths : List String) :
    (∃ inputs, readFiles markers store paths = .ok inputs)
      ↔ ∀ path ∈ paths, ¬ (Tree.ofFile markers store path).Ends := by
  rw [← foldlM_readNext_isOk_iff {} paths]
  simp only [readFiles, readFilesWith, Outcome.map_eq_ok]
  constructor
  · rintro ⟨inputs, result, hresult, rfl⟩
    exact ⟨result, hresult⟩
  · rintro ⟨result, hresult⟩
    exact ⟨_, result, hresult, rfl⟩

/-- The files add their units and errors one after the other. -/
theorem readFiles_eq_ok {paths : List String} {inputs : Inputs}
    (h : readFiles markers store paths = .ok inputs) :
    inputs.units = (paths.flatMap fun path => (Tree.ofFile markers store path).unitList)
      ∧ inputs.errors
        = paths.filterMap fun path => (Tree.ofFile markers store path).error? path := by
  obtain ⟨result, hresult, rfl⟩ := Outcome.map_eq_ok.1 h
  obtain ⟨hunits, herrors⟩ := foldlM_readNext_eq_ok hresult
  rw [readings_silent] at hunits herrors
  rw [List.flatMap_map] at hunits
  rw [List.filterMap_map] at herrors
  exact ⟨hunits, herrors⟩

/-! ### Matching the units -/

theorem perUnit_eq_map (units : List CompilationUnit) :
    perUnit r jobs units = units.map (unitDiagnostics r) := by
  unfold perUnit
  split
  · next hjobs =>
    simp only [Bool.and_eq_true, decide_eq_true_eq] at hjobs
    exact Pool.run_eq_map _ _ (by omega)
  · rfl

theorem ofUnits_isOk_iff {units : List CompilationUnit} {errors inputs : List String} :
    (∃ result, ofUnits r jobs elapsed units errors inputs = .ok result)
      ↔ ∀ u ∈ units, ∃ found, unitDiagnostics r u = .ok found := by
  rw [ofUnits, perUnit_eq_map, Outcome.exists_bind_eq_ok]
  simp only [Outcome.pure_eq_ok, exists_eq', and_true, Outcome.exists_mapM_eq_ok,
    List.forall_mem_map, id]

theorem ofUnits_eq_ok {units : List CompilationUnit} {errors inputs : List String}
    {result : Analysis × List Log.Record}
    (h : ofUnits r jobs elapsed units errors inputs = .ok result) :
    ∃ found, List.Forall₂ (fun u ds => unitDiagnostics r u = .ok ds) units found
      ∧ result.1.diagnostics = found.flatten ∧ result.1.errors = errors
      ∧ result.1.filesAnalyzed = units.length := by
  rw [ofUnits, perUnit_eq_map] at h
  obtain ⟨found, hfound, hresult⟩ := Outcome.bind_eq_ok.1 h
  rw [Outcome.mapM_eq_ok_iff, List.forall₂_map_left_iff] at hfound
  cases Outcome.pure_eq_ok.1 hresult
  exact ⟨found, hfound, rfl, rfl, rfl⟩

/-- The fault of the first unit is the fault of all. -/
theorem ofUnits_of_fault {u : CompilationUnit} {units : List CompilationUnit} {fault : ValueFault}
    {errors inputs : List String} (h : unitDiagnostics r u = .error fault) :
    ofUnits r jobs elapsed (u :: units) errors inputs = .error fault := by
  rw [ofUnits, perUnit_eq_map, List.map_cons, List.mapM_cons, id, h]
  rfl

/-- The diagnostics of units, one after the other. -/
def diagnosticsOfUnits (r : Registry) (units : List CompilationUnit) :
    Except ValueFault (List Diagnostic) :=
  (units.mapM (unitDiagnostics r)).map List.flatten

theorem diagnosticsOfUnits_append (us vs : List CompilationUnit) :
    diagnosticsOfUnits r (us ++ vs)
      = (do
          let ds ← diagnosticsOfUnits r us
          let es ← diagnosticsOfUnits r vs
          return ds ++ es) := by
  unfold diagnosticsOfUnits
  rw [List.mapM_append]
  cases us.mapM (unitDiagnostics r) with
  | error fault => rfl
  | ok found =>
    cases vs.mapM (unitDiagnostics r) with
    | error fault => rfl
    | ok more => simp [Except.map, bind, Except.bind, pure, Except.pure]

/-- An analysis holds the diagnostics of its units and how many units and nodes there are. -/
theorem analysis_ofUnits (r : Registry) (jobs : Int) (elapsed : Number)
    (units : List CompilationUnit) (errors inputs : List String) :
    (ofUnits r jobs elapsed units errors inputs).map (·.1)
      = (diagnosticsOfUnits r units).map fun ds =>
          { diagnostics := ds, filesAnalyzed := units.length, nodesVisited := nodeCount units,
            errors, elapsed, inputs, banSources := r.sources } := by
  rw [ofUnits, perUnit_eq_map, List.mapM_map, diagnosticsOfUnits]
  show (Except.map _ (units.mapM (unitDiagnostics r) >>= _)) = _
  cases units.mapM (unitDiagnostics r) with
  | error fault => rfl
  | ok found => rfl

/-! ### Whole runs -/

/-- A run gives a result if no file ends it and every unit has diagnostics. -/
theorem ofFiles_isOk_iff {paths : List String} :
    (∃ result, ofFiles r markers store jobs elapsed paths = .ok result)
      ↔ ∀ path ∈ paths, ¬ (Tree.ofFile markers store path).Ends
        ∧ ∀ u ∈ (Tree.ofFile markers store path).unitList,
          ∃ found, unitDiagnostics r u = .ok found := by
  rw [ofFiles, Outcome.exists_bind_eq_ok]
  simp only [Outcome.exists_bind_eq_ok, Outcome.pure_eq_ok, exists_eq', and_true, ofInputs,
    Outcome.mapError_eq_ok, ofUnits_isOk_iff]
  constructor
  · rintro ⟨inputs, hinputs, hunits⟩ path hpath
    refine ⟨(readFiles_isOk_iff paths).1 ⟨inputs, hinputs⟩ path hpath, fun u hu => ?_⟩
    rw [(readFiles_eq_ok hinputs).1] at hunits
    exact hunits u (List.mem_flatMap.2 ⟨path, hpath, hu⟩)
  · intro h
    obtain ⟨inputs, hinputs⟩ := (readFiles_isOk_iff paths).2 fun path hpath => (h path hpath).1
    refine ⟨inputs, hinputs, ?_⟩
    rw [(readFiles_eq_ok hinputs).1]
    intro u hu
    obtain ⟨path, hpath, hu⟩ := List.mem_flatMap.1 hu
    exact (h path hpath).2 u hu

theorem unitDiagnostics_isOk (hr : r.Worded) {u : CompilationUnit} (h : u.isSound = true) :
    ∃ found, unitDiagnostics r u = .ok found := by
  simp only [CompilationUnit.isSound, Bool.and_eq_true, List.all_eq_true] at h
  have hnodes := Outcome.exists_mapM_eq_ok.2 fun n hn => Match.diagnose_isOk hr (h.2 n hn)
  obtain ⟨found, hfound⟩ := hnodes
  rw [unitDiagnostics, hfound, Match.shown_of_isShort h.1]
  exact ⟨_, rfl⟩

/-- Files of which reading ends nothing and whose units are sound give a result, whatever was
loaded. -/
theorem ofFiles_isOk_of_sound (hr : r.Worded) {paths : List String}
    (h : ∀ path ∈ paths, ¬ (Tree.ofFile markers store path).Ends
      ∧ ∀ u ∈ (Tree.ofFile markers store path).unitList, u.isSound = true) :
    ∃ result, ofFiles r markers store jobs elapsed paths = .ok result := by
  refine ofFiles_isOk_iff.2 fun path hpath => ?_
  obtain ⟨hends, hsound⟩ := h path hpath
  exact ⟨hends, fun u hu => unitDiagnostics_isOk hr (hsound u hu)⟩

theorem ofFiles_eq_ok {paths : List String} {result : Analysis × List Log.Record}
    (h : ofFiles r markers store jobs elapsed paths = .ok result) :
    result.1.errors = (paths.filterMap fun path => (Tree.ofFile markers store path).error? path)
      ∧ ∃ found, List.Forall₂ (fun u ds => unitDiagnostics r u = .ok ds)
          (paths.flatMap fun path => (Tree.ofFile markers store path).unitList) found
        ∧ result.1.diagnostics = found.flatten ∧ result.1.filesAnalyzed = found.length := by
  obtain ⟨inputs, hinputs, hrest⟩ := Outcome.bind_eq_ok.1 h
  obtain ⟨⟨analysis, records⟩, hunits, hresult⟩ := Outcome.bind_eq_ok.1 hrest
  cases Outcome.pure_eq_ok.1 hresult
  obtain ⟨found, hfound, hdiagnostics, herrors, hfiles⟩ :=
    ofUnits_eq_ok (Outcome.mapError_eq_ok.1 hunits)
  rw [(readFiles_eq_ok hinputs).1] at hfound
  rw [(readFiles_eq_ok hinputs).2] at herrors
  refine ⟨herrors, found, hfound, hdiagnostics, ?_⟩
  rw [hfiles, (readFiles_eq_ok hinputs).1, hfound.length_eq]

/-- The files of a run do not disturb each other, as long as each of them gives a result alone. A
run gives a result, whatever was loaded, if neither the reader nor the version nor the walk of any
file ends it and all units are sound; only the walk of a YAML file whose document holds itself does. It
gives a result if and only if each file does so alone. When there is a result, every file has added
its units or one error: the errors are those of the files that cannot be read, and the diagnostics
are those of all units of the others, in order. -/
theorem ofFiles_independent (l : Loader) (markers : Markers) (store : Store) (jobs : Int)
    (elapsed : Number) (paths : List String) :
    ((∀ path ∈ paths, ¬ Tree.ReaderEnds store path ∧ ¬ Tree.VersionEnds store path
        ∧ ¬ Tree.WalkEnds markers store path
        ∧ ∀ u ∈ (Tree.ofFile markers store path).unitList, u.isSound = true) →
      ∃ result, ofFiles l.build markers store jobs elapsed paths = .ok result)
    ∧ (∀ path, Tree.WalkEnds markers store path → Tree.isYaml path = true
      ∧ ∃ document, Tree.readDocument store path = .ok document ∧ ¬ document.Whole)
    ∧ ((∃ result, ofFiles l.build markers store jobs elapsed paths = .ok result)
      ↔ ∀ path ∈ paths, ∃ result, ofFiles l.build markers store jobs elapsed [path] = .ok result)
    ∧ ∀ analysis records,
      ofFiles l.build markers store jobs elapsed paths = .ok (analysis, records) →
      analysis.errors = (paths.filterMap fun path => (Tree.ofFile markers store path).error? path)
      ∧ ∃ found, List.Forall₂ (fun u ds => unitDiagnostics l.build u = .ok ds)
          (paths.flatMap fun path => (Tree.ofFile markers store path).unitList) found
        ∧ analysis.diagnostics = found.flatten ∧ analysis.filesAnalyzed = found.length := by
  refine ⟨fun h => ?_, fun path => Tree.WalkEnds.holdsItself, ?_,
    fun analysis records h => ofFiles_eq_ok h⟩
  · refine ofFiles_isOk_of_sound l.worded_build fun path hpath => ?_
    obtain ⟨hreader, hversion, hwalk, hsound⟩ := h path hpath
    rw [Tree.ofFile_ends_iff, not_or, not_or]
    exact ⟨⟨hreader, hversion, hwalk⟩, hsound⟩
  · simp only [ofFiles_isOk_iff, List.forall_mem_singleton]

/-! ### A type that is a list -/

/-- A tree with one unit, which has one item in a list field. -/
def sampleTree (key : String) (item : Value) : Value :=
  .object [("compilation_units", .list [.object [(key, .list [item])]])]

/-- A field whose type is a list. -/
def sampleField : Value :=
  .object [("kind", .text "field"), ("name", .text "x"), ("type", .list [.text "int"])]

/-- An import of a banned class. -/
def sampleImport : Value := .object [("name", .text "a.B")]

/-- A loader that bans the class. -/
def sampleLoader : Loader := { classes := .ofList [("a.B", "")] }

/-- The tree of the field, written out. -/
def fieldText : String :=
  "\x7b\"compilation_units\": [\x7b\"declarations\": [\x7b\"kind\": \"field\", \"name\": \"x\", "
    ++ "\"type\": [\"int\"]\x7d]\x7d]\x7d"

/-- The tree of the import, written out. -/
def importText : String :=
  "\x7b\"compilation_units\": [\x7b\"imports\": [\x7b\"name\": \"a.B\"\x7d]\x7d]\x7d"

/-- Both trees in files. -/
def sampleFiles : Store :=
  ⟨[(["field.json"], .file (.text fieldText)), (["import.json"], .file (.text importText))]⟩

theorem legible_sampleTree (key : String) {item : Value} (h : Json.Legible .compact item) :
    Json.Legible .compact (sampleTree key item) := by
  have hunit : Json.Legible .compact (.object [(key, .list [item])]) := by
    refine Json.legible_object rfl (by simp) ?_
    simpa using Json.legible_list (by simpa using h)
  refine Json.legible_object rfl (by simp) ?_
  simpa using Json.legible_list (by simpa using hunit)

theorem legible_sampleField : Json.Legible .compact sampleField := by
  have htext (s : String) : Json.Legible .compact (.text s) := Json.legible_text rfl s
  have htype : Json.Legible .compact (.list [.text "int"]) :=
    Json.legible_list (by simpa using htext "int")
  refine Json.legible_object rfl (by decide) ?_
  simpa using ⟨htext "field", htext "x", htype⟩

theorem legible_sampleImport : Json.Legible .compact sampleImport := by
  refine Json.legible_object rfl (by decide) ?_
  simpa using Json.legible_text rfl "a.B"

/-- A JSON file in which a legible document was written is read back. -/
theorem readDocument_of_print {store : Store} {path text : String} {document : Value}
    (hlegible : Json.Legible .compact document) (hprint : Json.print .compact document = .ok text)
    (hread : store.readText path = .ok (String.ofList (Text.unifyNewlines text.toList)))
    (hplain : '\r' ∉ text.toList) (hholds : store.holds path = true)
    (hyaml : Tree.isYaml path = false) : Tree.readDocument store path = .ok document := by
  obtain ⟨printed, hprinted, hparse⟩ := Json.parse_print hlegible "" (by simp)
  cases hprinted.symm.trans hprint
  rw [String.append_empty] at hparse
  rw [Text.unifyNewlines_of_not_mem hplain, String.ofList_toList] at hread
  rw [Tree.readDocument, hholds, hyaml]
  simp only [Bool.not_true, Bool.false_eq_true, if_false, Tree.readJson, hread, hparse]
  rfl

/-- The unit of the field. -/
def fieldUnit : CompilationUnit :=
  ⟨.text "field.json", [⟨⟨.text "field.json", .null, .null⟩, [⟨"field", "x", false⟩],
    .variableDecl (.text "x") (.list [.text "int"])⟩]⟩

/-- The unit of the import. -/
def importUnit : CompilationUnit :=
  ⟨.text "import.json", [⟨⟨.text "import.json", .null, .null⟩, [],
    .importing (.text "a.B") (.text "a")⟩]⟩

theorem units_field : (Tree.ofFile .standard sampleFiles "field.json").units = .ok [fieldUnit] := by
  have hlegible := legible_sampleTree "declarations" legible_sampleField
  have hprint : Json.print .compact (sampleTree "declarations" sampleField) = .ok fieldText := by
    rfl
  rw [Tree.ofFile, readDocument_of_print hlegible hprint rfl (by decide) rfl (by decide)]
  with_unfolding_all rfl

theorem units_import :
    (Tree.ofFile .standard sampleFiles "import.json").units = .ok [importUnit] := by
  have hlegible := legible_sampleTree "imports" legible_sampleImport
  have hprint : Json.print .compact (sampleTree "imports" sampleImport) = .ok importText := by
    rfl
  rw [Tree.ofFile, readDocument_of_print hlegible hprint rfl (by decide) rfl (by decide)]
  with_unfolding_all rfl

/-- What is said about the import. -/
def importDiagnostic : Diagnostic :=
  ⟨⟨.text "import.json", .null, .null⟩,
    "Use of a.B has been banned due to cross platform incompatibility.", some "import",
    some "import-class", checkName⟩

/-- A type that is a list passes the walk and ends the run, so the banned import in the other file
is not reported; alone it is. -/
theorem ofFiles_listType :
    ofFiles sampleLoader.build .standard sampleFiles 1 (.int 0) ["field.json", "import.json"]
        = .error (.value (.noOperation .list "find"))
      ∧ ∃ analysis records,
        ofFiles sampleLoader.build .standard sampleFiles 1 (.int 0) ["import.json"]
            = .ok (analysis, records)
          ∧ analysis.diagnostics = [importDiagnostic] := by
  have hfield : unitDiagnostics sampleLoader.build fieldUnit
      = .error (.noOperation .list "find") := by with_unfolding_all rfl
  have himport : unitDiagnostics sampleLoader.build importUnit = .ok [importDiagnostic] := by
    with_unfolding_all rfl
  have hendsField := Tree.Reading.not_ends_of_units units_field
  have hendsImport := Tree.Reading.not_ends_of_units units_import
  have hlistField := Tree.Reading.unitList_of_units units_field
  have hlistImport := Tree.Reading.unitList_of_units units_import
  constructor
  · have hends : ∀ path ∈ ["field.json", "import.json"],
        ¬ (Tree.ofFile .standard sampleFiles path).Ends := by
      simpa using ⟨hendsField, hendsImport⟩
    obtain ⟨inputs, hinputs⟩ := (readFiles_isOk_iff _).2 hends
    have hunits : inputs.units = [fieldUnit, importUnit] := by
      rw [(readFiles_eq_ok hinputs).1]
      simp [hlistField, hlistImport]
    -- The unit of the field comes first, and its fault is that of the run.
    rw [ofFiles, hinputs]
    simp only [bind, Except.bind, ofInputs, hunits, ofUnits_of_fault hfield]
    rfl
  · have halone : ∀ path ∈ ["import.json"], ¬ (Tree.ofFile .standard sampleFiles path).Ends
        ∧ ∀ u ∈ (Tree.ofFile .standard sampleFiles path).unitList,
          ∃ found, unitDiagnostics sampleLoader.build u = .ok found := by
      simpa [hlistImport, himport] using hendsImport
    obtain ⟨⟨analysis, records⟩, hresult⟩ := ofFiles_isOk_iff.2 halone
    obtain ⟨-, found, hfound, hdiagnostics, -⟩ := ofFiles_eq_ok hresult
    refine ⟨analysis, records, hresult, ?_⟩
    rw [List.flatMap_singleton, hlistImport] at hfound
    cases hfound with
    | cons hunit hnone =>
      cases hnone
      cases hunit.symm.trans himport
      exact hdiagnostics

end BannedApi.Analysis
