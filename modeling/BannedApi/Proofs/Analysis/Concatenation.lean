import BannedApi.Proofs.Analysis.Files
import BannedApi.Proofs.Tree.Acceptance

/-!
What several files give is put together from what each of them gives.

A document is read as a whole or not at all: one unit that is not well formed, be it the last one,
keeps all of them out (`Tree.wellFormed_of_units`). So a file is read or adds one error and nothing
else, and an analysis depends on the files that are read alone (`figures_ofFiles`): files that are
not can be put in and taken out without any effect, and the diagnostics of two lists of files are
those of the first and then those of the second (`readFiles_concatenated`).
-/
namespace BannedApi

namespace Tree

variable {markers : Markers} {path : String}

/-! ### All units of a document or none -/

theorem wellFormedUnit_of_unitOf {index : Nat} {raw : Value} {unit : CompilationUnit}
    (h : unitOf markers path index raw = .ok unit) : WellFormedUnit raw := by
  refine (fault_yieldOf_iff ⟨markers, unitFile path raw⟩ .unit raw).1 ?_
  simp only [unitOf, Walker.visit_eq_reap, Walker.reap] at h
  cases hfault : (Walker.yieldOf ⟨markers, unitFile path raw⟩ .unit raw).fault with
  | none => rfl
  | some fault =>
    rw [hfault] at h
    cases h

theorem wellFormed_of_unitsFrom {index : Nat} {items : List Value} {units : List CompilationUnit}
    (h : unitsFrom markers path index items = .ok units) :
    (∀ raw ∈ items, WellFormedUnit raw) ∧ units.length = items.length := by
  induction items generalizing index units with
  | nil =>
    cases h
    simp
  | cons raw items ih =>
    rw [unitsFrom] at h
    cases hunit : unitOf markers path index raw with
    | error fault =>
      rw [hunit] at h
      cases h
    | ok unit =>
      rw [hunit] at h
      obtain ⟨rest, hrest, rfl⟩ := Outcome.map_eq_ok.1 h
      obtain ⟨hitems, hlength⟩ := ih hrest
      rw [List.forall_mem_cons, List.length_cons, List.length_cons, hlength]
      exact ⟨⟨wellFormedUnit_of_unitOf hunit, hitems⟩, rfl⟩

/-- All items of a document that is read are well formed, and there is a unit for each of them. -/
theorem wellFormed_of_units {document : Value} {items : List Value} {units : List CompilationUnit}
    (hitems : (document.field "compilation_units").items? = some items)
    (h : (ofDocument markers path document).units = .ok units) :
    (∀ raw ∈ items, WellFormedUnit raw) ∧ units.length = items.length := by
  have hunits : unitsOf markers path document = .ok units := by
    simp only [ofDocument] at h
    split at h
    · cases h
    · cases hversion : versionRecords path document with
      | error f =>
        rw [hversion] at h
        cases h
      | ok warnings =>
        rw [hversion] at h
        cases hof : unitsOf markers path document with
        | error f =>
          rw [hof] at h
          cases h
        | ok units' =>
          rw [hof] at h
          exact h
  rw [unitsOf, hitems] at hunits
  exact wellFormed_of_unitsFrom (Outcome.mapError_eq_ok.1 hunits)

end Tree

namespace Analysis

variable {markers : Markers} {store : Store}

/-! ### Files that are read and files that are not -/

/-- The tree in the file is read as a whole. -/
def isRead (markers : Markers) (store : Store) (path : String) : Bool :=
  (Tree.ofFile markers store path).units.isOk

theorem isRead_iff {path : String} :
    isRead markers store path = true
      ↔ ∃ units, (Tree.ofFile markers store path).units = .ok units := by
  unfold isRead
  cases (Tree.ofFile markers store path).units <;> simp [Except.isOk, Except.toBool]

theorem isRead_eq_false_iff {path : String} :
    isRead markers store path = false
      ↔ ∃ fault, (Tree.ofFile markers store path).units = .error fault := by
  unfold isRead
  cases (Tree.ofFile markers store path).units <;> simp [Except.isOk, Except.toBool]

/-- The units of files, one after the other. -/
def unitsOfFiles (markers : Markers) (store : Store) (paths : List String) : List CompilationUnit :=
  paths.flatMap fun path => (Tree.ofFile markers store path).unitList

theorem unitsOfFiles_append (ps qs : List String) :
    unitsOfFiles markers store (ps ++ qs)
      = unitsOfFiles markers store ps ++ unitsOfFiles markers store qs :=
  List.flatMap_append

/-- A file that is not read adds no unit. -/
theorem unitsOfFiles_filter (paths : List String) :
    unitsOfFiles markers store (paths.filter (isRead markers store))
      = unitsOfFiles markers store paths := by
  induction paths with
  | nil => rfl
  | cons path paths ih =>
    unfold unitsOfFiles at ih ⊢
    cases hread : isRead markers store path with
    | true => rw [List.filter_cons_of_pos hread, List.flatMap_cons, List.flatMap_cons, ih]
    | false =>
      obtain ⟨fault, hfault⟩ := isRead_eq_false_iff.1 hread
      rw [List.filter_cons_of_neg (by simp [hread]), ih, List.flatMap_cons, Tree.Reading.unitList,
        hfault]
      rfl

/-- The files that are read give their units, in order. -/
theorem forall₂_units (paths : List String) :
    ∃ found, List.Forall₂ (fun path units => (Tree.ofFile markers store path).units = .ok units)
        (paths.filter (isRead markers store)) found
      ∧ unitsOfFiles markers store paths = found.flatten := by
  refine ⟨(paths.filter (isRead markers store)).map fun path =>
    (Tree.ofFile markers store path).unitList, ?_, ?_⟩
  · rw [List.forall₂_map_right_iff, List.forall₂_same]
    intro path hpath
    obtain ⟨units, hunits⟩ := isRead_iff.1 (List.mem_filter.1 hpath).2
    rw [Tree.Reading.unitList_of_units hunits, hunits]
  · rw [← unitsOfFiles_filter, unitsOfFiles, List.flatMap_def]

/-- The files that are not read give one error each, in order. -/
theorem forall₂_errors (paths : List String) :
    List.Forall₂
      (fun path message => ∃ fault, (Tree.ofFile markers store path).units = .error fault
        ∧ message = fault.message path)
      (paths.filter fun path => !isRead markers store path)
      (paths.filterMap fun path => (Tree.ofFile markers store path).error? path) := by
  induction paths with
  | nil => exact .nil
  | cons path paths ih =>
    cases hread : isRead markers store path with
    | true =>
      obtain ⟨units, hunits⟩ := isRead_iff.1 hread
      rw [List.filter_cons_of_neg (by simp [hread]),
        List.filterMap_cons_none (by rw [Tree.Reading.error?, hunits])]
      exact ih
    | false =>
      obtain ⟨fault, hfault⟩ := isRead_eq_false_iff.1 hread
      rw [List.filter_cons_of_pos (by simp [hread]),
        List.filterMap_cons_some (by rw [Tree.Reading.error?, hfault])]
      exact .cons ⟨fault, hfault, rfl⟩ ih

/-! ### The figures of a run -/

/-- What is found in files, and how much was looked at. -/
structure Figures where
  diagnostics : List Diagnostic
  filesAnalyzed : Int
  nodesVisited : Int

/-- The figures of an analysis. -/
def figures (a : Analysis) : Figures := ⟨a.diagnostics, a.filesAnalyzed, a.nodesVisited⟩

/-- When reading ends nothing, the figures of a run are those of the units of its files. -/
theorem figures_ofFiles {paths : List String}
    (hends : ∀ path ∈ paths, ¬ (Tree.ofFile markers store path).Ends) (r : Registry) (jobs : Int)
    (elapsed : Number) :
    (ofFiles r markers store jobs elapsed paths).map (figures ·.1)
      = ((diagnosticsOfUnits r (unitsOfFiles markers store paths)).map fun ds =>
          (⟨ds, (unitsOfFiles markers store paths).length,
            nodeCount (unitsOfFiles markers store paths)⟩ : Figures)).mapError .value := by
  obtain ⟨inputs, hinputs⟩ := (readFiles_isOk_iff paths).2 hends
  have hunits : inputs.units = unitsOfFiles markers store paths := (readFiles_eq_ok hinputs).1
  calc (ofFiles r markers store jobs elapsed paths).map (figures ·.1)
      = (((ofUnits r jobs elapsed inputs.units inputs.errors paths).map (·.1)).map
          figures).mapError .value := by
        rw [ofFiles, hinputs]
        show Except.map _ (ofInputs r jobs elapsed paths inputs >>= _) = _
        rw [ofInputs]
        cases ofUnits r jobs elapsed inputs.units inputs.errors paths <;> rfl
    _ = _ := by
        rw [analysis_ofUnits, hunits]
        cases diagnosticsOfUnits r (unitsOfFiles markers store paths) <;> rfl

theorem diagnostics_ofFiles {paths : List String}
    (hends : ∀ path ∈ paths, ¬ (Tree.ofFile markers store path).Ends) (r : Registry) (jobs : Int)
    (elapsed : Number) :
    (ofFiles r markers store jobs elapsed paths).map (·.1.diagnostics)
      = (diagnosticsOfUnits r (unitsOfFiles markers store paths)).mapError .value := by
  calc (ofFiles r markers store jobs elapsed paths).map (·.1.diagnostics)
      = ((ofFiles r markers store jobs elapsed paths).map (figures ·.1)).map
          (·.diagnostics) := by
        cases ofFiles r markers store jobs elapsed paths <;> rfl
    _ = _ := by
        rw [figures_ofFiles hends]
        cases diagnosticsOfUnits r (unitsOfFiles markers store paths) <;> rfl

theorem diagnostics_append {ps qs : List String}
    (hps : ∀ path ∈ ps, ¬ (Tree.ofFile markers store path).Ends)
    (hqs : ∀ path ∈ qs, ¬ (Tree.ofFile markers store path).Ends) (r : Registry) (jobs : Int)
    (elapsed : Number) :
    (ofFiles r markers store jobs elapsed (ps ++ qs)).map (·.1.diagnostics)
      = (do
          let ds ← (ofFiles r markers store jobs elapsed ps).map (·.1.diagnostics)
          let es ← (ofFiles r markers store jobs elapsed qs).map (·.1.diagnostics)
          return ds ++ es) := by
  have hends : ∀ path ∈ ps ++ qs, ¬ (Tree.ofFile markers store path).Ends := by
    simpa [or_imp, forall_and] using ⟨hps, hqs⟩
  rw [diagnostics_ofFiles hends, diagnostics_ofFiles hps, diagnostics_ofFiles hqs,
    unitsOfFiles_append, diagnosticsOfUnits_append]
  cases diagnosticsOfUnits r (unitsOfFiles markers store ps) with
  | error fault => rfl
  | ok ds => cases diagnosticsOfUnits r (unitsOfFiles markers store qs) <;> rfl

/-- Documents are read as a whole or not at all, and on their own. When reading ends nothing, the
files give the units of all documents that are read, in order, and one error for each of the others.
A document with a unit that is not well formed is not read, and one that is read has a unit for each
item. So the figures of a run depend on the files that are read alone, and the diagnostics of two
lists of files are those of the first and then those of the second. -/
theorem readFiles_concatenated {paths : List String}
    (hends : ∀ path ∈ paths, ¬ (Tree.ofFile markers store path).Ends) :
    (∃ inputs, readFiles markers store paths = .ok inputs
      ∧ (∃ found,
        List.Forall₂ (fun path units => (Tree.ofFile markers store path).units = .ok units)
          (paths.filter (isRead markers store)) found
        ∧ inputs.units = found.flatten)
      ∧ List.Forall₂
        (fun path message => ∃ fault, (Tree.ofFile markers store path).units = .error fault
          ∧ message = fault.message path)
        (paths.filter fun path => !isRead markers store path) inputs.errors)
    ∧ (∀ path document items, Tree.readDocument store path = .ok document →
      (document.field "compilation_units").items? = some items →
      ((∃ raw ∈ items, ¬ Tree.WellFormedUnit raw) → isRead markers store path = false)
      ∧ ∀ units, (Tree.ofFile markers store path).units = .ok units → units.length = items.length)
    ∧ ∀ (r : Registry) (jobs : Int) (elapsed : Number) (others : List String),
      (∀ path ∈ others, ¬ (Tree.ofFile markers store path).Ends) →
      (others.filter (isRead markers store) = paths.filter (isRead markers store) →
        (ofFiles r markers store jobs elapsed others).map (figures ·.1)
          = (ofFiles r markers store jobs elapsed paths).map (figures ·.1))
      ∧ (ofFiles r markers store jobs elapsed (paths ++ others)).map (·.1.diagnostics)
        = (do
            let ds ← (ofFiles r markers store jobs elapsed paths).map (·.1.diagnostics)
            let es ← (ofFiles r markers store jobs elapsed others).map (·.1.diagnostics)
            return ds ++ es) := by
  refine ⟨?_, fun path document items hdocument hitems => ?_,
    fun r jobs elapsed others hothers => ⟨fun hsame => ?_, diagnostics_append hends hothers ..⟩⟩
  · obtain ⟨inputs, hinputs⟩ := (readFiles_isOk_iff paths).2 hends
    obtain ⟨hunits, herrors⟩ := readFiles_eq_ok hinputs
    refine ⟨inputs, hinputs, ?_, ?_⟩
    · rw [hunits]
      exact forall₂_units paths
    · rw [herrors]
      exact forall₂_errors paths
  · have hall {units : List CompilationUnit}
        (hunits : (Tree.ofFile markers store path).units = .ok units) :
        (∀ raw ∈ items, Tree.WellFormedUnit raw) ∧ units.length = items.length := by
      rw [Tree.ofFile, hdocument] at hunits
      exact Tree.wellFormed_of_units hitems hunits
    refine ⟨?_, fun units hunits => (hall hunits).2⟩
    rintro ⟨raw, hraw, hmalformed⟩
    refine Bool.eq_false_iff.2 fun hread => hmalformed ?_
    obtain ⟨units, hunits⟩ := isRead_iff.1 hread
    exact (hall hunits).1 raw hraw
  · have hunits : unitsOfFiles markers store others = unitsOfFiles markers store paths := by
      rw [← unitsOfFiles_filter, hsame, unitsOfFiles_filter]
    rw [figures_ofFiles hothers, figures_ofFiles hends, hunits]

/-! ### A document with a malformed unit at its end -/

/-- A document whose last unit has an import without a name. -/
def sampleBroken : Value :=
  .object [("compilation_units", .list [.object [("imports", .list [sampleImport])],
    .object [("imports", .list [.object []])]])]

/-- The document, written out. -/
def brokenText : String :=
  "\x7b\"compilation_units\": [\x7b\"imports\": [\x7b\"name\": \"a.B\"\x7d]\x7d, "
    ++ "\x7b\"imports\": [\x7b\x7d]\x7d]\x7d"

/-- The document in a file, and the tree of the import in another one. -/
def sampleBoth : Store :=
  ⟨[(["broken.json"], .file (.text brokenText)), (["import.json"], .file (.text importText))]⟩

theorem readDocument_broken : Tree.readDocument sampleBoth "broken.json" = .ok sampleBroken := by
  have hempty : Json.Legible .compact (.object []) := Json.legible_object rfl (by simp) (by simp)
  have hunit {item : Value} (h : Json.Legible .compact item) :
      Json.Legible .compact (.object [("imports", .list [item])]) := by
    refine Json.legible_object rfl (by simp) ?_
    simpa using Json.legible_list (by simpa using h)
  have hlegible : Json.Legible .compact sampleBroken := by
    refine Json.legible_object rfl (by simp) ?_
    simpa using Json.legible_list (by simpa using ⟨hunit legible_sampleImport, hunit hempty⟩)
  have hprint : Json.print .compact sampleBroken = .ok brokenText := by rfl
  exact readDocument_of_print hlegible hprint rfl (by decide) rfl (by decide)

theorem not_wellFormedUnit_nameless :
    ¬ Tree.WellFormedUnit (.object [("imports", .list [.object []])]) := by
  intro h
  obtain ⟨xs, hxs, hnamed⟩ := h.imports
  rcases hxs with ⟨hnull, -⟩ | hitems
  · cases hnull
  · cases hitems
    obtain ⟨s, hname, -⟩ := (hnamed _ (List.mem_singleton.2 rfl)).name
    cases hname

theorem units_importBeside :
    (Tree.ofFile .standard sampleBoth "import.json").units = .ok [importUnit] := by
  have hlegible := legible_sampleTree "imports" legible_sampleImport
  have hprint : Json.print .compact (sampleTree "imports" sampleImport) = .ok importText := by
    rfl
  rw [Tree.ofFile, readDocument_of_print hlegible hprint rfl (by decide) rfl (by decide)]
  with_unfolding_all rfl

/-- A missing file and the document with the malformed end add one error each and no unit, and the
run finds what it finds in the import alone. -/
theorem readFiles_concatenated_broken :
    (∀ path ∈ ["none.json", "broken.json", "import.json"],
      ¬ (Tree.ofFile .standard sampleBoth path).Ends)
    ∧ (∃ inputs,
      readFiles .standard sampleBoth ["none.json", "broken.json", "import.json"] = .ok inputs
      ∧ inputs.units = [importUnit] ∧ inputs.errors.length = 2)
    ∧ isRead .standard sampleBoth "broken.json" = false
    ∧ (ofFiles sampleLoader.build .standard sampleBoth 1 (.int 0) ["import.json"]).map (figures ·.1)
      = (ofFiles sampleLoader.build .standard sampleBoth 1 (.int 0)
          ["none.json", "broken.json", "import.json"]).map (figures ·.1) := by
  have hnone : (Tree.ofFile .standard sampleBoth "none.json").units = .error .missing := by
    with_unfolding_all rfl
  have hbroken : (Tree.ofFile .standard sampleBoth "broken.json").units
      = .error (.malformed ⟨[.item "compilation_units" 1, .item "imports" 0],
          .importWithoutName⟩) := by
    rw [Tree.ofFile, readDocument_broken]
    with_unfolding_all rfl
  have hends : ∀ path ∈ ["none.json", "broken.json", "import.json"],
      ¬ (Tree.ofFile .standard sampleBoth path).Ends := by
    simp [Tree.Reading.Ends, hnone, hbroken, units_importBeside]
  obtain ⟨⟨inputs, hinputs, ⟨found, hfound, hunits⟩, herrors⟩, hwhole, hruns⟩ :=
    readFiles_concatenated hends
  have hreadNone : isRead .standard sampleBoth "none.json" = false :=
    isRead_eq_false_iff.2 ⟨_, hnone⟩
  have hreadBroken : isRead .standard sampleBoth "broken.json" = false :=
    (hwhole _ _ _ readDocument_broken rfl).1
      ⟨_, List.mem_cons_of_mem _ (List.mem_singleton.2 rfl), not_wellFormedUnit_nameless⟩
  have hreadImport : isRead .standard sampleBoth "import.json" = true :=
    isRead_iff.2 ⟨_, units_importBeside⟩
  refine ⟨hends, ⟨inputs, hinputs, ?_, ?_⟩, hreadBroken, ?_⟩
  · simp only [List.filter_cons, hreadNone, hreadBroken, hreadImport, List.filter_nil, if_true,
      Bool.false_eq_true, if_false] at hfound
    cases hfound with
    | cons hunit hrest =>
      cases hrest
      cases hunit.symm.trans units_importBeside
      exact hunits
  · rw [← herrors.length_eq]
    simp [hreadNone, hreadBroken, hreadImport]
  · refine (hruns _ 1 (.int 0) ["import.json"] ?_).1 ?_
    · simpa using Tree.Reading.not_ends_of_units units_importBeside
    · simp [hreadNone, hreadBroken, hreadImport]

end Analysis

end BannedApi
