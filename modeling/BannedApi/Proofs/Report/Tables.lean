import BannedApi.Proofs.Match.Sound
import BannedApi.Proofs.Outcome
import BannedApi.Proofs.Value.Change
import BannedApi.Proofs.Value.Key
import BannedApi.Report.Json
import BannedApi.Report.Markdown
import Mathlib.Data.List.Induction
import Mathlib.Data.List.Perm.Basic

/-!
Diagnostics sorted by file.

An analysis puts each diagnostic into the group of its file, and a Markdown report puts it into the
table of its file. The two are made in different ways, but one step of either does the same
(`putEntry_append`), and after every step the groups are `grouped`: the keys in the order in which
they first come, each with all its items in their order (`addToTables_grouped`). So the tables are
the groups (`byFile_eq_tables`), and no diagnostic is lost or told twice
(`diagnosticsSection_grouped`).
-/
namespace BannedApi.Report

open Scalar (distinct)

variable {α β : Type}

/-! ### Groups -/

/-- The keys in the order in which they first come, each with its items in their order. -/
def grouped (key : α → Scalar) (items : List α) : List (Scalar × List α) :=
  (distinct (items.map key)).map fun k => (k, items.filter fun x => k.sameKey (key x))

/-- An item joins the one group whose key is the same as its own; if there is none it founds a
group. -/
theorem addToTables_map {ks : List Scalar} (h : ks.Pairwise fun k l => k.keyed ≠ l.keyed)
    (f : Scalar → List α) (k : Scalar) (x : α) :
    addToTables k x (ks.map fun l => (l, f l))
      = if ks.any (·.sameKey k) then ks.map fun l => (l, if l.sameKey k then f l ++ [x] else f l)
        else ks.map (fun l => (l, f l)) ++ [(k, [x])] := by
  induction ks with
  | nil => rfl
  | cons j ks ih =>
    obtain ⟨hj, hks⟩ := List.pairwise_cons.1 h
    rw [List.map_cons, addToTables, List.any_cons]
    by_cases hjk : j.sameKey k = true
    · -- no later key is the same, since it would be the same as `j`
      have hrest : ks.map (fun l => (l, f l))
          = ks.map fun l => (l, if l.sameKey k then f l ++ [x] else f l) := by
        refine List.map_congr_left fun l hl => ?_
        have hlk : ¬ l.sameKey k = true := fun hlk =>
          hj l hl ((Scalar.sameKey_iff.1 hjk).trans (Scalar.sameKey_iff.1 hlk).symm)
        rw [if_neg hlk]
      simp [hjk, hrest]
    · rw [if_neg hjk, ih hks, Bool.eq_false_iff.2 hjk, Bool.false_or, List.map_cons]
      split
      · simp
      · rfl

/-- One step: groups stay groups when an item is added. -/
theorem addToTables_grouped (key : α → Scalar) (items : List α) (x : α) :
    addToTables (key x) x (grouped key items) = grouped key (items ++ [x]) := by
  unfold grouped
  rw [addToTables_map (Scalar.pairwise_distinct _), Scalar.any_distinct, List.map_append,
    List.map_singleton, Scalar.distinct_concat]
  by_cases hany : (items.map key).any (·.sameKey (key x)) = true
  · rw [if_pos hany, if_pos hany]
    refine List.map_congr_left fun k _ => ?_
    by_cases hkx : k.sameKey (key x) = true
    · simp [hkx]
    · simp [hkx]
  · rw [if_neg hany, if_neg hany, List.map_append, List.map_singleton]
    have hnone : ∀ y ∈ items, (key y).keyed ≠ (key x).keyed := by
      intro y hy hsame
      exact hany (List.any_eq_true.2 ⟨key y, List.mem_map_of_mem hy, Scalar.sameKey_iff.2 hsame⟩)
    refine congr (congrArg _ (List.map_congr_left fun k hk => ?_)) ?_
    · obtain ⟨y, hy, rfl⟩ := List.mem_map.1 (Scalar.mem_of_mem_distinct hk)
      have hkx : ¬ (key y).sameKey (key x) = true := fun h => hnone y hy (Scalar.sameKey_iff.1 h)
      simp [hkx]
    · have hself : (key x).sameKey (key x) = true := Scalar.sameKey_iff.2 rfl
      have hold : items.filter (fun y => (key x).sameKey (key y)) = [] :=
        List.filter_eq_nil_iff.2 fun y hy h => hnone y hy (Scalar.sameKey_iff.1 h).symm
      simp [hold, hself]

/-- The whole run: adding items one after the other groups them. -/
theorem foldl_addToTables (key : α → Scalar) (items : List α) :
    items.foldl (fun made x => addToTables (key x) x made) [] = grouped key items := by
  induction items using List.reverseRecOn with
  | nil => rfl
  | append_singleton items x ih =>
    rw [List.foldl_append, List.foldl_cons, List.foldl_nil, ih, addToTables_grouped]

theorem perm_addToTables (k : Scalar) (x : α) (made : List (Scalar × List α)) :
    ((addToTables k x made).flatMap (·.2)).Perm (made.flatMap (·.2) ++ [x]) := by
  induction made with
  | nil => exact .refl _
  | cons g made ih =>
    obtain ⟨j, xs⟩ := g
    rw [addToTables, List.flatMap_cons, List.append_assoc]
    split
    · rw [List.flatMap_cons, List.append_assoc]
      exact List.perm_append_comm.append_left xs
    · rw [List.flatMap_cons]
      exact ih.append_left xs

/-- Every item is in one group, as often as it came. -/
theorem perm_grouped (key : α → Scalar) (items : List α) :
    ((grouped key items).flatMap (·.2)).Perm items := by
  induction items using List.reverseRecOn with
  | nil => exact .refl _
  | append_singleton items x ih =>
    rw [← addToTables_grouped]
    exact (perm_addToTables _ _ _).trans (ih.append_right [x])

/-! ### The groups of an analysis and the tables of a report -/

/-- Putting the old items with a new one behind them in their place is adding the new one. -/
theorem putEntry_append (k : Scalar) (x : α) (made : List (Scalar × List α)) :
    putEntry k (((made.find? fun g => g.1.sameKey k).map (·.2)).getD [] ++ [x]) made
      = addToTables k x made := by
  induction made with
  | nil => rfl
  | cons g made ih =>
    obtain ⟨j, xs⟩ := g
    rw [putEntry, addToTables]
    by_cases hjk : j.sameKey k = true
    · simp [hjk]
    · have hfind : ((j, xs) :: made).find? (fun g => g.1.sameKey k)
          = made.find? fun g => g.1.sameKey k := List.find?_cons_of_neg hjk
      rw [if_neg hjk, if_neg hjk, hfind, ih]

theorem groupBy_eq_grouped (key : α → Scalar) (items : List α) :
    Analysis.groupBy key items = grouped key items := by
  rw [← foldl_addToTables]
  exact congrArg (fun step => items.foldl step [])
    (funext fun made => funext fun x => putEntry_append (key x) x made)

theorem addToTables_items (f : α → β) (k : Scalar) (x : α) (made : List (Scalar × List α)) :
    addToTables k (f x) (made.map fun g => (g.1, g.2.map f))
      = (addToTables k x made).map fun g => (g.1, g.2.map f) := by
  induction made with
  | nil => rfl
  | cons g made ih =>
    rw [List.map_cons, addToTables, addToTables]
    split
    · simp
    · rw [ih, List.map_cons]

/-- Steps that each may fail give what the steps after all of them give. -/
theorem foldlM_map_eq {ε κ σ : Type} (f : α → Except ε κ) (step : σ → κ × α → σ) (items : List α)
    (s : σ) :
    items.foldlM (fun s x => (f x).map fun k => step s (k, x)) s
      = (items.mapM fun x => (f x).map fun k => (k, x)).map fun keyed => keyed.foldl step s := by
  induction items generalizing s with
  | nil => rfl
  | cons x items ih =>
    rw [List.foldlM_cons, List.mapM_cons]
    cases f x with
    | error e => rfl
    | ok k =>
      refine (ih (step s (k, x))).trans ?_
      cases items.mapM fun x => (f x).map fun k => (k, x) with
      | error e => rfl
      | ok keyed => rfl

theorem foldl_addToTables_items (keyed : List (Scalar × α)) :
    keyed.foldl (fun made p => addToTables p.1 p.2 made) []
      = (keyed.foldl (fun made p => addToTables p.1 p made) []).map
        fun g => (g.1, g.2.map Prod.snd) := by
  induction keyed using List.reverseRecOn with
  | nil => rfl
  | append_singleton keyed p ih =>
    simp only [List.foldl_append, List.foldl_cons, List.foldl_nil, ih]
    exact addToTables_items Prod.snd p.1 p _

theorem tables_eq (ds : List Diagnostic) :
    tables ds = (ds.mapM fun d => (Analysis.fileKey d).map fun k => (k, d)).map fun keyed =>
      keyed.foldl (fun made p => addToTables p.1 p.2 made) [] :=
  foldlM_map_eq Analysis.fileKey (fun made p => addToTables p.1 p.2 made) ds []

/-- The tables of a report are the groups of its analysis, or both fail over the same file. -/
theorem byFile_eq_tables (a : Analysis) : a.byFile = tables a.diagnostics := by
  rw [tables_eq, Analysis.byFile]
  cases a.diagnostics.mapM fun d => (Analysis.fileKey d).map fun k => (k, d) with
  | error e => rfl
  | ok keyed =>
    refine congrArg Except.ok ?_
    rw [groupBy_eq_grouped, ← foldl_addToTables]
    exact (foldl_addToTables_items keyed).symm

/-- The file of a diagnostic as a key, if it can be one. -/
def keyOf (d : Diagnostic) : Scalar := (Analysis.fileKey d).toOption.getD .null

theorem fileKey_eq {d : Diagnostic} {k : Scalar} (h : Analysis.fileKey d = .ok k) :
    keyOf d = k := by
  rw [keyOf, h]
  rfl

theorem tables_of_keys {ds : List Diagnostic} (h : ∀ d ∈ ds, ∃ k, Analysis.fileKey d = .ok k) :
    tables ds = .ok (grouped keyOf ds) := by
  have hkeyed : ds.mapM (fun d => (Analysis.fileKey d).map fun k => (k, d))
      = .ok (ds.map fun d => (keyOf d, d)) := by
    refine Outcome.mapM_eq_ok_iff.2 (List.forall₂_map_right_iff.2 (List.forall₂_same.2 ?_))
    intro d hd
    obtain ⟨k, hk⟩ := h d hd
    rw [fileKey_eq hk, hk]
    rfl
  rw [tables_eq, hkeyed, ← foldl_addToTables]
  exact congrArg Except.ok List.foldl_map

theorem exists_key_of_tables {ds : List Diagnostic} {made : List (Scalar × List Diagnostic)}
    (h : tables ds = .ok made) : ∀ d ∈ ds, ∃ k, Analysis.fileKey d = .ok k := by
  rw [tables_eq] at h
  obtain ⟨keyed, hkeyed, -⟩ := Outcome.map_eq_ok.1 h
  intro d hd
  obtain ⟨p, hp⟩ := Outcome.exists_mapM_eq_ok.1 ⟨keyed, hkeyed⟩ d hd
  obtain ⟨k, hk, -⟩ := Outcome.map_eq_ok.1 hp
  exact ⟨k, hk⟩

theorem exists_of_tables_eq_error {ds : List Diagnostic} {fault : ValueFault}
    (h : tables ds = .error fault) : ∃ d ∈ ds, Analysis.fileKey d = .error fault := by
  rw [tables_eq, Outcome.map_eq_error] at h
  obtain ⟨before, d, after, rfl, -, hd⟩ := Outcome.mapM_eq_error_iff.1 h
  exact ⟨d, by simp, Outcome.map_eq_error.1 hd⟩

/-! ### The report as a document -/

theorem ofAnalysis_of_byFile (now : String) {a : Analysis} {files : List (Scalar × List Diagnostic)}
    (h : a.byFile = .ok files) :
    ∃ data, Data.ofAnalysis now a = .ok data ∧ data.diagnostics = a.diagnostics
      ∧ data.files = files ∧ data.byRule = a.byRule.sorted
      ∧ data.byNodeKind = a.byNodeKind.sorted := by
  rw [Data.ofAnalysis, h]
  exact ⟨_, rfl, rfl, rfl, rfl, rfl⟩

theorem field_document (o : JsonOptions) (d : Data) :
    (document o d).field "summary" = summaryValue d
      ∧ (document o d).field "diagnostics" = .list (d.diagnostics.map diagnosticValue)
      ∧ (document o d).field "statistics" = statisticsValue d := by
  simp [document, Value.field, Value.field?, Value.object, Value.entries?]

theorem field_summaryValue (d : Data) :
    (summaryValue d).field "total_diagnostics" = .int d.diagnostics.length
      ∧ (summaryValue d).field "files_with_diagnostics" = .int d.files.length := by
  simp [summaryValue, Data.total, Value.field, Value.field?, Value.object, Value.entries?]

/-! ### Files with a name -/

theorem distinct_texts (names : List String) :
    distinct (names.map .text) = names.eraseDups.map .text := by
  induction names using List.reverseRecOn with
  | nil => rfl
  | append_singleton names name ih =>
    have hany : (names.map Scalar.text).any (·.sameKey (.text name)) = true ↔ name ∈ names := by
      simp [Scalar.sameKey_text]
    rw [List.map_append, List.map_singleton, Scalar.distinct_concat, ih, List.eraseDups_append]
    by_cases hname : name ∈ names
    · rw [if_pos (hany.2 hname)]
      simp [List.removeAll, hname]
    · rw [if_neg (mt hany.1 hname)]
      simp [List.removeAll, hname, List.eraseDups_cons]

/-- The diagnostics of each file, the files in the order in which they first come. -/
def fileGroups (ds : List Diagnostic) : List (String × List Diagnostic) :=
  (ds.filterMap (·.location.file.text?)).eraseDups.map fun file =>
    (file, ds.filter (·.location.file.text? == some file))

theorem fileKey_of_text {d : Diagnostic} {file : String} (h : d.location.file.text? = some file) :
    Analysis.fileKey d = .ok (.text file) := by
  obtain ⟨name, hname⟩ := Value.exists_eq_text (Option.isSome_of_eq_some h)
  rw [hname] at h
  cases h
  rw [Analysis.fileKey, hname]
  rfl

section Named

variable {ds : List Diagnostic} (h : ∀ d ∈ ds, d.location.file.text?.isSome = true)

include h

theorem fileKey_of_named : ∀ d ∈ ds, ∃ k, Analysis.fileKey d = .ok k := by
  intro d hd
  obtain ⟨file, hfile⟩ := Option.isSome_iff_exists.1 (h d hd)
  exact ⟨_, fileKey_of_text hfile⟩

theorem tables_of_named : tables ds = .ok ((fileGroups ds).map fun g => (.text g.1, g.2)) := by
  have hkey : ∀ d ∈ ds, ∃ file, d.location.file.text? = some file ∧ keyOf d = .text file := by
    intro d hd
    obtain ⟨file, hfile⟩ := Option.isSome_iff_exists.1 (h d hd)
    exact ⟨file, hfile, fileKey_eq (fileKey_of_text hfile)⟩
  have hfiles : ds.map keyOf = (ds.filterMap (·.location.file.text?)).map .text := by
    rw [List.map_filterMap, ← List.filterMap_eq_map]
    refine List.filterMap_congr fun d hd => ?_
    obtain ⟨file, hfile, hd⟩ := hkey d hd
    simp [hfile, hd]
  have hmembers (file : String) : ds.filter (fun d => (Scalar.text file).sameKey (keyOf d))
      = ds.filter (·.location.file.text? == some file) := by
    refine List.filter_congr fun d hd => ?_
    obtain ⟨name, hname, hd⟩ := hkey d hd
    rw [hname, hd, Scalar.sameKey_text]
    simp [eq_comm]
  rw [tables_of_keys (fileKey_of_named h), grouped, hfiles, distinct_texts, List.map_map, fileGroups,
    List.map_map]
  exact congrArg Except.ok (List.map_congr_left fun file _ => by simp [hmembers])

end Named

/-! ### Rows -/

theorem positionText_eq_error_iff {v : Value} {fault : ValueFault} :
    positionText v = .error fault ↔ fault = .tooManyDigits ∧ v.isShort = false := by
  unfold positionText
  split
  · next hnull =>
    rw [Value.isNull_iff.1 hnull]
    simp [Value.isShort, Value.isLongIn, Scalar.isLong]
  · unfold Value.shown Value.isShort
    split
    · next hlong => simp [hlong, eq_comm]
    · next hlong => simp [hlong]

theorem isShort_of_positionText {v : Value} {s : String} (h : positionText v = .ok s) :
    v.isShort = true := by
  cases hshort : v.isShort with
  | true => rfl
  | false => cases h.symm.trans (positionText_eq_error_iff.2 ⟨rfl, hshort⟩)

/-- A diagnostic has no row only if a position in it has too many digits. -/
theorem diagnosticRow_eq_error_iff {d : Diagnostic} {fault : ValueFault} :
    diagnosticRow d = .error fault ↔ fault = .tooManyDigits
      ∧ (d.location.line.isShort = false ∨ d.location.column.isShort = false) := by
  unfold diagnosticRow
  cases hline : positionText d.location.line with
  | error e =>
    obtain ⟨rfl, hlong⟩ := positionText_eq_error_iff.1 hline
    simpa [bind, Except.bind, hlong] using eq_comm
  | ok line =>
    have hshort := isShort_of_positionText hline
    cases hcolumn : positionText d.location.column with
    | error e =>
      obtain ⟨rfl, hlong⟩ := positionText_eq_error_iff.1 hcolumn
      simpa [bind, Except.bind, hlong] using eq_comm
    | ok column =>
      have hshort' := isShort_of_positionText hcolumn
      simp [bind, Except.bind, pure, Except.pure, hshort, hshort']

/-! ### The section of the diagnostics -/

/-- The lines of a table: the heading with the name of the file, the head of the table, the rows. -/
def tableLines (file : String) (rows : List String) : List String :=
  ["", "### `" ++ file ++ "`", "", "| Line | Column | Rule | Message |",
    "|------|--------|------|---------|"] ++ rows

/-- The section with these tables. -/
def sectionText (ts : List (String × List String)) : String :=
  String.intercalate "\n" ("## Diagnostics" :: ts.flatMap fun t => tableLines t.1 t.2)

/-- The lines of the table of a group. -/
def namedTable (g : String × List Diagnostic) : Except ValueFault (List String) :=
  (g.2.mapM diagnosticRow).map (tableLines g.1)

theorem fileTable_text (g : String × List Diagnostic) :
    fileTable (.text g.1) g.2 = namedTable g := by
  rw [fileTable, namedTable]
  cases g.2.mapM diagnosticRow with
  | error fault => rfl
  | ok rows => rfl

section Named

variable {ds : List Diagnostic} (h : ∀ d ∈ ds, d.location.file.text?.isSome = true)

include h

theorem diagnosticsSection_of_named :
    diagnosticsSection ds = ((fileGroups ds).mapM namedTable).map fun made =>
      String.intercalate "\n" ("## Diagnostics" :: made.flatten) := by
  have hmade : ((fileGroups ds).map fun g => (Scalar.text g.1, g.2)).mapM
      (fun t => fileTable t.1 t.2) = (fileGroups ds).mapM namedTable := by
    rw [List.mapM_map]
    exact congrArg (fun f => List.mapM f _) (funext fileTable_text)
  rw [diagnosticsSection, tables_of_named h]
  simp only [bind, Except.bind, hmade]
  cases (fileGroups ds).mapM namedTable with
  | error fault => rfl
  | ok made => rfl

/-- With a row for every diagnostic the section is written. -/
theorem diagnosticsSection_of_rows {row : Diagnostic → String}
    (hrows : ∀ d ∈ ds, diagnosticRow d = .ok (row d)) :
    diagnosticsSection ds
      = .ok (sectionText ((fileGroups ds).map fun g => (g.1, g.2.map row))) := by
  have hmade : (fileGroups ds).mapM namedTable
      = .ok ((fileGroups ds).map fun g => tableLines g.1 (g.2.map row)) := by
    refine Outcome.mapM_eq_ok_iff.2 (List.forall₂_map_right_iff.2 (List.forall₂_same.2 ?_))
    intro g hg
    obtain ⟨file, -, rfl⟩ := List.mem_map.1 hg
    have hmembers : (ds.filter (·.location.file.text? == some file)).mapM diagnosticRow
        = .ok ((ds.filter (·.location.file.text? == some file)).map row) := by
      refine Outcome.mapM_eq_ok_iff.2 (List.forall₂_map_right_iff.2 (List.forall₂_same.2 ?_))
      exact fun d hd => hrows d (List.mem_filter.1 hd).1
    rw [namedTable, hmembers]
    rfl
  rw [diagnosticsSection_of_named h, hmade, sectionText, List.flatMap_map]
  rfl

theorem perm_fileGroups : ((fileGroups ds).flatMap (·.2)).Perm ds := by
  have hperm := perm_grouped keyOf ds
  have hsame : grouped keyOf ds = (fileGroups ds).map fun g => (.text g.1, g.2) :=
    Except.ok.inj ((tables_of_keys (fileKey_of_named h)).symm.trans (tables_of_named h))
  rwa [hsame, List.flatMap_map] at hperm

/-- A section that is written has a row for every diagnostic. -/
theorem exists_row_of_section {text : String} (hsection : diagnosticsSection ds = .ok text) :
    ∀ d ∈ ds, ∃ row, diagnosticRow d = .ok row := by
  rw [diagnosticsSection_of_named h] at hsection
  obtain ⟨made, hmade, -⟩ := Outcome.map_eq_ok.1 hsection
  intro d hd
  obtain ⟨g, hg, hdg⟩ := List.mem_flatMap.1 ((perm_fileGroups h).mem_iff.2 hd)
  obtain ⟨lines, hlines⟩ := Outcome.exists_mapM_eq_ok.1 ⟨made, hmade⟩ g hg
  obtain ⟨rows, hrows, -⟩ := Outcome.map_eq_ok.1 hlines
  exact Outcome.exists_mapM_eq_ok.1 ⟨rows, hrows⟩ d hdg

/-- A section that cannot be written has a diagnostic without a row. -/
theorem exists_fault_of_section {fault : ValueFault}
    (hsection : diagnosticsSection ds = .error fault) :
    ∃ d ∈ ds, diagnosticRow d = .error fault := by
  rw [diagnosticsSection_of_named h, Outcome.map_eq_error] at hsection
  obtain ⟨before, g, after, hgroups, -, hlines⟩ := Outcome.mapM_eq_error_iff.1 hsection
  rw [namedTable, Outcome.map_eq_error] at hlines
  obtain ⟨sooner, d, later, hmembers, -, hrow⟩ := Outcome.mapM_eq_error_iff.1 hlines
  refine ⟨d, (perm_fileGroups h).mem_iff.1 (List.mem_flatMap.2 ⟨g, ?_, ?_⟩), hrow⟩
  · simp [hgroups]
  · simp [hmembers]

end Named

/-- Grouping the diagnostics of a Markdown report loses nothing. When all files have names, the
section has a heading for each file in the order in which they first come, and below it the rows of
just the diagnostics of that file in their order; only a position with too many digits keeps it from
being written. The tables are the groups of the analysis, which are made in another way; all groups
together are the diagnostics, none of them lost and none told twice; and the sizes of the groups are
what the report counts by file. -/
theorem diagnosticsSection_grouped (o : JsonOptions) (now : String) (a : Analysis)
    (h : ∀ d ∈ a.diagnostics, d.location.file.text?.isSome = true) :
    ((∃ row, (∀ d ∈ a.diagnostics, diagnosticRow d = .ok (row d))
        ∧ diagnosticsSection a.diagnostics
          = .ok (sectionText ((fileGroups a.diagnostics).map fun g => (g.1, g.2.map row))))
      ∨ (∃ d ∈ a.diagnostics, d.location.line.isShort = false ∨ d.location.column.isShort = false)
        ∧ diagnosticsSection a.diagnostics = .error .tooManyDigits)
    ∧ tables a.diagnostics = .ok ((fileGroups a.diagnostics).map fun g => (.text g.1, g.2))
    ∧ a.byFile = .ok ((fileGroups a.diagnostics).map fun g => (.text g.1, g.2))
    ∧ ((fileGroups a.diagnostics).flatMap (·.2)).Perm a.diagnostics
    ∧ ∃ data, Data.ofAnalysis now a = .ok data ∧ data.diagnostics = a.diagnostics
      ∧ ((document o data).field "statistics").field "by_file"
        = .map ((fileGroups a.diagnostics).map fun g => (.text g.1, .int g.2.length)) := by
  have htables := tables_of_named h
  have hgroups : a.byFile = .ok ((fileGroups a.diagnostics).map fun g => (.text g.1, g.2)) :=
    (byFile_eq_tables a).trans htables
  refine ⟨?_, htables, hgroups, perm_fileGroups h, ?_⟩
  · cases hsection : diagnosticsSection a.diagnostics with
    | error fault =>
      obtain ⟨d, hd, hrow⟩ := exists_fault_of_section h hsection
      obtain ⟨rfl, hlong⟩ := diagnosticRow_eq_error_iff.1 hrow
      exact .inr ⟨⟨d, hd, hlong⟩, rfl⟩
    | ok text =>
      have hrows : ∀ d ∈ a.diagnostics,
          diagnosticRow d = .ok ((diagnosticRow d).toOption.getD "") := by
        intro d hd
        obtain ⟨row, hrow⟩ := exists_row_of_section h hsection d hd
        rw [hrow]
        rfl
      exact .inl ⟨_, hrows, hsection.symm.trans (diagnosticsSection_of_rows h hrows)⟩
  · obtain ⟨data, hdata, hdiagnostics, hfiles, -⟩ := ofAnalysis_of_byFile now hgroups
    refine ⟨data, hdata, hdiagnostics, ?_⟩
    rw [(field_document o data).2.2, statisticsValue, hfiles, List.map_map]
    simp [Value.field, Value.field?, Value.object, Value.entries?]

/-- Three uses of banned classes, with those of one file around that of another. -/
def interleaved : Analysis where
  diagnostics :=
    [{ location := ⟨.text "A.java", .int 3, .int 1⟩, message := "Date is banned." },
      { location := ⟨.text "B.java", .null, .null⟩, message := "Timer is banned." },
      { location := ⟨.text "A.java", .int 9, .null⟩, message := "Clock is banned." }]
  filesAnalyzed := 2
  nodesVisited := 7
  errors := []
  elapsed := .int 0

theorem diagnosticsSection_grouped_interleaved :
    (∀ d ∈ interleaved.diagnostics, d.location.file.text?.isSome = true)
      ∧ ((fileGroups interleaved.diagnostics).map fun g => (g.1, g.2.map (·.message)))
        = [("A.java", ["Date is banned.", "Clock is banned."]), ("B.java", ["Timer is banned."])]
      ∧ ∃ row, (∀ d ∈ interleaved.diagnostics, diagnosticRow d = .ok (row d))
        ∧ diagnosticsSection interleaved.diagnostics = .ok (sectionText
          ((fileGroups interleaved.diagnostics).map fun g => (g.1, g.2.map row))) := by
  have hnamed : ∀ d ∈ interleaved.diagnostics, d.location.file.text?.isSome = true := by decide
  have hshort : ∀ d ∈ interleaved.diagnostics,
      d.location.line.isShort = true ∧ d.location.column.isShort = true := by decide +kernel
  refine ⟨hnamed, rfl, ?_⟩
  rcases (diagnosticsSection_grouped {} "noon" interleaved hnamed).1 with
    hrows | ⟨⟨d, hd, hlong⟩, -⟩
  · exact hrows
  · rw [(hshort d hd).1, (hshort d hd).2] at hlong
    simp at hlong

end BannedApi.Report
