import BannedApi.Proofs.Report.Tables
import BannedApi.Proofs.Workbook.Region
import BannedApi.Report.Workbook
import Mathlib.Data.List.TakeDrop

/-!
What a reader finds in the workbook of a report.

Three tables are written: the counts by rule, the diagnostics and the errors (`workbook_eq_ok`).
No sheet writes a cell twice, however long they are (`writtenOnce_summaryOf`, `nodup_headed`), so
every part of the report can be read back (`workbook_shows`).
-/
namespace BannedApi

/-- The sheet with a title. -/
def Workbook.sheet? (w : Workbook) (title : String) : Option Sheet :=
  w.sheets.find? fun s => s.title == title

namespace Report

open Sheet

/-! ### Tables of values -/

variable {row column : Nat} {style : CellStyle}

theorem rowOf_eq (row column : Nat) (style : CellStyle) (vs : List Value) :
    rowOf row column style vs = (vs.mapM cellValue).map (rowCells row column style) := by
  induction vs generalizing column with
  | nil => rfl
  | cons v vs ih =>
    rw [rowOf, List.mapM_cons, ih]
    cases cellValue v with
    | error e => rfl
    | ok s => cases vs.mapM cellValue <;> rfl

/-- What the cells of a table hold, if there is a place for each of its values. -/
def storedRows (rows : List (List Value)) : Except Abort (List (List Scalar)) :=
  rows.mapM fun values => values.mapM cellValue

/-- The rows of a table are written below each other. -/
theorem rowsOf_eq (row : Nat) (style : CellStyle) (rows : List (List Value)) :
    rowsOf row style rows = (storedRows rows).map (tableCells row style) := by
  induction rows generalizing row with
  | nil => rfl
  | cons values rows ih =>
    rw [rowsOf, storedRows, List.mapM_cons, ih, rowOf_eq, ← storedRows]
    cases values.mapM cellValue with
    | error e => rfl
    | ok s => cases storedRows rows <;> rfl

theorem headRow_eq (row : Nat) (titles : List String) :
    headRow row titles = rowCells row 1 headStyle (titles.map .text) := by
  have hfrom : ∀ (titles : List String) (column : Nat),
      titles.mapIdx (fun i t => (⟨row, i + column, .text t, headStyle⟩ : Cell))
        = rowCells row column headStyle (titles.map .text) := by
    intro titles
    induction titles with
    | nil => exact fun _ => rfl
    | cons title titles ih =>
      intro column
      rw [List.mapIdx_cons, List.map_cons, rowCells, ← ih (column + 1), Nat.zero_add]
      simp only [Nat.add_comm, Nat.add_left_comm]
  exact hfrom titles 1

/-- A table with a row of heads over it. -/
theorem nodup_headed (row : Nat) (titles : List String) (style : CellStyle)
    (table : List (List Scalar)) :
    ((headRow row titles ++ tableCells (row + 1) style table).map Cell.place).Nodup := by
  rw [headRow_eq]
  refine nodup_append_of_rows (row + 1) (nodup_rowCells ..) (nodup_tableCells ..) ?_ ?_
  · intro c hc
    have hrow := (place_mem_rowCells hc).1
    omega
  · exact fun c hc => (row_of_mem_tableCells hc).1

theorem row_of_mem_headed {row : Nat} {titles : List String} {style : CellStyle}
    {table : List (List Scalar)} {c : Cell}
    (h : c ∈ headRow row titles ++ tableCells (row + 1) style table) :
    row ≤ c.row ∧ c.row < row + 1 + table.length := by
  rcases List.mem_append.1 h with hhead | htable
  · rw [headRow_eq] at hhead
    have hrow := (place_mem_rowCells hhead).1
    omega
  · have hrow := row_of_mem_tableCells htable
    omega

/-- The rows of a table stand in a sheet from a row on, each value as it is stored. -/
def HoldsTable (stored : Value → Scalar → Prop) (s : Sheet) (row width : Nat)
    (table : List (List Value)) : Prop :=
  List.Forall₂ (List.Forall₂ stored) table (s.region row 1 table.length width)

/-- The cell of a value holds this scalar. -/
def Stored (v : Value) (s : Scalar) : Prop := cellValue v = .ok s

theorem holdsTable_of_storedRows {s : Sheet} (hs : s.WrittenOnce) {rows : List (List Value)}
    {table : List (List Scalar)} {width : Nat}
    (hrows : storedRows rows = .ok table)
    (hcells : ∀ c ∈ tableCells row style table, c ∈ s.cells)
    (hwidth : ∀ values ∈ rows, values.length = width) : HoldsTable Stored s row width rows := by
  have hstored : List.Forall₂ (List.Forall₂ Stored) rows table :=
    (Outcome.mapM_eq_ok_iff.1 hrows).imp fun _ _ => Outcome.mapM_eq_ok_iff.1
  have hregion : s.region row 1 table.length width = table := by
    refine region_eq hs hcells fun values hvalues => ?_
    obtain ⟨given, hgiven, hsame⟩ := Outcome.exists_of_mem_mapM hrows hvalues
    rw [← hwidth given hgiven]
    exact (Outcome.mapM_eq_ok_iff.1 hsame).length_eq.symm
  rw [HoldsTable, hstored.length_eq, hregion]
  exact hstored

theorem region_headRow {s : Sheet} (hs : s.WrittenOnce) {titles : List String}
    (hcells : ∀ c ∈ headRow row titles, c ∈ s.cells) :
    s.region row 1 1 titles.length = [titles.map .text] := by
  have htable : ∀ c ∈ tableCells row headStyle [titles.map .text], c ∈ s.cells := by
    rw [tableCells, ← headRow_eq, tableCells, List.append_nil]
    exact hcells
  exact region_eq hs htable (by simp)

/-! ### The sheets -/

/-- The rows of the counts by rule. -/
def ruleRows (rules : List (String × Nat)) : List (List Value) :=
  rules.map fun r => [.text r.1, .int r.2]

/-- The summary with what its cells hold of the counts by rule. -/
def summaryOf (d : Data) (table : List (List Scalar)) : Sheet where
  title := "Summary"
  widths := [(1, 32), (2, 14)]
  cells :=
    ⟨1, 1, .text "Banned API Report", { bold := true, size := some 14 }⟩ :: figureCells d
      ++ (if d.byRule.isEmpty then [] else headRow 9 ["Rule", "Count"] ++ tableCells 10 boxed table)
      ++ [⟨1, 4, .text d.metadata.tool, {}⟩, ⟨2, 4, .text d.metadata.generatedAt, {}⟩]

/-- The heads of the diagnostics. -/
def diagnosticHeads : List String :=
  ["File", "Line", "Column", "Severity", "Rule", "Node kind", "Message"]

/-- The diagnostics with what their cells hold. -/
def diagnosticsOf (table : List (List Scalar)) : Sheet where
  title := "Diagnostics"
  frozen := some "A2"
  widths := [(1, 40), (2, 8), (3, 8), (4, 10), (5, 28), (6, 12), (7, 90)]
  cells := headRow 1 diagnosticHeads ++ tableCells 2 boxed table

/-- The rows of the errors. -/
def errorRows (errors : List String) : List (List Value) := errors.map fun e => [.text e]

/-- The errors with what their cells hold. -/
def errorsOf (table : List (List Scalar)) : Sheet where
  title := "Errors"
  widths := [(1, 120)]
  cells := headRow 1 ["Error"] ++ tableCells 2 {} table

theorem summarySheet_eq (d : Data) :
    summarySheet d = (storedRows (ruleRows d.byRule)).map (summaryOf d) := by
  rw [summarySheet, ruleCells]
  by_cases hrules : d.byRule.isEmpty = true
  · rw [if_pos hrules, List.isEmpty_iff.1 hrules]
    change Except.ok _ = Except.ok (summaryOf d [])
    rw [summaryOf, if_pos hrules]
  · rw [if_neg hrules, rowsOf_eq, ← ruleRows]
    cases storedRows (ruleRows d.byRule) with
    | error e => rfl
    | ok table =>
      change Except.ok _ = Except.ok (summaryOf d table)
      rw [summaryOf, if_neg hrules]

theorem diagnosticsSheet_eq (d : Data) :
    diagnosticsSheet d
      = (storedRows (d.diagnostics.map diagnosticCells)).map diagnosticsOf := by
  rw [diagnosticsSheet, rowsOf_eq]
  cases storedRows (d.diagnostics.map diagnosticCells) <;> rfl

theorem errorsSheet_eq (d : Data) :
    errorsSheet d = (storedRows (errorRows d.errors)).map errorsOf := by
  rw [errorsSheet, rowsOf_eq, errorRows]
  cases storedRows (d.errors.map fun e => [.text e]) <;> rfl

/-- The workbook with what the cells of its tables hold. -/
def workbookOf (d : Data) (rules found errors : List (List Scalar)) : Workbook :=
  ⟨[summaryOf d rules, diagnosticsOf found] ++ (if d.errors.isEmpty then [] else [errorsOf errors]),
    "Summary"⟩

theorem workbook_of_stored {d : Data} {rules found errors : List (List Scalar)}
    (hrules : storedRows (ruleRows d.byRule) = .ok rules)
    (hfound : storedRows (d.diagnostics.map diagnosticCells) = .ok found)
    (herrors : storedRows (errorRows d.errors) = .ok errors) :
    workbook d = .ok (workbookOf d rules found errors) := by
  rw [workbook, summarySheet_eq, diagnosticsSheet_eq, errorsSheet_eq, hrules, hfound, herrors,
    workbookOf]
  by_cases hempty : d.errors.isEmpty = true
  · simp only [hempty]
    rfl
  · simp only [hempty]
    rfl

/-- The workbook is made of the three tables, if there is a place for all their values. -/
theorem workbook_eq_ok {d : Data} {w : Workbook} (h : workbook d = .ok w) :
    ∃ rules found errors, storedRows (ruleRows d.byRule) = .ok rules
      ∧ storedRows (d.diagnostics.map diagnosticCells) = .ok found
      ∧ storedRows (errorRows d.errors) = .ok errors ∧ w = workbookOf d rules found errors := by
  suffices hstored : ∃ rules found errors, storedRows (ruleRows d.byRule) = .ok rules
      ∧ storedRows (d.diagnostics.map diagnosticCells) = .ok found
      ∧ storedRows (errorRows d.errors) = .ok errors by
    obtain ⟨rules, found, errors, hrules, hfound, herrors⟩ := hstored
    have hw := workbook_of_stored hrules hfound herrors
    exact ⟨rules, found, errors, hrules, hfound, herrors, Except.ok.inj (h.symm.trans hw)⟩
  rw [workbook, summarySheet_eq, diagnosticsSheet_eq, errorsSheet_eq] at h
  obtain ⟨summary, hsummary, h⟩ := Outcome.bind_eq_ok.1 h
  obtain ⟨diagnostics, hdiagnostics, h⟩ := Outcome.bind_eq_ok.1 h
  obtain ⟨rules, hrules, -⟩ := Outcome.map_eq_ok.1 hsummary
  obtain ⟨found, hfound, -⟩ := Outcome.map_eq_ok.1 hdiagnostics
  by_cases hempty : d.errors.isEmpty = true
  · refine ⟨rules, found, [], hrules, hfound, ?_⟩
    rw [List.isEmpty_iff.1 hempty]
    rfl
  · simp only [if_neg hempty] at h
    obtain ⟨sheet, hsheet, -⟩ := Outcome.bind_eq_ok.1 h
    obtain ⟨errors, herrors, -⟩ := Outcome.map_eq_ok.1 hsheet
    exact ⟨rules, found, errors, hrules, hfound, herrors⟩

/-! ### What the sheets show -/

/-- The sheet shows a table below its heads and nothing below the table. -/
structure ShowsTable (stored : Value → Scalar → Prop) (titles : List String)
    (table : List (List Value)) (s : Sheet) : Prop where
  once : s.WrittenOnce
  heads : s.region 1 1 1 titles.length = [titles.map .text]
  rows : HoldsTable stored s 2 titles.length table
  last : ∀ c ∈ s.cells, c.row < 2 + table.length

/-- The sheet shows the title, the figures, the counts by rule with nothing below them, and when and
by what the report was made. -/
structure ShowsSummary (stored : Value → Scalar → Prop) (now : String) (a : Analysis) (s : Sheet) :
    Prop where
  once : s.WrittenOnce
  title : s.valueAt 1 1 = .text "Banned API Report"
  figures : ∃ files, a.byFile = .ok files ∧ s.region 3 1 5 2 =
    [[.text "Banned API uses", .number (.int a.diagnostics.length)],
      [.text "Files analyzed", .number (.int a.filesAnalyzed)],
      [.text "Files with banned API uses", .number (.int files.length)],
      [.text "Nodes checked", .number (.int a.nodesVisited)],
      [.text "Unreadable inputs", .number (.int a.errors.length)]]
  heads : a.byRule.sorted ≠ [] → s.region 9 1 1 2 = [[.text "Rule", .text "Count"]]
  rules : HoldsTable stored s 10 2 (a.byRule.sorted.map fun r => [.text r.1, .int r.2])
  last : ∀ c ∈ s.cells, c.row < 10 + a.byRule.sorted.length
  metadata : s.region 1 4 2 1 = [[.text Version.fullName], [.text now]]

theorem showsTable {s : Sheet} {titles : List String} {rows : List (List Value)}
    {table : List (List Scalar)} (hs : s.cells = headRow 1 titles ++ tableCells 2 style table)
    (h : storedRows rows = .ok table) (hwidth : ∀ values ∈ rows, values.length = titles.length) :
    ShowsTable Stored titles rows s := by
  have honce : s.WrittenOnce := by
    rw [WrittenOnce, hs]
    exact nodup_headed 1 titles style table
  have hlength : rows.length = table.length := (Outcome.mapM_eq_ok_iff.1 h).length_eq
  refine ⟨honce, ?_, ?_, ?_⟩
  · exact region_headRow honce fun c hc => hs ▸ List.mem_append_left _ hc
  · exact holdsTable_of_storedRows honce h (fun c hc => hs ▸ List.mem_append_right _ hc) hwidth
  · intro c hc
    rw [hs] at hc
    have hrow := (row_of_mem_headed hc).2
    omega

/-! ### The summary -/

/-- The counts by rule with their heads, or nothing if there are none. -/
def ruleBlock (rules : List (String × Nat)) (table : List (List Scalar)) : List Cell :=
  if rules.isEmpty then [] else headRow 9 ["Rule", "Count"] ++ tableCells 10 boxed table

/-- The other cells of the summary. -/
def fixedBlock (d : Data) : List Cell :=
  ⟨1, 1, .text "Banned API Report", { bold := true, size := some 14 }⟩ :: figureCells d
    ++ [⟨1, 4, .text d.metadata.tool, {}⟩, ⟨2, 4, .text d.metadata.generatedAt, {}⟩]

theorem places_fixedBlock (d : Data) :
    (fixedBlock d).map Cell.place = [(1, 1), (3, 1), (3, 2), (4, 1), (4, 2), (5, 1), (5, 2), (6, 1),
      (6, 2), (7, 1), (7, 2), (1, 4), (2, 4)] := rfl

theorem perm_summaryOf (d : Data) (table : List (List Scalar)) :
    (summaryOf d table).cells.Perm (fixedBlock d ++ ruleBlock d.byRule table) := by
  rw [summaryOf, fixedBlock, ruleBlock, List.append_assoc, List.append_assoc]
  exact List.perm_append_comm.append_left _

theorem nodup_ruleBlock (rules : List (String × Nat)) (table : List (List Scalar)) :
    ((ruleBlock rules table).map Cell.place).Nodup := by
  unfold ruleBlock
  split
  · exact List.nodup_nil
  · exact nodup_headed 9 ["Rule", "Count"] boxed table

theorem row_of_mem_ruleBlock {rules : List (String × Nat)} {table : List (List Scalar)} {c : Cell}
    (h : c ∈ ruleBlock rules table) : 9 ≤ c.row ∧ c.row < 10 + table.length := by
  unfold ruleBlock at h
  split at h
  · cases h
  · exact row_of_mem_headed h

theorem row_of_mem_fixedBlock {d : Data} {c : Cell} (h : c ∈ fixedBlock d) : c.row < 9 := by
  have hplace : c.place ∈ (fixedBlock d).map Cell.place := List.mem_map_of_mem h
  rw [places_fixedBlock] at hplace
  have hrow : ∀ place ∈ [(1, 1), (3, 1), (3, 2), (4, 1), (4, 2), (5, 1), (5, 2), (6, 1), (6, 2),
      (7, 1), (7, 2), (1, 4), (2, 4)], place.1 < 9 := by decide
  exact hrow _ hplace

theorem writtenOnce_summaryOf (d : Data) (table : List (List Scalar)) :
    (summaryOf d table).WrittenOnce := by
  rw [Sheet.WrittenOnce, ((perm_summaryOf d table).map Cell.place).nodup_iff]
  refine nodup_append_of_rows 9 ?_ (nodup_ruleBlock ..) ?_ ?_
  · rw [places_fixedBlock]
    decide
  · exact fun c hc => row_of_mem_fixedBlock hc
  · exact fun c hc => (row_of_mem_ruleBlock hc).1

theorem valueAt_fixedBlock (d : Data) (table : List (List Scalar)) {c : Cell}
    (h : c ∈ fixedBlock d) : (summaryOf d table).valueAt c.row c.column = c.value :=
  Sheet.valueAt_of_mem (writtenOnce_summaryOf d table)
    ((perm_summaryOf d table).mem_iff.2 (List.mem_append_left _ h))

theorem mem_summaryOf {d : Data} {table : List (List Scalar)} {c : Cell}
    (hrules : d.byRule ≠ []) (h : c ∈ headRow 9 ["Rule", "Count"] ++ tableCells 10 boxed table) :
    c ∈ (summaryOf d table).cells := by
  refine (perm_summaryOf d table).mem_iff.2 (List.mem_append_right _ ?_)
  rwa [ruleBlock, if_neg (by simpa using hrules)]

theorem tableCells_summaryOf {d : Data} {table : List (List Scalar)} {c : Cell}
    (hlength : table.length = d.byRule.length) (h : c ∈ tableCells 10 boxed table) :
    c ∈ (summaryOf d table).cells := by
  have hrow := row_of_mem_tableCells h
  have hrules : d.byRule ≠ [] := List.ne_nil_of_length_pos (by omega)
  exact mem_summaryOf hrules (List.mem_append_right _ h)

theorem mem_figureCells {d : Data} {i : Nat} {f : String × Int} (h : (figures d)[i]? = some f) :
    ∃ style, ⟨3 + i, 1, .text f.1, boxed⟩ ∈ figureCells d
      ∧ ⟨3 + i, 2, .number (.int f.2), style⟩ ∈ figureCells d := by
  obtain ⟨hi, rfl⟩ := List.getElem?_eq_some_iff.1 h
  rw [figureCells]
  exact ⟨_, List.mem_flatten.2 ⟨_, List.mem_mapIdx.2 ⟨i, hi, rfl⟩, List.mem_cons_self ..⟩,
    List.mem_flatten.2 ⟨_, List.mem_mapIdx.2 ⟨i, hi, rfl⟩,
      List.mem_cons_of_mem _ (List.mem_cons_self ..)⟩⟩

theorem region_figures (d : Data) (table : List (List Scalar)) :
    (summaryOf d table).region 3 1 5 2
      = (figures d).map fun f => [.text f.1, .number (.int f.2)] := by
  refine Sheet.region_eq_of_valueAt rfl ?_ ?_
  · intro values hvalues
    obtain ⟨f, -, rfl⟩ := List.mem_map.1 hvalues
    rfl
  · intro i values j v hi hj
    rw [List.getElem?_map, Option.map_eq_some_iff] at hi
    obtain ⟨f, hf, rfl⟩ := hi
    obtain ⟨style, hlabel, hvalue⟩ := mem_figureCells hf
    have hread {c : Cell} (hc : c ∈ figureCells d) :=
      valueAt_fixedBlock d table (List.mem_append_left _ (List.mem_cons_of_mem _ hc))
    rcases j with _ | _ | j
    · cases hj
      exact hread hlabel
    · cases hj
      exact hread hvalue
    · cases hj

theorem region_metadata (d : Data) (table : List (List Scalar)) :
    (summaryOf d table).region 1 4 2 1
      = [[.text d.metadata.tool], [.text d.metadata.generatedAt]] := by
  have htool := valueAt_fixedBlock d table (c := ⟨1, 4, .text d.metadata.tool, {}⟩)
    (List.mem_append_right _ (List.mem_cons_self ..))
  have htime := valueAt_fixedBlock d table (c := ⟨2, 4, .text d.metadata.generatedAt, {}⟩)
    (List.mem_append_right _ (List.mem_cons_of_mem _ (List.mem_cons_self ..)))
  simp only [Sheet.region, List.range_succ, List.range_zero, List.nil_append, List.map_cons,
    List.map_nil, List.singleton_append, Nat.add_zero]
  rw [htool, htime]

theorem showsSummary {now : String} {a : Analysis} {d : Data} {table : List (List Scalar)}
    (hdata : Data.ofAnalysis now a = .ok d) (h : storedRows (ruleRows d.byRule) = .ok table) :
    ShowsSummary Stored now a (summaryOf d table) := by
  have honce := writtenOnce_summaryOf d table
  obtain ⟨files, hfiles, hd⟩ := Outcome.bind_eq_ok.1 hdata
  obtain rfl := Outcome.pure_eq_ok.1 hd
  have hlength : table.length = a.byRule.sorted.length := by
    rw [← (Outcome.mapM_eq_ok_iff.1 h).length_eq, ruleRows, List.length_map]
  refine ⟨honce, ?_, ⟨files, hfiles, ?_⟩, ?_, ?_, ?_, ?_⟩
  · exact valueAt_fixedBlock _ table (List.mem_cons_self ..)
  · exact region_figures _ table
  · intro hrules
    exact region_headRow honce fun c hc => mem_summaryOf hrules (List.mem_append_left _ hc)
  · refine holdsTable_of_storedRows honce h (fun c hc => tableCells_summaryOf hlength hc) ?_
    intro values hvalues
    obtain ⟨r, -, rfl⟩ := List.mem_map.1 hvalues
    rfl
  · intro c hc
    rcases List.mem_append.1 ((perm_summaryOf _ table).mem_iff.1 hc) with hfixed | hrule
    · have hrow := row_of_mem_fixedBlock hfixed
      omega
    · have hrow := (row_of_mem_ruleBlock hrule).2
      omega
  · exact region_metadata _ table

/-! ### Workbooks -/

theorem HoldsTable.eq {s : Sheet} {row width : Nat} {table : List (List Value)}
    (h : HoldsTable (fun v x => v = .scalar x) s row width table) :
    (s.region row 1 table.length width).map (·.map Value.scalar) = table := by
  have hrows : List.Forall₂ (fun values shown => values = shown.map Value.scalar) table
      (s.region row 1 table.length width) :=
    List.Forall₂.imp (fun values shown hrow => by
      rw [← List.forall₂_map_right_iff, List.forall₂_eq_eq_eq] at hrow
      exact hrow) h
  rw [← List.forall₂_map_right_iff, List.forall₂_eq_eq_eq] at hrows
  exact hrows.symm

theorem HoldsTable.imp {stored held : Value → Scalar → Prop} {s : Sheet} {row width : Nat}
    {table : List (List Value)} (h : HoldsTable stored s row width table)
    (himp : ∀ values ∈ table, ∀ v ∈ values, ∀ x, stored v x → held v x) :
    HoldsTable held s row width table := by
  refine ((List.forall₂_and_left _ _).2 ⟨himp, h⟩).imp fun values shown hrow => ?_
  refine ((List.forall₂_and_left _ _).2 hrow).imp fun v x hcell => ?_
  exact hcell.1 x hcell.2

/-- The workbook shows the report of an analysis: a summary, the diagnostics, and the errors if
there are any. -/
structure ShowsReport (stored : Value → Scalar → Prop) (now : String) (a : Analysis)
    (w : Workbook) : Prop where
  summary : ∃ s, w.sheet? "Summary" = some s ∧ ShowsSummary stored now a s
  diagnostics : ∃ s, w.sheet? "Diagnostics" = some s ∧ ShowsTable stored
    ["File", "Line", "Column", "Severity", "Rule", "Node kind", "Message"]
    (a.diagnostics.map fun d => [d.location.file, d.location.line, d.location.column, .text "error",
      (d.rule.map Value.text).getD .null, (d.nodeKind.map Value.text).getD .null, .text d.message]) s
  errors : a.errors ≠ [] → ∃ s, w.sheet? "Errors" = some s
    ∧ ShowsTable stored ["Error"] (a.errors.map fun e => [.text e]) s
  noErrors : a.errors = [] → w.sheet? "Errors" = none

/-- The values of a report that are written to cells, row by row. -/
def writtenRows (a : Analysis) : List (List Value) :=
  ruleRows a.byRule.sorted ++ a.diagnostics.map diagnosticCells ++ errorRows a.errors

theorem ShowsReport.imp {stored held : Value → Scalar → Prop} {now : String} {a : Analysis}
    {w : Workbook} (h : ShowsReport stored now a w)
    (himp : ∀ values ∈ writtenRows a, ∀ v ∈ values, ∀ x, stored v x → held v x) :
    ShowsReport held now a w := by
  simp only [writtenRows, List.mem_append, or_imp, forall_and] at himp
  obtain ⟨⟨hrules, hfound⟩, herrors⟩ := himp
  refine ⟨?_, ?_, ?_, h.noErrors⟩
  · obtain ⟨s, hs, hshows⟩ := h.summary
    exact ⟨s, hs, { hshows with rules := hshows.rules.imp hrules }⟩
  · obtain ⟨s, hs, hshows⟩ := h.diagnostics
    exact ⟨s, hs, { hshows with rows := hshows.rows.imp hfound }⟩
  · intro hsome
    obtain ⟨s, hs, hshows⟩ := h.errors hsome
    exact ⟨s, hs, { hshows with rows := hshows.rows.imp herrors }⟩

theorem sheet?_workbookOf (d : Data) (rules found errors : List (List Scalar)) :
    (workbookOf d rules found errors).sheet? "Summary" = some (summaryOf d rules)
      ∧ (workbookOf d rules found errors).sheet? "Diagnostics" = some (diagnosticsOf found)
      ∧ (d.errors ≠ [] → (workbookOf d rules found errors).sheet? "Errors" = some (errorsOf errors))
      ∧ (d.errors = [] → (workbookOf d rules found errors).sheet? "Errors" = none) := by
  refine ⟨rfl, rfl, ?_, ?_⟩
  · intro hsome
    rw [workbookOf, if_neg (by simpa using hsome)]
    rfl
  · intro hnone
    rw [workbookOf, if_pos (by simpa using hnone)]
    rfl

/-- A cell shows the value that is written to it. -/
def Faithful (v : Value) : Prop := ∃ s, v = .scalar s ∧ cellValue v = .ok s

/-- A text is shown as it stands if it is not too long and has no control character. -/
theorem faithful_text_iff {s : String} :
    Faithful (.text s) ↔ s.toList.length ≤ cellLimit ∧ ∀ c ∈ s.toList, isForbidden c = false := by
  have hcell : Faithful (.text s) ↔ cellText s = .ok (.text s) := by
    constructor
    · rintro ⟨x, hx, hcell⟩
      cases hx
      exact Outcome.mapError_eq_ok.1 hcell
    · intro h
      exact ⟨.text s, rfl, Outcome.mapError_eq_ok.2 h⟩
  have hcut : String.ofList (s.toList.take cellLimit) = s ↔ s.toList.length ≤ cellLimit := by
    rw [← String.toList_inj, String.toList_ofList, List.take_eq_self_iff]
  rw [hcell, cellText, ← hcut]
  constructor
  · intro h
    split at h
    · cases h
    · next hall =>
      have hsame := Scalar.text.inj (Except.ok.inj h)
      rw [hsame] at hall
      exact ⟨hsame, by simpa using hall⟩
  · rintro ⟨hsame, hall⟩
    simp only [hsame]
    rw [if_neg (by simpa using hall)]

theorem storedRows_isOk {rows : List (List Value)} (h : ∀ values ∈ rows, ∀ v ∈ values, Faithful v) :
    ∃ table, storedRows rows = .ok table := by
  refine Outcome.exists_mapM_eq_ok.2 fun values hvalues => ?_
  refine Outcome.exists_mapM_eq_ok.2 fun v hv => ?_
  obtain ⟨s, -, hs⟩ := h values hvalues v hv
  exact ⟨s, hs⟩

theorem showsReport_workbook {now : String} {a : Analysis} {d : Data} {w : Workbook}
    (hdata : Data.ofAnalysis now a = .ok d) (h : workbook d = .ok w) :
    ShowsReport Stored now a w := by
  obtain ⟨rules, found, errors, hrules, hfound, herrors, rfl⟩ := workbook_eq_ok h
  obtain ⟨hsummary, hdiagnostics, hsome, hnone⟩ := sheet?_workbookOf d rules found errors
  have hshows := showsSummary hdata hrules
  obtain ⟨files, -, hd⟩ := Outcome.bind_eq_ok.1 hdata
  obtain rfl := Outcome.pure_eq_ok.1 hd
  refine ⟨⟨_, hsummary, hshows⟩, ⟨_, hdiagnostics, showsTable rfl hfound ?_⟩, ?_, hnone⟩
  · intro values hvalues
    obtain ⟨d, -, rfl⟩ := List.mem_map.1 hvalues
    rfl
  · intro h
    refine ⟨_, hsome h, showsTable rfl herrors fun values hvalues => ?_⟩
    obtain ⟨e, -, rfl⟩ := List.mem_map.1 hvalues
    rfl

/-- The workbook of a report reads back to the report. Whenever there is a workbook, its cells
show the title, the figures, the counts by rule in their order, the diagnostics in their order and
the errors, if any, in their order, each value as a cell stores it; no cell is written twice and
nothing stands below the tables. If a cell shows every value that is written to it, there is
always a workbook, and it shows just these values. -/
theorem workbook_shows (now : String) (a : Analysis) :
    (∀ d w, Data.ofAnalysis now a = .ok d → workbook d = .ok w → ShowsReport Stored now a w)
      ∧ ((∀ values ∈ writtenRows a, ∀ v ∈ values, Faithful v) →
        ∃ d w, Data.ofAnalysis now a = .ok d ∧ workbook d = .ok w
          ∧ ShowsReport (fun v s => v = .scalar s) now a w) := by
  refine ⟨fun d w => showsReport_workbook, ?_⟩
  intro hfaithful
  have hparts := hfaithful
  simp only [writtenRows, List.mem_append, or_imp, forall_and] at hparts
  obtain ⟨⟨hrules, hfound⟩, herrors⟩ := hparts
  -- the file of a diagnostic is written to a cell, so it is no value with parts
  have hkeys : ∀ d ∈ a.diagnostics, ∃ k, Analysis.fileKey d = .ok k := by
    intro d hd
    obtain ⟨s, hs, -⟩ := hfound _ (List.mem_map_of_mem hd) d.location.file (List.mem_cons_self ..)
    exact ⟨s, by rw [Analysis.fileKey, hs]; rfl⟩
  obtain ⟨d, hdata, -⟩ :=
    ofAnalysis_of_byFile now ((byFile_eq_tables a).trans (tables_of_keys hkeys))
  obtain ⟨w, hw⟩ : ∃ w, workbook d = .ok w := by
    obtain ⟨files, -, hd⟩ := Outcome.bind_eq_ok.1 hdata
    obtain rfl := Outcome.pure_eq_ok.1 hd
    obtain ⟨rules, hrules⟩ := storedRows_isOk hrules
    obtain ⟨found, hfound⟩ := storedRows_isOk hfound
    obtain ⟨errors, herrors⟩ := storedRows_isOk herrors
    exact ⟨_, workbook_of_stored hrules hfound herrors⟩
  refine ⟨d, w, hdata, hw, (showsReport_workbook hdata hw).imp ?_⟩
  intro values hvalues v hv x hx
  obtain ⟨s, rfl, hs⟩ := hfaithful values hvalues v hv
  rw [Stored, hs] at hx
  rw [Except.ok.inj hx]

/-- Two diagnostics of one rule, the first without a column, and an input that could not be read. -/
def sampleFindings : Analysis where
  diagnostics :=
    [{ location := ⟨.text "A.java", .int 3, .null⟩, message := "no", rule := some "import-class" },
      { location := ⟨.text "B.java", .int 7, .int 2⟩, message := "never", nodeKind := some "import"
        rule := some "import-class" }]
  filesAnalyzed := 2
  nodesVisited := 9
  errors := ["lost"]
  elapsed := .int 0

theorem faithful_sampleFindings :
    ∀ values ∈ writtenRows sampleFindings, ∀ v ∈ values, Faithful v := by
  have hrules : sampleFindings.byRule.sorted = [("import-class", 2)] := List.mergeSort_singleton _
  have hnull : Faithful .null := ⟨.null, rfl, rfl⟩
  have hint (n : Int) : Faithful (.int n) := ⟨.number (.int n), rfl, rfl⟩
  rw [writtenRows, hrules]
  simp [ruleRows, errorRows, sampleFindings, diagnosticCells, severity, hnull, hint,
    faithful_text_iff, cellLimit, isForbidden]

/-- The empty cell of the column that is not known reads as nothing. -/
theorem workbook_shows_findings :
    (∀ values ∈ writtenRows sampleFindings, ∀ v ∈ values, Faithful v)
      ∧ ∃ d w s, Data.ofAnalysis "noon" sampleFindings = .ok d ∧ workbook d = .ok w
        ∧ w.sheet? "Diagnostics" = some s
        ∧ (s.region 2 1 2 7).map (·.map Value.scalar) = [
          [.text "A.java", .int 3, .null, .text "error", .text "import-class", .null, .text "no"],
          [.text "B.java", .int 7, .int 2, .text "error", .text "import-class", .text "import",
            .text "never"]] := by
  obtain ⟨d, w, hdata, hw, hshows⟩ :=
    (workbook_shows "noon" sampleFindings).2 faithful_sampleFindings
  obtain ⟨s, hs, hdiagnostics⟩ := hshows.diagnostics
  exact ⟨faithful_sampleFindings, d, w, s, hdata, hw, hs, hdiagnostics.rows.eq⟩

end Report

end BannedApi
