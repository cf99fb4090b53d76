import BannedApi.Workbook.Basic
import Mathlib.Data.List.Nodup

/-!
Reading the cells of a sheet.

A cell shows the value that was last written to it (`Sheet.valueAt`). The rows of a table are laid
out below each other (`Sheet.tableCells`), so its cells are all different
(`Sheet.nodup_tableCells`), and in a sheet that has no cell twice the rectangle of the table reads
back to the table (`Sheet.region_eq`).
-/
namespace BannedApi

/-- Where a cell stands. -/
def Cell.place (c : Cell) : Nat × Nat := (c.row, c.column)

namespace Sheet

/-- What a cell shows: the value last written to it, and nothing if there is none. -/
def valueAt (s : Sheet) (row column : Nat) : Scalar :=
  ((s.cells.reverse.find? fun c => c.place == (row, column)).map (·.value)).getD .null

/-- What the cells of a rectangle show, row by row. -/
def region (s : Sheet) (row column height width : Nat) : List (List Scalar) :=
  (List.range height).map fun i => (List.range width).map fun j => s.valueAt (row + i) (column + j)

/-- No cell is written twice. -/
def WrittenOnce (s : Sheet) : Prop := (s.cells.map Cell.place).Nodup

/-! ### Reading cells -/

theorem valueAt_of_mem {s : Sheet} (h : s.WrittenOnce) {c : Cell} (hc : c ∈ s.cells) :
    s.valueAt c.row c.column = c.value := by
  obtain ⟨found, hfound⟩ : ∃ found,
      s.cells.reverse.find? (fun e => e.place == (c.row, c.column)) = some found :=
    Option.isSome_iff_exists.1
      (List.find?_isSome.2 ⟨c, List.mem_reverse.2 hc, by simp [Cell.place]⟩)
  have hplace : found.place = c.place := by simpa [Cell.place] using List.find?_some hfound
  have hmem : found ∈ s.cells := List.mem_reverse.1 (List.mem_of_find?_eq_some hfound)
  rw [valueAt, hfound, List.inj_on_of_nodup_map h hmem hc hplace]
  rfl

theorem region_eq_of_valueAt {s : Sheet} {row column height width : Nat}
    {table : List (List Scalar)} (hheight : table.length = height)
    (hwidth : ∀ values ∈ table, values.length = width)
    (h : ∀ i values j v, table[i]? = some values → values[j]? = some v →
      s.valueAt (row + i) (column + j) = v) :
    s.region row column height width = table := by
  refine List.ext_getElem (by simp [region, hheight]) fun i hi hi' => ?_
  have hvalues : table[i].length = width := hwidth _ (List.getElem_mem hi')
  refine List.ext_getElem (by simp [region, hvalues]) fun j hj hj' => ?_
  simp only [region, List.getElem_map, List.getElem_range]
  exact h i table[i] j table[i][j] (List.getElem?_eq_getElem hi') (List.getElem?_eq_getElem hj')

/-! ### Tables of cells -/

/-- The cells of a row, from a column on. -/
def rowCells (row column : Nat) (style : CellStyle) : List Scalar → List Cell
  | [] => []
  | v :: vs => ⟨row, column, v, style⟩ :: rowCells row (column + 1) style vs

/-- The cells of a table, from a row on. -/
def tableCells (row : Nat) (style : CellStyle) : List (List Scalar) → List Cell
  | [] => []
  | values :: table => rowCells row 1 style values ++ tableCells (row + 1) style table

variable {row column : Nat} {style : CellStyle}

theorem place_mem_rowCells {values : List Scalar} {c : Cell}
    (h : c ∈ rowCells row column style values) :
    c.row = row ∧ column ≤ c.column ∧ c.column < column + values.length := by
  induction values generalizing column with
  | nil => cases h
  | cons v vs ih =>
    rw [List.length_cons]
    rcases List.mem_cons.1 h with rfl | htail
    · exact ⟨rfl, Nat.le_refl _, Nat.lt_add_of_pos_right (Nat.succ_pos _)⟩
    · obtain ⟨hrow, hleft, hright⟩ := ih htail
      exact ⟨hrow, by omega, by omega⟩

theorem nodup_rowCells (row column : Nat) (style : CellStyle) (values : List Scalar) :
    ((rowCells row column style values).map Cell.place).Nodup := by
  induction values generalizing column with
  | nil => exact List.nodup_nil
  | cons v vs ih =>
    refine List.nodup_cons.2 ⟨fun hmem => ?_, ih (column + 1)⟩
    obtain ⟨c, hc, hplace⟩ := List.mem_map.1 hmem
    have hleft := (place_mem_rowCells hc).2.1
    have hcolumn : c.column = column := congrArg Prod.snd hplace
    omega

theorem mem_rowCells {values : List Scalar} {j : Nat} {v : Scalar} (h : values[j]? = some v) :
    ⟨row, column + j, v, style⟩ ∈ rowCells row column style values := by
  induction values generalizing column j with
  | nil => cases h
  | cons w vs ih =>
    cases j with
    | zero =>
      cases h
      exact List.mem_cons_self ..
    | succ j =>
      have hstep : column + (j + 1) = column + 1 + j := by omega
      rw [hstep]
      exact List.mem_cons_of_mem _ (ih h)

theorem row_of_mem_tableCells {table : List (List Scalar)} {c : Cell}
    (h : c ∈ tableCells row style table) : row ≤ c.row ∧ c.row < row + table.length := by
  induction table generalizing row with
  | nil => cases h
  | cons values table ih =>
    rw [List.length_cons]
    rcases List.mem_append.1 h with hfirst | hrest
    · have hrow := (place_mem_rowCells hfirst).1
      omega
    · obtain ⟨habove, hbelow⟩ := ih hrest
      omega

/-- Cells that stand further down are other cells. -/
theorem nodup_append_of_rows {xs ys : List Cell} (n : Nat) (hxs : (xs.map Cell.place).Nodup)
    (hys : (ys.map Cell.place).Nodup) (habove : ∀ c ∈ xs, c.row < n)
    (hbelow : ∀ c ∈ ys, n ≤ c.row) :
    ((xs ++ ys).map Cell.place).Nodup := by
  rw [List.map_append]
  refine hxs.append hys ?_
  intro place hx hy
  obtain ⟨c, hc, rfl⟩ := List.mem_map.1 hx
  obtain ⟨e, he, hplace⟩ := List.mem_map.1 hy
  have hrow : e.row = c.row := congrArg Prod.fst hplace
  have hc := habove c hc
  have he := hbelow e he
  omega

theorem nodup_tableCells (row : Nat) (style : CellStyle) (table : List (List Scalar)) :
    ((tableCells row style table).map Cell.place).Nodup := by
  induction table generalizing row with
  | nil => exact List.nodup_nil
  | cons values table ih =>
    refine nodup_append_of_rows (row + 1) (nodup_rowCells row 1 style values) (ih (row + 1)) ?_ ?_
    · intro c hc
      have hrow := (place_mem_rowCells hc).1
      omega
    · exact fun c hc => (row_of_mem_tableCells hc).1

theorem mem_tableCells {table : List (List Scalar)} {i j : Nat} {values : List Scalar} {v : Scalar}
    (hi : table[i]? = some values) (hj : values[j]? = some v) :
    ⟨row + i, 1 + j, v, style⟩ ∈ tableCells row style table := by
  induction table generalizing row i with
  | nil => cases hi
  | cons first table ih =>
    cases i with
    | zero =>
      cases hi
      exact List.mem_append_left _ (mem_rowCells hj)
    | succ i =>
      have hstep : row + (i + 1) = row + 1 + i := by omega
      rw [hstep]
      exact List.mem_append_right _ (ih hi)

/-- The rectangle of a table that is written to a sheet reads back to the table. -/
theorem region_eq {s : Sheet} (hs : s.WrittenOnce) {table : List (List Scalar)} {width : Nat}
    (hcells : ∀ c ∈ tableCells row style table, c ∈ s.cells)
    (hwidth : ∀ values ∈ table, values.length = width) :
    s.region row 1 table.length width = table := by
  refine region_eq_of_valueAt rfl hwidth fun i values j v hi hj => ?_
  exact valueAt_of_mem hs (hcells _ (mem_tableCells hi hj))

end Sheet

end BannedApi
