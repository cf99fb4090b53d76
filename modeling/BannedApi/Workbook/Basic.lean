import BannedApi.Value.Basic

/-!
Workbooks: sheets of cells with values and styles.
-/
namespace BannedApi

/-- How a cell looks, as far as it differs from a plain cell. -/
structure CellStyle where
  bold : Bool := false
  /-- Font size, when it is not the usual one. -/
  size : Option Nat := none
  /-- Colour of the font, as red, green and blue. -/
  color : Option String := none
  /-- Colour of the ground, as red, green and blue. -/
  fill : Option String := none
  centered : Bool := false
  bordered : Bool := false
  deriving DecidableEq, Repr

/-- A cell; rows and columns count from one. -/
structure Cell where
  row : Nat
  column : Nat
  value : Scalar
  style : CellStyle := {}
  deriving DecidableEq, Repr

/-- A sheet of a workbook. -/
structure Sheet where
  title : String
  /-- The first cell that moves when the sheet is scrolled. -/
  frozen : Option String := none
  /-- Widths of columns. -/
  widths : List (Nat × Nat) := []
  cells : List Cell := []
  deriving DecidableEq, Repr

/-- A workbook; `active` is the title of the sheet shown first. -/
structure Workbook where
  sheets : List Sheet
  active : String
  deriving DecidableEq, Repr

end BannedApi
