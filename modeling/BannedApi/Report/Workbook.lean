import BannedApi.Abort
import BannedApi.Report.Data
import BannedApi.Value.Display
import BannedApi.Workbook.Basic

/-!
The report as a workbook: a sheet with the summary, one with the diagnostics, and one with the errors
if there are any.
-/
namespace BannedApi.Report

/-! ### Values of cells -/

/-- The longest text a cell can hold. -/
def cellLimit : Nat := 32767

/-- A character that cannot stand in a cell: a control character other than a tab or a line end. -/
def isForbidden (c : Char) : Bool :=
  let n := c.toNat
  n ≤ 8 || n == 11 || n == 12 || (14 ≤ n && n ≤ 31)

/-- A text in a cell is cut to the limit. -/
def cellText (s : String) : Except CellFault Scalar :=
  let cut := String.ofList (s.toList.take cellLimit)
  if cut.toList.any isForbidden then .error (.controlCharacter cut) else .ok (.text cut)

/-- The value of a cell. Bytes are taken for a text; a value with parts has no place in a cell. -/
def cellValue : Value → Except Abort Scalar
  | .text s => (cellText s).mapError .cell
  | .scalar (.bytes data) =>
    match Text.Utf8.decode data with
    | .error f => .error (.cell (.encoding f))
    | .ok cs => (cellText (String.ofList cs)).mapError .cell
  | .scalar s => .ok s
  | v =>
    match v.listed with
    | .error f => .error (.value f)
    | .ok listing => .error (.cell (.notAScalar listing))

/-! ### Styles -/

/-- A cell of a table. -/
def boxed : CellStyle := { bordered := true }

/-- The head of a column. -/
def headStyle : CellStyle :=
  { bold := true, color := some "FFFFFF", fill := some "366092", centered := true, bordered := true }

/-- The colour of the ground where something was found. -/
def errorFill : String := "FFC7CE"

/-- The colour of the ground where nothing was found. -/
def cleanFill : String := "C6EFCE"

/-! ### Sheets -/

/-- A row of cells with one style, from a column on. -/
def rowOf (row column : Nat) (style : CellStyle) : List Value → Except Abort (List Cell)
  | [] => .ok []
  | v :: vs => do
    let value ← cellValue v
    return ⟨row, column, value, style⟩ :: (← rowOf row (column + 1) style vs)

/-- Rows of cells with one style, from a row on. -/
def rowsOf (row : Nat) (style : CellStyle) : List (List Value) → Except Abort (List Cell)
  | [] => .ok []
  | r :: rs => do return (← rowOf row 1 style r) ++ (← rowsOf (row + 1) style rs)

/-- The heads of columns. -/
def headRow (row : Nat) (titles : List String) : List Cell :=
  titles.mapIdx fun i t => ⟨row, i + 1, .text t, headStyle⟩

/-- The figures of the summary. -/
def figures (d : Data) : List (String × Int) :=
  [("Banned API uses", d.total), ("Files analyzed", d.filesAnalyzed),
    ("Files with banned API uses", d.files.length), ("Nodes checked", d.nodesVisited),
    ("Unreadable inputs", d.errors.length)]

/-- The rows of the figures; the first of them shows by its ground whether something was found. -/
def figureCells (d : Data) : List Cell :=
  ((figures d).mapIdx fun i f =>
    let ground := if i = 0 then some (if d.total = 0 then cleanFill else errorFill) else none
    [⟨3 + i, 1, .text f.1, boxed⟩,
      ⟨3 + i, 2, .number (.int f.2), { boxed with centered := true, fill := ground }⟩]).flatten

/-- The table of counts by rule, if there is something to count. -/
def ruleCells (d : Data) : Except Abort (List Cell) :=
  if d.byRule.isEmpty then .ok []
  else do
    let rows ← rowsOf 10 boxed (d.byRule.map fun r => [.text r.1, .int r.2])
    return headRow 9 ["Rule", "Count"] ++ rows

/-- The summary. -/
def summarySheet (d : Data) : Except Abort Sheet := do
  let rules ← ruleCells d
  return {
    title := "Summary"
    widths := [(1, 32), (2, 14)]
    cells :=
      ⟨1, 1, .text "Banned API Report", { bold := true, size := some 14 }⟩ :: figureCells d ++ rules
        ++ [⟨1, 4, .text d.metadata.tool, {}⟩, ⟨2, 4, .text d.metadata.generatedAt, {}⟩] }

/-- The cells of a diagnostic. -/
def diagnosticCells (d : Diagnostic) : List Value :=
  let named (s : Option String) : Value := (s.map Value.text).getD .null
  [d.location.file, d.location.line, d.location.column, .text severity, named d.rule,
    named d.nodeKind, .text d.message]

/-- The diagnostics. -/
def diagnosticsSheet (d : Data) : Except Abort Sheet := do
  let rows ← rowsOf 2 boxed (d.diagnostics.map diagnosticCells)
  return {
    title := "Diagnostics"
    frozen := some "A2"
    widths := [(1, 40), (2, 8), (3, 8), (4, 10), (5, 28), (6, 12), (7, 90)]
    cells :=
      headRow 1 ["File", "Line", "Column", "Severity", "Rule", "Node kind", "Message"] ++ rows }

/-- The inputs that could not be read. -/
def errorsSheet (d : Data) : Except Abort Sheet := do
  let rows ← rowsOf 2 {} (d.errors.map fun e => [.text e])
  return { title := "Errors", widths := [(1, 120)], cells := headRow 1 ["Error"] ++ rows }

/-- The report as a workbook. -/
def workbook (d : Data) : Except Abort Workbook := do
  let summary ← summarySheet d
  let diagnostics ← diagnosticsSheet d
  let errors ← if d.errors.isEmpty then pure [] else do pure [← errorsSheet d]
  return ⟨[summary, diagnostics] ++ errors, summary.title⟩

end BannedApi.Report
