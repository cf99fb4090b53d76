import BannedApi.Number.Basic
import BannedApi.Text.Newline
import BannedApi.Workbook.Basic
import BannedApi.Workbook.Fault
import BannedApi.Workbook.Serial

/-!
What a reader finds in a saved workbook: the values of a sheet as a rectangle of rows. An empty text is
saved as an empty cell, line ends as line feeds, numbers by sixteen significant digits, and moments as
serial numbers. Not every cell can be saved.
-/
namespace BannedApi.Workbook

/-! ### Saving -/

/-- Why a value cannot be saved. -/
def saveFault? : Scalar → Option CellFault
  | .moment (.dateTime _ _ _ _ _ _ _ (some _)) => some .offset
  | .number (.int n) => if (Number.Binary64.ofInt? n).isNone then some .tooLarge else none
  | _ => none

/-- The cells of a sheet, row by row. -/
def inOrder (s : Sheet) : List Cell :=
  s.cells.mergeSort fun a b =>
    decide (a.row < b.row) || (a.row == b.row && decide (a.column ≤ b.column))

/-- The workbook can be saved; the first cell that cannot is the fault. -/
def checkSave (w : Workbook) : Except CellFault Unit :=
  match (w.sheets.flatMap inOrder).findSome? fun c => saveFault? c.value with
  | some fault => .error fault
  | none => .ok ()

/-! ### Reading back -/

/-- A value read from a saved cell. -/
inductive Saved where
  | scalar (s : Scalar)
  /-- A time of day. -/
  | time (hour minute second micro : Nat)
  deriving DecidableEq, Repr

/-- A number read back from its digits: whole unless it has a point or an exponent. -/
def readBackNumber (digits : List Char) : Option Number :=
  let negative := digits.head? = some '-'
  let body := if negative then digits.drop 1 else digits
  let mantissa := body.takeWhile (· != 'e')
  let exponent := (body.dropWhile (· != 'e')).drop 1
  let whole := mantissa.takeWhile (· != '.')
  let fraction := (mantissa.dropWhile (· != '.')).drop 1
  let value (ds : List Char) : Nat := ds.foldl (fun n d => 10 * n + (d.toNat - '0'.toNat)) 0
  if body.isEmpty then none
  else if body.all Char.isDigit then
    some (.int (if negative then -(value body : Int) else value body))
  else
    let e : Int := value (exponent.dropWhile fun c => c == '+' || c == '-')
    let e := if exponent.head? = some '-' then -e else e
    some (.float (.ofDecimal negative (value (whole ++ fraction)) (e - fraction.length)))

/-- The digits a number is saved with. -/
def savedDigits : Number → String
  | .int n => (Number.Binary64.ofInt n).cellText
  | .float x => x.cellText

/-- What stands for a date beyond the calendar. -/
def badDate : String := "#VALUE!"

/-- The moment read back from its serial number. -/
def readBackMoment (m : Moment) : Saved :=
  let serial := readBackNumber (Serial.ofMoment m).cellText.toList
  let reading :=
    match serial with
    | some (.int n) => Serial.read n.natAbs 1 (n < 0)
    | some (.float (.finite negative m e)) =>
      let (num, den) := Number.Binary64.ratio m e
      Serial.read num den negative
    | _ => .outOfRange
  match reading with
  | .moment m => .scalar (.moment m)
  | .time hh mm ss us => .time hh mm ss us
  | .outOfRange => .scalar (.text badDate)

/-- The value read back from a cell. -/
def readBack : Scalar → Saved
  | .text s =>
    .scalar (if s.isEmpty then .null else .text (String.ofList (Text.unifyNewlines s.toList)))
  | .number n => .scalar (((readBackNumber (savedDigits n).toList).map Scalar.number).getD .null)
  | .moment m => readBackMoment m
  | s => .scalar s

/-- The values of a sheet, row by row, up to the last row and column that have a cell. -/
def rows (s : Sheet) : List (List Saved) :=
  let height := (s.cells.map (·.row)).foldl max 0
  let width := (s.cells.map (·.column)).foldl max 0
  (List.range height).map fun r =>
    (List.range width).map fun c =>
      ((s.cells.find? fun cell => cell.row == r + 1 && cell.column == c + 1).map
        fun cell => readBack cell.value).getD (.scalar .null)

end BannedApi.Workbook
