import BannedApi.Text.Quoted
import BannedApi.Value.Kind

/-!
How values are shown in messages. A text stands as it is; inside a list or a mapping it is quoted. A
value that holds itself is cut short where it comes again.
-/
namespace BannedApi

/-- A scalar inside a listing. -/
def Scalar.quoted : Scalar → String
  | .null => "None"
  | .bool b => if b then "True" else "False"
  | .number n => n.text
  | .text s => Text.quoted s
  | .moment m => m.quoted
  | .bytes data => Text.quotedBytes data

/-- Parts between brackets. -/
def between (opening : String) (parts : List String) (closing : String) : String :=
  opening ++ String.intercalate ", " parts ++ closing

/-- What stands for a value inside itself. -/
def Value.cutShort (v : Value) : String :=
  if v.kind = .map then "\x7b...\x7d" else "[...]"

mutual

/-- A value inside a listing, with the labels of the values around it. -/
def Value.quotedIn (around : List Nat) : Value → String
  | .scalar s => s.quoted
  | .list xs => between "[" (Value.quotedItems around xs) "]"
  | .map es => between "\x7b" (Value.quotedEntries around es) "\x7d"
  | .tuple xs => between "(" (Value.quotedItems around xs) ")"
  | .set xs => if xs.isEmpty then "set()" else between "\x7b" (xs.map Scalar.quoted) "\x7d"
  | .knot label v =>
    if around.contains label then v.cutShort else v.quotedIn (label :: around)
  | .unwritten => "\x7b...\x7d"

/-- The items of a list inside a listing. -/
def Value.quotedItems (around : List Nat) : List Value → List String
  | [] => []
  | x :: xs => x.quotedIn around :: Value.quotedItems around xs

/-- The entries of a mapping inside a listing. -/
def Value.quotedEntries (around : List Nat) : List (Scalar × Value) → List String
  | [] => []
  | (k, v) :: es => (k.quoted ++ ": " ++ v.quotedIn around) :: Value.quotedEntries around es

end

/-- A value inside a listing. -/
def Value.quoted (v : Value) : String := v.quotedIn []

/-- A scalar in a message. -/
def Scalar.display : Scalar → String
  | .text s => s
  | .moment m => m.text
  | s => s.quoted

/-- A value in a message. -/
def Value.display : Value → String
  | .scalar s => s.display
  | v => v.quoted

/-! ### Values that cannot be shown -/

/-- The scalar has too many digits to be shown. -/
def Scalar.isLong : Scalar → Bool
  | .number n => n.isLong
  | _ => false

mutual

/-- A part of the value has too many digits to be shown. -/
def Value.isLongIn (around : List Nat) : Value → Bool
  | .scalar s => s.isLong
  | .list xs => Value.anyLong around xs
  | .map es => Value.anyEntryLong around es
  | .tuple xs => Value.anyLong around xs
  | .set xs => xs.any Scalar.isLong
  | .knot label v => !around.contains label && v.isLongIn (label :: around)
  | .unwritten => false

/-- A part of an item has too many digits to be shown. -/
def Value.anyLong (around : List Nat) : List Value → Bool
  | [] => false
  | x :: xs => x.isLongIn around || Value.anyLong around xs

/-- A part of an entry has too many digits to be shown. -/
def Value.anyEntryLong (around : List Nat) : List (Scalar × Value) → Bool
  | [] => false
  | (k, v) :: es => k.isLong || v.isLongIn around || Value.anyEntryLong around es

end

/-- What a message shows of a value, or the fault that it has too many digits. -/
def Value.shown (v : Value) : Except ValueFault String :=
  if v.isLongIn [] then .error .tooManyDigits else .ok v.display

/-- What a listing shows of a value, or the fault that it has too many digits. -/
def Value.listed (v : Value) : Except ValueFault String :=
  if v.isLongIn [] then .error .tooManyDigits else .ok v.quoted

end BannedApi
