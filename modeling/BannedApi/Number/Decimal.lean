import BannedApi.Number.Binary64

/-!
Decimal texts of binary numbers.

* `shortest`: the fewest digits that read back as the number, the nearest of those.
* `significant`: a given number of digits, correctly rounded.
* `fixed`: a given number of decimal places, correctly rounded.

How the digits are laid out is one record, `Layout`.
-/
namespace BannedApi.Number

/-- A decimal number `digits * 10 ^ exponent`. -/
structure Decimal where
  digits : Nat
  exponent : Int
  deriving DecidableEq, Repr

namespace Decimal

/-- The two neighbours of `num / den` among the decimals with `count` digits, the nearer one first; of
two equally near ones the even one is first. -/
def neighbours (num den count : Nat) : List Decimal :=
  let e := decimalExponent num den - (count - 1 : Nat)
  let s := scale 10 e
  let low := num * s.2 / (den * s.1)
  let near := roundDiv (num * s.2) (den * s.1)
  if near = low then [⟨low, e⟩, ⟨low + 1, e⟩] else [⟨low + 1, e⟩, ⟨low, e⟩]

/-- The decimal reads back as the number with this mantissa and exponent. -/
def readsAs (mantissa : Nat) (exponent : Int) (d : Decimal) : Bool :=
  Binary64.ofDecimal false d.digits d.exponent == .finite false mantissa exponent

/-- Search the digit counts from `count` on for a neighbour that reads back; `left` counts are left. -/
def search (mantissa : Nat) (exponent : Int) : Nat → Nat → Option Decimal
  | 0, _ => none
  | left + 1, count =>
    let (num, den) := Binary64.ratio mantissa exponent
    match (neighbours num den count).find? (readsAs mantissa exponent) with
    | some d => some d
    | none => search mantissa exponent left (count + 1)

/-- The fewest digits that read back as `mantissa * 2 ^ exponent`; seventeen always suffice. -/
def shortest (mantissa : Nat) (exponent : Int) : Decimal :=
  (search mantissa exponent 17 1).getD ⟨0, 0⟩

/-- `num / den` rounded to `count` digits. -/
def significant (num den count : Nat) : Decimal :=
  match neighbours num den count with
  | d :: _ => d
  | [] => ⟨0, 0⟩

end Decimal

/-- How decimal digits are laid out. -/
structure Layout where
  /-- The exponents written positionally: at least this … -/
  positionalFrom : Int
  /-- … and below this. -/
  positionalBelow : Int
  /-- A whole number keeps a point and one zero. -/
  keepPoint : Bool
  /-- The least number of digits of an exponent, which always has a sign. -/
  exponentWidth : Nat
  /-- The texts of the infinities, without sign, and of not a number. -/
  infinity : String
  nan : String

/-- Digits with zeros in front, up to a width. -/
def padded (width n : Nat) : List Char :=
  let ds := Nat.toDigits 10 n
  List.replicate (width - ds.length) '0' ++ ds

/-- Drop the zeros at the end of a list of digits. -/
def trimZeros (ds : List Char) : List Char := (ds.reverse.dropWhile (· == '0')).reverse

/-- An exponent with its sign and at least `width` digits. -/
def exponentText (width : Nat) (e : Int) : List Char :=
  'e' :: (if e < 0 then '-' else '+') :: padded width e.natAbs

/-- Positive decimal digits `ds`, the first one standing for `10 ^ e`. -/
def Layout.digits (l : Layout) (ds : List Char) (e : Int) : List Char :=
  let point (front back : List Char) :=
    if back.isEmpty then (if l.keepPoint then front ++ ['.', '0'] else front)
    else front ++ '.' :: back
  if l.positionalFrom ≤ e && e < l.positionalBelow then
    if e < 0 then point ['0'] (List.replicate (-e - 1).toNat '0' ++ ds)
    else
      let n := e.toNat + 1
      point (ds.take n ++ List.replicate (n - ds.length) '0') (ds.drop n)
  else
    let back := ds.drop 1
    (if back.isEmpty then ds else ds.take 1 ++ '.' :: back) ++ exponentText l.exponentWidth e

/-- A decimal number without the zeros at its end. -/
def Layout.decimal (l : Layout) (d : Decimal) : List Char :=
  let all := Nat.toDigits 10 d.digits
  let ds := trimZeros all
  if ds.isEmpty then l.digits ['0'] 0
  else l.digits ds (d.exponent + (all.length - 1 : Nat))

/-- A binary number, its size written by `write`. -/
def Layout.signed (l : Layout) (write : Nat → Int → Decimal) : Binary64 → String
  | .nan => l.nan
  | .infinite n => (if n then "-" else "") ++ l.infinity
  | .finite n m e =>
    let size := if m = 0 then l.decimal ⟨0, 0⟩ else l.decimal (write m e)
    String.ofList (if n then '-' :: size else size)

/-- Values are shown with the fewest digits that read back: positionally from `0.0001` up to sixteen
digits before the point, else with an exponent of at least two digits. -/
def Layout.value : Layout := ⟨-4, 16, true, 2, "inf", "nan"⟩

/-- Sizes in a worksheet have sixteen digits at most and no point unless they need one. -/
def Layout.cell : Layout := ⟨-4, 16, false, 2, "", ""⟩

namespace Binary64

/-- The text of a number: the fewest digits that read back. -/
def text (x : Binary64) : String := Layout.value.signed Decimal.shortest x

/-- The number with sixteen digits, as a worksheet stores it. -/
def cellText (x : Binary64) : String :=
  Layout.cell.signed
    (fun m e =>
      let (num, den) := ratio m e
      Decimal.significant num den 16) x

/-- The number with a fixed count of decimal places. -/
def fixed (places : Nat) : Binary64 → String
  | .nan => "nan"
  | .infinite n => if n then "-inf" else "inf"
  | .finite n m e =>
    let (num, den) := ratio m e
    let all := padded (places + 1) (roundDiv (num * Nat.pow 10 places) den)
    let front := all.take (all.length - places)
    let back := all.drop (all.length - places)
    String.ofList ((if n then ['-'] else []) ++ front ++ (if places = 0 then [] else '.' :: back))

end Binary64

end BannedApi.Number
