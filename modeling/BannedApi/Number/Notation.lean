import BannedApi.Number.Basic

/-!
Notations of binary numbers with a chosen precision: fixed, with an exponent, or whichever of the two
is shorter. All give the size without its sign. A full notation keeps the point, and the zeros at the
end, even where they say nothing.
-/
namespace BannedApi.Number

/-- The digits of a size, at least one, and the power of ten of the first of them. -/
def leadingDigits (num den count : Nat) : List Char × Int :=
  if num = 0 then (List.replicate count '0', 0)
  else
    let d := Decimal.significant num den count
    let ds := Nat.toDigits 10 d.digits
    (ds.take count, d.exponent + (ds.length - 1 : Nat))

/-- A point between digits; nothing stands behind it unless the notation is full. -/
def withPoint (full : Bool) (front back : List Char) : List Char :=
  if back.isEmpty then (if full then front ++ ['.'] else front) else front ++ '.' :: back

/-- With an exponent, and so many places behind the point. -/
def scientific (full : Bool) (places num den : Nat) : List Char :=
  let (ds, e) := leadingDigits num den (places + 1)
  withPoint full (ds.take 1) (ds.drop 1) ++ exponentText 2 e

/-- With so many places behind the point. -/
def positional (full : Bool) (places num den : Nat) : List Char :=
  let all := padded (places + 1) (roundDiv (num * Nat.pow 10 places) den)
  withPoint full (all.take (all.length - places)) (all.drop (all.length - places))

/-- With so many digits: positionally, unless the number is too large or too small for it. -/
def general (full : Bool) (precision num den : Nat) : List Char :=
  let count := max precision 1
  let (all, e) := leadingDigits num den count
  let trim (ds : List Char) : List Char := if full then ds else trimZeros ds
  if e < -4 || (count : Int) ≤ e then
    withPoint full (all.take 1) (trim (all.drop 1)) ++ exponentText 2 e
  else if e < 0 then
    withPoint full ['0'] (trim (List.replicate (-e - 1).toNat '0' ++ all))
  else withPoint full (all.take (e.toNat + 1)) (trim (all.drop (e.toNat + 1)))

namespace Binary64

/-- The size of a number in a notation; the infinite and what is not a number have names. -/
def sizeText (write : Nat → Nat → List Char) : Binary64 → List Char
  | .finite _ m e =>
    let (num, den) := ratio m e
    write num den
  | .infinite _ => "inf".toList
  | .nan => "nan".toList

/-- The number has a minus sign. -/
def isNegative : Binary64 → Bool
  | .finite n _ _ => n
  | .infinite n => n
  | .nan => false

end Binary64

end BannedApi.Number
