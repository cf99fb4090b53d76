/-!
Rounding a quotient of natural numbers to a whole number, and its decimal magnitude.
-/
namespace BannedApi.Number

/-- `num / den` rounded to the nearest whole number, a half to the even neighbour. -/
def roundDiv (num den : Nat) : Nat :=
  let q := num / den
  let r := num % den
  if 2 * r < den then q
  else if 2 * r = den then q + q % 2
  else q + 1

/-- The number of decimal digits of `n`; zero has one. -/
def digitCount (n : Nat) : Nat := (Nat.toDigits 10 n).length

/-- A power of ten or of two with an exponent of either sign, as a quotient. -/
def scale (base : Nat) (e : Int) : Nat × Nat :=
  if 0 ≤ e then (Nat.pow base e.toNat, 1) else (1, Nat.pow base (-e).toNat)

/-- The exponent `k` with `10 ^ k ≤ num / den < 10 ^ (k + 1)`, for positive `num` and `den`. -/
def decimalExponent (num den : Nat) : Int :=
  let k : Int := (digitCount num : Int) - digitCount den
  let s := scale 10 k
  if den * s.1 ≤ num * s.2 then k else k - 1

end BannedApi.Number
