import BannedApi.Number.Ratio

/-!
Binary numbers of the 64-bit format, as exact data: a sign, a whole mantissa below `2 ^ 53` and a power
of two. Arithmetic is exact in natural numbers, and one function rounds: `ofRatio` gives the nearest
number to a quotient, a tie going to the even mantissa.
-/
namespace BannedApi.Number

/-- A binary number: finite with value `± mantissa * 2 ^ exponent`, infinite, or not a number. -/
inductive Binary64 where
  | finite (negative : Bool) (mantissa : Nat) (exponent : Int)
  | infinite (negative : Bool)
  | nan
  deriving DecidableEq, Repr

namespace Binary64

/-- The smallest exponent. -/
def minExponent : Int := -1074

/-- The largest exponent. -/
def maxExponent : Int := 971

/-- The exponent at which the quotient's mantissa has 53 bits, or the smallest one. -/
def exponentFor (num den : Nat) : Int :=
  let q : Int := (Nat.log2 num : Int) - Nat.log2 den - 52
  let s := scale 2 q
  let q := if num * s.2 < Nat.pow 2 52 * (den * s.1) then q - 1 else q
  max q minExponent

/-- The nearest number to `± num / den`. -/
def ofRatio (negative : Bool) (num den : Nat) : Binary64 :=
  if num = 0 then .finite negative 0 minExponent
  else
    let q := exponentFor num den
    let s := scale 2 q
    let m := roundDiv (num * s.2) (den * s.1)
    let (m, q) := if m = Nat.pow 2 53 then (Nat.pow 2 52, q + 1) else (m, q)
    if maxExponent < q then .infinite negative else .finite negative m q

/-- The nearest number to `± digits * 10 ^ exponent`. Beyond the range of the format the power is not
computed. -/
def ofDecimal (negative : Bool) (digits : Nat) (exponent : Int) : Binary64 :=
  let magnitude := exponent + digitCount digits
  if digits = 0 || magnitude < -330 then .finite negative 0 minExponent
  else if 310 < magnitude then .infinite negative
  else
    let s := scale 10 exponent
    ofRatio negative (digits * s.1) s.2

/-- The nearest number to a whole number. -/
def ofInt (n : Int) : Binary64 := ofRatio (n < 0) n.natAbs 1

/-- The size of `mantissa * 2 ^ exponent` as a quotient. -/
def ratio (mantissa : Nat) (exponent : Int) : Nat × Nat :=
  let s := scale 2 exponent
  (mantissa * s.1, s.2)

/-- The number is zero. -/
def isZero : Binary64 → Bool
  | .finite _ m _ => m == 0
  | _ => false

/-- The number is at most zero; not a number is not. -/
def atMostZero : Binary64 → Bool
  | .finite negative m _ => negative || m == 0
  | .infinite negative => negative
  | .nan => false

/-- The number has the value of a whole number. -/
def equalsInt (n : Int) : Binary64 → Bool
  | .finite negative m e =>
    let (num, den) := ratio m e
    num == n.natAbs * den && (n == 0 || (n < 0) == negative)
  | _ => false

/-- The two numbers have one value: both zeros are equal, and not a number equals nothing. -/
def sameValue : Binary64 → Binary64 → Bool
  | .finite n₁ m₁ e₁, .finite n₂ m₂ e₂ =>
    let (a, b) := ratio m₁ e₁
    let (c, d) := ratio m₂ e₂
    a * d == c * b && (m₁ == 0 || n₁ == n₂)
  | .infinite n₁, .infinite n₂ => n₁ == n₂
  | _, _ => false

/-- The other sign. -/
def negate : Binary64 → Binary64
  | .finite n m e => .finite (!n) m e
  | .infinite n => .infinite (!n)
  | .nan => .nan

/-- A signed exact sum, rounded once; a zero sum is positive. -/
def add : Binary64 → Binary64 → Binary64
  | .finite n₁ m₁ e₁, .finite n₂ m₂ e₂ =>
    let (a, b) := ratio m₁ e₁
    let (c, d) := ratio m₂ e₂
    let x : Int := (if n₁ then -1 else 1) * (a * d : Nat)
    let y : Int := (if n₂ then -1 else 1) * (c * b : Nat)
    ofRatio (x + y < 0 || (m₁ == 0 && m₂ == 0 && n₁ && n₂)) (x + y).natAbs (b * d)
  | .nan, _ => .nan
  | _, .nan => .nan
  | .infinite n₁, .infinite n₂ => if n₁ = n₂ then .infinite n₁ else .nan
  | .infinite n, _ => .infinite n
  | _, .infinite n => .infinite n

/-- The exact product, rounded once. -/
def mul : Binary64 → Binary64 → Binary64
  | .finite n₁ m₁ e₁, .finite n₂ m₂ e₂ =>
    let (a, b) := ratio m₁ e₁
    let (c, d) := ratio m₂ e₂
    ofRatio (n₁ != n₂) (a * c) (b * d)
  | .infinite n₁, .infinite n₂ => .infinite (n₁ != n₂)
  | .infinite n₁, .finite n₂ m _ => if m = 0 then .nan else .infinite (n₁ != n₂)
  | .finite n₁ m _, .infinite n₂ => if m = 0 then .nan else .infinite (n₁ != n₂)
  | _, _ => .nan

/-- The nearest number to a whole number, unless it is too large. -/
def ofInt? (n : Int) : Option Binary64 :=
  match ofInt n with
  | .infinite _ => none
  | x => some x

/-- The nearest number to the exact value rounded to `places` decimal places, a half to even. -/
def roundTo (places : Nat) : Binary64 → Binary64
  | .finite n m e =>
    let (num, den) := ratio m e
    ofRatio n (roundDiv (num * Nat.pow 10 places) den) (Nat.pow 10 places)
  | x => x

end Binary64

end BannedApi.Number
