import BannedApi.Number.Decimal

/-!
Numbers of a document: whole numbers of any size, and binary numbers. The two kinds stay apart, since
they are written differently, and compare by value.
-/
namespace BannedApi

/-- A number of a document. -/
inductive Number where
  | int (n : Int)
  | float (x : Number.Binary64)
  deriving DecidableEq, Repr

namespace Number

/-- The number is zero. -/
def isZero : Number → Bool
  | .int n => n == 0
  | .float x => x.isZero

/-- The number is at most zero; not a number is not. -/
def atMostZero : Number → Bool
  | .int n => n ≤ 0
  | .float x => x.atMostZero

/-- The two numbers have one value. -/
def sameValue : Number → Number → Bool
  | .int m, .int n => m == n
  | .int m, .float y => y.equalsInt m
  | .float x, .int n => x.equalsInt n
  | .float x, .float y => x.sameValue y

/-- The number is not a number. -/
def isNan : Number → Bool
  | .float .nan => true
  | _ => false

/-- The two numbers are one key: they have one value, or both are not a number. -/
def sameKey (m n : Number) : Bool := m.sameValue n || (m.isNan && n.isNan)

/-- A whole number with more digits than this is not written out. -/
def digitLimit : Nat := 4300

/-- The smallest size that has too many digits. -/
def longBound : Nat := Nat.pow 10 digitLimit

/-- The number has too many digits to be written out. -/
def isLong : Number → Bool
  | .int n => longBound ≤ n.natAbs
  | .float _ => false

/-- The text of a number. -/
def text : Number → String
  | .int n => toString n
  | .float x => x.text

/-- The number rounded to `places` decimal places; a whole number is left alone. -/
def roundTo (places : Nat) : Number → Number
  | .int n => .int n
  | .float x => .float (x.roundTo places)

/-- The number with a fixed count of decimal places. -/
def fixed (places : Nat) : Number → String
  | .int n => (Binary64.ofInt n).fixed places
  | .float x => x.fixed places

end Number

end BannedApi
