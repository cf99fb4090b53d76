import BannedApi.Text.Integer

/-!
Binary numbers as they are written: blanks around them, a sign, and then digits with perhaps a point
and an exponent, or a word for the infinities or for not a number.
-/
namespace BannedApi.Number

/-- Digits in a row, and what follows them. -/
def spanDigits (cs : List Char) : List Char × List Char :=
  (cs.takeWhile Char.isDigit, cs.dropWhile Char.isDigit)

/-- The number that decimal digits write. -/
def ofDecimalDigits (ds : List Char) : Nat :=
  ds.foldl (fun n d => 10 * n + (d.toNat - '0'.toNat)) 0

/-- The digits behind a point, if there is one. -/
def readFraction : List Char → List Char × List Char
  | '.' :: cs => spanDigits cs
  | cs => ([], cs)

/-- An exponent with its sign, or nothing at the end of the text. -/
def readExponent : List Char → Option Int
  | [] => some 0
  | e :: cs =>
    let negative := cs.head? = some '-'
    let ds := if negative || cs.head? = some '+' then cs.drop 1 else cs
    if (e == 'e' || e == 'E') && !ds.isEmpty && ds.all Char.isDigit then
      some (if negative then -(ofDecimalDigits ds : Int) else ofDecimalDigits ds)
    else none

/-- A number without sign and blanks. -/
def readSize (cs : List Char) : Option Binary64 :=
  let word := String.ofList (cs.map Char.toLower)
  if word = "inf" || word = "infinity" then some (.infinite false)
  else if word = "nan" then some .nan
  else
    let (whole, rest) := spanDigits cs
    let (fraction, rest) := readFraction rest
    if (whole ++ fraction).isEmpty then none
    else
      (readExponent rest).map fun e =>
        .ofDecimal false (ofDecimalDigits (whole ++ fraction)) (e - fraction.length)

/-- The binary number that a text writes. -/
def Binary64.read? (s : String) : Option Binary64 :=
  let cs := (Text.asciiNumber s.toList).dropWhile Text.isSpacing
  let cs := (cs.reverse.dropWhile Text.isSpacing).reverse
  match cs with
  | '-' :: body => (readSize body).map Binary64.negate
  | '+' :: body => readSize body
  | body => readSize body

end BannedApi.Number
