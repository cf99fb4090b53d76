import BannedApi.Number.Notation
import BannedApi.Value.Display

/-!
Conversions: how a value is written into a line by a letter and a shape. The letters `s`, `r` and `a`
write any value, `c` a character, `d`, `i`, `u`, `o`, `x` and `X` whole numbers, and `e`, `f` and `g`,
small or capital, binary numbers.
-/
namespace BannedApi.Log

/-- What goes wrong when a line is written. -/
inductive FormatFault where
  /-- The template has no field at all. -/
  | noConversion (template : String)
  | noField (key : String)
  | incomplete
  | incompleteKey
  | widthTooBig
  | precisionTooBig
  | unsupported (letter : Char) (index : Nat)
  /-- A conversion finds its value taken already. -/
  | exhausted
  /-- A width or precision is taken from a value that is no whole number. -/
  | sizeNotInteger
  /-- A width is taken from a number that does not fit. -/
  | widthOverflow
  /-- A precision is taken from a number that does not fit. -/
  | precisionOverflow
  | notInteger (letter : Char) (kind : Kind)
  | notReal (letter : Char) (kind : Kind)
  | notNumber (kind : Kind)
  | notCharacter
  | noSuchCharacter
  | tooLarge
  | infinite
  | notANumber
  deriving DecidableEq, Repr

/-- The character as messages show it. -/
def shownLetter (c : Char) : Char := if 31 ≤ c.toNat && c.toNat ≤ 126 then c else '?'

/-- The fault in words. -/
def FormatFault.message : FormatFault → String
  | .noConversion template => s!"Invalid format '{template}' for '%' style"
  | .noField key => s!"Formatting field not found in record: {Text.quoted key}"
  | .incomplete => "incomplete format"
  | .incompleteKey => "incomplete format key"
  | .widthTooBig => "width too big"
  | .precisionTooBig => "precision too big"
  | .unsupported c index =>
    let code := String.ofList (Nat.toDigits 16 c.toNat)
    s!"unsupported format character '{shownLetter c}' (0x{code}) at index {index}"
  | .exhausted => "not enough arguments for format string"
  | .sizeNotInteger => "* wants int"
  | .widthOverflow => "Python int too large to convert to C ssize_t"
  | .precisionOverflow => "Python int too large to convert to C int"
  | .notInteger c k => s!"%{c} format: an integer is required, not {k.fullName}"
  | .notReal c k => s!"%{c} format: a real number is required, not {k.fullName}"
  | .notNumber k => s!"must be real number, not {k.fullName}"
  | .notCharacter => "%c requires int or char"
  | .noSuchCharacter => "%c arg not in range(0x110000)"
  | .tooLarge => "int too large to convert to float"
  | .infinite => "cannot convert float infinity to integer"
  | .notANumber => "cannot convert float NaN to integer"

/-- How a value is laid out. -/
structure Shape where
  /-- Spaces stand behind the value and not before it. -/
  leftmost : Bool := false
  /-- A number that is not negative has a plus sign. -/
  plus : Bool := false
  /-- A number that is not negative has a space for a sign. -/
  blank : Bool := false
  /-- The base is marked, and binary numbers are written in full. -/
  full : Bool := false
  /-- Zeros fill the width of a number. -/
  zeros : Bool := false
  width : Nat := 0
  precision : Option Nat := none
  deriving DecidableEq, Repr

namespace Shape

/-- Fill up to the width: spaces around the whole, or zeros behind what stands before the digits. -/
def fill (s : Shape) (zeros : Bool) (front body : List Char) : List Char :=
  let gap := s.width - (front.length + body.length)
  if s.leftmost then front ++ body ++ List.replicate gap ' '
  else if zeros then front ++ List.replicate gap '0' ++ body
  else List.replicate gap ' ' ++ front ++ body

/-- The sign of a number. -/
def sign (s : Shape) (negative : Bool) : List Char :=
  if negative then ['-'] else if s.plus then ['+'] else if s.blank then [' '] else []

/-- A text, cut to the precision. -/
def text (s : Shape) (body : String) : List Char :=
  s.fill false [] (s.precision.elim body.toList body.toList.take)

/-- A whole number to a base; the precision is the least number of digits. -/
def integer (s : Shape) (base : Nat) (mark : List Char) (n : Int) : List Char :=
  let ds := Nat.toDigits base n.natAbs
  let body := List.replicate (s.precision.getD 0 - ds.length) '0' ++ ds
  s.fill s.zeros (s.sign (n < 0) ++ if s.full then mark else []) body

/-- A binary number in a notation. -/
def float (s : Shape) (write : Nat → Nat → List Char) (x : Number.Binary64) : List Char :=
  s.fill s.zeros (s.sign x.isNegative) (x.sizeText write)

end Shape

/-- Characters beyond ASCII are escaped. -/
def asciiOnly (s : String) : String :=
  String.ofList (s.toList.flatMap fun c =>
    if c.toNat < 0x80 then [c]
    else if c.toNat < 0x100 then '\\' :: 'x' :: Text.hexDigits 2 c.toNat
    else if c.toNat < 0x10000 then '\\' :: 'u' :: Text.hexDigits 4 c.toNat
    else '\\' :: 'U' :: Text.hexDigits 8 c.toNat)

/-- The whole part of a binary number. -/
def wholePart : Number.Binary64 → Except FormatFault Int
  | .finite negative m e =>
    let (num, den) := Number.Binary64.ratio m e
    .ok (if negative then -(num / den : Nat) else (num / den : Nat))
  | .infinite _ => .error .infinite
  | .nan => .error .notANumber

/-- A value as a whole number. -/
def integerOf (letter : Char) : Value → Except FormatFault Int
  | .int n => .ok n
  | .float x => wholePart x
  | v => .error (.notReal letter v.kind)

/-- A value that must be a whole number already. -/
def exactIntegerOf (letter : Char) : Value → Except FormatFault Int
  | .int n => .ok n
  | v => .error (.notInteger letter v.kind)

/-- A value as a binary number. -/
def floatOf : Value → Except FormatFault Number.Binary64
  | .int n => (Number.Binary64.ofInt? n).elim (.error .tooLarge) .ok
  | .float x => .ok x
  | v => .error (.notNumber v.kind)

/-- A value as a character: a text of one character, or its number. -/
def characterOf : Value → Except FormatFault Char
  | .text s =>
    match s.toList with
    | [c] => .ok c
    | _ => .error .notCharacter
  | .int n => if n < 0 || 0x110000 ≤ n then .error .noSuchCharacter else .ok (Char.ofNat n.toNat)
  | _ => .error .notCharacter

/-- Capital letters of digits, marks and names. -/
def capitals (cs : List Char) : List Char := cs.map Char.toUpper

/-- Write a value by a letter that stands at a place of the template. -/
def Shape.convert (s : Shape) (letter : Char) (index : Nat) (v : Value) :
    Except FormatFault (List Char) :=
  let places := s.precision.getD 6
  let float (write : Nat → Nat → List Char) := (floatOf v).map (s.float write)
  match letter with
  | 's' => .ok (s.text v.display)
  | 'r' => .ok (s.text v.quoted)
  | 'a' => .ok (s.text (asciiOnly v.quoted))
  | 'c' => (characterOf v).map fun c => s.fill false [] [c]
  | 'd' => (integerOf letter v).map (s.integer 10 [])
  | 'i' => (integerOf letter v).map (s.integer 10 [])
  | 'u' => (integerOf letter v).map (s.integer 10 [])
  | 'o' => (exactIntegerOf letter v).map (s.integer 8 ['0', 'o'])
  | 'x' => (exactIntegerOf letter v).map (s.integer 16 ['0', 'x'])
  | 'X' => (exactIntegerOf letter v).map fun n => capitals (s.integer 16 ['0', 'x'] n)
  | 'e' => float (Number.scientific s.full places)
  | 'E' => (float (Number.scientific s.full places)).map capitals
  | 'f' => float (Number.positional s.full places)
  | 'F' => (float (Number.positional s.full places)).map capitals
  | 'g' => float (Number.general s.full places)
  | 'G' => (float (Number.general s.full places)).map capitals
  | c => .error (.unsupported c index)

end BannedApi.Log
