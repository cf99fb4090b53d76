import BannedApi.Log.Conversion
import BannedApi.Text.Digit
import BannedApi.Text.Word

/-!
Templates of lines. A template is a text in which a percent sign starts a conversion: the name of a
field in brackets, flags, a width, a point and a precision, and a letter. Two percent signs are one.

A conversion takes the field it names. One without a name takes what is there, which at the start is
the record as a whole; a value can be taken once.
-/
namespace BannedApi.Log

/-- The fields of a record by name. -/
abbrev Fields := List (String × Scalar)

/-- A template under way: the characters that are left, the place of the next one, and the value that
can still be taken. -/
structure Writing where
  rest : List Char
  index : Nat := 0
  value : Option Value
  deriving Repr

namespace Writing

/-- Go on behind so many characters. -/
def skip (count : Nat) (w : Writing) : Writing :=
  { w with rest := w.rest.drop count, index := w.index + count }

/-- The number of characters up to the bracket that closes a name; brackets inside it come in pairs. -/
def keyLength : Nat → List Char → Option Nat
  | _, [] => none
  | depth, ')' :: rest => if depth = 0 then some 0 else (keyLength (depth - 1) rest).map (· + 1)
  | depth, '(' :: rest => (keyLength (depth + 1) rest).map (· + 1)
  | depth, _ :: rest => (keyLength depth rest).map (· + 1)

/-- Read the name of a field, if there is one, and make its value the one to take. -/
def readKey (fields : Fields) (w : Writing) : Except FormatFault Writing :=
  match w.rest with
  | '(' :: rest =>
    match keyLength 0 rest with
    | none => .error .incompleteKey
    | some n =>
      let key := String.ofList (rest.take n)
      match fields.lookup key with
      | none => .error (.noField key)
      | some s => .ok { w.skip (n + 2) with value := some (.scalar s) }
  | _ => .ok w

/-- Take the value. -/
def take (w : Writing) : Except FormatFault (Value × Writing) :=
  match w.value with
  | none => .error .exhausted
  | some v => .ok (v, { w with value := none })

/-- Read flags. -/
def readFlags (w : Writing) : Shape × Writing :=
  let flags := w.rest.takeWhile fun c => ['-', '+', ' ', '#', '0'].contains c
  let has (c : Char) : Bool := flags.contains c
  ({ leftmost := has '-', plus := has '+', blank := has ' ', full := has '#', zeros := has '0' },
    w.skip flags.length)

/-- A size written in digits, if it is below its limit. -/
def readDigits (limit : Nat) (fault : FormatFault) (w : Writing) :
    Except FormatFault (Nat × Writing) :=
  let ds := w.rest.takeWhile Char.isDigit
  let n := ds.foldl (fun n d => 10 * n + (d.toNat - '0'.toNat)) 0
  if limit < n then .error fault else .ok (n, w.skip ds.length)

/-- The largest width. -/
def widthLimit : Nat := Nat.pow 2 63 - 1

/-- The largest precision. -/
def precisionLimit : Nat := Nat.pow 2 31 - 1

/-- A size taken from the value, if it is no larger than the limit, and no smaller than the number
below its negative. -/
def takeSize (limit : Nat) (fault : FormatFault) (w : Writing) :
    Except FormatFault (Int × Writing) := do
  match ← w.take with
  | (.int n, w) =>
    if (limit : Int) < n || n < -(limit + 1 : Int) then .error fault else .ok (n, w.skip 1)
  | _ => .error .sizeNotInteger

/-- Read the width. A negative one puts spaces behind the value. -/
def readWidth (s : Shape) (w : Writing) : Except FormatFault (Shape × Writing) := do
  if w.rest.head? = some '*' then
    let (n, w) ← w.takeSize widthLimit .widthOverflow
    return ({ s with width := n.natAbs, leftmost := s.leftmost || n < 0 }, w)
  else
    let (n, w) ← w.readDigits widthLimit .widthTooBig
    return ({ s with width := n }, w)

/-- Read the precision, behind a point. -/
def readPrecision (s : Shape) (w : Writing) : Except FormatFault (Shape × Writing) := do
  if w.rest.head? ≠ some '.' then return (s, w)
  else
    let w := w.skip 1
    if w.rest.head? = some '*' then
      let (n, w) ← w.takeSize precisionLimit .precisionOverflow
      return ({ s with precision := some n.toNat }, w)
    else
      let (n, w) ← w.readDigits precisionLimit .precisionTooBig
      return ({ s with precision := some n }, w)

/-- A letter for the size of a number says nothing and is left out. -/
def skipLength (w : Writing) : Writing :=
  match w.rest with
  | c :: _ => if c == 'h' || c == 'l' || c == 'L' then w.skip 1 else w
  | [] => w

/-- Write a conversion; what follows its percent sign is left. -/
def convert (fields : Fields) (w : Writing) : Except FormatFault (List Char × Writing) := do
  let w ← w.readKey fields
  let (shape, w) := w.readFlags
  let (shape, w) ← w.readWidth shape
  let (shape, w) ← w.readPrecision shape
  let w := w.skipLength
  match w.rest with
  | [] => .error .incomplete
  | letter :: _ =>
    let (v, after) ← w.take
    let text ← shape.convert letter w.index v
    return (text, after.skip 1)

/-- Write all that is left; each step takes a character at least. -/
def run (fields : Fields) : Nat → Writing → Except FormatFault (List Char)
  | 0, _ => .ok []
  | fuel + 1, w =>
    match w.rest with
    | [] => .ok []
    | '%' :: '%' :: _ => (run fields fuel (w.skip 2)).map ('%' :: ·)
    | '%' :: _ => do
      let (text, w) ← (w.skip 1).convert fields
      return text ++ (← run fields fuel w)
    | c :: _ => (run fields fuel (w.skip 1)).map (c :: ·)

end Writing

/-! ### Templates that name a field -/

/-- The letters that can end the conversion of a named field, in small and capital forms. -/
def endings : List Char := "diouxefgcrsa%DIOUXEFGCRSA\u0130\u0131\u017F".toList

/-- Behind digits or an asterisk, if they are there. -/
def afterSize (cs : List Char) : List Char :=
  match cs with
  | '*' :: rest => rest
  | _ => cs.dropWhile fun c => (Text.digit? c).isSome

/-- The text behind a percent sign is a conversion of a named field. -/
def isConversion (cs : List Char) : Bool :=
  match cs with
  | '(' :: rest =>
    let name := rest.takeWhile Text.isWord
    match rest.drop name.length with
    | ')' :: rest =>
      let rest := afterSize (rest.dropWhile fun c => ['#', '0', '+', ' ', '-'].contains c)
      let rest :=
        match rest with
        | '.' :: more => if (afterSize more).length < more.length then afterSize more else rest
        | _ => rest
      !name.isEmpty && (rest.head?.any fun c => endings.contains c)
    | _ => false
  | _ => false

/-- A named field is converted somewhere in the template. -/
def hasConversion : List Char → Bool
  | [] => false
  | c :: rest => (c == '%' && isConversion rest) || hasConversion rest

/-- A template for lines: a text that names a field. -/
structure Template where
  text : String
  deriving DecidableEq, Repr

namespace Template

/-- A text as a template, if it names a field. -/
def parse (s : String) : Except FormatFault Template :=
  if hasConversion s.toList then .ok ⟨s⟩ else .error (.noConversion s)

/-- The line with these fields. -/
def write (t : Template) (fields : Fields) : Except FormatFault String :=
  let whole := Value.object (fields.map fun f => (f.1, .scalar f.2))
  (Writing.run fields (t.text.length + 1) { rest := t.text.toList, value := some whole }).map
    String.ofList

end Template

end BannedApi.Log
