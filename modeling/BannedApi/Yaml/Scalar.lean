import BannedApi.Number.Reader
import BannedApi.Text.Base64
import BannedApi.Text.Segment
import BannedApi.Text.Small
import BannedApi.Value.Basic
import BannedApi.Yaml.Plain

/-!
The values of scalars, by their kinds. A kind that is stated need not fit the text, so each of them
has faults of its own.
-/
namespace BannedApi.Yaml

/-- A text without its underscores. -/
def withoutScores (cs : List Char) : List Char := cs.filter (· != '_')

/-- Whether a number has a minus sign, and its text behind the sign. -/
def splitSign : List Char → Except ScalarFault (Bool × List Char)
  | [] => .error .empty
  | '-' :: cs => .ok (true, cs)
  | '+' :: cs => .ok (false, cs)
  | cs => .ok (false, cs)

/-! ### Whole numbers -/

/-- The number that digits write to a base. -/
def numberIn (base : Nat) (cs : List Char) : Except ScalarFault Int :=
  (Text.readInteger base (String.ofList cs)).mapError .notInteger

/-- Parts of a number to base sixty, from the highest. -/
def sexagesimal (parts : List Int) : Int := parts.foldl (fun n p => 60 * n + p) 0

/-- The value of a whole number. -/
def intValue (text : String) : Except ScalarFault Int := do
  let (negative, body) ← splitSign (withoutScores text.toList)
  let n ←
    match body with
    | [] => .error .empty
    | ['0'] => .ok 0
    | '0' :: 'b' :: ds => numberIn 2 ds
    | '0' :: 'x' :: ds => numberIn 16 ds
    | '0' :: _ => numberIn 8 body
    | _ =>
      if body.contains ':' then ((colonPieces body).mapM (numberIn 10)).map sexagesimal
      else numberIn 10 body
  return if negative then -n else n

/-! ### Binary numbers -/

/-- The value of a part of a binary number. -/
def floatPart (cs : List Char) : Except ScalarFault Number.Binary64 :=
  let text := String.ofList cs
  match Number.Binary64.read? text with
  | some x => .ok x
  | none => .error (.notFloat text)

/-- Add up the parts of a number to base sixty, from the lowest. Each place is rounded by itself. -/
def addPlaces (sum : Number.Binary64) (place : Nat) :
    List Number.Binary64 → Except ScalarFault Number.Binary64
  | [] => .ok sum
  | part :: parts =>
    match Number.Binary64.ofInt? place with
    | none => .error .tooLarge
    | some unit => addPlaces (sum.add (part.mul unit)) (60 * place) parts

/-- The value of a binary number. -/
def floatValue (text : String) : Except ScalarFault Number.Binary64 := do
  let cs := (Text.lower (String.ofList (withoutScores text.toList))).toList
  let (negative, body) ← splitSign cs
  let x ←
    if body = ".inf".toList then .ok (.infinite false)
    else if body = ".nan".toList then .ok .nan
    else if body.contains ':' then do
      let parts ← (colonPieces body).mapM floatPart
      addPlaces (.ofInt 0) 1 parts.reverse
    else floatPart body
  return if negative then x.negate else x

/-! ### Other scalars -/

/-- The value of a word for a truth value. -/
def boolValue (text : String) : Except ScalarFault Bool :=
  let word := Text.lower text
  match truthWords.lookup word with
  | some b => .ok b
  | none => .error (.notTruth word)

/-- The value of a date or time. -/
def momentValue (text : String) : Except ScalarFault Moment :=
  match readMoment (withoutBreak text.toList) with
  | none => .error .notMoment
  | some t =>
    match t.moment.problem? with
    | some p => .error (.moment p)
    | none => .ok t.moment

/-- The bytes that a text writes. -/
def binaryValue (text : String) : Except Fault (List UInt8) :=
  if text.toList.all fun c => c.toNat < 128 then
    match Text.Base64.decode text with
    | some data => .ok data
    | none => .error .malformed
  else .error .malformed

/-- The value of a scalar of a kind; kinds of collections and unknown kinds have none. -/
def scalarValue (tag : Tag) (text : String) : Except Fault Scalar :=
  match tag with
  | .text => .ok (.text text)
  | .null => .ok .null
  | .bool => ((boolValue text).map .bool).mapError .scalar
  | .int => ((intValue text).map fun n => .number (.int n)).mapError .scalar
  | .float => ((floatValue text).map fun x => .number (.float x)).mapError .scalar
  | .moment => ((momentValue text).map .moment).mapError .scalar
  | .binary => (binaryValue text).map .bytes
  | _ => .error .malformed

end BannedApi.Yaml
