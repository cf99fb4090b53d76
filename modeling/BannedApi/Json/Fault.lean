import BannedApi.Text.Integer

/-!
Faults of a JSON text: what is wrong, and where. A text may also be refused because of a number that
is well formed but too long.
-/
namespace BannedApi.Json

/-- What is wrong with a JSON text. -/
inductive Problem where
  | byteOrderMark
  | expectingValue
  | expectingName
  | expectingColon
  | expectingComma
  | unterminatedString
  | controlCharacter
  | invalidEscape
  | invalidCodeEscape
  | extraData
  /-- A whole number has so many digits, which is too many. -/
  | longInteger (digits : Nat)
  deriving DecidableEq, Repr

/-- The problem in words. -/
def Problem.message : Problem → String
  | .byteOrderMark => "Unexpected UTF-8 BOM (decode using utf-8-sig)"
  | .expectingValue => "Expecting value"
  | .expectingName => "Expecting property name enclosed in double quotes"
  | .expectingColon => "Expecting ':' delimiter"
  | .expectingComma => "Expecting ',' delimiter"
  | .unterminatedString => "Unterminated string starting at"
  | .controlCharacter => "Invalid control character at"
  | .invalidEscape => "Invalid \\escape"
  | .invalidCodeEscape => "Invalid \\uXXXX escape"
  | .extraData => "Extra data"
  | .longInteger digits => (Text.IntegerFault.tooManyDigits digits).message

/-- A problem at a place, given by the number of characters from there to the end of the text. -/
structure Fault where
  problem : Problem
  left : Nat
  deriving DecidableEq, Repr

/-- The fault of a whole text in words: line and column count from one, the character from zero. -/
def Fault.message (text : List Char) (f : Fault) : String :=
  let pos := text.length - f.left
  let passed := text.take pos
  let line := passed.count '\n' + 1
  let column := (passed.reverse.takeWhile (· != '\n')).length + 1
  s!"{f.problem.message}: line {line} column {column} (char {pos})"

/-- Why a text has no value: it is malformed, as said in words, or it holds a number that is too
long. -/
inductive Refusal where
  | malformed (message : String)
  | integer (fault : Text.IntegerFault)
  deriving DecidableEq, Repr

/-- The refusal that a fault of a whole text leads to. -/
def Fault.refusal (text : List Char) (f : Fault) : Refusal :=
  match f.problem with
  | .longInteger digits => .integer (.tooManyDigits digits)
  | _ => .malformed (f.message text)

end BannedApi.Json
