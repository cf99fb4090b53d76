import BannedApi.Text.Segment
import BannedApi.Yaml.Tag
import BannedApi.Yaml.Timestamp

/-!
Plain scalars: which of them are truth values, numbers or dates.
-/
namespace BannedApi.Yaml

/-! ### Patterns -/

/-- A decimal digit or an underscore. -/
def isDigitOrScore (c : Char) : Bool := isDigit c || c == '_'

/-- A text without its sign. -/
def unsigned : List Char → List Char
  | '-' :: cs => cs
  | '+' :: cs => cs
  | cs => cs

/-- One or more characters that pass the test, and nothing else. -/
def allOf (p : Char → Bool) (cs : List Char) : Bool := !cs.isEmpty && cs.all p

/-- A part of a number to base sixty: one digit, or two of which the first is at most five. -/
def isSixtieth : List Char → Bool
  | [a] => isDigit a
  | [a, b] => '0' ≤ a && a ≤ '5' && isDigit b
  | _ => false

/-- Pieces between colons. -/
def colonPieces (cs : List Char) : List (List Char) := Text.splitAt ':' cs

/-- A number to base sixty: digits, then one or more parts behind colons. -/
def isSexagesimal (first : List Char → Bool) (cs : List Char) : Bool :=
  match colonPieces cs with
  | head :: tail => first head && !tail.isEmpty && tail.all isSixtieth
  | [] => false

/-- Digits and underscores of which the first is a digit. -/
def isDigits : List Char → Bool
  | c :: cs => isDigit c && cs.all isDigitOrScore
  | [] => false

/-- Digits and underscores of which the first is a digit other than zero. -/
def isCounting : List Char → Bool
  | c :: cs => '1' ≤ c && c ≤ '9' && cs.all isDigitOrScore
  | [] => false

/-- A whole number: binary, octal, decimal, hexadecimal or to base sixty. -/
def isInt (cs : List Char) : Bool :=
  let body := unsigned cs
  (match body with
    | '0' :: 'b' :: ds => allOf (fun c => c == '0' || c == '1' || c == '_') ds
    | '0' :: 'x' :: ds => allOf (fun c => c.isDigit || ('a' ≤ c && c ≤ 'f') || ('A' ≤ c && c ≤ 'F')
        || c == '_') ds
    | '0' :: ds => ds.all fun c => ('0' ≤ c && c ≤ '7') || c == '_'
    | ds => isCounting ds)
    || isSexagesimal isCounting body

/-- An exponent with its sign, or nothing. -/
def isExponent : List Char → Bool
  | [] => true
  | e :: sign :: ds => (e == 'e' || e == 'E') && (sign == '-' || sign == '+') && allOf isDigit ds
  | _ => false

/-- What follows the point of a number: digits, then perhaps an exponent. -/
def isFraction (cs : List Char) : Bool := isExponent (cs.dropWhile isDigitOrScore)

/-- A binary number: it has a point, and a sign in its exponent; or it is infinite or no number. -/
def isFloat (cs : List Char) : Bool :=
  let body := unsigned cs
  let whole := body.takeWhile (· != '.')
  let fraction := (body.dropWhile (· != '.')).drop 1
  let hasPoint := body.contains '.'
  (hasPoint && isDigits whole && isFraction fraction)
    || (match cs with
      | '.' :: d :: ds => isDigit d && isFraction ds
      | _ => false)
    || (hasPoint && isSexagesimal isDigits whole && fraction.all isDigitOrScore)
    || ([".inf", ".Inf", ".INF"].map String.toList).contains body
    || ([".nan", ".NaN", ".NAN"].map String.toList).contains cs

/-- The words for truth values, in small letters. -/
def truthWords : List (String × Bool) :=
  [("yes", true), ("no", false), ("true", true), ("false", false), ("on", true), ("off", false)]

/-- A word in small letters, with a capital, or in capitals. -/
def spellings (word : String) : List String := [word, word.capitalize, word.toUpper]

/-- The truth value a word stands for. -/
def truth? (text : String) : Option Bool :=
  (truthWords.find? fun w => (spellings w.1).contains text).map (·.2)

/-- The words for nothing; no text at all is another one. -/
def nothings : List String := ["~", "null", "Null", "NULL"]

/-- Signs that are kept for the language itself. -/
def signs : List String := ["!", "&", "*"]

/-! ### The kind of a plain scalar -/

/-- A text without the line feed at its end, which no pattern minds. -/
def withoutBreak (cs : List Char) : List Char := if cs.getLast? = some '\n' then cs.dropLast else cs

/-- The kind of a plain scalar, by its text. -/
def Tag.ofPlain (text : String) : Tag :=
  let cs := withoutBreak text.toList
  let word := String.ofList cs
  if text = "" then .null
  else if (truth? word).isSome then .bool
  else if isFloat cs then .float
  else if isInt cs then .int
  else if word = "<<" then .merge
  else if nothings.contains word then .null
  else if isMoment cs then .moment
  else if word = "=" then .default
  else if signs.contains word then .unknown
  else .text

end BannedApi.Yaml
