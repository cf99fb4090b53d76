import BannedApi.Number.Basic
import BannedApi.Text.Blank
import BannedApi.Text.Digit
import BannedApi.Text.Quoted

/-!
Whole numbers as they are written: blanks around them, a sign, perhaps a mark of the base, and digits
with at most one underscore between two of them. Digits of every script count, but the number of
decimal digits is limited.
-/
namespace BannedApi.Text

/-- Why a text is no whole number. -/
inductive IntegerFault where
  | invalid (base : Nat) (text : String)
  | tooManyDigits (count : Nat)
  deriving DecidableEq, Repr

/-- The fault in words; only the start of a long text is shown. -/
def IntegerFault.message : IntegerFault → String
  | .invalid base text =>
    s!"invalid literal for int() with base {base}: " ++ quotedShort 200 text
  | .tooManyDigits count =>
    s!"Exceeds the limit ({Number.digitLimit} digits) for integer string conversion: "
      ++ s!"value has {count} digits; use sys.set_int_max_str_digits() to increase the limit"

/-- White space of the ASCII characters around a number. -/
def isSpacing (c : Char) : Bool := c == ' ' || (9 ≤ c.toNat && c.toNat ≤ 13)

/-- A character of a number in ASCII: blanks and digits of other scripts become ASCII ones. What has
no such form ends the number. -/
def asciiForm? (c : Char) : Option Char :=
  if c.toNat < 127 then some c
  else if isBlank c then some ' '
  else (digit? c).map fun d => Char.ofNat ('0'.toNat + d)

/-- A number in ASCII, up to the first character that has no ASCII form; that one is marked. A text
that is ASCII already stays as it is. -/
def asciiNumber (cs : List Char) : List Char :=
  if cs.all fun c => c.toNat < 128 then cs
  else
    let known := cs.takeWhile fun c => (asciiForm? c).isSome
    known.filterMap asciiForm? ++ (if known.length = cs.length then [] else ['?'])

/-- The value of a digit to any base up to thirty-six. -/
def digitValue? (base : Nat) (c : Char) : Option Nat :=
  let d :=
    if '0' ≤ c && c ≤ '9' then c.toNat - '0'.toNat
    else if 'a' ≤ c && c ≤ 'z' then c.toNat - 'a'.toNat + 10
    else if 'A' ≤ c && c ≤ 'Z' then c.toNat - 'A'.toNat + 10
    else base
  if d < base then some d else none

/-- The digits at the start of a text, and what follows them. An underscore may stand between two
digits, and nowhere else. -/
def takeDigits (base : Nat) : List Char → List Nat × List Char
  | [] => ([], [])
  | '_' :: c :: cs =>
    match digitValue? base c with
    | some d =>
      let (ds, rest) := takeDigits base cs
      (d :: ds, rest)
    | none => ([], '_' :: c :: cs)
  | c :: cs =>
    match digitValue? base c with
    | some d =>
      let (ds, rest) := takeDigits base cs
      (d :: ds, rest)
    | none => ([], c :: cs)

/-- What follows the mark of a base, if there is one; an underscore may stand behind it. -/
def afterMark (base : Nat) (cs : List Char) : List Char :=
  let marks := if base = 16 then ['x', 'X'] else if base = 8 then ['o', 'O']
    else if base = 2 then ['b', 'B'] else []
  match cs with
  | '0' :: m :: rest =>
    if marks.contains m then (if rest.head? = some '_' then rest.drop 1 else rest) else cs
  | _ => cs

/-- The number of digits from the highest. -/
def ofDigits (base : Nat) (ds : List Nat) : Nat := ds.foldl (fun n d => base * n + d) 0

/-- The number that a text writes to a base. Only digits to base ten are limited. -/
def readInteger (base : Nat) (s : String) : Except IntegerFault Int :=
  let cs := (asciiNumber s.toList).dropWhile isSpacing
  let negative := cs.head? = some '-'
  let body := if negative || cs.head? = some '+' then cs.drop 1 else cs
  let body := afterMark base body
  let (ds, rest) := if body.head? = some '_' then ([], body) else takeDigits base body
  if rest.head? = some '_' then .error (.invalid base s)
  else if base = 10 && Number.digitLimit < ds.length then .error (.tooManyDigits ds.length)
  else if ds.isEmpty || !rest.all isSpacing then .error (.invalid base s)
  else
    let n : Int := ofDigits base ds
    .ok (if negative then -n else n)

end BannedApi.Text
