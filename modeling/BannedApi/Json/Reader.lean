import BannedApi.Json.Fault
import BannedApi.Value.Basic

/-!
Reading JSON texts.

Each reader takes the characters that are left and gives back what it read with the characters after
it, or the fault. Strings are strict: a control character ends the reading. Numbers with a fraction or
an exponent are binary numbers, all others whole numbers; `NaN` and `Infinity` are numbers too.

The texts are those whose escapes write the two halves of a pair together. Half a pair alone is no
character, so what is said about texts read from JSON is said of texts without one.
-/
namespace BannedApi.Json

/-- A fault with this problem at the start of the characters left. -/
def fault {α : Type} (p : Problem) (cs : List Char) : Except Fault α := .error ⟨p, cs.length⟩

/-- White space of a JSON text. -/
def isSpace (c : Char) : Bool := c == ' ' || c == '\t' || c == '\n' || c == '\r'

/-- Skip white space. -/
def skipSpace (cs : List Char) : List Char := cs.dropWhile isSpace

/-! ### Strings -/

/-- The value of a hexadecimal digit. -/
def hexValue? (c : Char) : Option Nat :=
  if '0' ≤ c && c ≤ '9' then some (c.toNat - '0'.toNat)
  else if 'a' ≤ c && c ≤ 'f' then some (c.toNat - 'a'.toNat + 10)
  else if 'A' ≤ c && c ≤ 'F' then some (c.toNat - 'A'.toNat + 10)
  else none

/-- The number of four hexadecimal digits. -/
def hex4? (a b c d : Char) : Option Nat := do
  let a ← hexValue? a
  let b ← hexValue? b
  let c ← hexValue? c
  let d ← hexValue? d
  return ((a * 16 + b) * 16 + c) * 16 + d

/-- The character that a backslash before `c` stands for. -/
def simpleEscape? (c : Char) : Option Char :=
  match c with
  | '"' => some '"'
  | '\\' => some '\\'
  | '/' => some '/'
  | 'b' => some '\x08'
  | 'f' => some '\x0c'
  | 'n' => some '\n'
  | 'r' => some '\r'
  | 't' => some '\t'
  | _ => none

/-- The first half of a pair that stands for a character beyond `FFFF`. -/
def isHighHalf (n : Nat) : Bool := 0xD800 ≤ n && n < 0xDC00

/-- The second half of such a pair. -/
def isLowHalf (n : Nat) : Bool := 0xDC00 ≤ n && n < 0xE000

/-- The character of a code unit. No half of a pair stands alone in the texts that are read; one that
does gets the replacement character, so two such halves are not told apart. -/
def unitChar (n : Nat) : Char :=
  if isHighHalf n || isLowHalf n then '�' else Char.ofNat n

/-- The character of a pair of halves. -/
def pairChar (high low : Nat) : Char :=
  Char.ofNat (0x10000 + (high - 0xD800) * 0x400 + (low - 0xDC00))

/-- The character of a code escape, from the characters after its `u` on. Four hexadecimal digits and
one character more must be left. -/
def readCodeEscape (cs : List Char) : Except Fault (Char × List Char) :=
  match cs with
  | a :: b :: c :: d :: e :: rest =>
    match hex4? a b c d with
    | none => .error ⟨.invalidCodeEscape, cs.length + 1⟩
    | some n =>
      match e :: rest with
      | '\\' :: 'u' :: a' :: b' :: c' :: d' :: f :: rest' =>
        if isHighHalf n then
          match hex4? a' b' c' d' with
          | none => .error ⟨.invalidCodeEscape, rest'.length + 6⟩
          | some low =>
            if isLowHalf low then .ok (pairChar n low, f :: rest') else .ok (unitChar n, e :: rest)
        else .ok (unitChar n, e :: rest)
      | _ => .ok (unitChar n, e :: rest)
  | _ => .error ⟨.invalidCodeEscape, cs.length + 1⟩

theorem length_lt_of_readCodeEscape {cs rest : List Char} {c : Char}
    (h : readCodeEscape cs = .ok (c, rest)) : rest.length < cs.length := by
  unfold readCodeEscape at h
  split at h
  · rename_i a b c' d e tail
    split at h
    · cases h
    · split at h
      · rename_i heq
        have hlen := congrArg List.length heq
        simp only [List.length_cons] at hlen
        split at h
        · split at h
          · cases h
          · split at h <;>
            · simp only [Except.ok.injEq, Prod.mk.injEq] at h
              simp only [← h.2, List.length_cons]
              omega
        · simp only [Except.ok.injEq, Prod.mk.injEq] at h
          simp only [← h.2, List.length_cons]
          omega
      · simp only [Except.ok.injEq, Prod.mk.injEq] at h
        simp only [← h.2, List.length_cons]
        omega
  · cases h

/-- The rest of a string after its opening quote. `opening` are the characters left at that quote. -/
def readString (opening : List Char) : List Char → Except Fault (List Char × List Char)
  | [] => fault .unterminatedString opening
  | '"' :: cs => .ok ([], cs)
  | ['\\'] => fault .unterminatedString opening
  | '\\' :: 'u' :: cs =>
    match _h : readCodeEscape cs with
    | .error f => .error f
    | .ok (x, rest) => (readString opening rest).map fun r => (x :: r.1, r.2)
  | '\\' :: c :: cs =>
    match simpleEscape? c with
    | some x => (readString opening cs).map fun r => (x :: r.1, r.2)
    | none => .error ⟨.invalidEscape, cs.length + 2⟩
  | c :: cs =>
    if c.toNat < 0x20 then .error ⟨.controlCharacter, cs.length + 1⟩
    else (readString opening cs).map fun r => (c :: r.1, r.2)
termination_by cs => cs.length
decreasing_by
  · have := length_lt_of_readCodeEscape _h
    simp only [List.length_cons]
    omega
  · simp only [List.length_cons]
    omega
  · simp only [List.length_cons]
    omega

/-! ### Numbers -/

/-- An ASCII digit. -/
def isDigit (c : Char) : Bool := '0' ≤ c && c ≤ '9'

/-- The number that digits stand for. -/
def digitsValue (ds : List Char) : Nat := ds.foldl (fun n d => 10 * n + (d.toNat - '0'.toNat)) 0

/-- The digits after a point, when there is a point with a digit after it. -/
def readFraction : List Char → Option (List Char × List Char)
  | '.' :: cs =>
    let ds := cs.takeWhile isDigit
    if ds.isEmpty then none else some (ds, cs.dropWhile isDigit)
  | _ => none

/-- The exponent, when there is one with a digit. -/
def readExponent (cs : List Char) : Option (Int × List Char) :=
  let signed (negative : Bool) (cs : List Char) : Option (Int × List Char) :=
    let ds := cs.takeWhile isDigit
    if ds.isEmpty then none
    else some (if negative then -(digitsValue ds : Int) else digitsValue ds, cs.dropWhile isDigit)
  match cs with
  | e :: cs =>
    if e == 'e' || e == 'E' then
      match cs with
      | '-' :: cs => signed true cs
      | '+' :: cs => signed false cs
      | cs => signed false cs
    else none
  | [] => none

/-- The rest of a number after its whole part. -/
def finishNumber (negative : Bool) (whole cs : List Char) : Except Fault (Number × List Char) :=
  match readFraction cs, readExponent cs with
  | some (ds, cs), _ =>
    let (e, cs) := (readExponent cs).getD (0, cs)
    .ok (.float (.ofDecimal negative (digitsValue (whole ++ ds)) (e - ds.length)), cs)
  | none, some (e, cs) => .ok (.float (.ofDecimal negative (digitsValue whole) e), cs)
  | none, none =>
    if Number.digitLimit < whole.length then fault (.longInteger whole.length) cs
    else .ok (.int (if negative then -(digitsValue whole : Int) else digitsValue whole), cs)

/-- A number without its sign: a zero alone, or digits that do not start with one. A fault is that of
a value that is missing at `start`. -/
def readNumber (negative : Bool) (start cs : List Char) : Except Fault (Number × List Char) :=
  match cs with
  | '0' :: cs => finishNumber negative ['0'] cs
  | _ =>
    let ds := cs.takeWhile isDigit
    if ds.isEmpty then fault .expectingValue start
    else finishNumber negative ds (cs.dropWhile isDigit)

/-- The characters after `word`, when the text starts with it. -/
def after? (word : String) (cs : List Char) : Option (List Char) :=
  if word.toList.isPrefixOf cs then some (cs.drop word.length) else none

/-- The words that are values. -/
def words : List (String × Scalar) :=
  [("null", .null), ("true", .bool true), ("false", .bool false), ("NaN", .number (.float .nan)),
    ("Infinity", .number (.float (.infinite false))),
    ("-Infinity", .number (.float (.infinite true)))]

/-- A value that is neither a string, a list nor a mapping. -/
def readPlain (cs : List Char) : Except Fault (Value × List Char) :=
  match words.findSome? fun w => (after? w.1 cs).map fun rest => (w.2, rest) with
  | some (s, rest) => .ok (.scalar s, rest)
  | none =>
    let number :=
      match cs with
      | '-' :: rest => readNumber true cs rest
      | _ => readNumber false cs cs
    number.map fun r => (.scalar (.number r.1), r.2)

/-! ### Values -/

mutual

/-- One value. The first argument bounds the nesting: each level of lists takes two of it, one for the
list and one for its items. -/
def readValue : Nat → List Char → Except Fault (Value × List Char)
  | 0, cs => fault .expectingValue cs
  | fuel + 1, cs =>
    match cs with
    | '"' :: rest => (readString cs rest).map fun r => (.text (String.ofList r.1), r.2)
    | '\x7b' :: rest =>
      match skipSpace rest with
      | '\x7d' :: rest => .ok (.map [], rest)
      | rest => (readEntries fuel [] rest).map fun r => (.map r.1, r.2)
    | '[' :: rest =>
      match skipSpace rest with
      | ']' :: rest => .ok (.list [], rest)
      | rest => (readItems fuel rest).map fun r => (.list r.1, r.2)
    | _ => readPlain cs

/-- The entries of a mapping from a name on, up to the closing brace. -/
def readEntries : Nat → List (Scalar × Value) → List Char →
    Except Fault (List (Scalar × Value) × List Char)
  | 0, _, cs => fault .expectingName cs
  | fuel + 1, entries, cs =>
    match cs with
    | '"' :: rest =>
      match readString cs rest with
      | .error f => .error f
      | .ok (name, rest) =>
        match skipSpace rest with
        | ':' :: rest =>
          match readValue fuel (skipSpace rest) with
          | .error f => .error f
          | .ok (v, rest) =>
            let entries := putEntry (.text (String.ofList name)) v entries
            match skipSpace rest with
            | '\x7d' :: rest => .ok (entries, rest)
            | ',' :: rest => readEntries fuel entries (skipSpace rest)
            | rest => fault .expectingComma rest
        | rest => fault .expectingColon rest
    | _ => fault .expectingName cs

/-- The items of a list from a value on, up to the closing bracket. -/
def readItems : Nat → List Char → Except Fault (List Value × List Char)
  | 0, cs => fault .expectingValue cs
  | fuel + 1, cs =>
    match readValue fuel cs with
    | .error f => .error f
    | .ok (v, rest) =>
      match skipSpace rest with
      | ']' :: rest => .ok ([v], rest)
      | ',' :: rest => (readItems fuel (skipSpace rest)).map fun r => (v :: r.1, r.2)
      | rest => fault .expectingComma rest

end

/-- The value of a whole text. -/
def read (cs : List Char) : Except Fault Value :=
  match cs with
  | '﻿' :: _ => fault .byteOrderMark cs
  | _ =>
    match readValue (2 * cs.length + 1) (skipSpace cs) with
    | .error f => .error f
    | .ok (v, rest) =>
      match skipSpace rest with
      | [] => .ok v
      | rest => fault .extraData rest

/-- The value of a text, or why it has none. -/
def parse (text : String) : Except Refusal Value :=
  (read text.toList).mapError (Fault.refusal text.toList)

end BannedApi.Json
