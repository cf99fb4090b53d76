import BannedApi.Yaml.Fault

/-!
Reading a YAML text character by character, knowing the line and the column one stands in. Line ends
are line feeds, next-line characters and the two Unicode separators.
-/
namespace BannedApi.Yaml

/-- A line ends here. -/
def isBreak (c : Char) : Bool :=
  c == '\n' || c.toNat == 0x85 || c.toNat == 0x2028 || c.toNat == 0x2029

/-- A space or a tab. -/
def isSpace (c : Char) : Bool := c == ' ' || c == '\t'

/-- The text or the line ends here. -/
def atBreak (c : Option Char) : Bool := c.all isBreak

/-- The text, the line or a word ends here. -/
def atGap (c : Option Char) : Bool := c.all fun c => isBreak c || isSpace c

/-- A character of a name: a letter, a digit, a hyphen or an underscore. -/
def isNameChar (c : Char) : Bool := c.isAlphanum || c == '-' || c == '_'

/-- A place in the text: what is still to be read, the number of those characters, and where they
stand. -/
structure Cursor where
  rest : List Char
  left : Nat
  line : Nat := 0
  column : Nat := 0
  deriving Repr

namespace Cursor

/-- The character at a distance, if the text is that long. -/
def peek (c : Cursor) (n : Nat := 0) : Option Char := c.rest[n]?

/-- The text does not go on as it must; it may just have ended. -/
def refuse {α : Type} (c : Cursor) : Except Fault α :=
  .error (if c.rest.isEmpty then .unfinished else .malformed)

/-- One character further. A byte order mark takes no column. -/
def next (c : Cursor) : Cursor :=
  match c.rest with
  | [] => c
  | ch :: rest =>
    if isBreak ch then ⟨rest, c.left - 1, c.line + 1, 0⟩
    else if ch.toNat = 0xFEFF then ⟨rest, c.left - 1, c.line, c.column⟩
    else ⟨rest, c.left - 1, c.line, c.column + 1⟩

/-- So many characters further. -/
def advance (c : Cursor) : Nat → Cursor
  | 0 => c
  | n + 1 => c.next.advance n

/-- The characters up to the first that fails the test, and the place behind them. -/
def span (c : Cursor) (p : Char → Bool) : List Char × Cursor :=
  let taken := c.rest.takeWhile p
  (taken, c.advance taken.length)

/-- Behind the characters that pass the test. -/
def skip (c : Cursor) (p : Char → Bool) : Cursor := (c.span p).2

/-- Behind the spaces that stand before a column. -/
def skipTo (c : Cursor) (column : Nat) : Cursor :=
  c.advance (min (column - c.column) (c.rest.takeWhile (· == ' ')).length)

/-- Behind the rest of a line. -/
def skipLine (c : Cursor) : Cursor := c.skip (!isBreak ·)

/-- A line end as it counts in a text, and the place behind it. -/
def lineBreak (c : Cursor) : List Char × Cursor :=
  match c.peek with
  | some ch =>
    if isBreak ch then ([if ch.toNat = 0x85 then '\n' else ch], c.next) else ([], c)
  | none => ([], c)

/-- Behind blanks, a comment and the line end; nothing else may stand on the line. -/
def finishLine (c : Cursor) : Except Fault Cursor :=
  let c := c.skip (· == ' ')
  let c := if c.peek = some '#' then c.skipLine else c
  if atBreak c.peek then .ok c.lineBreak.2 else c.refuse

/-- A marker line of three equal characters begins here. -/
def atMarker (c : Cursor) (ch : Char) : Bool :=
  [ch, ch, ch].isPrefixOf c.rest && atGap (c.peek 3)

/-- A document starts or ends here. -/
def atDocumentMarker (c : Cursor) : Bool := c.atMarker '-' || c.atMarker '.'

end Cursor

end BannedApi.Yaml
