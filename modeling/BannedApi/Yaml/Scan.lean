import BannedApi.Yaml.Block
import BannedApi.Yaml.Flow
import BannedApi.Yaml.Source

/-!
From a YAML text to its tokens.

Whether a scalar is a key is known only when a colon follows it on the same line. So the place of each
token that may begin a key is kept, one for each level of brackets, and when the colon comes the key
token is put in at that place, with the start of a block mapping before it if it stands further in
than the block around it. A token is given out only when no key can begin there any more, so of what
was read before a fault the last tokens may be missing.
-/
namespace BannedApi.Yaml

/-- A place where a key may begin: the number of the token there, the number of characters left, and
where it stands. A required key stands at the indentation of its block, so no other thing than a key
can begin there. -/
structure KeyPlace where
  token : Nat
  required : Bool
  left : Nat
  line : Nat
  column : Nat
  deriving Repr

/-- The state of scanning. -/
structure Scan where
  cursor : Cursor
  /-- The tokens so far, the last one first, and how many they are. -/
  tokens : List Token := []
  count : Nat := 0
  /-- How many brackets are open. -/
  depth : Nat := 0
  /-- The column of the innermost block, and of those around it. -/
  indent : Int := -1
  indents : List Int := []
  /-- A key may begin here. -/
  keyAllowed : Bool := true
  /-- Places where a key may have begun, by the level of brackets. -/
  places : List (Nat × KeyPlace) := []

namespace Scan

/-- The text stands inside brackets. -/
def inFlow (s : Scan) : Bool := s.depth != 0

/-- Add a token. -/
def push (s : Scan) (t : Token) : Scan :=
  { s with tokens := t :: s.tokens, count := s.count + 1 }

/-- Put tokens in behind the first `n`. -/
def insertAt (s : Scan) (n : Nat) (ts : List Token) : Scan :=
  let (later, sooner) := s.tokens.splitAt (s.count - n)
  { s with tokens := later ++ ts.reverse ++ sooner, count := s.count + ts.length }

/-- The first `n` tokens, in order. -/
def firstTokens (s : Scan) (n : Nat) : List Token := (s.tokens.drop (s.count - n)).reverse

/-- Stand elsewhere. -/
def goTo (s : Scan) (c : Cursor) : Scan := { s with cursor := c }

/-- Allow or forbid a key here. -/
def allowKey (s : Scan) (b : Bool) : Scan := { s with keyAllowed := b }

/-! ### Blocks -/

/-- End the blocks that stand further in than a column. -/
def closeBlocks (column : Int) : List Int → Scan → Scan
  | [], s => s
  | outer :: rest, s =>
    if column < s.indent then
      closeBlocks column rest { s.push .blockEnd with indent := outer, indents := rest }
    else s

/-- End the blocks that stand further in than a column, outside brackets. -/
def unwind (column : Int) (s : Scan) : Scan :=
  if s.inFlow then s else closeBlocks column s.indents s

/-- Begin a block at a column if it stands further in; the flag tells whether it does. -/
def openBlock (column : Int) (s : Scan) : Bool × Scan :=
  if s.indent < column then (true, { s with indent := column, indents := s.indent :: s.indents })
  else (false, s)

/-! ### Places of keys -/

/-- Forget the places that a key can no longer have begun at: on an earlier line, or too far back. A
required key must not be forgotten. -/
def dropStale (s : Scan) : Except Fault Scan :=
  let stale (k : KeyPlace) : Bool := k.line != s.cursor.line || 1024 < k.left - s.cursor.left
  if s.places.any fun p => stale p.2 && p.2.required then .error .malformed
  else .ok { s with places := s.places.filter fun p => !stale p.2 }

/-- Forget the place of this level of brackets. -/
def dropPlace (s : Scan) : Except Fault Scan :=
  if s.places.any fun p => p.1 == s.depth && p.2.required then .error .malformed
  else .ok { s with places := s.places.filter fun p => p.1 != s.depth }

/-- Keep this place as one where a key may begin. -/
def savePlace (s : Scan) : Except Fault Scan :=
  if s.keyAllowed then do
    let s ← s.dropPlace
    let c := s.cursor
    let required := !s.inFlow && s.indent == (c.column : Int)
    .ok { s with places := (s.depth, ⟨s.count, required, c.left, c.line, c.column⟩) :: s.places }
  else .ok s

/-! ### Tokens -/

/-- Behind blanks, comments and line ends. Outside brackets a key may begin on a new line. -/
def skipBlanks : Nat → Scan → Scan
  | 0, s => s
  | fuel + 1, s =>
    let c := s.cursor.skip (· == ' ')
    let c := if c.peek = some '#' then c.skipLine else c
    if c.rest.head?.any isBreak then
      skipBlanks fuel { s with cursor := c.lineBreak.2, keyAllowed := s.keyAllowed || !s.inFlow }
    else s.goTo c

/-- The end of the text. -/
def finish (s : Scan) : Except Fault Scan := do
  let s ← (s.unwind (-1)).dropPlace
  .ok (s.push .streamEnd)

/-- A directive. -/
def directive (s : Scan) : Except Fault Scan := do
  let s ← (s.unwind (-1)).dropPlace
  let (d, c) ← readDirective s.cursor
  .ok (((s.allowKey false).goTo c).push (.directive d))

/-- The start or end of a document. -/
def documentMarker (t : Token) (s : Scan) : Except Fault Scan := do
  let s ← (s.unwind (-1)).dropPlace
  .ok (((s.allowKey false).goTo (s.cursor.advance 3)).push t)

/-- An opening bracket. -/
def openFlow (t : Token) (s : Scan) : Except Fault Scan := do
  let s ← s.savePlace
  .ok (({ s with depth := s.depth + 1, keyAllowed := true }.goTo s.cursor.next).push t)

/-- A closing bracket. -/
def closeFlow (t : Token) (s : Scan) : Except Fault Scan := do
  let s ← s.dropPlace
  .ok (({ s with depth := s.depth - 1, keyAllowed := false }.goTo s.cursor.next).push t)

/-- A comma between brackets. -/
def flowEntry (s : Scan) : Except Fault Scan := do
  let s ← s.dropPlace
  .ok (((s.allowKey true).goTo s.cursor.next).push .flowEntry)

/-- Begin a block here if it stands further in, where a key may begin. -/
def startBlock (t : Token) (s : Scan) : Except Fault Scan :=
  if s.inFlow then .ok s
  else if !s.keyAllowed then .error .malformed
  else
    let (opened, s) := s.openBlock s.cursor.column
    .ok (if opened then s.push t else s)

/-- A hyphen before an item. -/
def blockEntry (s : Scan) : Except Fault Scan := do
  let s ← s.startBlock .blockSequenceStart
  let s ← s.dropPlace
  .ok (((s.allowKey true).goTo s.cursor.next).push .blockEntry)

/-- A question mark before a key. -/
def explicitKey (s : Scan) : Except Fault Scan := do
  let s ← s.startBlock .blockMappingStart
  let s ← s.dropPlace
  .ok (((s.allowKey !s.inFlow).goTo s.cursor.next).push .key)

/-- A colon before a value. The key before it may have begun at a place that was kept. -/
def valueSign (s : Scan) : Except Fault Scan := do
  let s ←
    match s.places.find? fun p => p.1 == s.depth with
    | some (_, k) =>
      let s := { s with places := s.places.filter fun p => p.1 != s.depth }
      let (opened, s) := if s.inFlow then (false, s) else s.openBlock k.column
      let ts := if opened then [Token.blockMappingStart, .key] else [.key]
      pure ((s.insertAt k.token ts).allowKey false)
    | none => do
      let s ← s.startBlock .blockMappingStart
      (s.allowKey !s.inFlow).dropPlace
  .ok ((s.goTo s.cursor.next).push .value)

/-- A token that may begin a key, and that no key can follow directly. -/
def property (read : Cursor → Except Fault (Token × Cursor)) (s : Scan) : Except Fault Scan := do
  let s ← s.savePlace
  let (t, c) ← read s.cursor
  .ok (((s.allowKey false).goTo c).push t)

/-- A block scalar. -/
def block (folded : Bool) (s : Scan) : Except Fault Scan := do
  let s ← s.dropPlace
  let (text, c) ← readBlock folded s.indent s.cursor
  .ok (((s.allowKey true).goTo c).push (.scalar text false))

/-- A plain scalar. -/
def plain (s : Scan) : Except Fault Scan := do
  let s ← s.savePlace
  let (text, ended, c) := readPlain s.inFlow (s.indent + 1) s.cursor
  .ok (((s.allowKey ended).goTo c).push (.scalar text true))

/-- A plain scalar may begin here. -/
def atPlain (s : Scan) (ch : Char) : Bool :=
  let signs := "-?:,[]\x7b\x7d#&*!|>'\"%@\x60".toList
  !(isBreak ch || isSpace ch || signs.contains ch)
    || (!atGap (s.cursor.peek 1) && (ch == '-' || (!s.inFlow && (ch == '?' || ch == ':'))))

/-- A sign counts here: always between brackets, else only before a blank. -/
def signCounts (s : Scan) : Bool := s.inFlow || atGap (s.cursor.peek 1)

/-- The next token. -/
def token (s : Scan) (ch : Char) : Except Fault Scan :=
  let c := s.cursor
  if ch == '%' && c.column == 0 then s.directive
  else if c.column == 0 && c.atMarker '-' then s.documentMarker .documentStart
  else if c.column == 0 && c.atMarker '.' then s.documentMarker .documentEnd
  else if ch == '[' then s.openFlow .flowSequenceStart
  else if ch == '\x7b' then s.openFlow .flowMappingStart
  else if ch == ']' then s.closeFlow .flowSequenceEnd
  else if ch == '\x7d' then s.closeFlow .flowMappingEnd
  else if ch == ',' then s.flowEntry
  else if ch == '-' && atGap (c.peek 1) then s.blockEntry
  else if ch == '?' && s.signCounts then s.explicitKey
  else if ch == ':' && s.signCounts then s.valueSign
  else if ch == '*' then s.property fun c => (readAnchor c).map fun r => (.alias r.1, r.2)
  else if ch == '&' then s.property fun c => (readAnchor c).map fun r => (.anchor r.1, r.2)
  else if ch == '!' then s.property fun c => (readTag c).map fun r => (.tag r.1, r.2)
  else if ch == '|' && !s.inFlow then s.block false
  else if ch == '>' && !s.inFlow then s.block true
  else if ch == '\'' then s.property fun c => (readQuoted false c).map fun r => (.scalar r.1 false, r.2)
  else if ch == '"' then s.property fun c => (readQuoted true c).map fun r => (.scalar r.1 false, r.2)
  else if s.atPlain ch then s.plain
  else .error .malformed

/-- Read the next token. The flag tells whether it is the last one. What cannot be taken stops the
reading as soon as it is reached. The number bounds the lines that are skipped before the token. -/
def fetch (stop : Option Fault) (lines : Nat) (s : Scan) : Except Fault (Bool × Scan) := do
  let s := s.skipBlanks lines
  let s ← s.dropStale
  let s := s.unwind s.cursor.column
  match s.cursor.peek, stop with
  | none, some f => .error f
  | none, none => (finish s).map fun s => (true, s)
  | some ch, _ => do
    let s ← s.token ch
    match stop with
    | some f => if s.cursor.rest.isEmpty then .error f else .ok (false, s)
    | none => .ok (false, s)

/-- The number of tokens before the first place where a key may still begin. -/
def released (s : Scan) : Nat :=
  let alive := s.places.filter fun p => p.2.line == s.cursor.line && p.2.left - s.cursor.left ≤ 1024
  alive.foldl (fun n p => min n p.2.token) s.count

end Scan

/-- The tokens that can be had, and why there are no more of them. -/
structure Tokens where
  list : List Token
  stop : Fault := .malformed
  deriving Repr

/-- All tokens from here on. Each of them takes a character at least, so the number bounds both the
tokens and the lines that are left. -/
def Scan.run (stop : Option Fault) : Nat → Scan → Tokens
  | 0, s => ⟨s.firstTokens s.count, .malformed⟩
  | fuel + 1, s =>
    match s.fetch stop fuel with
    | .ok (true, s) => ⟨s.firstTokens s.count, .malformed⟩
    | .ok (false, s) => s.run stop fuel
    | .error f =>
      let f := if f = .unfinished then stop.getD .malformed else f
      ⟨s.firstTokens s.released, f⟩

/-- The tokens of a text. A byte order mark at its start is skipped. -/
def tokens (source : Source) : Tokens :=
  let length := source.text.length
  let start : Cursor := { rest := source.text, left := length }
  let start := if start.peek.any (·.toNat == 0xFEFF) then start.next else start
  Scan.run source.stop (length + 2) { cursor := start }

end BannedApi.Yaml
