import BannedApi.Text.Newline
import BannedApi.Yaml.Fault

/-!
A YAML text as it comes in. It is read in portions, and a portion is taken as a whole: what is wrong
with one of its characters or bytes counts as soon as the portion is reached, and not before.
-/
namespace BannedApi.Yaml

/-- The text up to a portion that cannot be taken, and what is wrong with that portion. -/
structure Source where
  text : List Char
  stop : Option Fault := none
  deriving Repr

/-- A character that may stand in a YAML text. -/
def isAllowed (c : Char) : Bool :=
  let n := c.toNat
  n == 9 || n == 0xA || n == 0xD || (0x20 ≤ n && n ≤ 0x7E) || n == 0x85
    || (0xA0 ≤ n && n ≤ 0xD7FF) || (0xE000 ≤ n && n ≤ 0xFFFD) || 0x10000 ≤ n

/-- The number of characters of a portion; the first one has twice as many. -/
def portionSize : Nat := 4096

/-- The start of the portion that a character is in. -/
def portionStart (index : Nat) : Nat :=
  if index < 2 * portionSize then 0 else index - index % portionSize

namespace Source

/-- A text that is followed by something that cannot be taken, if it is. -/
def before (stop : Option Fault) (cs : List Char) : Source :=
  match cs.findIdx? fun c => !isAllowed c with
  | some n => ⟨cs.take (portionStart n), some .malformed⟩
  | none => ⟨cs, stop⟩

/-- A text. -/
def ofText (cs : List Char) : Source := before none cs

/-! ### Bytes -/

/-- The least number of bytes that are taken at once. -/
def pieceSize : Nat := 8192

/-- Bytes under way: the characters so far, the bytes of an unfinished character, the bytes that are
left, and how many bytes and characters the last piece had. -/
structure Pieces where
  taken : List Char := []
  pending : List UInt8 := []
  left : List UInt8
  lastBytes : Nat := 0
  lastChars : Nat := 0

/-- The characters so far, with line feeds at their line ends. A carriage return at the end waits for
what follows it. -/
def Pieces.text (p : Pieces) : List Char :=
  Text.unifyNewlines (if p.taken.getLast? = some '\r' then p.taken.dropLast else p.taken)

/-- The number of bytes of the next piece: enough for the rest of a portion, if characters go on to
take as many bytes as in the last piece. -/
def Pieces.size (p : Pieces) : Nat :=
  let missing := portionSize - p.text.length % portionSize
  if p.lastChars = 0 then pieceSize else max pieceSize (p.lastBytes * missing / p.lastChars)

/-- The characters of bytes, and the bytes of an unfinished character at the end, which must not be
there if no more bytes follow. -/
def decodePiece (last : Bool) (bytes : List UInt8) :
    Except Text.Utf8.Fault (List Char × List UInt8) :=
  match Text.Utf8.decode bytes with
  | .ok cs => .ok (cs, [])
  | .error f =>
    if f.cause = .unexpectedEnd && !last then
      (Text.Utf8.decode (bytes.take f.start)).map fun cs => (cs, bytes.drop f.start)
    else .error f

/-- Take piece after piece up to one that is wrong. -/
def takePieces : Nat → Pieces → Source
  | 0, p => ofText p.text
  | fuel + 1, p =>
    let piece := p.left.take p.size
    match decodePiece piece.isEmpty (p.pending ++ piece) with
    | .error f =>
      before (some (.encoding f)) (p.text.take (portionStart p.text.length))
    | .ok (cs, pending) =>
      let next : Pieces := { p with taken := p.taken ++ cs, pending, left := p.left.drop p.size }
      takePieces fuel
        { next with lastBytes := piece.length, lastChars := next.text.length - p.text.length }

/-- The text of bytes. -/
def ofBytes (bytes : List UInt8) : Source :=
  match Text.Utf8.decode bytes with
  | .ok cs => ofText (Text.unifyNewlines cs)
  | .error _ => takePieces (bytes.length + 2) { left := bytes }

end Source

end BannedApi.Yaml
