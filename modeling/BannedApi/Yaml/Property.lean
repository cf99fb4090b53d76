import BannedApi.Yaml.Cursor
import BannedApi.Yaml.Token

/-!
Anchors, aliases, tags and directives.
-/
namespace BannedApi.Yaml

/-- The name of an anchor or alias, behind its sign. -/
def readAnchor (c : Cursor) : Except Fault (String × Cursor) :=
  let (name, c) := c.next.span isNameChar
  let ends := c.peek.all fun ch =>
    isBreak ch || isSpace ch || ['?', ':', ',', ']', '\x7d', '%', '@', '\x60'].contains ch
  if name.isEmpty || !ends then c.refuse else .ok (String.ofList name, c)

/-! ### Tags -/

/-- A character of a tag's text other than an escape. -/
def isTagChar (ch : Char) : Bool := ch.isAlphanum || "-;/?:@&=+$,_.!~*'()[]".toList.contains ch

/-- The value of a hexadecimal digit. -/
def hexDigit? (ch : Char) : Option Nat :=
  if '0' ≤ ch && ch ≤ '9' then some (ch.toNat - '0'.toNat)
  else if 'a' ≤ ch && ch ≤ 'f' then some (ch.toNat - 'a'.toNat + 10)
  else if 'A' ≤ ch && ch ≤ 'F' then some (ch.toNat - 'A'.toNat + 10)
  else none

/-- Bytes written with percent signs, one after the other. -/
def readEscapedBytes : List Char → Option (List UInt8)
  | '%' :: a :: b :: rest => do
    let x ← hexDigit? a
    let y ← hexDigit? b
    return UInt8.ofNat (16 * x + y) :: (← readEscapedBytes rest)
  | '%' :: _ => none
  | _ => some []

/-- The text of a tag: its own characters and escaped ones. -/
def tagText : Nat → Cursor → Except Fault (List Char × Cursor)
  | 0, _ => .error .malformed
  | fuel + 1, c =>
    let (taken, c) := c.span isTagChar
    if c.peek = some '%' then
      match readEscapedBytes c.rest with
      | none => .error (if c.left < 3 then .unfinished else .malformed)
      | some bytes =>
        match Text.Utf8.decode bytes with
        | .error _ => .error .malformed
        | .ok cs =>
          (tagText fuel (c.advance (3 * bytes.length))).map fun r => (taken ++ cs ++ r.1, r.2)
    else .ok (taken, c)

/-- The text of a tag, which must not be empty. -/
def readTagText (c : Cursor) : Except Fault (String × Cursor) :=
  match tagText (c.left + 1) c with
  | .error f => .error f
  | .ok (text, c) => if text.isEmpty then c.refuse else .ok (String.ofList text, c)

/-- A handle: an exclamation mark, or a name between two of them. -/
def readHandle (c : Cursor) : Except Fault (String × Cursor) :=
  if c.peek != some '!' then c.refuse
  else if c.peek 1 = some ' ' then .ok ("!", c.next)
  else
    let (name, c) := c.next.span isNameChar
    if c.peek = some '!' then .ok (String.ofList ('!' :: name ++ ['!']), c.next)
    else c.refuse

/-- A second exclamation mark stands in the word: the tag begins with a handle. -/
def hasHandle (c : Cursor) : Bool :=
  (c.next.rest.takeWhile fun ch => !(isBreak ch || ch == ' ')).contains '!'

/-- A tag as it is written. -/
def readTagBody (c : Cursor) : Except Fault (TagText × Cursor) := do
  if c.peek 1 = some '<' then
    let (suffix, c) ← readTagText (c.advance 2)
    if c.peek = some '>' then .ok (⟨none, suffix⟩, c.next) else c.refuse
  else if atGap (c.peek 1) then .ok (⟨none, "!"⟩, c.next)
  else
    let (handle, c) ← if hasHandle c then readHandle c else .ok ("!", c.next)
    let (suffix, c) ← readTagText c
    .ok (⟨some handle, suffix⟩, c)

/-- A tag; a blank must follow it. -/
def readTag (c : Cursor) : Except Fault (TagText × Cursor) := do
  let (tag, c) ← readTagBody c
  if c.peek.all fun ch => ch == ' ' || isBreak ch then .ok (tag, c) else c.refuse

/-! ### Directives -/

/-- A blank or the end of the line. -/
def atBlank (c : Option Char) : Bool := c.all fun ch => ch == ' ' || isBreak ch

/-- A decimal number; it must not be too long. -/
def readNumber (c : Cursor) : Except Fault (Nat × Cursor) :=
  let (digits, c) := c.span fun ch => '0' ≤ ch && ch ≤ '9'
  if digits.isEmpty then c.refuse
  else
    match Text.readInteger 10 (String.ofList digits) with
    | .ok n => .ok (n.toNat, c)
    | .error f => .error (.scalar (.notInteger f))

/-- What follows the name of a version directive. -/
def readVersion (c : Cursor) : Except Fault (Directive × Cursor) := do
  let (major, c) ← readNumber (c.skip (· == ' '))
  if c.peek != some '.' then c.refuse
  else
    let (_, c) ← readNumber c.next
    if atBlank c.peek then .ok (.version major, c) else c.refuse

/-- What follows the name of a tag directive. -/
def readTagHandle (c : Cursor) : Except Fault (Directive × Cursor) := do
  let (handle, c) ← readHandle (c.skip (· == ' '))
  if c.peek != some ' ' then c.refuse
  else
    let (start, c) ← readTagText (c.skip (· == ' '))
    if atBlank c.peek then .ok (.tagHandle handle start, c) else c.refuse

/-- A directive, with the rest of its line. -/
def readDirective (c : Cursor) : Except Fault (Directive × Cursor) := do
  let (name, c) := c.next.span isNameChar
  if name.isEmpty || !atBlank c.peek then c.refuse
  else
    let (directive, c) ←
      if name = "YAML".toList then readVersion c
      else if name = "TAG".toList then readTagHandle c
      else .ok (.other, c.skipLine)
    let c ← c.finishLine
    .ok (directive, c)

end BannedApi.Yaml
