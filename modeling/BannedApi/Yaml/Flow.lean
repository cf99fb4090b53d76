import BannedApi.Yaml.Property

/-!
Scalars on flowing lines: plain ones and those between quotes. A single line end inside them counts
as a space; of several, all but the first count.
-/
namespace BannedApi.Yaml

/-- What line ends stand for: the first one for a space, unless others follow it or it is a
separator of its own kind. -/
def foldBreaks (first : List Char) (others : List (List Char)) : List Char :=
  (if first != ['\n'] then first else if others.isEmpty then [' '] else []) ++ others.flatten

/-! ### Plain scalars -/

/-- The number of characters up to where a plain scalar stops: at a blank, at a colon with a blank
behind it, and inside brackets at their signs too. -/
def plainLength (flow : Bool) : List Char → Nat
  | [] => 0
  | ch :: rest =>
    let colonStops := atGap rest.head?
      || (flow && rest.head?.any fun c => ",[]\x7b\x7d".toList.contains c)
    if isBreak ch || isSpace ch || (ch == ':' && colonStops)
        || (flow && ",?[]\x7b\x7d".toList.contains ch) then 0
    else plainLength flow rest + 1

/-- Line ends and the spaces around them. It ends without a result at a document marker. -/
def plainBreaks : Nat → Cursor → Option (List (List Char)) × Cursor
  | 0, c => (none, c)
  | fuel + 1, c =>
    let c := c.skip (· == ' ')
    if c.rest.head?.any isBreak then
      let (b, c) := c.lineBreak
      if c.atDocumentMarker then (none, c)
      else
        let (others, c) := plainBreaks fuel c
        (others.map (b :: ·), c)
    else (some [], c)

/-- What stands between two pieces of a plain scalar, whether a line ended there, and the place
behind. -/
def plainGap (c : Cursor) : List Char × Bool × Cursor :=
  let (spaces, c) := c.span (· == ' ')
  if c.rest.head?.any isBreak then
    let (first, c) := c.lineBreak
    if c.atDocumentMarker then ([], true, c)
    else
      match plainBreaks (c.left + 1) c with
      | (none, c) => ([], true, c)
      | (some others, c) => (foldBreaks first others, true, c)
  else (spaces, false, c)

/-- The pieces of a plain scalar that must stand at least at `indent` outside brackets; `gap` is
what stands before the next piece. The flag tells whether a line ended behind the last piece. -/
def plainPieces (flow : Bool) (indent : Int) :
    Nat → List Char → Bool → Cursor → List Char × Bool × Cursor
  | 0, _, ended, c => ([], ended, c)
  | fuel + 1, gap, ended, c =>
    let length := if c.peek = some '#' then 0 else plainLength flow c.rest
    if length = 0 then ([], ended, c)
    else
      let piece := c.rest.take length
      let (spaces, broken, after) := plainGap (c.advance length)
      if spaces.isEmpty || after.peek = some '#' || (!flow && after.column < indent) then
        (gap ++ piece, broken, after)
      else
        let (others, ended, after) := plainPieces flow indent fuel spaces broken after
        (gap ++ piece ++ others, ended, after)

/-- A plain scalar, whether a line ended behind it, and the place behind. -/
def readPlain (flow : Bool) (indent : Int) (c : Cursor) : String × Bool × Cursor :=
  let (text, ended, c) := plainPieces flow indent (c.left + 1) [] false c
  (String.ofList text, ended, c)

/-! ### Quoted scalars -/

/-- What a character behind a backslash stands for. -/
def escape? (ch : Char) : Option Char :=
  match ch with
  | '0' => some '\x00'
  | 'a' => some '\x07'
  | 'b' => some '\x08'
  | 't' => some '\t'
  | '\t' => some '\t'
  | 'n' => some '\n'
  | 'v' => some '\x0b'
  | 'f' => some '\x0c'
  | 'r' => some '\r'
  | 'e' => some '\x1b'
  | ' ' => some ' '
  | '"' => some '"'
  | '\\' => some '\\'
  | '/' => some '/'
  | 'N' => some '\x85'
  | '_' => some '\xa0'
  | 'L' => some (Char.ofNat 0x2028)
  | 'P' => some (Char.ofNat 0x2029)
  | _ => none

/-- The number of hexadecimal digits that follow a character behind a backslash. -/
def escapeWidth? (ch : Char) : Option Nat :=
  match ch with
  | 'x' => some 2
  | 'u' => some 4
  | 'U' => some 8
  | _ => none

/-- The number that exactly so many hexadecimal digits write. -/
def hexNumber (width : Nat) (cs : List Char) : Option Nat :=
  let digits := cs.take width
  if digits.length = width then
    digits.foldlM (fun n d => (hexDigit? d).map (16 * n + ·)) 0
  else none

/-- Line ends inside quotes with the blanks around them; a document marker may not stand there. -/
def quotedBreaks : Nat → Cursor → Except Fault (List (List Char) × Cursor)
  | 0, _ => .error .malformed
  | fuel + 1, c =>
    if c.atDocumentMarker then .error .malformed
    else
      let c := c.skip isSpace
      if c.rest.head?.any isBreak then
        let (b, c) := c.lineBreak
        (quotedBreaks fuel c).map fun r => (b :: r.1, r.2)
      else .ok ([], c)

/-- One escaped character, behind its backslash. -/
def readEscape (c : Cursor) : Except Fault (List Char × Cursor) :=
  match c.peek with
  | none => c.refuse
  | some ch =>
    match escape? ch, escapeWidth? ch with
    | some x, _ => .ok ([x], c.next)
    | none, some width =>
      match hexNumber width c.next.rest with
      | none => (c.next.skip fun d => (hexDigit? d).isSome).refuse
      | some n =>
        if n < 0x110000 then .ok ([Char.ofNat n], c.next.advance width)
        else .error (.scalar (.noCharacter n))
    | none, none =>
      if isBreak ch then
        (quotedBreaks (c.left + 1) c.lineBreak.2).map fun r => (r.1.flatten, r.2)
      else c.refuse

/-- The text up to the closing quote. Between quotation marks a backslash escapes; between
apostrophes two of them stand for one. -/
def quotedText (double : Bool) : Nat → Cursor → Except Fault (List Char × Cursor)
  | 0, _ => .error .malformed
  | fuel + 1, c =>
    match c.peek with
    | none => c.refuse
    | some ch =>
      if double && ch == '\\' then do
        let (piece, c) ← readEscape c.next
        let (others, c) ← quotedText double fuel c
        .ok (piece ++ others, c)
      else if !double && ch == '\'' && c.peek 1 = some '\'' then
        (quotedText double fuel (c.advance 2)).map fun r => ('\'' :: r.1, r.2)
      else if ch == (if double then '"' else '\'') then .ok ([], c.next)
      else if isSpace ch || isBreak ch then do
        let (spaces, c) := c.span isSpace
        if c.peek.isNone then c.refuse
        else if c.rest.head?.any isBreak then
          let (first, c) := c.lineBreak
          let (others, c) ← quotedBreaks (c.left + 1) c
          let (rest, c) ← quotedText double fuel c
          .ok (foldBreaks first others ++ rest, c)
        else
          let (rest, c) ← quotedText double fuel c
          .ok (spaces ++ rest, c)
      else (quotedText double fuel c.next).map fun r => (ch :: r.1, r.2)

/-- A scalar between quotes. -/
def readQuoted (double : Bool) (c : Cursor) : Except Fault (String × Cursor) :=
  (quotedText double (c.left + 1) c.next).map fun r => (String.ofList r.1, r.2)

end BannedApi.Yaml
