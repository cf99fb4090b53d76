import BannedApi.Yaml.Cursor

/-!
Block scalars: indented lines under a sign that tells whether line ends are kept or folded.
-/
namespace BannedApi.Yaml

/-- What becomes of the line ends at the end of a block. -/
inductive Chomping where
  /-- None is kept. -/
  | strip
  /-- One is kept. -/
  | clip
  /-- All are kept. -/
  | keep
  deriving DecidableEq, Repr

/-- A sign for what becomes of the last line ends. -/
def chomping? (ch : Option Char) : Option Chomping :=
  match ch with
  | some '+' => some .keep
  | some '-' => some .strip
  | _ => none

/-- A digit for the indentation; zero is none. -/
def readIncrement (c : Cursor) : Except Fault (Option Nat × Cursor) :=
  match c.peek with
  | some ch =>
    if ch == '0' then c.refuse
    else if '1' ≤ ch && ch ≤ '9' then .ok (some (ch.toNat - '0'.toNat), c.next)
    else .ok (none, c)
  | none => .ok (none, c)

/-- The sign and the digit behind the sign of the block, in either order. -/
def readHeader (c : Cursor) : Except Fault (Chomping × Option Nat × Cursor) := do
  let (chomping, increment, c) ←
    match chomping? c.peek with
    | some chomping => do
      let (increment, c) ← readIncrement c.next
      pure (chomping, increment, c)
    | none => do
      let (increment, c) ← readIncrement c
      match increment, chomping? c.peek with
      | some _, some chomping => pure (chomping, increment, c.next)
      | _, _ => pure (.clip, increment, c)
  if c.peek.all fun ch => ch == ' ' || isBreak ch then .ok (chomping, increment, ← c.finishLine)
  else c.refuse

/-- Empty lines before the first line, and the furthest column reached by their spaces. -/
def firstBreaks : Nat → Nat → Cursor → List (List Char) × Nat × Cursor
  | 0, furthest, c => ([], furthest, c)
  | fuel + 1, furthest, c =>
    let c := c.skip (· == ' ')
    let furthest := max furthest c.column
    if c.rest.head?.any isBreak then
      let (b, c) := c.lineBreak
      let (others, furthest, c) := firstBreaks fuel furthest c
      (b :: others, furthest, c)
    else ([], furthest, c)

/-- Empty lines between the lines of a block. -/
def blockBreaks (indent : Nat) : Nat → Cursor → List (List Char) × Cursor
  | 0, c => ([], c)
  | fuel + 1, c =>
    let c := c.skipTo indent
    if c.rest.head?.any isBreak then
      let (b, c) := c.lineBreak
      let (others, c) := blockBreaks indent fuel c
      (b :: others, c)
    else ([], c)

/-- A line of the block begins here. -/
def atBlockLine (indent : Nat) (c : Cursor) : Bool := c.column == indent && c.peek.isSome

/-- The lines of a block from one of them on, with the empty lines before it. -/
def blockLines (folded : Bool) (chomping : Chomping) (indent : Nat) :
    Nat → List (List Char) → Cursor → List Char × Cursor
  | 0, _, c => ([], c)
  | fuel + 1, breaks, c =>
    let startsFull := !c.peek.any isSpace
    let (line, c) := c.span (!isBreak ·)
    let (ending, c) := c.lineBreak
    let (after, c) := blockBreaks indent (c.left + 1) c
    let text := breaks.flatten ++ line
    if atBlockLine indent c then
      let joined :=
        if folded && ending == ['\n'] && startsFull && !c.peek.any isSpace then
          if after.isEmpty then [' '] else []
        else ending
      let (others, c) := blockLines folded chomping indent fuel after c
      (text ++ joined ++ others, c)
    else
      let last := if chomping = .strip then [] else ending
      let kept := if chomping = .keep then after.flatten else []
      (text ++ last ++ kept, c)

/-- A block scalar under `indent`, from its sign on. -/
def readBlock (folded : Bool) (indent : Int) (c : Cursor) : Except Fault (String × Cursor) := do
  let (chomping, increment, c) ← readHeader c.next
  let least := (max (indent + 1) 1).toNat
  let (breaks, column, c) :=
    match increment with
    | some n =>
      let column := least + n - 1
      let (breaks, c) := blockBreaks column (c.left + 1) c
      (breaks, column, c)
    | none =>
      let (breaks, furthest, c) := firstBreaks (c.left + 1) 0 c
      (breaks, max least furthest, c)
  let (text, c) :=
    if atBlockLine column c then blockLines folded chomping column (c.left + 1) breaks c
    else (if chomping = .keep then breaks.flatten else [], c)
  .ok (String.ofList text, c)

end BannedApi.Yaml
