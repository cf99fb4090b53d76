import BannedApi.Yaml.Plain
import BannedApi.Yaml.Scan

/-!
The nodes of a YAML document: scalars, sequences and mappings, each with a tag. Nodes are numbered in
the order in which they begin, and a node names its parts by their numbers, so an alias stands for the
very node that its anchor names, even inside that node.
-/
namespace BannedApi.Yaml

/-- What a node is made of. -/
inductive Body where
  | scalar (text : String)
  | sequence (items : List Nat)
  | mapping (entries : List (Nat × Nat))
  deriving DecidableEq, Repr

/-- A node. -/
structure Node where
  tag : Tag
  body : Body
  deriving DecidableEq, Repr

/-- The node that nothing stands for. -/
def Node.nothing : Node := ⟨.null, .scalar ""⟩

instance : Inhabited Node := ⟨Node.nothing⟩

/-- The nodes of a document by their numbers. -/
abbrev Graph := Array Node

/-- What is left to read and why nothing comes after it, the nodes so far, the anchors given and the
tag handles of the document. -/
structure Parse where
  tokens : List Token
  stop : Fault := .malformed
  graph : Graph := #[]
  anchors : List (String × Nat) := []
  handles : List (String × String) := standardHandles

namespace Parse

/-- The next token. -/
def peek (p : Parse) : Except Fault Token :=
  match p.tokens with
  | t :: _ => .ok t
  | [] => .error p.stop

/-- The next token is one of these. -/
def sees (p : Parse) (ts : List Token) : Except Fault Bool := p.peek.map ts.contains

/-- Without the next token. -/
def drop (p : Parse) : Parse := { p with tokens := p.tokens.tail }

/-- Add a node, and give it its number and perhaps an anchor. -/
def add (p : Parse) (anchor : Option String) (node : Node) : Nat × Parse :=
  let n := p.graph.size
  (n, { p with
    graph := p.graph.push node
    anchors := (anchor.map fun a => (a, n)).toList ++ p.anchors })

/-- Fill a node that was added before its parts were known. -/
def fill (p : Parse) (n : Nat) (body : Body) : Parse :=
  { p with graph := p.graph.modify n fun node => { node with body } }

/-- An anchor in front of a node. -/
def anchor? (p : Parse) : Except Fault (Option String × Parse) := do
  match ← p.peek with
  | .anchor a => .ok (some a, p.drop)
  | _ => .ok (none, p)

/-- A tag in front of a node. -/
def tag? (p : Parse) : Except Fault (Option TagText × Parse) := do
  match ← p.peek with
  | .tag t => .ok (some t, p.drop)
  | _ => .ok (none, p)

/-- The anchor and the tag in front of a node, in either order. -/
def properties (p : Parse) : Except Fault (Option String × Option TagText × Parse) := do
  match ← p.anchor? with
  | (some a, p) =>
    let (tag, p) ← p.tag?
    .ok (some a, tag, p)
  | (none, p) =>
    match ← p.tag? with
    | (none, p) => .ok (none, none, p)
    | (some t, p) =>
      let (anchor, p) ← p.anchor?
      .ok (anchor, some t, p)

/-- The full name of the tag in front of a node; a lone exclamation mark leaves it open. -/
def tagName (p : Parse) : Option TagText → Except Fault (Option String)
  | none => .ok none
  | some t =>
    match t.name? p.handles with
    | none => .error .malformed
    | some name => .ok (some name)

end Parse

/-- The tag of a scalar: a plain one without a tag, or one whose tag is left open, gets it by its
text. -/
def scalarTag (name : Option String) (plain : Bool) (text : String) : Tag :=
  match name with
  | none => if plain then Tag.ofPlain text else .text
  | some "!" => Tag.ofPlain text
  | some n => Tag.ofName n

/-- The tag of a sequence or mapping. -/
def collectionTag (name : Option String) (usual : Tag) : Tag :=
  match name with
  | none => usual
  | some "!" => usual
  | some n => Tag.ofName n

/-- Where a node stands: in a block, in the block of a mapping's key (where a sequence need not be
indented), or between brackets. -/
inductive Place where
  | block | entry | flow
  deriving DecidableEq, Repr

mutual

/-- The number of a node. -/
def readNode : Nat → Place → Parse → Except Fault (Nat × Parse)
  | 0, _, _ => .error .malformed
  | fuel + 1, place, p => do
    match ← p.peek with
    | .alias a =>
      match p.anchors.lookup a with
      | some n => .ok (n, p.drop)
      | none => .error .malformed
    | _ =>
      let (anchor, tag, p) ← p.properties
      let name ← p.tagName tag
      let next ← p.peek
      if anchor.any fun a => (p.anchors.lookup a).isSome then .error .malformed
      else
        let sequence (p : Parse) (read : Parse → Except Fault (List Nat × Parse)) := do
          let (n, p) := p.add anchor ⟨collectionTag name .sequence, .sequence []⟩
          let (items, p) ← read p
          .ok (n, p.fill n (.sequence items))
        let mapping (p : Parse) (read : Parse → Except Fault (List (Nat × Nat) × Parse)) := do
          let (n, p) := p.add anchor ⟨collectionTag name .mapping, .mapping []⟩
          let (entries, p) ← read p
          .ok (n, p.fill n (.mapping entries))
        let absent : Except Fault (Nat × Parse) :=
          if anchor.isSome || name.isSome then
            .ok (p.add anchor ⟨scalarTag name true "", .scalar ""⟩)
          else .error .malformed
        match next with
        | .blockEntry => if place = .entry then sequence p (readLooseItems fuel) else absent
        | .scalar text plain => .ok (p.drop.add anchor ⟨scalarTag name plain text, .scalar text⟩)
        | .flowSequenceStart => sequence p.drop (readFlowItems fuel true)
        | .flowMappingStart => mapping p.drop (readFlowEntries fuel true)
        | .blockSequenceStart => if place = .flow then absent else sequence p.drop (readItems fuel)
        | .blockMappingStart => if place = .flow then absent else mapping p.drop (readEntries fuel)
        | _ => absent

/-- The number of a node, or of nothing when one of these tokens follows. -/
def readNodeUnless : Nat → List Token → Place → Parse → Except Fault (Nat × Parse)
  | 0, _, _, _ => .error .malformed
  | fuel + 1, ends, place, p => do
    if ← p.sees ends then .ok (p.add none Node.nothing) else readNode fuel place p

/-- The items of a block sequence. -/
def readItems : Nat → Parse → Except Fault (List Nat × Parse)
  | 0, _ => .error .malformed
  | fuel + 1, p => do
    if ← p.sees [.blockEntry] then
      let (item, p) ← readNodeUnless fuel [.blockEntry, .blockEnd] .block p.drop
      let (items, p) ← readItems fuel p
      .ok (item :: items, p)
    else if ← p.sees [.blockEnd] then .ok ([], p.drop)
    else .error .malformed

/-- The items of a sequence at the indentation of its key. -/
def readLooseItems : Nat → Parse → Except Fault (List Nat × Parse)
  | 0, _ => .error .malformed
  | fuel + 1, p => do
    if ← p.sees [.blockEntry] then
      let (item, p) ← readNodeUnless fuel [.blockEntry, .key, .value, .blockEnd] .block p.drop
      let (items, p) ← readLooseItems fuel p
      .ok (item :: items, p)
    else .ok ([], p)

/-- The entries of a block mapping. -/
def readEntries : Nat → Parse → Except Fault (List (Nat × Nat) × Parse)
  | 0, _ => .error .malformed
  | fuel + 1, p => do
    if ← p.sees [.blockEnd] then .ok ([], p.drop)
    else if ← p.sees [.key] then
      let ends := [Token.key, .value, .blockEnd]
      let (key, p) ← readNodeUnless fuel ends .entry p.drop
      let (value, p) ← readValueAfter fuel ends .entry p
      let (entries, p) ← readEntries fuel p
      .ok ((key, value) :: entries, p)
    else .error .malformed

/-- What stands behind the sign for a value, or nothing when there is no such sign. -/
def readValueAfter : Nat → List Token → Place → Parse → Except Fault (Nat × Parse)
  | 0, _, _, _ => .error .malformed
  | fuel + 1, ends, place, p => do
    if ← p.sees [.value] then readNodeUnless fuel ends place p.drop
    else .ok (p.add none Node.nothing)

/-- The items between square brackets; a comma stands before each but the first. -/
def readFlowItems : Nat → Bool → Parse → Except Fault (List Nat × Parse)
  | 0, _, _ => .error .malformed
  | fuel + 1, first, p => do
    if ← p.sees [.flowSequenceEnd] then .ok ([], p.drop)
    else if !first && !(← p.sees [.flowEntry]) then .error .malformed
    else
      let p := if first then p else p.drop
      if ← p.sees [.flowSequenceEnd] then .ok ([], p.drop)
      else if ← p.sees [.key] then
        let (n, p) := p.drop.add none ⟨.mapping, .mapping []⟩
        let (key, p) ← readNodeUnless fuel [.value, .flowEntry, .flowSequenceEnd] .flow p
        let (value, p) ← readValueAfter fuel [.flowEntry, .flowSequenceEnd] .flow p
        let (items, p) ← readFlowItems fuel false (p.fill n (.mapping [(key, value)]))
        .ok (n :: items, p)
      else
        let (item, p) ← readNode fuel .flow p
        let (items, p) ← readFlowItems fuel false p
        .ok (item :: items, p)

/-- The entries between curly brackets; a comma stands before each but the first. -/
def readFlowEntries : Nat → Bool → Parse → Except Fault (List (Nat × Nat) × Parse)
  | 0, _, _ => .error .malformed
  | fuel + 1, first, p => do
    if ← p.sees [.flowMappingEnd] then .ok ([], p.drop)
    else if !first && !(← p.sees [.flowEntry]) then .error .malformed
    else
      let p := if first then p else p.drop
      if ← p.sees [.flowMappingEnd] then .ok ([], p.drop)
      else
        let (key, value, p) ←
          if ← p.sees [.key] then do
            let (key, p) ← readNodeUnless fuel [.value, .flowEntry, .flowMappingEnd] .flow p.drop
            let (value, p) ← readValueAfter fuel [.flowEntry, .flowMappingEnd] .flow p
            pure (key, value, p)
          else do
            let (key, p) ← readNode fuel .flow p
            let (value, p) := p.add none Node.nothing
            pure (key, value, p)
        let (entries, p) ← readFlowEntries fuel false p
        .ok ((key, value) :: entries, p)

end

/-! ### Documents -/

/-- The directives of a document: at most one version, which must be the first, and each handle
once. -/
def readDirectives (version : Bool) (handles : List (String × String)) :
    List Token → Except Fault (List (String × String) × List Token)
  | .directive d :: rest =>
    match d with
    | .version major =>
      if version || major != 1 then .error .malformed else readDirectives true handles rest
    | .tagHandle handle start =>
      if (handles.lookup handle).isSome then .error .malformed
      else readDirectives version ((handle, start) :: handles) rest
    | .other => readDirectives version handles rest
  | ts => .ok (handles, ts)

/-- A document of one node: its nodes and the number of the node at the top. -/
structure Document where
  graph : Graph
  root : Nat
  deriving Repr

/-- The document, when nothing comes behind its node any more. -/
def finishDocument (r : Nat × Parse) : Except Fault Document := do
  let p := { r.2 with tokens := r.2.tokens.dropWhile (· == Token.documentEnd) }
  if ← p.sees [.streamEnd] then .ok ⟨p.graph, r.1⟩ else .error .malformed

/-- The node of a document behind its start. -/
def readContent (fuel : Nat) (p : Parse) : Except Fault Document := do
  match ← p.peek with
  | .directive _ | .documentStart | .documentEnd | .streamEnd =>
    finishDocument (p.add none Node.nothing)
  | _ => finishDocument (← readNode fuel .block p)

/-- The one document of a text; a text without one has none. -/
def readDocument (ts : Tokens) : Except Fault (Option Document) := do
  let fuel := 4 * ts.list.length + 8
  let p : Parse := { tokens := ts.list, stop := ts.stop }
  match ← p.peek with
  | .streamEnd => .ok none
  | .directive _ | .documentStart =>
    let (handles, rest) ← readDirectives false [] ts.list
    let p := { p with tokens := rest, handles := handles ++ standardHandles }
    if ← p.sees [.documentStart] then (readContent fuel p.drop).map some
    else .error .malformed
  | _ => (finishDocument (← readNode fuel .block p)).map some

end BannedApi.Yaml
