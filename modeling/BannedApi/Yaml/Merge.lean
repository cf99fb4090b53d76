import BannedApi.Yaml.Node

/-!
Merging: an entry whose key is the merge sign stands for the entries of another mapping, or of a list
of mappings. They come before the mapping's own entries, so those win. A mapping that is merged has
its own merging done first, and each entry with a merge sign is taken away before what it names is
looked at, so a mapping may even be merged into itself.
-/
namespace BannedApi.Yaml.Graph

/-- The node of a number. -/
def node (g : Graph) (n : Nat) : Node := g[n]?.getD Node.nothing

/-- The entries of a mapping; other nodes have none. -/
def entries (g : Graph) (n : Nat) : List (Nat × Nat) :=
  match (node g n).body with
  | .mapping es => es
  | _ => []

/-- Give a mapping other entries. -/
def setEntries (g : Graph) (n : Nat) (es : List (Nat × Nat)) : Graph :=
  g.modify n fun node => { node with body := .mapping es }

/-- Give a node another tag. -/
def setTag (g : Graph) (n : Nat) (tag : Tag) : Graph := g.modify n fun node => { node with tag }

mutual

/-- Do the merging of a mapping. -/
def merge : Nat → Nat → Graph → Except Fault Graph
  | 0, _, _ => .error .malformed
  | fuel + 1, n, g => do
    let (merged, g) ← mergeFrom fuel n 0 g
    .ok (if merged.isEmpty then g else setEntries g n (merged ++ entries g n))

/-- The entries that are merged into a mapping by its entries from one on. The sign for a default
value becomes an ordinary key. -/
def mergeFrom : Nat → Nat → Nat → Graph → Except Fault (List (Nat × Nat) × Graph)
  | 0, _, _, _ => .error .malformed
  | fuel + 1, n, index, g =>
    match (entries g n)[index]? with
    | none => .ok ([], g)
    | some (key, value) =>
      match (node g key).tag with
      | .merge => do
        let g := setEntries g n ((entries g n).eraseIdx index)
        let (more, g) ← mergedEntries fuel value g
        let (rest, g) ← mergeFrom fuel n index g
        .ok (more ++ rest, g)
      | .default => mergeFrom fuel n (index + 1) (setTag g key .text)
      | _ => mergeFrom fuel n (index + 1) g

/-- The entries of a mapping that is merged, or of a list of mappings, the last of them first. -/
def mergedEntries : Nat → Nat → Graph → Except Fault (List (Nat × Nat) × Graph)
  | 0, _, _ => .error .malformed
  | fuel + 1, n, g =>
    match (node g n).body with
    | .mapping _ => do
      let g ← merge fuel n g
      .ok (entries g n, g)
    | .sequence items => do
      let (lists, g) ← mergeEach fuel items g
      .ok (lists.reverse.flatten, g)
    | .scalar _ => .error .malformed

/-- The entries of each mapping of a list. -/
def mergeEach : Nat → List Nat → Graph → Except Fault (List (List (Nat × Nat)) × Graph)
  | 0, _, _ => .error .malformed
  | _, [], g => .ok ([], g)
  | fuel + 1, n :: rest, g =>
    match (node g n).body with
    | .mapping _ => do
      let g ← merge fuel n g
      let own := entries g n
      let (others, g) ← mergeEach fuel rest g
      .ok (own :: others, g)
    | _ => .error .malformed

end

/-- The number of parts of all nodes. -/
def partCount (g : Graph) : Nat :=
  g.foldl
    (fun n node =>
      match node.body with
      | .scalar _ => n
      | .sequence items => n + items.length
      | .mapping es => n + es.length)
    0

/-- A key of the mapping is a merge sign or the sign for a default value. -/
def hasSigns (g : Graph) (n : Nat) : Bool :=
  (entries g n).any fun e =>
    let tag := (node g e.1).tag
    tag == .merge || tag == .default

/-- Do the merging of a mapping, if there is any. No chain of merged mappings has more steps than the
nodes have parts. -/
def mergeInto (g : Graph) (n : Nat) : Except Fault Graph :=
  if hasSigns g n then merge (4 * partCount g + 8) n g else .ok g

end BannedApi.Yaml.Graph
