import BannedApi.Value.Slots
import BannedApi.Yaml.Merge
import BannedApi.Yaml.Scalar

/-!
From nodes to what they hold. Scalars get their values when the collection around them is filled;
collections are filled one after the other in the order in which they were first met, so the first
fault is that of the outermost collections. A node that stands in several places is taken once.
-/
namespace BannedApi.Yaml

/-- What a node stands for: a scalar, or the collection of that number. -/
inductive Part where
  | scalar (s : Scalar)
  | collection (n : Nat)
  deriving DecidableEq, Repr

/-- A filled collection. -/
inductive Cell where
  | list (items : List Part)
  | map (entries : List (Scalar × Part))
  | set (keys : List Scalar)
  | pairs (entries : List (Part × Part))
  deriving Repr

/-- The state of filling: the nodes, what the nodes met so far stand for, the collections in the order
in which they were met, and those that are filled. -/
structure Filling where
  graph : Graph
  parts : Array (Option Part)
  queue : Array Nat := #[]
  cells : Array (Option Cell)

namespace Filling

/-- The state before any node is met. -/
def start (g : Graph) : Filling :=
  { graph := g, parts := Array.replicate g.size none, cells := Array.replicate g.size none }

/-! ### Scalars -/

/-- The text of a scalar node. A mapping stands for the text of its default value; the first argument
bounds how often that is another mapping. -/
def textOf (g : Graph) : Nat → Nat → Except Fault String
  | 0, _ => .error .malformed
  | fuel + 1, n =>
    match (Graph.node g n).body with
    | .scalar text => .ok text
    | .sequence _ => .error .malformed
    | .mapping es =>
      match es.find? fun e => (Graph.node g e.1).tag == .default with
      | some (_, value) => textOf g fuel value
      | none => .error .malformed

/-- The scalar of a node. A date or time must be a text itself. -/
def scalarOf (g : Graph) (n : Nat) : Except Fault Scalar := do
  let node := Graph.node g n
  let text ← textOf g (g.size + 1) n
  match node.tag, node.body with
  | .moment, .mapping _ => .error (.scalar .momentNotText)
  | tag, _ => scalarValue tag text

/-- The tag is that of a collection. -/
def isCollection (t : Tag) : Bool := t == .sequence || t == .mapping || t == .set || t == .pairs

/-- The tag is that of a scalar. -/
def isScalar (t : Tag) : Bool :=
  t == .null || t == .bool || t == .int || t == .float || t == .moment || t == .text || t == .binary

/-- What a node stands for; a collection that is met for the first time is to be filled later. -/
def meet (f : Filling) (n : Nat) : Except Fault (Part × Filling) :=
  match f.parts[n]?.join with
  | some part => .ok (part, f)
  | none =>
    let tag := (Graph.node f.graph n).tag
    if isCollection tag then
      let part := Part.collection n
      .ok (part, { f with parts := f.parts.setIfInBounds n (some part), queue := f.queue.push n })
    else if isScalar tag then do
      let part := Part.scalar (← scalarOf f.graph n)
      .ok (part, { f with parts := f.parts.setIfInBounds n (some part) })
    else .error .malformed

/-! ### Collections -/

/-- What nodes stand for. -/
def meetAll (f : Filling) : List Nat → Except Fault (List Part × Filling)
  | [] => .ok ([], f)
  | n :: ns => do
    let (part, f) ← f.meet n
    let (parts, f) ← f.meetAll ns
    .ok (part :: parts, f)

/-- A key, with the number of its node if it equals no other key: not a number, unless it is written
by the name that all share. -/
structure Key where
  scalar : Scalar
  own : Option Nat := none
  deriving DecidableEq, Repr

/-- The two are one key. -/
def Key.same (a b : Key) : Bool := a.own == b.own && a.scalar.sameKey b.scalar

/-- The name for not a number that all such keys share. -/
def isSharedName (text : String) : Bool :=
  unsigned ((withoutScores text.toList).map Char.toLower) == ".nan".toList

/-- The key of a node that stands for a scalar. -/
def keyOf (g : Graph) (n : Nat) (s : Scalar) : Key :=
  match s, (Graph.node g n).body with
  | .number (.float .nan), .scalar text => ⟨s, if isSharedName text then none else some n⟩
  | _, _ => ⟨s, none⟩

/-- Give a key what it names: in its place when it is there, else at the end. -/
def putKey (key : Key) (part : Part) : List (Key × Part) → List (Key × Part)
  | [] => [(key, part)]
  | (k, p) :: rest => if k.same key then (k, part) :: rest else (k, p) :: putKey key part rest

/-- The entries of a mapping, put one after the other. A key must be a scalar, which is seen before
what it names is looked at. -/
def meetEntries (f : Filling) (before : List (Key × Part)) :
    List (Nat × Nat) → Except Fault (List (Key × Part) × Filling)
  | [] => .ok (before, f)
  | (k, v) :: rest => do
    let (key, f) ← f.meet k
    match key with
    | .collection _ => .error .malformed
    | .scalar s =>
      let (part, f) ← f.meet v
      f.meetEntries (putKey (keyOf f.graph k s) part before) rest

/-- The items of a list of pairs: each of them is a mapping with one entry. -/
def meetPairs (f : Filling) : List Nat → Except Fault (List (Part × Part) × Filling)
  | [] => .ok ([], f)
  | n :: rest =>
    match (Graph.node f.graph n).body with
    | .mapping [(k, v)] => do
      let (key, f) ← f.meet k
      let (part, f) ← f.meet v
      let (pairs, f) ← f.meetPairs rest
      .ok ((key, part) :: pairs, f)
    | _ => .error .malformed

/-- The entries of a mapping with all merging done. -/
def mergedEntries (f : Filling) (n : Nat) : Except Fault (List (Key × Part) × Filling) :=
  match (Graph.node f.graph n).body with
  | .mapping _ => do
    let graph ← Graph.mergeInto f.graph n
    { f with graph }.meetEntries [] (Graph.entries graph n)
  | _ => .error .malformed

/-- Fill a collection. -/
def cellOf (f : Filling) (n : Nat) : Except Fault (Cell × Filling) :=
  let node := Graph.node f.graph n
  match node.tag, node.body with
  | .sequence, .sequence items => (f.meetAll items).map fun r => (.list r.1, r.2)
  | .pairs, .sequence items => (f.meetPairs items).map fun r => (.pairs r.1, r.2)
  | .mapping, _ =>
    (f.mergedEntries n).map fun r => (.map (r.1.map fun e => (e.1.scalar, e.2)), r.2)
  | .set, _ =>
    (f.mergedEntries n).map fun r => (.set (Scalar.inSlots (r.1.map fun e => e.1.scalar)), r.2)
  | _, _ => .error .malformed

/-- Fill the collections in turn, from a place of the queue on. -/
def run : Nat → Nat → Filling → Except Fault Filling
  | 0, _, f => .ok f
  | fuel + 1, next, f =>
    match f.queue[next]? with
    | none => .ok f
    | some n => do
      let (cell, f) ← f.cellOf n
      run fuel (next + 1) { f with cells := f.cells.setIfInBounds n (some cell) }

end Filling

/-- What the top of a document stands for, and all collections filled. -/
def Document.cells (d : Document) : Except Fault (Part × Array (Option Cell)) := do
  let (part, f) ← (Filling.start d.graph).meet d.root
  let f ← Filling.run (d.graph.size + 1) 0 f
  .ok (part, f.cells)

end BannedApi.Yaml
