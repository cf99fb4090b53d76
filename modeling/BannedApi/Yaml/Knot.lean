import BannedApi.Yaml.Cell

/-!
From filled collections to a value. Collections whose parts are all known have a value themselves, and
so on until nothing new comes. What is left then holds itself, or something that does: it is a knot,
and is written out level by level. The last level is `unwritten`, and is so far down that a walk which
comes there goes round in a circle.
-/
namespace BannedApi.Yaml

/-- The value of a part, by the values of the collections. -/
def Part.value? (known : Nat → Option Value) : Part → Option Value
  | .scalar s => some (.scalar s)
  | .collection n => known n

/-- The value of a pair of parts. -/
def pairValue? (known : Nat → Option Value) (pair : Part × Part) : Option Value := do
  let key ← pair.1.value? known
  let named ← pair.2.value? known
  return .tuple [key, named]

/-- The value of a collection whose parts all have values. -/
def Cell.value? (known : Nat → Option Value) : Cell → Option Value
  | .list items => (items.mapM (Part.value? known)).map .list
  | .map entries =>
    (entries.mapM fun e => (Part.value? known e.2).map fun v => (e.1, v)).map .map
  | .set keys => some (.set keys)
  | .pairs entries =>
    (entries.mapM (pairValue? known)).map .list

namespace Knot

/-- The values of collections, by their numbers. -/
abbrev Values := Array (Option Value)

/-- The value of a number. -/
def known (values : Values) (n : Nat) : Option Value := values[n]?.join

/-- Look at collections in this order, and give a value to those whose parts all have one. -/
def sweep (cells : Array (Option Cell)) (order : List Nat) (values : Values) : Values :=
  order.foldl
    (fun values n =>
      match known values n, cells[n]?.join with
      | none, some cell => values.setIfInBounds n (cell.value? (known values))
      | _, _ => values)
    values

/-- The collections without a value. -/
def unknown (cells : Array (Option Cell)) (values : Values) : List Nat :=
  (List.range cells.size).filter fun n => cells[n]?.join.isSome && (known values n).isNone

/-- Sweep downwards and upwards until nothing new comes. -/
def settle (cells : Array (Option Cell)) : Nat → Values → Values
  | 0, values => values
  | fuel + 1, values =>
    let left := unknown cells values
    let next := sweep cells left (sweep cells left.reverse values)
    if (unknown cells next).length = left.length then values else settle cells fuel next

/-- How deep a knot of `n` collections is written out. A walk comes to the unit once and to any other
mapping in one of two roles, goes at most two levels down to the next mapping, and looks at most four
levels ahead from one. So a walk that meets what is unwritten has come to some mapping twice in the
same role, and would do so again and again. -/
def depth (n : Nat) : Nat := 4 * n + 6

/-- What stands for a collection that is not written out. A list that is left is never empty. -/
def ending : Cell → Value
  | .list _ => .list [.unwritten]
  | .pairs _ => .list [.unwritten]
  | .set keys => .set keys
  | .map _ => .unwritten

/-- Write out the collections that are left one level more. -/
def deepen (cells : Array (Option Cell)) (settled : Values) (left : List Nat) (inner : Values) : Values :=
  let part (n : Nat) : Option Value :=
    ((known settled n).or (known inner n)).or (cells[n]?.join.map ending)
  left.foldl
    (fun values n =>
      let body := (cells[n]?.join.bind (Cell.value? part)).getD .unwritten
      values.setIfInBounds n (some (.knot n body)))
    inner

/-- Write out the collections that are left so many levels deep. -/
def writeOut (cells : Array (Option Cell)) (settled : Values) (left : List Nat) : Nat → Values
  | 0 => settled
  | n + 1 => deepen cells settled left (writeOut cells settled left n)

/-- The values of all collections. -/
def values (cells : Array (Option Cell)) : Values :=
  let settled := settle cells (cells.size + 1) (Array.replicate cells.size none)
  let left := unknown cells settled
  if left.isEmpty then settled else writeOut cells settled left (depth left.length)

end Knot

/-- The value of a document. -/
def Document.value (d : Document) : Except Fault Value := do
  let (top, cells) ← d.cells
  return (top.value? (Knot.known (Knot.values cells))).getD .null

end BannedApi.Yaml
