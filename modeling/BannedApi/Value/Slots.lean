import BannedApi.Value.Basic

/-!
The order of numbers in a set. A set keeps its items in a table of slots and lists them slot by slot.
A number takes the slot that its residue names or, where that is taken, the next free one on its way.

Only numbers name their slots. A set that holds anything else keeps the order in which it was written.
-/
namespace BannedApi

namespace Number

/-- The modulus of the residues of numbers. -/
def residueModulus : Nat := Nat.pow 2 61 - 1

/-- The residue of an infinite number. -/
def infiniteResidue : Nat := 314159

/-- A residue with a sign, as a word of 64 bits. Minus one shares its word with minus two. -/
def residueWord (negative : Bool) (residue : Nat) : Nat :=
  if negative then (Nat.pow 2 64 - if residue = 1 then 2 else residue) % Nat.pow 2 64 else residue

/-- The word that names the slot of a number; numbers of one value have one word. What is not a number
has none. -/
def word? : Number → Option Nat
  | .int n => some (residueWord (n < 0) (n.natAbs % residueModulus))
  | .float (.finite negative mantissa exponent) =>
    let (num, den) := Binary64.ratio mantissa exponent
    let half := Nat.pow 2 (61 - Nat.log2 den % 61)
    some (residueWord negative (num * half % residueModulus))
  | .float (.infinite negative) => some (residueWord negative infiniteResidue)
  | .float .nan => none

end Number

namespace Slots

/-- The number of slots for so many items. -/
def sizeFor (count : Nat) : Nat :=
  if count < 5 then 8 else Nat.pow 2 (Nat.log2 (2 * count) + 1)

/-- The slots that are tried together: a slot and the nine behind it, or the slot alone near the end
of the table. -/
def row (size slot : Nat) : List Nat := if slot + 9 < size then List.range' slot 10 else [slot]

/-- The first free slot on the way of a word. The way goes on by what is left of the word. -/
def free (size : Nat) (taken : List Nat) : Nat → Nat → Nat → Nat
  | 0, slot, _ => slot
  | fuel + 1, slot, left =>
    match (row size slot).find? fun s => !taken.contains s with
    | some s => s
    | none => free size taken fuel ((5 * slot + 1 + left / 32) % size) (left / 32)

/-- Give an item the slot that its word leads to. When the word is used up, the way visits every slot
in turn. -/
def place {α : Type} (size : Nat) (placed : List (Nat × α)) (item : Nat × α) : List (Nat × α) :=
  let slot := free size (placed.map (·.1)) (size + 13) (item.1 % size) item.1
  placed ++ [(slot, item.2)]

/-- Items in the order of their slots, each given with its word. -/
def order {α : Type} (items : List (Nat × α)) : List α :=
  let placed := items.foldl (place (sizeFor items.length)) []
  (placed.mergeSort fun a b => a.1 ≤ b.1).map (·.2)

end Slots

/-- The word that names the slot of a scalar, if it is a number or counts as one. -/
def Scalar.word? (s : Scalar) : Option Nat := s.numeric?.bind Number.word?

/-- The items of a set in the order in which the set lists them. -/
def Scalar.inSlots (items : List Scalar) : List Scalar :=
  match items.mapM fun s => s.word?.map (·, s) with
  | some words => Slots.order words
  | none => items

end BannedApi
