/-!
Maps from names that remember the order in which names first came.

Giving a name a new value keeps its place. The names of a map are all different: that is part of the
type, so a lookup finds the one entry there is.
-/
namespace BannedApi

namespace OrderedMap

variable {α : Type}

/-- Give `key` the value `item` in a list of entries: in its place when it is there, else at the
end. -/
def put (key : String) (item : α) : List (String × α) → List (String × α)
  | [] => [(key, item)]
  | (k, x) :: rest => if k = key then (k, item) :: rest else (k, x) :: put key item rest

theorem keys_put (key : String) (item : α) (entries : List (String × α)) :
    (put key item entries).map (·.1)
      = if key ∈ entries.map (·.1) then entries.map (·.1) else entries.map (·.1) ++ [key] := by
  induction entries with
  | nil => simp [put]
  | cons e rest ih =>
    obtain ⟨k, x⟩ := e
    by_cases h : k = key
    · simp [put, h]
    · have h' : key ≠ k := fun he => h he.symm
      simp only [put, if_neg h, List.map_cons, ih, List.mem_cons, h', false_or]
      split <;> rfl

theorem nodup_keys_put (key : String) (item : α) {entries : List (String × α)}
    (h : (entries.map (·.1)).Nodup) : ((put key item entries).map (·.1)).Nodup := by
  rw [keys_put]
  split
  · exact h
  · next hk =>
    refine List.nodup_append.2 ⟨h, by simp, ?_⟩
    intro a ha b hb hab
    simp only [List.mem_singleton] at hb
    exact hk (hb ▸ hab ▸ ha)

end OrderedMap

/-- Entries with different names, in the order in which the names first came. -/
structure OrderedMap (α : Type) where
  entries : List (String × α)
  nodup : (entries.map (·.1)).Nodup

namespace OrderedMap

variable {α β : Type}

/-- The map without entries. -/
def empty : OrderedMap α := ⟨[], by simp⟩

instance : Inhabited (OrderedMap α) := ⟨empty⟩

/-- The value of a name. -/
def get? (m : OrderedMap α) (key : String) : Option α :=
  (m.entries.find? fun e => e.1 == key).map (·.2)

/-- Give a name a value. -/
def insert (m : OrderedMap α) (key : String) (item : α) : OrderedMap α :=
  ⟨put key item m.entries, nodup_keys_put key item m.nodup⟩

/-- The map of a list of entries, put one after the other. -/
def ofList (entries : List (String × α)) : OrderedMap α :=
  entries.foldl (fun m e => m.insert e.1 e.2) empty

/-- Put all entries of `n` into `m`. -/
def union (m n : OrderedMap α) : OrderedMap α :=
  n.entries.foldl (fun m e => m.insert e.1 e.2) m

/-- The map with each value changed. -/
def map (f : α → β) (m : OrderedMap α) : OrderedMap β :=
  ⟨m.entries.map fun e => (e.1, f e.2), by
    have h : (fun e : String × α => e.1) = (fun e : String × β => e.1) ∘ fun e => (e.1, f e.2) := rfl
    simpa only [List.map_map, ← h] using m.nodup⟩

/-- The number of entries. -/
def size (m : OrderedMap α) : Nat := m.entries.length

/-- There is no entry. -/
def isEmpty (m : OrderedMap α) : Bool := m.entries.isEmpty

/-- The sum of a figure over the entries. -/
def total (figure : α → Nat) (m : OrderedMap α) : Nat :=
  m.entries.foldr (fun e n => figure e.2 + n) 0

/-- The entries in the order of their names. -/
def sorted (m : OrderedMap α) : List (String × α) :=
  m.entries.mergeSort fun a b => decide (a.1 ≤ b.1)

end OrderedMap

end BannedApi
