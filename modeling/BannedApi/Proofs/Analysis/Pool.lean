import BannedApi.Analysis.Pool
import Mathlib.Data.List.Basic

/-!
Pools of workers: whoever works on an item, and whenever, the results are those of the items in
order. It is enough that every place is worked on (`runInOrder_eq_map`), and the shares of the
workers leave none out (`mem_order`).
-/
namespace BannedApi.Pool

variable {α β : Type}

/-- The result that came in for a place is that of its item. -/
theorem lookup_finished (f : α → β) {items : List α} {places : List Nat} {i : Nat}
    (hi : i ∈ places) {x : α} (hx : items[i]? = some x) :
    (finished f items places).lookup i = some (f x) := by
  unfold finished
  induction places with
  | nil => cases hi
  | cons j places ih =>
    rw [List.filterMap_cons]
    -- A place may be worked on more than once; the first of its results is the one that is found.
    by_cases hij : i = j
    · subst hij
      rw [hx]
      exact List.lookup_cons_self
    · have hrest := ih ((List.mem_cons.1 hi).resolve_left hij)
      cases items[j]? with
      | none => exact hrest
      | some y =>
        have hne : (i == j) = false := by simpa using hij
        simpa [List.lookup_cons, hne] using hrest

theorem filterMap_range (l : List β) : (List.range l.length).filterMap (l[·]?) = l := by
  induction l with
  | nil => rfl
  | cons x l ih =>
    rw [List.length_cons, List.range_succ_eq_map, List.filterMap_cons, List.filterMap_map]
    exact congrArg (x :: ·) ih

/-- The results are put back in order, whatever order of places they come in. -/
theorem runInOrder_eq_map (f : α → β) (items : List α) {places : List Nat}
    (h : ∀ i < items.length, i ∈ places) : runInOrder places f items = items.map f := by
  have hlookup : ∀ i ∈ List.range items.length,
      (finished f items places).lookup i = (items.map f)[i]? := by
    intro i hi
    have hlt := List.mem_range.1 hi
    have hx := List.getElem?_eq_getElem hlt
    rw [lookup_finished f (h i hlt) hx, List.getElem?_map, hx, Option.map_some]
  unfold runInOrder collect
  rw [List.filterMap_congr hlookup, ← List.length_map f]
  exact filterMap_range (items.map f)

/-- Every place is in the share of some worker. -/
theorem mem_order {workers count i : Nat} (hworkers : 0 < workers) (hi : i < count) :
    i ∈ order workers count := by
  have hpos : 0 < min workers count := by omega
  refine List.mem_flatMap.2 ⟨i % min workers count, ?_, ?_⟩
  · exact List.mem_range.2 (Nat.mod_lt i hpos)
  · exact List.mem_filter.2 ⟨List.mem_range.2 hi, by simp⟩

theorem run_eq_map (f : α → β) (items : List α) {workers : Nat} (hworkers : 0 < workers) :
    run workers f items = items.map f :=
  runInOrder_eq_map f items fun _ hi => mem_order hworkers hi

end BannedApi.Pool
