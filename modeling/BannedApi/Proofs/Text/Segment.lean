import BannedApi.Text.Blank
import BannedApi.Text.Segment
import Mathlib.Data.List.DropRight
import Mathlib.Data.List.Infix
import Mathlib.Data.List.TakeWhile

/-!
What is left of a text that is cut at a separator or stripped at its ends.
-/
namespace BannedApi.Text

variable {p : Char → Bool} {c : Char}

theorem dropWhile_append_stop (hc : p c = false) (xs ys : List Char) :
    (xs ++ c :: ys).dropWhile p = xs.dropWhile p ++ c :: ys := by
  rw [List.dropWhile_append]
  cases xs.dropWhile p with
  | nil => simp [hc]
  | cons x rest => simp

theorem before_of_not_mem {xs : List Char} (hxs : c ∉ xs) : before c xs = xs := by
  refine List.takeWhile_eq_self_iff.2 fun x hx => ?_
  have hne : x ≠ c := fun h => hxs (h ▸ hx)
  simpa using hne

theorem before_append_stop {xs : List Char} (hxs : c ∉ xs) (ys : List Char) :
    before c (xs ++ c :: ys) = xs := by
  have hall := List.takeWhile_eq_self_iff.1 (before_of_not_mem hxs)
  rw [before, List.takeWhile_append_of_pos hall]
  simp

theorem not_mem_before (xs : List Char) : c ∉ before c xs := by
  intro hmem
  simpa using List.mem_takeWhile_imp hmem

theorem not_mem_afterLast (xs : List Char) : c ∉ afterLast c xs := by
  intro hmem
  exact not_mem_before xs.reverse (List.mem_reverse.1 hmem)

theorem afterLast_of_not_mem {xs : List Char} (hxs : c ∉ xs) : afterLast c xs = xs := by
  have hbefore : before c xs.reverse = xs.reverse := before_of_not_mem (by simpa using hxs)
  rw [before] at hbefore
  rw [afterLast, hbefore, List.reverse_reverse]

theorem afterLast_suffix (xs : List Char) : afterLast c xs <:+ xs := by
  rw [← List.reverse_prefix, afterLast, List.reverse_reverse]
  exact List.takeWhile_prefix _

theorem dropWhile_eq_self_iff {xs : List Char} :
    xs.dropWhile p = xs ↔ xs.head?.any p = false := by
  cases xs with
  | nil => simp
  | cons x xs => simp [List.dropWhile_eq_self_iff]

theorem rdropWhile_eq_self_iff {xs : List Char} :
    xs.rdropWhile p = xs ↔ xs.getLast?.any p = false := by
  rw [List.rdropWhile, List.reverse_eq_iff, dropWhile_eq_self_iff, List.head?_reverse]

/-- What is not stripped off stays. -/
theorem mem_dropWhile_iff (hc : p c = false) {xs : List Char} : c ∈ xs.dropWhile p ↔ c ∈ xs := by
  constructor
  · exact fun h => (List.dropWhile_suffix p).subset h
  · intro h
    rw [← List.takeWhile_append_dropWhile (p := p) (l := xs), List.mem_append] at h
    rcases h with htaken | hleft
    · exact absurd (List.mem_takeWhile_imp htaken) (by simp [hc])
    · exact hleft

theorem mem_rdropWhile_iff (hc : p c = false) {xs : List Char} : c ∈ xs.rdropWhile p ↔ c ∈ xs := by
  rw [List.rdropWhile, List.mem_reverse, mem_dropWhile_iff hc, List.mem_reverse]

theorem rdropWhile_cons (hc : p c = false) (xs : List Char) :
    (c :: xs).rdropWhile p = c :: xs.rdropWhile p := by
  rw [List.rdropWhile, List.reverse_cons, dropWhile_append_stop hc, List.reverse_append]
  rfl

theorem trim_eq (xs : List Char) : trim xs = (xs.dropWhile isBlank).rdropWhile isBlank := rfl

end BannedApi.Text
