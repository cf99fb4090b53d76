import BannedApi.Text.Newline
import Mathlib.Data.List.Basic

/-!
Texts with unified line ends, seen from the front.

A reader goes by the first character that is left. Unifying the line ends keeps it, or it was a line
end and still is one (`unified`). So characters that are no line ends can be taken from the front
before or after the line ends are unified (`takeWhile_unifyNewlines`, `dropWhile_unifyNewlines`).
-/
namespace BannedApi.Text

/-- A text and its unified form, by their first characters: they start with the same character, or
both with a line end. -/
inductive Unified : List Char → List Char → Prop where
  | nil : Unified [] []
  | plain (c : Char) (cs : List Char) (hreturn : c ≠ '\r') (hfeed : c ≠ '\n') :
    Unified (c :: cs) (c :: unifyNewlines cs)
  | lineEnd (c : Char) (cs us : List Char) (h : c = '\r' ∨ c = '\n') : Unified (c :: cs) ('\n' :: us)

theorem unifyNewlines_cons {c : Char} (h : c ≠ '\r') (cs : List Char) :
    unifyNewlines (c :: cs) = c :: unifyNewlines cs := by
  rw [unifyNewlines]
  · exact fun _ heq => absurd heq h
  · exact fun heq => absurd heq h

theorem unified (cs : List Char) : Unified cs (unifyNewlines cs) := by
  fun_cases unifyNewlines cs with
  | case1 => exact .nil
  | case2 cs => exact .lineEnd _ _ _ (.inl rfl)
  | case3 cs => exact .lineEnd _ _ _ (.inl rfl)
  | case4 c cs _ hreturn =>
    by_cases hfeed : c = '\n'
    · rw [hfeed]
      exact .lineEnd _ _ _ (.inr rfl)
    · exact .plain c cs hreturn hfeed

theorem unifyNewlines_eq_cons {c : Char} {cs us : List Char} (hfeed : c ≠ '\n')
    (h : unifyNewlines cs = c :: us) : ∃ tail, cs = c :: tail ∧ us = unifyNewlines tail := by
  have hview := unified cs
  rw [h] at hview
  cases hview with
  | plain _ tail _ _ => exact ⟨tail, rfl, rfl⟩
  | lineEnd => exact absurd rfl hfeed

theorem unifyNewlines_ne_cons {c : Char} {cs : List Char} (hfeed : c ≠ '\n')
    (h : ¬ ∃ tail, cs = c :: tail) (us : List Char) : unifyNewlines cs ≠ c :: us := by
  intro heq
  obtain ⟨tail, hcs, -⟩ := unifyNewlines_eq_cons hfeed heq
  exact h ⟨tail, hcs⟩

theorem unifyNewlines_eq_nil_iff {cs : List Char} : unifyNewlines cs = [] ↔ cs = [] := by
  refine ⟨fun h => ?_, by rintro rfl; rfl⟩
  have hview := unified cs
  rw [h] at hview
  cases hview
  rfl

theorem length_unifyNewlines_le (cs : List Char) : (unifyNewlines cs).length ≤ cs.length := by
  fun_induction unifyNewlines cs with
  | case1 => exact Nat.le_refl _
  | case2 cs ih => simp only [List.length_cons]; omega
  | case3 cs _ ih => simp only [List.length_cons]; omega
  | case4 c cs _ _ ih => simp only [List.length_cons]; omega

section Span

variable {p : Char → Bool} (hreturn : p '\r' = false) (hfeed : p '\n' = false)

include hreturn hfeed

theorem takeWhile_unifyNewlines (cs : List Char) :
    (unifyNewlines cs).takeWhile p = cs.takeWhile p := by
  fun_induction unifyNewlines cs with
  | case1 => rfl
  | case2 cs => simp [hreturn, hfeed]
  | case3 cs => simp [hreturn, hfeed]
  | case4 c cs _ _ ih => simp only [List.takeWhile_cons, ih]

theorem dropWhile_unifyNewlines (cs : List Char) :
    (unifyNewlines cs).dropWhile p = unifyNewlines (cs.dropWhile p) := by
  fun_induction unifyNewlines cs with
  | case1 => rfl
  | case2 cs => simp [hreturn, hfeed, unifyNewlines]
  | case3 cs h => simp [hreturn, hfeed, unifyNewlines.eq_3 _ h]
  | case4 c cs h h' ih =>
    simp only [List.dropWhile_cons]
    split
    · exact ih
    · rw [unifyNewlines_cons h']

end Span

end BannedApi.Text
