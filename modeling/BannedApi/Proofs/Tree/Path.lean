import BannedApi.Proofs.Tree.Ways
import Mathlib.Data.List.TakeWhile

/-!
Ways in words.

The words of a way can be read again, step by step, as long as no key in it has a dot or a bracket
(`wayOfText?_pathText`). `at?` follows a way through a document to the value at its end.
-/
namespace BannedApi.Tree

/-- The value at the end of a way. -/
def at? : List Segment → Value → Option Value
  | [], v => some v
  | s :: way, v => (s.part? v).bind (at? way)

theorem at?_append (way more : List Segment) (v : Value) :
    at? (way ++ more) v = (at? way v).bind (at? more) := by
  induction way generalizing v with
  | nil => rfl
  | cons s way ih =>
    rw [List.cons_append, at?, at?, Option.bind_assoc]
    exact congrArg _ (funext ih)

theorem at?_singleton (s : Segment) (v : Value) : at? [s] v = s.part? v := by
  rw [at?]
  cases s.part? v <;> rfl

/-- The step with these words: a key, or a key and an index in brackets. -/
def Segment.ofText? (cs : List Char) : Option Segment :=
  let key := String.ofList (cs.takeWhile (· != '['))
  match cs.dropWhile (· != '[') with
  | [] => some (.field key)
  | _ :: rest =>
    let index := rest.dropLast
    if rest.getLast? = some ']' ∧ index ≠ [] ∧ index.all (·.isDigit) then
      some (.item key (Nat.ofDigitChars 10 index 0))
    else none

/-- The way with these words: steps between dots. -/
def wayOfText? (s : String) : Option (List Segment) := (s.toList.splitOn '.').mapM Segment.ofText?

/-- The key has no dot and no bracket. -/
def Segment.IsSimple (s : Segment) : Prop := '.' ∉ s.key.toList ∧ '[' ∉ s.key.toList

theorem Segment.toList_text_item (key : String) (index : Nat) :
    (Segment.item key index).text.toList
      = key.toList ++ '[' :: (Nat.toDigits 10 index ++ [']']) := by
  simp [Segment.text, toString]

theorem isDigit_toDigits {n : Nat} {c : Char} (h : c ∈ Nat.toDigits 10 n) : c.isDigit = true :=
  Nat.isDigit_of_mem_toDigits (by decide) (by decide) h

theorem Segment.ofText?_text {s : Segment} (h : s.IsSimple) : ofText? s.text.toList = some s := by
  have hkey : ∀ c ∈ s.key.toList, (c != '[') = true := by
    intro c hc
    exact bne_iff_ne.2 fun heq => h.2 (heq ▸ hc)
  cases s with
  | field key =>
    simp only [Segment.key] at hkey
    have htake : key.toList.takeWhile (· != '[') = key.toList := List.takeWhile_eq_self_iff.2 hkey
    have hdrop : key.toList.dropWhile (· != '[') = [] := List.dropWhile_eq_nil_iff.2 hkey
    simp [ofText?, text, htake, hdrop]
  | item key index =>
    simp only [Segment.key] at hkey
    have htake : (key.toList ++ '[' :: (Nat.toDigits 10 index ++ [']'])).takeWhile (· != '[')
        = key.toList := by
      rw [List.takeWhile_append_of_pos hkey]
      simp
    have hdrop : (key.toList ++ '[' :: (Nat.toDigits 10 index ++ [']'])).dropWhile (· != '[')
        = '[' :: (Nat.toDigits 10 index ++ [']']) := by
      rw [List.dropWhile_append_of_pos hkey]
      simp
    have hdigits : (Nat.toDigits 10 index).all (·.isDigit) = true :=
      List.all_eq_true.2 fun c hc => isDigit_toDigits hc
    have hnumber : Nat.ofDigitChars 10 (Nat.toDigits 10 index) 0 = index :=
      Nat.ofDigitChars_toDigits (by decide) (by decide)
    rw [toList_text_item, ofText?, htake, hdrop]
    simp [hdigits, hnumber, Nat.toDigits_ne_nil]

theorem Segment.dot_not_mem_text {s : Segment} (h : s.IsSimple) : '.' ∉ s.text.toList := by
  cases s with
  | field key => exact h.1
  | item key index =>
    have hkey : '.' ∉ key.toList := h.1
    have hdigits : '.' ∉ Nat.toDigits 10 index := by
      intro hmem
      exact absurd (isDigit_toDigits hmem) (by decide)
    rw [toList_text_item]
    simp [hkey, hdigits]

/-- A way can be read from its words. -/
theorem wayOfText?_pathText {way : List Segment} (hne : way ≠ [])
    (h : ∀ s ∈ way, s.IsSimple) : wayOfText? (pathText way) = some way := by
  have hsplit : (pathText way).toList.splitOn '.' = way.map (·.text.toList) := by
    rw [pathText, String.toList_intercalate, List.map_map]
    refine List.splitOn_intercalate '.' (fun cs hcs => ?_) (by simpa using hne)
    obtain ⟨s, hs, rfl⟩ := List.mem_map.1 hcs
    exact Segment.dot_not_mem_text (h s hs)
  rw [wayOfText?, hsplit]
  clear hsplit hne
  induction way with
  | nil => rfl
  | cons s way ih =>
    rw [List.forall_mem_cons] at h
    simp [Segment.ofText?_text h.1, ih h.2]

end BannedApi.Tree
