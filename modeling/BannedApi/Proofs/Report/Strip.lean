import BannedApi.Report.Color
import Mathlib.Data.List.TakeWhile

/-!
Taking colour codes out of a text.

`Stripped cs out` says what is left of `cs` when its codes are taken out in one pass from the left:
a code that starts where one stands is dropped as a whole, and a character where none starts is
kept. `stripColors` does just that (`stripped_stripColors`). A text can be stripped in parts when it
is cut before a character that no code goes on with (`Stripped.append`), so what stands before and
after a code cannot come together to a new one.
-/
namespace BannedApi.Report

/-- A code goes on with a digit or a semicolon up to its last letter. -/
def isParameter (c : Char) : Bool := ('0' ≤ c && c ≤ '9') || c == ';'

/-- A colour code: an escape character, a bracket, digits and semicolons, a letter. -/
def IsCode (cs : List Char) : Prop :=
  ∃ ps, (∀ c ∈ ps, isParameter c = true) ∧ cs = '\x1b' :: '[' :: (ps ++ ['m'])

/-- What is left of a text when its codes are taken out in one pass from the left. -/
inductive Stripped : List Char → List Char → Prop where
  | done : Stripped [] []
  | code {code rest out : List Char} (hcode : IsCode code) (hrest : Stripped rest out) :
      Stripped (code ++ rest) out
  | keep {c : Char} {rest out : List Char}
      (hnone : ∀ code after, IsCode code → c :: rest ≠ code ++ after) (hrest : Stripped rest out) :
      Stripped (c :: rest) (c :: out)

/-! ### Codes -/

theorem isCode_code (c : Color) : IsCode c.code.toList := by
  cases c with
  | red => exact ⟨['9', '1'], by simp [isParameter], rfl⟩
  | green => exact ⟨['9', '2'], by simp [isParameter], rfl⟩
  | yellow => exact ⟨['9', '3'], by simp [isParameter], rfl⟩
  | cyan => exact ⟨['9', '6'], by simp [isParameter], rfl⟩
  | bold => exact ⟨['1'], by simp [isParameter], rfl⟩
  | reset => exact ⟨['0'], by simp [isParameter], rfl⟩

/-- The character can stand in a code behind its beginning. -/
def goesOn (c : Char) : Bool := c == '[' || isParameter c || c == 'm'

theorem IsCode.exists_cons {code : List Char} (h : IsCode code) :
    ∃ tail, code = '\x1b' :: tail ∧ ∀ c ∈ tail, goesOn c = true := by
  obtain ⟨ps, hps, rfl⟩ := h
  refine ⟨_, rfl, fun c hc => ?_⟩
  simp only [List.mem_cons, List.mem_append, List.not_mem_nil, or_false] at hc
  rcases hc with rfl | hc | rfl
  · rfl
  · simp [goesOn, hps c hc]
  · rfl

/-- No code goes on where another one starts. -/
theorem IsCode.goesOn_head {code : List Char} (h : IsCode code) :
    ∀ c ∈ code.head?, goesOn c = false := by
  obtain ⟨tail, rfl, -⟩ := h.exists_cons
  intro c hc
  cases hc
  rfl

theorem afterCode?_eq_some_iff {cs rest : List Char} :
    afterCode? cs = some rest ↔ ∃ code, IsCode code ∧ cs = code ++ rest := by
  constructor
  · intro h
    unfold afterCode? at h
    split at h
    · next tail =>
      split at h
      · next after hdrop =>
        cases h
        have hsplit : tail.takeWhile isParameter ++ 'm' :: rest = tail :=
          (congrArg _ hdrop.symm).trans List.takeWhile_append_dropWhile
        refine ⟨_, ⟨tail.takeWhile isParameter, fun c hc => List.mem_takeWhile_imp hc, rfl⟩, ?_⟩
        simp [hsplit]
      · cases h
    · cases h
  · rintro ⟨_, ⟨ps, hps, rfl⟩, rfl⟩
    have hdrop : (ps ++ 'm' :: rest).dropWhile (fun c => ('0' ≤ c && c ≤ '9') || c == ';')
        = 'm' :: rest :=
      (List.dropWhile_append_of_pos hps).trans rfl
    simp [afterCode?, hdrop]

/-- No two codes start in one place. -/
theorem IsCode.append_inj {code code' rest rest' : List Char} (h : IsCode code) (h' : IsCode code')
    (heq : code ++ rest = code' ++ rest') : rest = rest' := by
  have hrest : afterCode? (code ++ rest) = some rest := afterCode?_eq_some_iff.2 ⟨code, h, rfl⟩
  have hrest' : afterCode? (code ++ rest) = some rest' :=
    afterCode?_eq_some_iff.2 ⟨code', h', heq⟩
  exact Option.some.inj (hrest.symm.trans hrest')

theorem afterCode?_eq_none_iff {cs : List Char} :
    afterCode? cs = none ↔ ∀ code after, IsCode code → cs ≠ code ++ after := by
  rw [Option.eq_none_iff_forall_ne_some]
  constructor
  · intro h code after hcode heq
    exact h after (afterCode?_eq_some_iff.2 ⟨code, hcode, heq⟩)
  · intro h after hafter
    obtain ⟨code, hcode, heq⟩ := afterCode?_eq_some_iff.1 hafter
    exact h code after hcode heq

/-- The steps left are enough when there are as many as characters. -/
theorem stripped_stripCodes {fuel : Nat} {cs : List Char} (h : cs.length ≤ fuel) :
    Stripped cs (stripCodes fuel cs) := by
  fun_induction stripCodes fuel cs with
  | case1 cs =>
    rw [List.length_eq_zero_iff.1 (Nat.le_zero.1 h)]
    exact .done
  | case2 => exact .done
  | case3 fuel c cs rest hafter ih =>
    obtain ⟨code, hcode, heq⟩ := afterCode?_eq_some_iff.1 hafter
    obtain ⟨tail, rfl, -⟩ := hcode.exists_cons
    have hlength := congrArg List.length heq
    rw [heq]
    refine .code hcode (ih ?_)
    simp only [List.length_cons, List.length_append] at h hlength
    omega
  | case4 fuel c cs hafter ih =>
    refine .keep (afterCode?_eq_none_iff.1 hafter) (ih ?_)
    simpa using h

namespace Stripped

/-- There is one way to strip a text. -/
theorem unique {cs out out' : List Char} (h : Stripped cs out) (h' : Stripped cs out') :
    out = out' := by
  induction h generalizing out' with
  | done =>
    generalize hcs : ([] : List Char) = cs at h'
    cases h' with
    | done => rfl
    | code hcode' hrest' =>
      obtain ⟨tail, rfl, -⟩ := hcode'.exists_cons
      cases hcs
    | keep hnone' hrest' => cases hcs
  | @code code rest out hcode hrest ih =>
    generalize hcs : code ++ rest = cs at h'
    cases h' with
    | done =>
      obtain ⟨tail, rfl, -⟩ := hcode.exists_cons
      cases hcs
    | code hcode' hrest' => exact ih (hcode.append_inj hcode' hcs ▸ hrest')
    | keep hnone' hrest' => exact absurd hcs.symm (hnone' code rest hcode)
  | @keep c rest out hnone hrest ih =>
    generalize hcs : c :: rest = cs at h'
    cases h' with
    | done => cases hcs
    | @code code' rest' _ hcode' hrest' => exact absurd hcs (hnone code' rest' hcode')
    | keep hnone' hrest' =>
      cases hcs
      rw [ih hrest']

/-- A character that is no escape character is kept. -/
theorem cons {c : Char} {rest out : List Char} (hc : c ≠ '\x1b') (h : Stripped rest out) :
    Stripped (c :: rest) (c :: out) := by
  refine .keep (fun code after hcode heq => ?_) h
  obtain ⟨tail, rfl, -⟩ := hcode.exists_cons
  exact hc (List.cons.inj heq).1

/-- What has no escape character has no codes. -/
theorem of_not_mem {cs : List Char} (h : '\x1b' ∉ cs) : Stripped cs cs := by
  induction cs with
  | nil => exact .done
  | cons c cs ih =>
    rw [List.mem_cons, not_or] at h
    exact .cons (Ne.symm h.1) (ih h.2)

/-- A text can be cut before a character that no code goes on with, and both parts be stripped for
themselves. -/
theorem append {cs ds out out' : List Char} (h : Stripped cs out) (h' : Stripped ds out')
    (hcut : ∀ c ∈ ds.head?, goesOn c = false) : Stripped (cs ++ ds) (out ++ out') := by
  induction h with
  | done => exact h'
  | @code code rest out hcode hrest ih =>
    rw [List.append_assoc]
    exact .code hcode ih
  | @keep c rest out hnone hrest ih =>
    refine .keep (fun code after hcode heq => ?_) ih
    -- A code that starts here would end in the first part, or go on with the first character of
    -- the second.
    have hwhole : (c :: rest) ++ ds = code ++ after := heq
    rcases List.append_eq_append_iff.1 hwhole with ⟨more, hcross, hds⟩ | ⟨more, hfirst, -⟩
    · cases more with
      | nil => exact hnone code [] hcode (by simpa using hcross.symm)
      | cons d more =>
        obtain ⟨tail, htail, hgoes⟩ := hcode.exists_cons
        rw [htail, List.cons_append] at hcross
        have hd : d ∈ tail := by
          rw [(List.cons.inj hcross).2]
          simp
        have hstop : goesOn d = false := hcut d (by simp [hds])
        rw [hgoes d hd] at hstop
        cases hstop
    · exact hnone code more hcode hfirst

end Stripped

theorem stripped_stripColors (s : String) : Stripped s.toList (stripColors s).toList := by
  rw [stripColors, String.toList_ofList]
  exact stripped_stripCodes (Nat.le_of_eq String.length_toList)

theorem stripColors_eq_iff {s t : String} : stripColors s = t ↔ Stripped s.toList t.toList := by
  constructor
  · rintro rfl
    exact stripped_stripColors s
  · intro h
    exact String.toList_injective ((stripped_stripColors s).unique h)

end BannedApi.Report
