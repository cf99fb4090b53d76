import BannedApi.Proofs.Json.Progress
import BannedApi.Proofs.Json.RoundTrip
import BannedApi.Proofs.Text.Newline

/-!
Line ends in a JSON text do not matter.

Outside of strings a line end is white space however it is written, and inside a string none is
allowed. So a text with unified line ends is read as the text itself: it has the same value, or it has
the same problem, perhaps at another place (`read_unifyNewlines`). Each reader is shown to agree with
itself in this way (`Agree`); most of them go by the next character (`onHead`), which is no line end.
The one that does not agree is `readCodeEscape`, since it looks ahead for a second code and unified
text may be too short for one; then the next step of the string has the problem that this one misses
(`agree_readCodeEscape`).
-/
namespace BannedApi.Json

open Text (unifyNewlines unified unifyNewlines_cons)

/-- A reader comes to the same: the same value, and the characters after it with unified line ends; or
the same problem. -/
inductive Agree {α : Type} :
    Except Fault (α × List Char) → Except Fault (α × List Char) → Prop where
  | ok (a : α) (rest : List Char) : Agree (.ok (a, rest)) (.ok (a, unifyNewlines rest))
  | error {f g : Fault} (h : f.problem = g.problem) : Agree (.error f) (.error g)

namespace Agree

variable {α β : Type} {x y : Except Fault (α × List Char)}

theorem map (f : α → β) (h : Agree x y) :
    Agree (x.map fun r => (f r.1, r.2)) (y.map fun r => (f r.1, r.2)) := by
  cases h with
  | ok a rest => exact .ok (f a) rest
  | error h => exact .error h

theorem bind {next : α → List Char → Except Fault (β × List Char)} (h : Agree x y)
    (hnext : ∀ a rest, Agree (next a rest) (next a (unifyNewlines rest))) :
    Agree (x.bind fun r => next r.1 r.2) (y.bind fun r => next r.1 r.2) := by
  cases h with
  | ok a rest => exact hnext a rest
  | error h => exact .error h

theorem fault (p : Problem) (cs us : List Char) :
    Agree (Json.fault p cs : Except Fault (α × List Char)) (Json.fault p us) := .error rfl

end Agree

section Head

variable {α : Type} {c : Char} {hit miss : List Char → Except Fault (α × List Char)}
  {cs : List Char}

/-- Whether the next character is `c` decides how to go on. -/
def onHead (c : Char) (hit miss : List Char → Except Fault (α × List Char)) :
    List Char → Except Fault (α × List Char)
  | [] => miss []
  | d :: cs => if d = c then hit cs else miss (d :: cs)

theorem onHead_self : onHead c hit miss (c :: cs) = hit cs := if_pos rfl

theorem onHead_of_ne (h : ∀ tail, cs ≠ c :: tail) : onHead c hit miss cs = miss cs := by
  cases cs with
  | nil => rfl
  | cons d cs =>
    rw [onHead, if_neg]
    rintro rfl
    exact h cs rfl

theorem agree_onHead (hc : c ≠ '\r' ∧ c ≠ '\n')
    (hhit : ∀ cs, Agree (hit cs) (hit (unifyNewlines cs)))
    (hmiss : ∀ cs, Agree (miss cs) (miss (unifyNewlines cs))) (cs : List Char) :
    Agree (onHead c hit miss cs) (onHead c hit miss (unifyNewlines cs)) := by
  by_cases hhead : ∃ tail, cs = c :: tail
  · obtain ⟨tail, rfl⟩ := hhead
    rw [unifyNewlines_cons hc.1, onHead_self, onHead_self]
    exact hhit tail
  · rw [onHead_of_ne fun tail h => hhead ⟨tail, h⟩,
      onHead_of_ne (Text.unifyNewlines_ne_cons hc.2 hhead)]
    exact hmiss cs

end Head

theorem skipSpace_unifyNewlines (cs : List Char) :
    skipSpace (unifyNewlines cs) = unifyNewlines (skipSpace cs) := by
  fun_induction unifyNewlines cs with
  | case1 => rfl
  | case2 cs ih => exact ih
  | case3 cs h ih => exact ih
  | case4 c cs h h' ih =>
    simp only [skipSpace, List.dropWhile_cons] at ih ⊢
    split
    · exact ih
    · rw [unifyNewlines_cons h']

/-! ### Strings -/

/-- So many hexadecimal digits after those of a number. -/
def hexDigits? : Nat → Nat → List Char → Option (Nat × List Char)
  | 0, n, cs => some (n, cs)
  | count + 1, n, c :: cs => (hexValue? c).bind fun d => hexDigits? count (n * 16 + d) cs
  | _ + 1, _, [] => none

theorem hexDigits?_unifyNewlines (count n : Nat) (cs : List Char) :
    hexDigits? count n (unifyNewlines cs)
      = (hexDigits? count n cs).map fun r => (r.1, unifyNewlines r.2) := by
  induction count generalizing n cs with
  | zero => rfl
  | succ count ih =>
    have hview := unified cs
    generalize unifyNewlines cs = us at hview
    cases hview with
    | nil => rfl
    | plain c cs _ _ =>
      rw [hexDigits?, hexDigits?]
      cases hexValue? c with
      | none => rfl
      | some d => exact ih (n * 16 + d) cs
    | lineEnd c cs us h => rcases h with rfl | rfl <;> rfl

theorem length_of_hexDigits? {count n m : Nat} {cs rest : List Char}
    (h : hexDigits? count n cs = some (m, rest)) : rest.length + count = cs.length := by
  induction count generalizing n cs with
  | zero =>
    cases h
    rfl
  | succ count ih =>
    cases cs with
    | nil => cases h
    | cons c cs =>
      obtain ⟨d, -, hrest⟩ := Option.bind_eq_some_iff.1 h
      have hlength := ih hrest
      simp only [List.length_cons]
      omega

/-- The character of the code `n`, which may be the first half of a pair. -/
def readPair (n : Nat) (cs : List Char) : Except Fault (Char × List Char) :=
  match cs with
  | '\\' :: 'u' :: tail =>
    if isHighHalf n && decide (5 ≤ tail.length) then
      match hexDigits? 4 0 tail with
      | none => .error ⟨.invalidCodeEscape, tail.length + 1⟩
      | some (low, rest) =>
        if isLowHalf low then .ok (pairChar n low, rest) else .ok (unitChar n, cs)
    else .ok (unitChar n, cs)
  | _ => .ok (unitChar n, cs)

theorem hexDigits?_four (a b c d : Char) (rest : List Char) :
    hexDigits? 4 0 (a :: b :: c :: d :: rest) = (hex4? a b c d).map (·, rest) := by
  simp only [hexDigits?, hex4?]
  cases hexValue? a <;> cases hexValue? b <;> cases hexValue? c <;> cases hexValue? d <;>
    simp

theorem readCodeEscape_of_short {cs : List Char} (h : cs.length < 5) :
    readCodeEscape cs = .error ⟨.invalidCodeEscape, cs.length + 1⟩ := by
  rw [readCodeEscape.eq_def]
  split
  · simp only [List.length_cons] at h
    omega
  · rfl

theorem readCodeEscape_cons {a b c d e : Char} {rest : List Char} :
    readCodeEscape (a :: b :: c :: d :: e :: rest)
      = match hex4? a b c d with
        | none => .error ⟨.invalidCodeEscape, rest.length + 6⟩
        | some n => readPair n (e :: rest) := by
  rw [readCodeEscape]
  cases hex4? a b c d with
  | none => rfl
  | some n =>
    dsimp only
    split
    · next a' b' c' d' f rest' heq =>
      rw [heq, readPair, hexDigits?_four]
      cases isHighHalf n with
      | false => rfl
      | true =>
        rw [if_pos rfl, if_pos (by simp)]
        cases hex4? a' b' c' d' <;> rfl
    · next hother =>
      rw [readPair.eq_def]
      split
      · next tail heq =>
        have hshort : ¬ 5 ≤ tail.length := by
          intro hlong
          rcases tail with _ | ⟨a', _ | ⟨b', _ | ⟨c', _ | ⟨d', _ | ⟨f, rest'⟩⟩⟩⟩⟩
          iterate 5 · simp at hlong
          exact hother _ _ _ _ _ _ heq
        rw [if_neg (by simp [hshort])]
      · rfl

/-- A code is four digits with something after them; that may be the second half of a pair. -/
theorem readCodeEscape_eq (cs : List Char) :
    readCodeEscape cs
      = match hexDigits? 4 0 cs with
        | some (n, e :: rest) => readPair n (e :: rest)
        | _ => .error ⟨.invalidCodeEscape, cs.length + 1⟩ := by
  by_cases hlength : cs.length < 5
  · rw [readCodeEscape_of_short hlength]
    split
    · next n e rest hdigits =>
      have hrest := length_of_hexDigits? hdigits
      simp only [List.length_cons] at hrest
      omega
    · rfl
  · rcases cs with _ | ⟨a, _ | ⟨b, _ | ⟨c, _ | ⟨d, _ | ⟨e, rest⟩⟩⟩⟩⟩
    iterate 5 · simp at hlength
    rw [readCodeEscape_cons, hexDigits?_four]
    cases hex4? a b c d <;> rfl

theorem readPair_of_ne {n : Nat} {cs : List Char} (h : ∀ tail, cs ≠ '\\' :: 'u' :: tail) :
    readPair n cs = .ok (unitChar n, cs) := by
  rw [readPair.eq_def]
  split
  · next tail => exact absurd rfl (h tail)
  · rfl

/-- The escape came to a problem that unified text does not have yet: what was looked at for a second
code is left, and it is too short to be one. -/
def Deferred (x y : Except Fault (Char × List Char)) : Prop :=
  ∃ f, x = .error f ∧ f.problem = .invalidCodeEscape
    ∧ ∃ c tail, y = .ok (c, '\\' :: 'u' :: tail) ∧ tail.length < 5

theorem agree_readPair (n : Nat) (cs : List Char) :
    Agree (readPair n cs) (readPair n (unifyNewlines cs))
      ∨ Deferred (readPair n cs) (readPair n (unifyNewlines cs)) := by
  by_cases hpair : ∃ tail, cs = '\\' :: 'u' :: tail
  · obtain ⟨tail, rfl⟩ := hpair
    have hunify : unifyNewlines ('\\' :: 'u' :: tail) = '\\' :: 'u' :: unifyNewlines tail := by
      rw [unifyNewlines_cons (by decide), unifyNewlines_cons (by decide)]
    have halone : Agree (.ok (unitChar n, '\\' :: 'u' :: tail))
        (.ok (unitChar n, '\\' :: 'u' :: unifyNewlines tail)) := hunify ▸ Agree.ok _ _
    have hshorter := Text.length_unifyNewlines_le tail
    rw [hunify, readPair, readPair, hexDigits?_unifyNewlines]
    cases isHighHalf n with
    | false => exact .inl halone
    | true =>
      simp only [Bool.true_and, decide_eq_true_eq]
      cases hdigits : hexDigits? 4 0 tail with
      | none =>
        by_cases hlong : 5 ≤ (unifyNewlines tail).length
        · rw [if_pos hlong, if_pos (hlong.trans hshorter)]
          exact .inl (.error rfl)
        · rw [if_neg hlong]
          split
          · exact .inr ⟨_, rfl, rfl, _, _, rfl, by omega⟩
          · exact .inl halone
      | some r =>
        -- four digits are no line ends, so something is left behind both or behind none
        have hlength := length_of_hexDigits? hdigits
        have hlength' : (unifyNewlines r.2).length + 4 = (unifyNewlines tail).length := by
          refine length_of_hexDigits? (n := 0) (m := r.1) ?_
          rw [hexDigits?_unifyNewlines, hdigits]
          rfl
        have hnil : unifyNewlines r.2 = [] ↔ r.2 = [] := Text.unifyNewlines_eq_nil_iff
        rw [← List.length_eq_zero_iff, ← List.length_eq_zero_iff] at hnil
        by_cases hlong : 5 ≤ tail.length
        · rw [if_pos hlong, if_pos (by omega), Option.map_some]
          dsimp only
          split
          · exact .inl (.ok _ _)
          · exact .inl halone
        · rw [if_neg hlong, if_neg (by omega)]
          exact .inl halone
  · have hother : ∀ tail, cs ≠ '\\' :: 'u' :: tail := fun tail h => hpair ⟨tail, h⟩
    have hother' : ∀ tail, unifyNewlines cs ≠ '\\' :: 'u' :: tail := by
      intro us h
      obtain ⟨rest, rfl, hrest⟩ := Text.unifyNewlines_eq_cons (by decide) h
      obtain ⟨tail, rfl, -⟩ := Text.unifyNewlines_eq_cons (by decide) hrest.symm
      exact hother tail rfl
    rw [readPair_of_ne hother, readPair_of_ne hother']
    exact .inl (.ok _ _)

theorem agree_readCodeEscape (cs : List Char) :
    Agree (readCodeEscape cs) (readCodeEscape (unifyNewlines cs))
      ∨ Deferred (readCodeEscape cs) (readCodeEscape (unifyNewlines cs)) := by
  rw [readCodeEscape_eq, readCodeEscape_eq, hexDigits?_unifyNewlines]
  rcases hexDigits? 4 0 cs with _ | ⟨n, _ | ⟨e, rest⟩⟩
  · exact .inl (.error rfl)
  · exact .inl (.error rfl)
  · rw [Option.map_some]
    have hpair := agree_readPair n (e :: rest)
    dsimp only
    generalize hus : unifyNewlines (e :: rest) = us at hpair
    cases us with
    | nil => simp [Text.unifyNewlines_eq_nil_iff] at hus
    | cons e' rest' => exact hpair

section Escapes

variable {cs : List Char} (opening : List Char)

theorem readString_of_escape {x : Char} {rest : List Char} (h : readCodeEscape cs = .ok (x, rest)) :
    readString opening ('\\' :: 'u' :: cs)
      = (readString opening rest).map fun r => (x :: r.1, r.2) := by
  rw [readString]
  split
  · next f hfault => cases hfault.symm.trans h
  · next x' rest' hok =>
    cases hok.symm.trans h
    rfl

theorem readString_of_fault {f : Fault} (h : readCodeEscape cs = .error f) :
    readString opening ('\\' :: 'u' :: cs) = .error f := by
  rw [readString]
  split
  · next f' hfault =>
    cases hfault.symm.trans h
    rfl
  · next hok => cases hok.symm.trans h

theorem readString_of_no_escape {c : Char} (hcode : c ≠ 'u') (h : simpleEscape? c = none) :
    readString opening ('\\' :: c :: cs) = .error ⟨.invalidEscape, cs.length + 2⟩ := by
  rw [readString]
  · rw [h]
  · exact fun h => hcode h

theorem readString_of_control {c : Char} (h : c.toNat < 0x20) :
    readString opening (c :: cs) = .error ⟨.controlCharacter, cs.length + 1⟩ := by
  have hquote : c ≠ '"' := by rintro rfl; revert h; decide
  have hback : c ≠ '\\' := by rintro rfl; revert h; decide
  rw [readString]
  · rw [if_pos h]
  · exact fun h => hquote h
  · exact fun h _ => hback h
  · exact fun _ h _ => hback h
  · exact fun _ _ h _ => hback h

end Escapes

/-- A string is read as before, or has the same problem. -/
theorem agree_readString (opening opening' cs : List Char) :
    Agree (readString opening cs) (readString opening' (unifyNewlines cs)) := by
  fun_induction readString opening cs with
  | case1 =>
    rw [unifyNewlines, readString]
    exact .fault _ _ _
  | case2 cs =>
    rw [unifyNewlines_cons (by decide), readString]
    exact .ok [] cs
  | case3 =>
    rw [unifyNewlines_cons (by decide), unifyNewlines, readString]
    exact .fault _ _ _
  | case4 cs f hescape =>
    have hagree := agree_readCodeEscape cs
    rw [hescape] at hagree
    rw [unifyNewlines_cons (by decide), unifyNewlines_cons (by decide)]
    rcases hagree with hagree | ⟨f', hf, hproblem, x, tail, hok, hshort⟩
    · generalize hus : readCodeEscape (unifyNewlines cs) = y at hagree
      cases hagree with
      | error h =>
        rw [readString_of_fault opening' hus]
        exact .error h
    · cases hf
      rw [readString_of_escape opening' hok,
        readString_of_fault opening' (readCodeEscape_of_short hshort)]
      exact .error hproblem
  | case5 cs x rest hescape ih =>
    have hagree := agree_readCodeEscape cs
    rw [hescape] at hagree
    rw [unifyNewlines_cons (by decide), unifyNewlines_cons (by decide)]
    rcases hagree with hagree | ⟨f', hf, -⟩
    · generalize hus : readCodeEscape (unifyNewlines cs) = y at hagree
      cases hagree with
      | ok =>
        rw [readString_of_escape opening' hus]
        exact ih.map (x :: ·)
    · cases hf
  | case6 c cs hcode x hescape ih =>
    have hreturn : c ≠ '\r' := by rintro rfl; cases hescape
    rw [unifyNewlines_cons (by decide), unifyNewlines_cons hreturn,
      readString_simple opening' hescape]
    exact ih.map (x :: ·)
  | case7 c cs hcode hescape =>
    rw [unifyNewlines_cons (by decide)]
    have hview := unified (c :: cs)
    generalize unifyNewlines (c :: cs) = us at hview
    cases hview with
    | plain =>
      rw [readString_of_no_escape opening' (fun h => hcode h) hescape]
      exact .error rfl
    | lineEnd =>
      rw [readString_of_no_escape opening' (by decide) rfl]
      exact .error rfl
  | case8 c cs hquote hback hcode hother hcontrol =>
    have hview := unified (c :: cs)
    generalize unifyNewlines (c :: cs) = us at hview
    cases hview with
    | plain =>
      rw [readString_of_control opening' hcontrol]
      exact .error rfl
    | lineEnd =>
      rw [readString_of_control opening' (by decide)]
      exact .error rfl
  | case9 c cs hquote hback hcode hother hcontrol ih =>
    have hreturn : c ≠ '\r' := by rintro rfl; exact hcontrol (by decide)
    have hplain : c ≠ '\\' := by
      rintro rfl
      cases cs with
      | nil => exact hback rfl rfl
      | cons c' cs => exact hother c' cs rfl rfl
    rw [unifyNewlines_cons hreturn, readString_plain opening' (fun h => hquote h) hplain hcontrol]
    exact ih.map (c :: ·)

/-! ### Numbers -/

/-- What was read, with unified line ends after it. -/
def unifyRest {α : Type} (r : α × List Char) : α × List Char := (r.1, unifyNewlines r.2)

theorem digits?_unifyNewlines (cs : List Char) :
    digits? (unifyNewlines cs) = (digits? cs).map unifyRest := by
  rw [digits?, digits?, Text.takeWhile_unifyNewlines rfl rfl, Text.dropWhile_unifyNewlines rfl rfl]
  cases (cs.takeWhile isDigit).isEmpty <;> rfl

theorem signed?_unifyNewlines (negative : Bool) (cs : List Char) :
    signed? negative (unifyNewlines cs) = (signed? negative cs).map unifyRest := by
  rw [signed?, signed?, digits?_unifyNewlines, Option.map_map, Option.map_map]
  rfl

theorem readFraction_unifyNewlines (cs : List Char) :
    readFraction (unifyNewlines cs) = (readFraction cs).map unifyRest := by
  by_cases hpoint : ∃ tail, cs = '.' :: tail
  · obtain ⟨tail, rfl⟩ := hpoint
    rw [unifyNewlines_cons (by decide), readFraction_point, readFraction_point,
      digits?_unifyNewlines]
  · have hnone : readFraction cs = none := by
      rw [readFraction]
      exact fun tail h => hpoint ⟨tail, h⟩
    have hnone' : readFraction (unifyNewlines cs) = none := by
      rw [readFraction]
      exact Text.unifyNewlines_ne_cons (by decide) hpoint
    rw [hnone, hnone']
    rfl

theorem exponent?_unifyNewlines (cs : List Char) :
    exponent? (unifyNewlines cs) = (exponent? cs).map unifyRest := by
  have hdefault := signed?_unifyNewlines false cs
  have hview := unified cs
  generalize unifyNewlines cs = us at hview hdefault
  cases hview with
  | nil => rfl
  | lineEnd c cs us h => rcases h with rfl | rfl <;> rfl
  | plain c cs _ _ =>
    by_cases hminus : c = '-'
    · rw [hminus, exponent?, exponent?, signed?_unifyNewlines]
    by_cases hplus : c = '+'
    · rw [hplus, exponent?, exponent?, signed?_unifyNewlines]
    have hsigned (cs : List Char) : exponent? (c :: cs) = signed? false (c :: cs) := by
      rw [exponent?]
      · exact fun _ h => hminus (List.cons.inj h).1
      · exact fun _ h => hplus (List.cons.inj h).1
    rw [hsigned, hsigned, hdefault]

theorem readExponent_unifyNewlines (cs : List Char) :
    readExponent (unifyNewlines cs) = (readExponent cs).map unifyRest := by
  have hview := unified cs
  generalize unifyNewlines cs = us at hview
  cases hview with
  | nil => rfl
  | lineEnd c cs us h => rcases h with rfl | rfl <;> rfl
  | plain c cs _ _ =>
    rw [readExponent_cons, readExponent_cons, exponent?_unifyNewlines]
    split <;> rfl

theorem agree_finishNumber (negative : Bool) (whole cs : List Char) :
    Agree (finishNumber negative whole cs) (finishNumber negative whole (unifyNewlines cs)) := by
  rw [finishNumber, finishNumber, readFraction_unifyNewlines, readExponent_unifyNewlines]
  cases readFraction cs with
  | some r =>
    simp only [Option.map_some, unifyRest, readExponent_unifyNewlines]
    cases readExponent r.2 with
    | none => exact .ok _ _
    | some e => exact .ok _ _
  | none =>
    cases readExponent cs with
    | some e => exact .ok _ _
    | none =>
      simp only [Option.map_none]
      split
      · exact .fault _ _ _
      · exact .ok _ _

theorem agree_readNumber (negative : Bool) (start start' cs : List Char) :
    Agree (readNumber negative start cs) (readNumber negative start' (unifyNewlines cs)) := by
  by_cases hzero : cs.head? = some '0'
  · obtain ⟨tail, rfl⟩ := List.head?_eq_some_iff.1 hzero
    rw [unifyNewlines_cons (by decide)]
    exact agree_finishNumber negative ['0'] tail
  · have hzero' : (unifyNewlines cs).head? ≠ some '0' := by
      intro h
      obtain ⟨us, hus⟩ := List.head?_eq_some_iff.1 h
      obtain ⟨tail, rfl, -⟩ := Text.unifyNewlines_eq_cons (by decide) hus
      exact hzero rfl
    rw [readNumber_of_ne_zero hzero, readNumber_of_ne_zero hzero', digits?_unifyNewlines]
    cases digits? cs with
    | none => exact .fault _ _ _
    | some d => exact agree_finishNumber negative d.1 d.2

/-! ### Plain values -/

theorem isPrefixOf_unifyNewlines {word : List Char} (hword : ∀ c ∈ word, c ≠ '\r' ∧ c ≠ '\n')
    (cs : List Char) :
    word.isPrefixOf (unifyNewlines cs) = word.isPrefixOf cs
      ∧ (word.isPrefixOf cs = true →
          (unifyNewlines cs).drop word.length = unifyNewlines (cs.drop word.length)) := by
  induction word generalizing cs with
  | nil => exact ⟨by simp, fun _ => rfl⟩
  | cons w word ih =>
    obtain ⟨hw, hword⟩ := List.forall_mem_cons.1 hword
    have hview := unified cs
    generalize unifyNewlines cs = us at hview
    cases hview with
    | nil => exact ⟨rfl, fun h => by cases h⟩
    | plain c cs _ _ =>
      obtain ⟨hstarts, hdrop⟩ := ih hword cs
      refine ⟨by simp only [List.isPrefixOf_cons_cons, hstarts], fun h => ?_⟩
      simp only [List.isPrefixOf_cons_cons, Bool.and_eq_true] at h
      simpa using hdrop h.2
    | lineEnd c cs us h =>
      have hne : (w == c) = false ∧ (w == '\n') = false := by
        rcases h with rfl | rfl <;> simp [hw]
      simp [List.isPrefixOf_cons_cons, hne]

theorem after?_unifyNewlines {word : String} (hword : ∀ c ∈ word.toList, c ≠ '\r' ∧ c ≠ '\n')
    (cs : List Char) : after? word (unifyNewlines cs) = (after? word cs).map unifyNewlines := by
  obtain ⟨hstarts, hdrop⟩ := isPrefixOf_unifyNewlines hword cs
  rw [after?, after?, hstarts]
  split
  · next h =>
    have hlength := hdrop h
    rw [String.length_toList] at hlength
    rw [hlength]
    rfl
  · rfl

theorem findWord_unifyNewlines (cs : List Char) :
    (words.findSome? fun w => (after? w.1 (unifyNewlines cs)).map fun rest => (w.2, rest))
      = (words.findSome? fun w => (after? w.1 cs).map fun rest => (w.2, rest)).map unifyRest := by
  have hwords : ∀ w ∈ words, ∀ c ∈ w.1.toList, c ≠ '\r' ∧ c ≠ '\n' := by simp [words]
  revert hwords
  induction words with
  | nil => exact fun _ => rfl
  | cons w ws ih =>
    intro hwords
    obtain ⟨hw, hws⟩ := List.forall_mem_cons.1 hwords
    rw [List.findSome?_cons, List.findSome?_cons, after?_unifyNewlines hw, ih hws]
    cases after? w.1 cs <;> rfl

theorem agree_readPlain (cs : List Char) :
    Agree (readPlain cs) (readPlain (unifyNewlines cs)) := by
  rw [readPlain.eq_def, readPlain.eq_def, findWord_unifyNewlines]
  cases words.findSome? fun w => (after? w.1 cs).map fun rest => (w.2, rest) with
  | some r => exact .ok _ _
  | none =>
    dsimp only [Option.map_none]
    refine Agree.map (fun n => Value.scalar (.number n)) ?_
    by_cases hminus : ∃ tail, cs = '-' :: tail
    · obtain ⟨tail, rfl⟩ := hminus
      rw [unifyNewlines_cons (by decide)]
      exact agree_readNumber true _ _ tail
    · have hnumber := agree_readNumber false cs (unifyNewlines cs) cs
      split
      · next tail => exact absurd ⟨tail, rfl⟩ hminus
      split
      · next us hus => exact absurd hus (Text.unifyNewlines_ne_cons (by decide) hminus us)
      · exact hnumber

/-! ### Values -/

/-- With this bound on the nesting, whatever is read comes to the same. -/
structure Agrees (fuel : Nat) : Prop where
  value : ∀ cs, Agree (readValue fuel cs) (readValue fuel (unifyNewlines cs))
  entries : ∀ es cs, Agree (readEntries fuel es cs) (readEntries fuel es (unifyNewlines cs))
  items : ∀ cs, Agree (readItems fuel cs) (readItems fuel (unifyNewlines cs))

/-- After a part, the bracket closes or a comma leads to the next part. -/
def afterPart {α : Type} (close : Char) (parts : α)
    (more : List Char → Except Fault (α × List Char)) (cs : List Char) :
    Except Fault (α × List Char) :=
  onHead close (fun rest => .ok (parts, rest))
    (onHead ',' (fun rest => more (skipSpace rest)) (fault .expectingComma)) (skipSpace cs)

/-- The items of a list from behind one of them. -/
def afterItem (fuel : Nat) (v : Value) : List Char → Except Fault (List Value × List Char) :=
  afterPart ']' [v] fun cs => (readItems fuel cs).map fun r => (v :: r.1, r.2)

/-- The entries of a mapping from behind the value of one of them. -/
def afterEntry (fuel : Nat) (es : List (Scalar × Value)) :
    List Char → Except Fault (List (Scalar × Value) × List Char) :=
  afterPart '\x7d' es (readEntries fuel es)

/-- The entries of a mapping from behind a name. -/
def afterName (fuel : Nat) (es : List (Scalar × Value)) (name cs : List Char) :
    Except Fault (List (Scalar × Value) × List Char) :=
  onHead ':' (fun rest => (readValue fuel (skipSpace rest)).bind fun r =>
      afterEntry fuel (putEntry (.text (String.ofList name)) r.1 es) r.2)
    (fault .expectingColon) (skipSpace cs)

/-- What stands between brackets, unless there is nothing. -/
def inside {α : Type} (close : Char) (make : List α → Value)
    (read : List Char → Except Fault (List α × List Char)) (cs : List Char) :
    Except Fault (Value × List Char) :=
  onHead close (fun rest => .ok (make [], rest)) (fun rest => (read rest).map fun r => (make r.1, r.2))
    (skipSpace cs)

section Steps

variable (fuel : Nat) (cs : List Char)

theorem readValue_succ :
    readValue (fuel + 1) cs
      = onHead '"' (fun tail => (readString ('"' :: tail) tail).map
            fun r => (Value.text (String.ofList r.1), r.2))
          (onHead '\x7b' (inside '\x7d' .map (readEntries fuel []))
            (onHead '[' (inside ']' .list (readItems fuel)) readPlain)) cs := by
  rw [readValue.eq_def]
  dsimp only
  split
  · rw [onHead_self]
  · rw [onHead_of_ne (by simp), onHead_self, inside]
    split
    · next hclose => rw [hclose, onHead_self]
    · next hopen => rw [onHead_of_ne hopen]
  · rw [onHead_of_ne (by simp), onHead_of_ne (by simp), onHead_self, inside]
    split
    · next hclose => rw [hclose, onHead_self]
    · next hopen => rw [onHead_of_ne hopen]
  · next hstring hobject hlist =>
    rw [onHead_of_ne hstring, onHead_of_ne hobject, onHead_of_ne hlist]

theorem readItems_succ :
    readItems (fuel + 1) cs = (readValue fuel cs).bind fun r => afterItem fuel r.1 r.2 := by
  rw [readItems]
  rcases readValue fuel cs with f | ⟨v, rest⟩
  · rfl
  show _ = afterItem fuel v rest
  rw [afterItem, afterPart]
  dsimp only
  split
  · next hclose => rw [hclose, onHead_self]
  · next hcomma => rw [hcomma, onHead_of_ne (by simp), onHead_self]
  · next hclose hcomma => rw [onHead_of_ne hclose, onHead_of_ne hcomma]

theorem afterEntry_eq (es : List (Scalar × Value)) :
    afterEntry fuel es cs
      = match skipSpace cs with
        | '\x7d' :: rest => .ok (es, rest)
        | ',' :: rest => readEntries fuel es (skipSpace rest)
        | rest => fault .expectingComma rest := by
  rw [afterEntry, afterPart]
  split
  · next hclose => rw [hclose, onHead_self]
  · next hcomma => rw [hcomma, onHead_of_ne (by simp), onHead_self]
  · next hclose hcomma => rw [onHead_of_ne hclose, onHead_of_ne hcomma]

theorem readEntries_succ (es : List (Scalar × Value)) :
    readEntries (fuel + 1) es cs
      = onHead '"' (fun tail => (readString ('"' :: tail) tail).bind
            fun r => afterName fuel es r.1 r.2)
          (fault .expectingName) cs := by
  rw [readEntries.eq_def]
  dsimp only
  split
  · next tail =>
    rw [onHead_self]
    rcases readString ('"' :: tail) tail with f | ⟨name, rest⟩
    · rfl
    show _ = afterName fuel es name rest
    rw [afterName]
    dsimp only
    split
    · next more hcolon =>
      rw [hcolon, onHead_self]
      rcases readValue fuel (skipSpace more) with f | ⟨v, rest⟩
      · rfl
      · exact (afterEntry_eq fuel rest _).symm
    · next hother => rw [onHead_of_ne hother]
  · next hname => rw [onHead_of_ne hname]

end Steps

section Step

variable {fuel : Nat} (ih : Agrees fuel)

theorem agree_inside {α : Type} {close : Char} (hclose : close ≠ '\r' ∧ close ≠ '\n')
    (make : List α → Value) {read : List Char → Except Fault (List α × List Char)}
    (hread : ∀ cs, Agree (read cs) (read (unifyNewlines cs))) (cs : List Char) :
    Agree (inside close make read cs) (inside close make read (unifyNewlines cs)) := by
  rw [inside, inside, skipSpace_unifyNewlines]
  exact agree_onHead hclose (fun rest => .ok _ rest) (fun rest => (hread rest).map make) _

theorem agree_afterPart {α : Type} {close : Char} (hclose : close ≠ '\r' ∧ close ≠ '\n') (parts : α)
    {more : List Char → Except Fault (α × List Char)}
    (hmore : ∀ cs, Agree (more cs) (more (unifyNewlines cs))) (cs : List Char) :
    Agree (afterPart close parts more cs) (afterPart close parts more (unifyNewlines cs)) := by
  rw [afterPart, afterPart, skipSpace_unifyNewlines]
  have hcomma : ∀ rest, Agree (more (skipSpace rest)) (more (skipSpace (unifyNewlines rest))) := by
    intro rest
    rw [skipSpace_unifyNewlines]
    exact hmore (skipSpace rest)
  exact agree_onHead hclose (fun rest => .ok _ rest)
    (agree_onHead (by decide) hcomma fun _ => .fault _ _ _) _

include ih

theorem agree_readValue_succ (cs : List Char) :
    Agree (readValue (fuel + 1) cs) (readValue (fuel + 1) (unifyNewlines cs)) := by
  rw [readValue_succ, readValue_succ]
  refine agree_onHead (by decide) (fun tail => ?_) (agree_onHead (by decide) ?_
    (agree_onHead (by decide) ?_ agree_readPlain)) cs
  · exact (agree_readString _ _ tail).map fun s => Value.text (String.ofList s)
  · exact agree_inside (by decide) .map (ih.entries [])
  · exact agree_inside (by decide) .list ih.items

theorem agree_readItems_succ (cs : List Char) :
    Agree (readItems (fuel + 1) cs) (readItems (fuel + 1) (unifyNewlines cs)) := by
  rw [readItems_succ, readItems_succ]
  exact (ih.value cs).bind fun v =>
    agree_afterPart (by decide) [v] fun rest => (ih.items rest).map (v :: ·)

theorem agree_afterName (es : List (Scalar × Value)) (name cs : List Char) :
    Agree (afterName fuel es name cs) (afterName fuel es name (unifyNewlines cs)) := by
  rw [afterName, afterName, skipSpace_unifyNewlines]
  have hentry (v : Value) (cs : List Char) :
      let es := putEntry (.text (String.ofList name)) v es
      Agree (afterEntry fuel es cs) (afterEntry fuel es (unifyNewlines cs)) :=
    agree_afterPart (by decide) _ (ih.entries _) cs
  refine agree_onHead (by decide) (fun rest => ?_) (fun _ => .fault _ _ _) _
  rw [skipSpace_unifyNewlines]
  exact (ih.value (skipSpace rest)).bind hentry

theorem agree_readEntries_succ (es : List (Scalar × Value)) (cs : List Char) :
    Agree (readEntries (fuel + 1) es cs) (readEntries (fuel + 1) es (unifyNewlines cs)) := by
  rw [readEntries_succ, readEntries_succ]
  refine agree_onHead (by decide) (fun tail => ?_) (fun _ => .fault _ _ _) cs
  exact (agree_readString _ _ tail).bind (agree_afterName ih es)

end Step

theorem agrees : ∀ fuel, Agrees fuel
  | 0 =>
    { value := fun _ => .fault _ _ _
      entries := fun _ _ => .fault _ _ _
      items := fun _ => .fault _ _ _ }
  | fuel + 1 =>
    { value := agree_readValue_succ (agrees fuel)
      entries := agree_readEntries_succ (agrees fuel)
      items := agree_readItems_succ (agrees fuel) }

/-! ### Whole texts -/

theorem read_of_no_mark {cs : List Char} (h : ∀ tail, cs ≠ '\ufeff' :: tail) :
    read cs
      = match readValue (2 * cs.length + 1) (skipSpace cs) with
        | .error f => .error f
        | .ok (v, rest) =>
          match skipSpace rest with
          | [] => .ok v
          | rest => fault .extraData rest := by
  rw [read.eq_def]
  split
  · next tail => exact absurd rfl (h tail)
  · rfl

/-- A text with unified line ends has the same value or the same problem. -/
theorem read_unifyNewlines (cs : List Char) :
    (read (unifyNewlines cs)).mapError Fault.problem = (read cs).mapError Fault.problem := by
  by_cases hmark : ∃ tail, cs = '\ufeff' :: tail
  · obtain ⟨tail, rfl⟩ := hmark
    rw [unifyNewlines_cons (by decide)]
    rfl
  -- unified text is shorter, so less of the bound is left for it, but enough
  have hfuel : readValue (2 * (unifyNewlines cs).length + 1) (skipSpace (unifyNewlines cs))
      = readValue (2 * cs.length + 1) (unifyNewlines (skipSpace cs)) := by
    have hshorter := Text.length_unifyNewlines_le cs
    have hskip := length_skipSpace_le (unifyNewlines cs)
    rw [← skipSpace_unifyNewlines]
    exact (readValue_eq_of_le (by omega) (by omega)).symm
  rw [read_of_no_mark fun tail h => hmark ⟨tail, h⟩,
    read_of_no_mark (Text.unifyNewlines_ne_cons (by decide) hmark), hfuel]
  have hvalue := (agrees (2 * cs.length + 1)).value (skipSpace cs)
  generalize readValue (2 * cs.length + 1) (skipSpace cs) = x,
    readValue (2 * cs.length + 1) (unifyNewlines (skipSpace cs)) = y at hvalue
  cases hvalue with
  | error h => exact congrArg Except.error h.symm
  | ok v rest =>
    dsimp only
    rw [skipSpace_unifyNewlines]
    have hview := unified (skipSpace rest)
    generalize unifyNewlines (skipSpace rest) = us at hview
    generalize skipSpace rest = tail at hview
    cases hview <;> rfl

end BannedApi.Json
