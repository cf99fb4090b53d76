import Mathlib.Data.List.Basic
import Mathlib.Data.Nat.Basic
import Mathlib.Order.Basic
import BannedApi.Json.Reader
import BannedApi.Proofs.Outcome

/-!
Progress of the readers, and why the bound on the nesting does not matter.

Whatever is read takes at least one character (`Advances`). A list takes two of the bound for the one
character that opens it, so twice the number of characters and one more is enough: with any larger
bound the outcome is the same, be it a value or a fault (`readValue_eq_of_le`).
-/
namespace BannedApi.Json

variable {cs rest : List Char}

theorem length_skipSpace_le (cs : List Char) : (skipSpace cs).length ≤ cs.length :=
  (List.dropWhile_suffix _).length_le

theorem length_of_skipSpace_eq_cons {c : Char} (h : skipSpace cs = c :: rest) :
    rest.length < cs.length := by
  have hle := length_skipSpace_le cs
  rw [h, List.length_cons] at hle
  omega

/-- What is made of a value does not change what is left behind it. -/
theorem exists_of_map_eq_ok {α β : Type} {x : Except Fault (α × List Char)} {b : β}
    {make : α × List Char → β × List Char} (h : x.map make = .ok (b, rest))
    (hmake : ∀ r, (make r).2 = r.2) : ∃ a, x = .ok (a, rest) := by
  obtain ⟨⟨a, rest'⟩, hx, heq⟩ := Outcome.map_eq_ok.1 h
  have hrest := hmake (a, rest')
  rw [heq] at hrest
  subst hrest
  exact ⟨a, hx⟩

/-! ### Strings -/

theorem length_lt_of_readString {opening s : List Char}
    (h : readString opening cs = .ok (s, rest)) : rest.length < cs.length := by
  fun_induction readString opening cs generalizing s with
  | case1 => cases h
  | case2 cs => cases h; simp
  | case3 => cases h
  | case4 cs f hescape => cases h
  | case5 cs x tail hescape ih =>
    obtain ⟨_, hread⟩ := exists_of_map_eq_ok h fun _ => rfl
    have htail := length_lt_of_readCodeEscape hescape
    have hrest := ih hread
    simp only [List.length_cons]
    omega
  | case6 c cs hu x hescape ih =>
    obtain ⟨_, hread⟩ := exists_of_map_eq_ok h fun _ => rfl
    have hrest := ih hread
    simp only [List.length_cons]
    omega
  | case7 => cases h
  | case8 => cases h
  | case9 c cs hquote hback hcode hother hcontrol ih =>
    obtain ⟨_, hread⟩ := exists_of_map_eq_ok h fun _ => rfl
    have hrest := ih hread
    simp only [List.length_cons]
    omega

/-! ### Numbers -/

/-- Digits, when there are any. -/
def digits? (cs : List Char) : Option (List Char × List Char) :=
  if (cs.takeWhile isDigit).isEmpty then none else some (cs.takeWhile isDigit, cs.dropWhile isDigit)

/-- The digits of an exponent with this sign. -/
def signed? (negative : Bool) (cs : List Char) : Option (Int × List Char) :=
  (digits? cs).map fun d => (if negative then -(digitsValue d.1 : Int) else digitsValue d.1, d.2)

/-- An exponent after its letter. -/
def exponent? : List Char → Option (Int × List Char)
  | '-' :: cs => signed? true cs
  | '+' :: cs => signed? false cs
  | cs => signed? false cs

theorem readFraction_point (cs : List Char) : readFraction ('.' :: cs) = digits? cs := rfl

theorem readExponent_cons (e : Char) (cs : List Char) :
    readExponent (e :: cs) = if e == 'e' || e == 'E' then exponent? cs else none := by
  have hsigned : signed? = fun negative cs =>
      if (cs.takeWhile isDigit).isEmpty then none
      else some (if negative then -(digitsValue (cs.takeWhile isDigit) : Int)
        else digitsValue (cs.takeWhile isDigit), cs.dropWhile isDigit) := by
    funext negative cs
    rw [signed?, digits?]
    cases (cs.takeWhile isDigit).isEmpty <;> rfl
  rw [exponent?.eq_def, hsigned]
  rfl

theorem length_lt_of_digits? {ds : List Char} (h : digits? cs = some (ds, rest)) :
    rest.length < cs.length := by
  rw [digits?] at h
  split at h
  · cases h
  · next hsome =>
    cases h
    have hdigits : 0 < (cs.takeWhile isDigit).length :=
      List.length_pos_iff.2 fun hnil => hsome (List.isEmpty_iff.2 hnil)
    calc (cs.dropWhile isDigit).length
        < (cs.takeWhile isDigit).length + (cs.dropWhile isDigit).length := by omega
      _ = (cs.takeWhile isDigit ++ cs.dropWhile isDigit).length := List.length_append.symm
      _ = cs.length := by rw [List.takeWhile_append_dropWhile]

theorem length_lt_of_signed? {negative : Bool} {e : Int} (h : signed? negative cs = some (e, rest)) :
    rest.length < cs.length := by
  obtain ⟨d, hdigits, heq⟩ := Option.map_eq_some_iff.1 h
  obtain ⟨-, rfl⟩ := Prod.mk.inj heq
  exact length_lt_of_digits? hdigits

theorem length_lt_of_readFraction {ds : List Char} (h : readFraction cs = some (ds, rest)) :
    rest.length < cs.length := by
  rw [readFraction.eq_def] at h
  split at h
  · next cs =>
    have hrest := length_lt_of_digits? h
    simp only [List.length_cons]
    omega
  · cases h

theorem length_lt_of_readExponent {e : Int} (h : readExponent cs = some (e, rest)) :
    rest.length < cs.length := by
  cases cs with
  | nil => cases h
  | cons c cs =>
    rw [readExponent_cons] at h
    split at h
    · have hrest : rest.length ≤ cs.length := by
        rw [exponent?.eq_def] at h
        split at h
        · exact (length_lt_of_signed? h).le.trans (Nat.le_succ _)
        · exact (length_lt_of_signed? h).le.trans (Nat.le_succ _)
        · exact (length_lt_of_signed? h).le
      simp only [List.length_cons]
      omega
    · cases h

theorem length_le_of_finishNumber {negative : Bool} {whole : List Char} {n : Number}
    (h : finishNumber negative whole cs = .ok (n, rest)) : rest.length ≤ cs.length := by
  rw [finishNumber] at h
  cases hfraction : readFraction cs with
  | some r =>
    have htail := length_lt_of_readFraction hfraction
    rw [hfraction] at h
    cases hexponent : readExponent r.2 with
    | none =>
      simp only [hexponent, Option.getD_none] at h
      cases h
      exact htail.le
    | some e =>
      simp only [hexponent, Option.getD_some] at h
      cases h
      exact (length_lt_of_readExponent hexponent).le.trans htail.le
  | none =>
    rw [hfraction] at h
    cases hexponent : readExponent cs with
    | some e =>
      rw [hexponent] at h
      cases h
      exact (length_lt_of_readExponent hexponent).le
    | none =>
      simp only [hexponent] at h
      split at h
      · cases h
      · cases h
        exact Nat.le_refl _

theorem readNumber_of_ne_zero {negative : Bool} {start : List Char} (h : cs.head? ≠ some '0') :
    readNumber negative start cs
      = match digits? cs with
        | none => fault .expectingValue start
        | some (ds, rest) => finishNumber negative ds rest := by
  rw [readNumber.eq_def]
  split
  · next cs => exact absurd rfl h
  · rw [digits?]
    cases hempty : (cs.takeWhile isDigit).isEmpty <;> simp [hempty]

theorem length_lt_of_readNumber {negative : Bool} {start : List Char} {n : Number}
    (h : readNumber negative start cs = .ok (n, rest)) : rest.length < cs.length := by
  by_cases hzero : cs.head? = some '0'
  · obtain ⟨tail, rfl⟩ := List.head?_eq_some_iff.1 hzero
    have hrest := length_le_of_finishNumber h
    simp only [List.length_cons]
    omega
  · rw [readNumber_of_ne_zero hzero] at h
    cases hdigits : digits? cs with
    | none =>
      rw [hdigits] at h
      cases h
    | some d =>
      rw [hdigits] at h
      exact (length_le_of_finishNumber h).trans_lt (length_lt_of_digits? hdigits)

/-! ### Plain values -/

theorem length_of_after? {word : String} (h : after? word cs = some rest) :
    rest.length + word.length = cs.length := by
  rw [after?] at h
  split at h
  · next hstarts =>
    cases h
    have hle := (List.isPrefixOf_iff_prefix.1 hstarts).length_le
    rw [String.length_toList] at hle
    rw [List.length_drop]
    omega
  · cases h

theorem length_lt_of_readPlain {v : Value} (h : readPlain cs = .ok (v, rest)) :
    rest.length < cs.length := by
  rw [readPlain.eq_def] at h
  split at h
  · next s tail hword =>
    cases h
    obtain ⟨w, hw, hafter⟩ := List.exists_of_findSome?_eq_some hword
    obtain ⟨tail, hafter, heq⟩ := Option.map_eq_some_iff.1 hafter
    cases heq
    have hlength := length_of_after? hafter
    have hwords : ∀ w ∈ words, 0 < w.1.length := by decide
    have hpos := hwords w hw
    omega
  · obtain ⟨_, hnumber⟩ := exists_of_map_eq_ok h fun _ => rfl
    split at hnumber
    · have hrest := length_lt_of_readNumber hnumber
      simp only [List.length_cons]
      omega
    · exact length_lt_of_readNumber hnumber

/-! ### Values -/

/-- With this bound on the nesting, whatever is read takes a character. -/
structure Advances (fuel : Nat) : Prop where
  value : ∀ {cs v rest}, readValue fuel cs = .ok (v, rest) → rest.length < cs.length
  entries : ∀ {es cs es' rest}, readEntries fuel es cs = .ok (es', rest) → rest.length < cs.length
  items : ∀ {cs vs rest}, readItems fuel cs = .ok (vs, rest) → rest.length < cs.length

theorem advances_zero : Advances 0 where
  value h := by cases h
  entries h := by cases h
  items h := by cases h

theorem length_lt_of_readValue_succ {fuel : Nat} (ih : Advances fuel) {v : Value}
    (h : readValue (fuel + 1) cs = .ok (v, rest)) : rest.length < cs.length := by
  rw [readValue.eq_def] at h
  dsimp only at h
  split at h
  · next tail =>
    obtain ⟨_, hread⟩ := exists_of_map_eq_ok h fun _ => rfl
    have hrest := length_lt_of_readString hread
    simp only [List.length_cons]
    omega
  · next tail =>
    simp only [List.length_cons]
    have hskip := length_skipSpace_le tail
    split at h
    · next hclose =>
      cases h
      have hrest := length_of_skipSpace_eq_cons hclose
      omega
    · obtain ⟨_, hread⟩ := exists_of_map_eq_ok h fun _ => rfl
      have hrest := ih.entries hread
      omega
  · next tail =>
    simp only [List.length_cons]
    have hskip := length_skipSpace_le tail
    split at h
    · next hclose =>
      cases h
      have hrest := length_of_skipSpace_eq_cons hclose
      omega
    · obtain ⟨_, hread⟩ := exists_of_map_eq_ok h fun _ => rfl
      have hrest := ih.items hread
      omega
  · exact length_lt_of_readPlain h

theorem length_lt_of_readItems_succ {fuel : Nat} (ih : Advances fuel) {vs : List Value}
    (h : readItems (fuel + 1) cs = .ok (vs, rest)) : rest.length < cs.length := by
  rw [readItems] at h
  split at h
  · cases h
  · next v tail hvalue =>
    have htail := ih.value hvalue
    split at h
    · next hclose =>
      cases h
      have hrest := length_of_skipSpace_eq_cons hclose
      omega
    · next more hcomma =>
      obtain ⟨_, hread⟩ := exists_of_map_eq_ok h fun _ => rfl
      have hmore := length_of_skipSpace_eq_cons hcomma
      have hskip := length_skipSpace_le more
      have hrest := ih.items hread
      omega
    · cases h

theorem length_lt_of_readEntries_succ {fuel : Nat} (ih : Advances fuel)
    {es es' : List (Scalar × Value)} (h : readEntries (fuel + 1) es cs = .ok (es', rest)) :
    rest.length < cs.length := by
  rw [readEntries.eq_def] at h
  dsimp only at h
  split at h
  · next tail =>
    simp only [List.length_cons]
    split at h
    · cases h
    · next name afterName hname =>
      have hafterName := length_lt_of_readString hname
      split at h
      · next afterColon hcolon =>
        have hafterColon := length_of_skipSpace_eq_cons hcolon
        have hskip := length_skipSpace_le afterColon
        split at h
        · cases h
        · next v afterValue hvalue =>
          have hafterValue := ih.value hvalue
          split at h
          · next hclose =>
            cases h
            have hrest := length_of_skipSpace_eq_cons hclose
            omega
          · next more hcomma =>
            have hmore := length_of_skipSpace_eq_cons hcomma
            have hskip := length_skipSpace_le more
            have hrest := ih.entries h
            omega
          · cases h
      · cases h
  · cases h

theorem advances : ∀ fuel, Advances fuel
  | 0 => advances_zero
  | fuel + 1 =>
    { value := length_lt_of_readValue_succ (advances fuel)
      entries := length_lt_of_readEntries_succ (advances fuel)
      items := length_lt_of_readItems_succ (advances fuel) }

/-! ### The bound on the nesting -/

/-- One more of this bound changes nothing for as many characters as it is made for. -/
structure Suffices (fuel : Nat) : Prop where
  value : ∀ {cs}, 2 * cs.length + 1 ≤ fuel → readValue (fuel + 1) cs = readValue fuel cs
  entries : ∀ {es cs}, 2 * cs.length + 1 ≤ fuel →
    readEntries (fuel + 1) es cs = readEntries fuel es cs
  items : ∀ {cs}, 2 * cs.length + 2 ≤ fuel → readItems (fuel + 1) cs = readItems fuel cs

theorem readValue_succ_succ {fuel : Nat} (ih : Suffices fuel)
    (h : 2 * cs.length + 1 ≤ fuel + 1) : readValue (fuel + 2) cs = readValue (fuel + 1) cs := by
  rw [readValue.eq_def, readValue.eq_def]
  dsimp only
  split
  · rfl
  · next tail =>
    have hskip := length_skipSpace_le tail
    rw [List.length_cons] at h
    split
    · rfl
    · rw [ih.entries (by omega)]
  · next tail =>
    have hskip := length_skipSpace_le tail
    rw [List.length_cons] at h
    split
    · rfl
    · rw [ih.items (by omega)]
  · rfl

theorem readItems_succ_succ {fuel : Nat} (ih : Suffices fuel)
    (h : 2 * cs.length + 2 ≤ fuel + 1) : readItems (fuel + 2) cs = readItems (fuel + 1) cs := by
  rw [readItems.eq_def, readItems.eq_def]
  dsimp only
  rw [ih.value (by omega)]
  split
  · rfl
  · next v tail hvalue =>
    have htail := (advances fuel).value hvalue
    split
    · rfl
    · next more hcomma =>
      have hmore := length_of_skipSpace_eq_cons hcomma
      have hskip := length_skipSpace_le more
      rw [ih.items (by omega)]
    · rfl

theorem readEntries_succ_succ {fuel : Nat} (ih : Suffices fuel) {es : List (Scalar × Value)}
    (h : 2 * cs.length + 1 ≤ fuel + 1) :
    readEntries (fuel + 2) es cs = readEntries (fuel + 1) es cs := by
  rw [readEntries.eq_def, readEntries.eq_def]
  dsimp only
  split
  · next tail =>
    rw [List.length_cons] at h
    split
    · rfl
    · next name afterName hname =>
      have hafterName := length_lt_of_readString hname
      split
      · next afterColon hcolon =>
        have hafterColon := length_of_skipSpace_eq_cons hcolon
        have hskip := length_skipSpace_le afterColon
        rw [ih.value (by omega)]
        split
        · rfl
        · next v afterValue hvalue =>
          have hafterValue := (advances fuel).value hvalue
          split
          · rfl
          · next more hcomma =>
            have hmore := length_of_skipSpace_eq_cons hcomma
            have hskip := length_skipSpace_le more
            rw [ih.entries (by omega)]
          · rfl
      · rfl
  · rfl

theorem suffices_fuel : ∀ fuel, Suffices fuel
  | 0 =>
    { value := fun h => absurd h (by omega)
      entries := fun h => absurd h (by omega)
      items := fun h => absurd h (by omega) }
  | fuel + 1 =>
    { value := readValue_succ_succ (suffices_fuel fuel)
      entries := readEntries_succ_succ (suffices_fuel fuel)
      items := readItems_succ_succ (suffices_fuel fuel) }

/-- A bound that is larger than it must be gives the same outcome. -/
theorem readValue_eq_of_le {fuel more : Nat} (hfuel : 2 * cs.length + 1 ≤ fuel) (hmore : fuel ≤ more) :
    readValue more cs = readValue fuel cs := by
  induction more, hmore using Nat.le_induction with
  | base => rfl
  | succ more hle ih => rw [(suffices_fuel more).value (hfuel.trans hle), ih]

end BannedApi.Json
