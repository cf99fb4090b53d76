import BannedApi.Text.Capital
import Mathlib.Data.List.Forall2

/-!
Names in any case.

A text that gives a name of capital letters when it is put into capitals spells the name letter by
letter, with capital or small letters, unless a ligature stands for several letters at once. Where the
name leaves no room for that (`isLetterwise`), the spellings are exactly those (`upper_eq_iff`). One
letter has a third spelling: the small i without a dot has the capital I.
-/
namespace BannedApi.Text

/-- The character is a spelling of the capital letter. -/
def Spells (c u : Char) : Prop := c = u ∨ c.toNat = u.toNat + 32 ∨ u = 'I' ∧ c = 'ı'

/-- Capital letters, none of which has a spelling of its own kind or is part of a ligature: there is
no `S`, and no `F` with an `F`, an `I` or an `L` behind it. -/
def isLetterwise : List Char → Bool
  | [] => true
  | u :: us =>
    decide ('A' ≤ u ∧ u ≤ 'Z') && u != 'S'
      && !(u == 'F' && us.head?.any fun v => v == 'F' || v == 'I' || v == 'L') && isLetterwise us

theorem capital_of_ascii {c : Char} (h : c.toNat < 0x80) : capital c = [c.toUpper] := by
  rw [capital.eq_def]
  split <;> first | omega | rfl

theorem toNat_toUpper (c : Char) :
    c.toUpper.toNat = if 97 ≤ c.toNat ∧ c.toNat ≤ 122 then c.toNat - 32 else c.toNat := by
  have hsmall : ('a'.val ≤ c.val ∧ c.val ≤ 'z'.val) ↔ 97 ≤ c.toNat ∧ c.toNat ≤ 122 := by
    rw [UInt32.le_iff_toNat_le, UInt32.le_iff_toNat_le]
    rfl
  delta Char.toUpper
  split
  · next h =>
    rw [if_pos (hsmall.1 h)]
    have hrange := hsmall.1 h
    show (c.val + ('A'.val - 'a'.val)).toNat = c.toNat - 32
    rw [UInt32.toNat_add]
    show (c.toNat + 4294967264) % 4294967296 = c.toNat - 32
    omega
  · next h => rw [if_neg fun hrange => h (hsmall.2 hrange)]

theorem spells_toUpper (c : Char) : Spells c c.toUpper := by
  have hupper := toNat_toUpper c
  split at hupper
  · exact .inr (.inl (by omega))
  · exact .inl (Char.toNat_inj.1 hupper.symm)

/-- A spelling of a capital letter has it as its capital form. -/
theorem capital_of_spells {c u : Char} (hu : 65 ≤ u.toNat ∧ u.toNat ≤ 90) (h : Spells c u) :
    capital c = [u] := by
  rcases h with rfl | hsmall | ⟨rfl, rfl⟩
  · have hupper := toNat_toUpper c
    rw [if_neg (by omega)] at hupper
    rw [capital_of_ascii (by omega), Char.toNat_inj.1 hupper]
  · have hupper := toNat_toUpper c
    rw [if_pos (by omega)] at hupper
    have heq : c.toUpper.toNat = u.toNat := by omega
    rw [capital_of_ascii (by omega), Char.toNat_inj.1 heq]
  · rfl

/-- The capital form of the first character of a text is its first letter. -/
theorem spells_of_capital_append {c : Char} {rest us : List Char} (hus : isLetterwise us = true)
    (h : capital c ++ rest = us) : ∃ u, us = u :: rest ∧ Spells c u := by
  subst h
  rw [capital.eq_def] at hus ⊢
  split at hus
  case h_2 hdotless => exact ⟨'I', rfl, .inr (.inr ⟨rfl, Char.toNat_inj.1 hdotless⟩)⟩
  case h_11 => exact ⟨c.toUpper, rfl, spells_toUpper c⟩
  all_goals cases hus

theorem isLetterwise_cons {u : Char} {us : List Char} (h : isLetterwise (u :: us) = true) :
    (65 ≤ u.toNat ∧ u.toNat ≤ 90) ∧ isLetterwise us = true := by
  simp only [isLetterwise, Bool.and_eq_true, decide_eq_true_eq] at h
  exact ⟨h.1.1.1, h.2⟩

theorem flatMap_capital_eq_iff {cs us : List Char} (hus : isLetterwise us = true) :
    cs.flatMap capital = us ↔ List.Forall₂ Spells cs us := by
  constructor
  · intro h
    induction cs generalizing us with
    | nil =>
      subst h
      exact .nil
    | cons c cs ih =>
      obtain ⟨u, rfl, hspells⟩ := spells_of_capital_append hus h
      exact .cons hspells (ih (isLetterwise_cons hus).2 rfl)
  · intro h
    induction h with
    | nil => rfl
    | cons hspells _ ih =>
      obtain ⟨hletter, hrest⟩ := isLetterwise_cons hus
      rw [List.flatMap_cons, capital_of_spells hletter hspells, ih hrest]
      rfl

/-- A text is a name in capitals if and only if it spells the name letter by letter. -/
theorem upper_eq_iff {s name : String} (hname : isLetterwise name.toList = true) :
    upper s = name ↔ List.Forall₂ Spells s.toList name.toList := by
  rw [← flatMap_capital_eq_iff hname, upper, ← String.toList_inj, String.toList_ofList]

end BannedApi.Text
