import BannedApi.Json.Reader
import Mathlib.Data.List.TakeWhile

/-!
Whole numbers with too many digits. The reader of a JSON text does not take such a number for a flaw
of the text: it ends in a fault of its own.
-/
namespace BannedApi.Json

/-- The reader of a JSON text comes upon a whole number with too many digits. -/
def Overlong (text : String) : Prop := ∃ fault, parse text = .error (.integer fault)

/-- A text of nothing but ones is such a number if there are enough of them. -/
theorem parse_replicate {n : Nat} (h : Number.digitLimit < n + 1) :
    parse (String.ofList (List.replicate (n + 1) '1'))
      = .error (.integer (.tooManyDigits (n + 1))) := by
  have hones : ∀ c ∈ List.replicate (n + 1) '1', isDigit c = true := by
    intro c hc
    rw [List.eq_of_mem_replicate hc]
    rfl
  -- All characters are digits, so the number is the whole text and nothing follows it.
  have hdigits := List.takeWhile_eq_self_iff.2 hones
  have hrest := List.dropWhile_eq_nil_iff.2 hones
  have hlength : (List.replicate (n + 1) '1').length = n + 1 := List.length_replicate
  rw [List.replicate_succ] at hdigits hrest hlength ⊢
  have hnumber : finishNumber false ('1' :: List.replicate n '1') []
      = .error ⟨.longInteger (n + 1), 0⟩ := by
    simp only [finishNumber, readFraction, readExponent, hlength, h, if_true]
    rfl
  have hplain : readPlain ('1' :: List.replicate n '1') = .error ⟨.longInteger (n + 1), 0⟩ := by
    have hread : readNumber false ('1' :: List.replicate n '1') ('1' :: List.replicate n '1')
        = .error ⟨.longInteger (n + 1), 0⟩ := by
      simp only [readNumber, hdigits, hrest, hnumber]
      rfl
    simp [readPlain, words, after?, hread, Except.map]
  have hread : read ('1' :: List.replicate n '1') = .error ⟨.longInteger (n + 1), 0⟩ := by
    have hskip : skipSpace ('1' :: List.replicate n '1') = '1' :: List.replicate n '1' := rfl
    simp [read, hskip, readValue, hplain]
  rw [parse, String.toList_ofList, hread]
  rfl

end BannedApi.Json
