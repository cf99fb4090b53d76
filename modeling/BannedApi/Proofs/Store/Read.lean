import BannedApi.Store.Basic

/-!
Reading text files: when the path itself is the fault, and when the text comes back as it was
written.
-/
namespace BannedApi

/-- A text without carriage returns has the line ends it must have. -/
theorem Text.unifyNewlines_of_not_mem {cs : List Char} (h : '\r' ∉ cs) : unifyNewlines cs = cs := by
  induction cs with
  | nil => rfl
  | cons c cs ih =>
    have hc : c ≠ '\r' := fun heq => h (heq ▸ List.mem_cons_self ..)
    rw [unifyNewlines, ih fun hmem => h (List.mem_cons_of_mem c hmem)]
    · exact fun _ heq => absurd heq hc
    · exact fun heq => absurd heq hc

namespace Store

variable (store : Store) {path : String}

theorem read_eq_nullCharacter_iff :
    store.read path = .error .nullCharacter ↔ isPath path = false := by
  unfold read
  cases isPath path with
  | false => simp
  | true =>
    simp only [Bool.not_true, Bool.false_eq_true, if_false, Bool.true_eq_false, iff_false]
    intro h
    split at h
    · cases h
    · split at h
      · cases h
      · cases h
      · cases h

theorem readText_eq_opening_iff {fault : OpenFault} :
    store.readText path = .error (.opening fault) ↔ store.read path = .error fault := by
  unfold readText
  split
  · next f hread => simp [hread]
  · next hread => simp [hread]
  · next hread => simp [hread]
  · next data hread =>
    cases Text.Utf8.decode data with
    | error f => simp [hread]
    | ok cs => simp [hread]

theorem readText_eq_nullCharacter_iff :
    store.readText path = .error (.opening .nullCharacter) ↔ isPath path = false :=
  (readText_eq_opening_iff store).trans (read_eq_nullCharacter_iff store)

theorem isPath_of_holds (h : store.holds path = true) : isPath path = true :=
  (Bool.and_eq_true_iff.1 h).1

end Store

end BannedApi
