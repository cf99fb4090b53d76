import BannedApi.Json.Reader
import BannedApi.Proofs.Outcome
import BannedApi.Proofs.Value.Change

/-!
Values that do not hold themselves.

A value is whole if every part of it is written out. What is found in a whole value is whole, so
whoever looks only at what is there never meets anything unwritten. A JSON text can only have whole
values (`Json.whole_of_parse`): a value that holds itself needs a name for it, which YAML has.
-/
namespace BannedApi

namespace Value

/-- Every part of the value is written out. -/
inductive Whole : Value → Prop
  | scalar (s : Scalar) : Whole (.scalar s)
  | list {items : List Value} (h : ∀ x ∈ items, Whole x) : Whole (.list items)
  | map {entries : List (Scalar × Value)} (h : ∀ e ∈ entries, Whole e.2) : Whole (.map entries)
  | tuple {items : List Value} (h : ∀ x ∈ items, Whole x) : Whole (.tuple items)
  | set (items : List Scalar) : Whole (.set items)
  | knot {label : Nat} {body : Value} (h : Whole body) : Whole (.knot label body)

namespace Whole

variable {v : Value}

theorem kind_ne_unwritten (h : v.Whole) : v.kind ≠ .unwritten := by
  induction h with
  | scalar s => cases s <;> simp [kind, Scalar.kind] <;> split <;> simp
  | list h => simp [kind]
  | map h => simp [kind]
  | tuple h => simp [kind]
  | set items => simp [kind]
  | knot h ih => exact ih

theorem of_entries? {entries : List (Scalar × Value)} (h : v.Whole)
    (hentries : v.entries? = some entries) : ∀ e ∈ entries, e.2.Whole := by
  induction h with
  | map h =>
    cases hentries
    exact h
  | knot h ih => exact ih hentries
  | _ => cases hentries

theorem of_items? {items : List Value} (h : v.Whole) (hitems : v.items? = some items) :
    ∀ x ∈ items, x.Whole := by
  induction h with
  | list h =>
    cases hitems
    exact h
  | knot h ih => exact ih hitems
  | _ => cases hitems

theorem of_field? {key : String} {w : Value} (h : v.Whole) (hfield : v.field? key = some w) :
    w.Whole := by
  rw [field?_eq] at hfield
  obtain ⟨entries, hentries, hentry⟩ := Option.bind_eq_some_iff.1 hfield
  obtain ⟨e, he, rfl⟩ := Option.map_eq_some_iff.1 hentry
  exact h.of_entries? hentries e (List.mem_of_find?_eq_some he)

theorem field (h : v.Whole) (key : String) : (v.field key).Whole := by
  rw [Value.field]
  cases hfield : v.field? key with
  | none => exact .scalar .null
  | some w => exact h.of_field? hfield

end Whole

theorem mem_putEntry {key : Scalar} {item : Value} {entries : List (Scalar × Value)}
    {e : Scalar × Value} (h : e ∈ putEntry key item entries) : e.2 = item ∨ e ∈ entries := by
  induction entries with
  | nil => exact .inl (congrArg Prod.snd (List.mem_singleton.1 h))
  | cons first rest ih =>
    rw [putEntry] at h
    split at h
    · rcases List.mem_cons.1 h with rfl | h
      · exact .inl rfl
      · exact .inr (List.mem_cons_of_mem _ h)
    · rcases List.mem_cons.1 h with rfl | h
      · exact .inr (List.mem_cons_self ..)
      · exact (ih h).imp_right (List.mem_cons_of_mem _)

end Value

/-! ### JSON texts -/

namespace Json

open Outcome (map_eq_ok mapError_eq_ok)

theorem whole_readPlain {cs rest : List Char} {v : Value} (h : readPlain cs = .ok (v, rest)) :
    v.Whole := by
  unfold readPlain at h
  split at h
  · cases h
    exact .scalar _
  · obtain ⟨r, -, heq⟩ := map_eq_ok.1 h
    cases heq
    exact .scalar _

/-- What is read is whole: of a value, of the entries of a mapping behind whole ones, and of the items
of a list. -/
structure ReadsWhole (fuel : Nat) : Prop where
  value : ∀ {cs rest v}, readValue fuel cs = .ok (v, rest) → v.Whole
  entries : ∀ {cs rest before after}, readEntries fuel before cs = .ok (after, rest) →
    (∀ e ∈ before, e.2.Whole) → ∀ e ∈ after, e.2.Whole
  items : ∀ {cs rest xs}, readItems fuel cs = .ok (xs, rest) → ∀ x ∈ xs, x.Whole

theorem readsWhole_zero : ReadsWhole 0 where
  value h := by cases h
  entries h := by cases h
  items h := by cases h

namespace ReadsWhole

variable {fuel : Nat} {cs rest : List Char}

theorem value_succ (ih : ReadsWhole fuel) {v : Value} (h : readValue (fuel + 1) cs = .ok (v, rest)) :
    v.Whole := by
  unfold readValue at h
  split at h
  · obtain ⟨r, -, heq⟩ := map_eq_ok.1 h
    cases heq
    exact .scalar _
  · split at h
    · cases h
      exact .map (by simp)
    · obtain ⟨r, hr, heq⟩ := map_eq_ok.1 h
      cases heq
      exact .map (ih.entries hr (by simp))
  · split at h
    · cases h
      exact .list (by simp)
    · obtain ⟨r, hr, heq⟩ := map_eq_ok.1 h
      cases heq
      exact .list (ih.items hr)
  · exact whole_readPlain h

theorem entries_succ (ih : ReadsWhole fuel) {before after : List (Scalar × Value)}
    (h : readEntries (fuel + 1) before cs = .ok (after, rest)) (hbefore : ∀ e ∈ before, e.2.Whole) :
    ∀ e ∈ after, e.2.Whole := by
  unfold readEntries at h
  split at h
  · split at h
    · cases h
    · next name _ _ =>
      split at h
      · split at h
        · cases h
        · next v tail hv =>
          have hput : ∀ e ∈ putEntry (.text (String.ofList name)) v before, e.2.Whole := by
            intro e he
            rcases Value.mem_putEntry he with heq | he
            · rw [heq]
              exact ih.value hv
            · exact hbefore e he
          dsimp only at h
          split at h
          · cases h
            exact hput
          · exact ih.entries h hput
          · cases h
      · cases h
  · cases h

theorem items_succ (ih : ReadsWhole fuel) {xs : List Value}
    (h : readItems (fuel + 1) cs = .ok (xs, rest)) : ∀ x ∈ xs, x.Whole := by
  unfold readItems at h
  split at h
  · cases h
  · next v tail hv =>
    split at h
    · cases h
      exact List.forall_mem_singleton.2 (ih.value hv)
    · obtain ⟨r, hr, heq⟩ := map_eq_ok.1 h
      cases heq
      exact List.forall_mem_cons.2 ⟨ih.value hv, ih.items hr⟩
    · cases h

end ReadsWhole

theorem readsWhole (fuel : Nat) : ReadsWhole fuel := by
  induction fuel with
  | zero => exact readsWhole_zero
  | succ fuel ih => exact ⟨ih.value_succ, ih.entries_succ, ih.items_succ⟩

/-- The value of a JSON text is whole. -/
theorem whole_of_parse {text : String} {v : Value} (h : parse text = .ok v) : v.Whole := by
  have hread := mapError_eq_ok.1 h
  unfold read at hread
  split at hread
  · cases hread
  · split at hread
    · cases hread
    · next w rest hvalue =>
      split at hread
      · cases hread
        exact (readsWhole _).value hvalue
      · cases hread

end Json

end BannedApi
