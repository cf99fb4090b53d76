import BannedApi.Proofs.Value.Change
import BannedApi.Tree.Outline
import Mathlib.Data.List.Induction
import Mathlib.Data.List.Nodup

/-!
The ways that lead on from a place in a tree.

The fields of a mapping are of two sorts. Some are read where the mapping stands, others hold the
parts that are visited (`walkedKeys`). Each step of an outline that visits a part finds it behind
one of the latter (`leads_outline`), and no two steps of an outline lead the same way
(`nodup_segments_outline`).
-/
namespace BannedApi.Tree

namespace Segment

/-- The field that a step goes through. -/
def key : Segment → String
  | .field key => key
  | .item key _ => key

/-- The part of a mapping that a step leads to. -/
def part? : Segment → Value → Option Value
  | .field key, v => v.field? key
  | .item key index, v => ((v.field? key).bind Value.items?).bind (·[index]?)

theorem kind_of_part? {s : Segment} {v part : Value} (h : s.part? v = some part) :
    v.kind = .map := by
  refine (Value.isSome_entries? v).1 ?_
  cases hentries : v.entries? with
  | some entries => rfl
  | none => cases s <;> simp [part?, Value.field?, hentries] at h

end Segment

/-- The fields that hold visited parts. -/
def walkedKeys : List String :=
  ["declarations", "members", "parameters", "body", "initializer", "receiver", "children",
    "arguments"]

/-! ### Where actions lead -/

/-- Where an action leads, if it leads anywhere. -/
def Action.segment? : Action → Option Segment
  | .visit segment _ _ => some segment
  | _ => none

/-- Where actions lead. -/
def segments (actions : List Action) : List Segment := actions.filterMap Action.segment?

@[simp] theorem segments_nil : segments [] = [] := rfl

@[simp] theorem segments_append (as bs : List Action) :
    segments (as ++ bs) = segments as ++ segments bs := by
  simp [segments]

@[simp] theorem segments_emitFor (raw : Value) (construct : Construct) (as : List Action) :
    segments (emitFor raw construct :: as) = segments as := rfl

@[simp] theorem segments_refuse (fault : Malformed) (as : List Action) :
    segments (.refuse fault :: as) = segments as := rfl

theorem segments_mapIdx_visit (role : Role) (key : String) (xs : List Value) :
    segments (xs.mapIdx fun i x => .visit (.item key i) role x)
      = (List.range xs.length).map (Segment.item key) := by
  induction xs using List.reverseRecOn with
  | nil => rfl
  | append_singleton xs x ih =>
    rw [List.mapIdx_concat, segments_append, ih, List.length_append, List.length_singleton,
      List.range_succ, List.map_append]
    rfl

theorem mem_segments_visitEach {role : Role} {key : String} {raw : Value} {s : Segment}
    (h : s ∈ segments (visitEach role key raw)) : ∃ i, s = .item key i := by
  unfold visitEach at h
  split at h
  · cases h
  · rw [segments_mapIdx_visit, List.mem_map] at h
    obtain ⟨i, -, rfl⟩ := h
    exact ⟨i, rfl⟩

theorem mem_segments_visitField {key : String} {raw : Value} {s : Segment}
    (h : s ∈ segments (visitField key raw)) : s = .field key ∧ (raw.field key).isNull = false := by
  simp only [visitField] at h
  split at h
  · cases h
  · next hnull =>
    rw [segments, List.mem_filterMap] at h
    obtain ⟨a, ha, hs⟩ := h
    rw [List.mem_singleton] at ha
    subst ha
    exact ⟨(Option.some.inj hs).symm, by simpa using hnull⟩

theorem mem_segments_visitParts {key : String} {raw : Value} {s : Segment}
    (h : s ∈ segments (visitParts key raw)) :
    ((raw.field key).isNull = false ∧ s = .field key)
      ∨ ((raw.field key).kind = .list ∧ ∃ i, s = .item key i) := by
  unfold visitParts at h
  split at h
  · exact Or.inl (mem_segments_visitField h).symm
  · exact Or.inl (mem_segments_visitField h).symm
  · next hkind => exact Or.inr ⟨hkind, mem_segments_visitEach h⟩
  · cases h

/-- The ways out of the parts in one field all go through that field. -/
theorem key_of_mem_visitEach {role : Role} {key : String} {raw : Value} {s : Segment}
    (h : s ∈ segments (visitEach role key raw)) : s.key = key := by
  obtain ⟨i, rfl⟩ := mem_segments_visitEach h
  rfl

theorem key_of_mem_visitField {key : String} {raw : Value} {s : Segment}
    (h : s ∈ segments (visitField key raw)) : s.key = key := by
  rw [(mem_segments_visitField h).1]
  rfl

theorem key_of_mem_visitParts {key : String} {raw : Value} {s : Segment}
    (h : s ∈ segments (visitParts key raw)) : s.key = key := by
  rcases mem_segments_visitParts h with ⟨-, rfl⟩ | ⟨-, i, rfl⟩ <;> rfl

/-! ### No two ways are the same -/

theorem nodup_visitEach (role : Role) (key : String) (raw : Value) :
    (segments (visitEach role key raw)).Nodup := by
  unfold visitEach
  split
  · exact List.nodup_nil
  · rw [segments_mapIdx_visit]
    refine List.Nodup.map (fun i j hij => ?_) List.nodup_range
    exact (Segment.item.inj hij).2

theorem nodup_visitField (key : String) (raw : Value) : (segments (visitField key raw)).Nodup := by
  simp only [visitField]
  split
  · exact List.nodup_nil
  · exact List.nodup_singleton _

theorem nodup_visitParts (key : String) (raw : Value) : (segments (visitParts key raw)).Nodup := by
  unfold visitParts
  split
  · exact nodup_visitField key raw
  · exact nodup_visitField key raw
  · exact nodup_visitEach .statement key raw
  · exact List.nodup_nil

/-- Ways through different fields are different. -/
theorem nodup_append_of_keys {as bs : List Segment} {k l : String} (hkl : k ≠ l) (has : as.Nodup)
    (hbs : bs.Nodup) (hk : ∀ s ∈ as, s.key = k) (hl : ∀ s ∈ bs, s.key = l) : (as ++ bs).Nodup := by
  refine List.nodup_append.2 ⟨has, hbs, fun s hs t ht hst => hkl ?_⟩
  rw [← hk s hs, hst, hl t ht]

theorem nodup_bodyOf (form : Form) (name : String) (raw : Value) :
    (segments (bodyOf form name raw)).Nodup := by
  cases form with
  | classLike => exact nodup_visitEach ..
  | methodLike =>
    simp only [bodyOf, List.cons_append, segments_emitFor, segments_append]
    exact nodup_append_of_keys (by decide) (nodup_visitEach ..) (nodup_visitEach ..)
      (fun _ => key_of_mem_visitEach) (fun _ => key_of_mem_visitEach)
  | variableLike =>
    simp only [bodyOf, segments_emitFor]
    exact nodup_visitField ..

theorem nodup_parts (raw : Value) :
    (segments (partKeys.flatMap fun key => visitParts key raw)).Nodup := by
  rw [segments, List.filterMap_flatMap, List.nodup_flatMap]
  refine ⟨fun key _ => nodup_visitParts key raw, ?_⟩
  have hkeys : partKeys.Nodup := by decide
  refine hkeys.imp fun {k l} hkl => ?_
  intro s hs ht
  exact hkl ((key_of_mem_visitParts hs).symm.trans (key_of_mem_visitParts ht))

/-- Where steps lead. -/
def ways (steps : List Step) : List Segment := segments (steps.map (·.action))

@[simp] theorem ways_plainly (as : List Action) : ways (plainly as) = segments as := by
  simp [ways, plainly, Function.comp_def]

@[simp] theorem ways_inside (opening : Opening) (as : List Action) :
    ways (inside opening as) = segments as := by
  simp [ways, inside, Function.comp_def]

@[simp] theorem ways_append (ss ts : List Step) : ways (ss ++ ts) = ways ss ++ ways ts := by
  simp [ways]

theorem nodup_refuse (fault : Malformed) : (ways (plainly [.refuse fault])).Nodup := by
  simp

theorem nodup_declaration (form : Form) (kind : String) (raw : Value) :
    (ways (declaration form kind raw)).Nodup := by
  unfold declaration
  split
  · exact nodup_refuse _
  · split
    · exact nodup_refuse _
    · rw [ways_inside]
      exact nodup_bodyOf ..

theorem nodup_call (raw : Value) : (ways (call raw)).Nodup := by
  unfold call
  split
  · exact nodup_refuse _
  · simp only [ways_plainly, List.cons_append, segments_emitFor, segments_append]
    exact nodup_append_of_keys (by decide) (nodup_visitField ..) (nodup_visitEach ..)
      (fun _ => key_of_mem_visitField) (fun _ => key_of_mem_visitEach)

theorem key_of_mem_anonymousBody {raw : Value} {s : Segment} (h : s ∈ ways (anonymousBody raw)) :
    s.key = "body" := by
  unfold anonymousBody at h
  split at h
  · simp at h
  · cases h
  · split at h
    · simp at h
    · rw [ways_inside] at h
      exact key_of_mem_visitEach h

theorem nodup_anonymousBody (raw : Value) : (ways (anonymousBody raw)).Nodup := by
  unfold anonymousBody
  split
  · exact nodup_refuse _
  · exact List.nodup_nil
  · split
    · exact nodup_refuse _
    · rw [ways_inside]
      exact nodup_visitEach ..

theorem nodup_construction (raw : Value) : (ways (construction raw)).Nodup := by
  unfold construction
  split
  · exact nodup_refuse _
  · simp only [ways_append, ways_plainly, segments_emitFor]
    exact nodup_append_of_keys (by decide) (nodup_visitEach ..) (nodup_anonymousBody raw)
      (fun _ => key_of_mem_visitEach) (fun _ => key_of_mem_anonymousBody)

theorem nodup_statement (raw : Value) : (ways (statement raw)).Nodup := by
  unfold statement
  split
  · exact nodup_refuse _
  · rw [ways_plainly]
    exact nodup_parts raw
  · split
    · exact nodup_declaration ..
    · split
      · exact nodup_call raw
      · split
        · exact nodup_construction raw
        · rw [ways_plainly]
          exact nodup_parts raw

theorem segments_imports (xs : List Value) : segments (xs.mapIdx importAction) = [] := by
  rw [segments, List.filterMap_eq_nil_iff]
  intro a ha
  obtain ⟨i, hi, rfl⟩ := List.mem_mapIdx.1 ha
  unfold importAction
  split <;> rfl

theorem segments_unitActions (raw : Value) :
    segments (unitActions raw) = segments (visitEach .statement "declarations" raw) := by
  rw [unitActions, segments_append]
  split
  · rfl
  · rw [segments_imports, List.nil_append]

/-- No two steps of an outline lead the same way. -/
theorem nodup_segments_outline (role : Role) (v : Value) : (ways (outline role v)).Nodup := by
  unfold outline
  split
  · exact nodup_refuse _
  · cases role with
    | unit =>
      simp only [ways_plainly, segments_unitActions]
      exact nodup_visitEach ..
    | statement => exact nodup_statement _
    | parameter => exact nodup_declaration ..

/-! ### What stands behind a step -/

/-- A property of the actions that can come up at a mapping: it holds of what is done there itself,
and of going into the parts of a walked field. -/
structure Everywhere (P : Action → Prop) (raw : Value) : Prop where
  emit : ∀ line column construct, P (.emit line column construct)
  refuse : ∀ fault, P (.refuse fault)
  each : ∀ role, ∀ key ∈ walkedKeys, ∀ a ∈ visitEach role key raw, P a
  field : ∀ key ∈ walkedKeys, ∀ a ∈ visitField key raw, P a

namespace Everywhere

variable {P : Action → Prop} {raw : Value}

theorem plainly {as : List Action} (h : ∀ a ∈ as, P a) : ∀ s ∈ plainly as, P s.action := by
  intro s hs
  obtain ⟨a, ha, rfl⟩ := List.mem_map.1 hs
  exact h a ha

theorem inside {opening : Opening} {as : List Action} (h : ∀ a ∈ as, P a) :
    ∀ s ∈ inside opening as, P s.action := by
  intro s hs
  obtain ⟨a, ha, rfl⟩ := List.mem_map.1 hs
  exact h a ha

theorem refused (h : Everywhere P raw) (fault : Malformed) :
    ∀ s ∈ Tree.plainly [.refuse fault], P s.action :=
  plainly fun _ ha => List.mem_singleton.1 ha ▸ h.refuse fault

theorem bodyOf (h : Everywhere P raw) (form : Form) (name : String) :
    ∀ a ∈ bodyOf form name raw, P a := by
  intro a ha
  cases form with
  | classLike => exact h.each .statement "members" (by decide) a ha
  | methodLike =>
    simp only [Tree.bodyOf, List.cons_append, List.mem_cons, List.mem_append] at ha
    rcases ha with rfl | ha | ha
    · exact h.emit ..
    · exact h.each .parameter "parameters" (by decide) a ha
    · exact h.each .statement "body" (by decide) a ha
  | variableLike =>
    simp only [Tree.bodyOf, List.mem_cons] at ha
    rcases ha with rfl | ha
    · exact h.emit ..
    · exact h.field "initializer" (by decide) a ha

theorem declaration (h : Everywhere P raw) (form : Form) (kind : String) :
    ∀ s ∈ declaration form kind raw, P s.action := by
  unfold Tree.declaration
  split
  · exact h.refused _
  · split
    · exact h.refused _
    · exact inside (h.bodyOf form _)

theorem call (h : Everywhere P raw) : ∀ s ∈ call raw, P s.action := by
  unfold Tree.call
  split
  · exact h.refused _
  · refine plainly fun a ha => ?_
    simp only [List.cons_append, List.mem_cons, List.mem_append] at ha
    rcases ha with rfl | ha | ha
    · exact h.emit ..
    · exact h.field "receiver" (by decide) a ha
    · exact h.each .statement "arguments" (by decide) a ha

theorem anonymousBody (h : Everywhere P raw) : ∀ s ∈ anonymousBody raw, P s.action := by
  unfold Tree.anonymousBody
  split
  · exact h.refused _
  · exact fun s hs => absurd hs List.not_mem_nil
  · split
    · exact h.refused _
    · exact inside (h.each .statement "body" (by decide))

theorem construction (h : Everywhere P raw) : ∀ s ∈ construction raw, P s.action := by
  unfold Tree.construction
  split
  · exact h.refused _
  · intro s hs
    rcases List.mem_append.1 hs with hs | hs
    · refine plainly (fun a ha => ?_) s hs
      rcases List.mem_cons.1 ha with rfl | ha
      · exact h.emit ..
      · exact h.each .statement "arguments" (by decide) a ha
    · exact h.anonymousBody s hs

theorem parts (h : Everywhere P raw) :
    ∀ s ∈ Tree.plainly (partKeys.flatMap fun key => visitParts key raw), P s.action := by
  refine plainly fun a ha => ?_
  obtain ⟨key, hkey, ha⟩ := List.mem_flatMap.1 ha
  have hsub : ∀ key ∈ partKeys, key ∈ walkedKeys := by decide
  unfold visitParts at ha
  split at ha
  · exact h.field key (hsub key hkey) a ha
  · exact h.field key (hsub key hkey) a ha
  · exact h.each .statement key (hsub key hkey) a ha
  · cases ha

theorem statement (h : Everywhere P raw) : ∀ s ∈ statement raw, P s.action := by
  unfold Tree.statement
  split
  · exact h.refused _
  · exact h.parts
  · split
    · exact h.declaration _ _
    · split
      · exact h.call
      · split
        · exact h.construction
        · exact h.parts

theorem unitActions (h : Everywhere P raw) : ∀ a ∈ unitActions raw, P a := by
  intro a ha
  rcases List.mem_append.1 ha with ha | ha
  · split at ha
    · exact List.mem_singleton.1 ha ▸ h.refuse _
    · obtain ⟨i, hi, rfl⟩ := List.mem_mapIdx.1 ha
      unfold importAction
      split
      · exact h.refuse _
      · exact h.emit ..
  · exact h.each .statement "declarations" (by decide) a ha

/-- What holds of every action that can come up holds of every step of the outline. -/
theorem outline (h : Everywhere P raw) (role : Role) : ∀ s ∈ outline role raw, P s.action := by
  unfold Tree.outline
  split
  · exact h.refused _
  · next v hv =>
    obtain rfl := eq_of_mapping hv
    cases role with
    | unit => exact plainly h.unitActions
    | statement => exact h.statement
    | parameter => exact h.declaration .variableLike "parameter"

end Everywhere

/-- A visit finds its part behind a walked field. -/
def Action.Leads (raw : Value) : Action → Prop
  | .visit s _ part => s.key ∈ walkedKeys ∧ s.part? raw = some part
  | _ => True

theorem listOf_eq_ok {key : String} {raw x : Value} {xs : List Value} {i : Nat}
    (h : listOf key raw = .ok xs) (hx : xs[i]? = some x) :
    Segment.part? (.item key i) raw = some x := by
  unfold listOf at h
  split at h
  · cases h
    simp at hx
  · next hnull =>
    cases hf : raw.field? key with
    | none => simp [Value.field, hf, Value.isNull] at hnull
    | some part =>
      simp only [Value.field, hf, Option.getD_some] at h
      cases hitems : part.items? with
      | none => simp [hitems] at h
      | some ys =>
        simp only [hitems, Except.ok.injEq] at h
        subst h
        simp [Segment.part?, hf, hitems, hx]

theorem field?_of_not_null {key : String} {raw : Value} (h : (raw.field key).isNull = false) :
    raw.field? key = some (raw.field key) := by
  cases hf : raw.field? key with
  | none => simp [Value.field, hf, Value.isNull] at h
  | some part => rw [Value.field, hf, Option.getD_some]

theorem everywhere_leads (raw : Value) : Everywhere (Action.Leads raw) raw where
  emit _ _ _ := trivial
  refuse _ := trivial
  each role key hkey a ha := by
    unfold visitEach at ha
    split at ha
    · rw [List.mem_singleton.1 ha]
      trivial
    · next xs hxs =>
      obtain ⟨i, hi, rfl⟩ := List.mem_mapIdx.1 ha
      exact ⟨hkey, listOf_eq_ok hxs (List.getElem?_eq_getElem hi)⟩
  field key hkey a ha := by
    simp only [visitField] at ha
    split at ha
    · cases ha
    · next hnull =>
      rw [List.mem_singleton.1 ha]
      exact ⟨hkey, field?_of_not_null (by simpa using hnull)⟩

/-- A visited part stands behind a walked field of the mapping it is visited from. -/
theorem leads_outline {role : Role} {raw : Value} {step : Step} (h : step ∈ outline role raw) :
    step.action.Leads raw :=
  (everywhere_leads raw).outline role step h

theorem key_of_mem_outline {role : Role} {raw : Value} {s : Segment}
    (h : s ∈ ways (outline role raw)) : s.key ∈ walkedKeys := by
  obtain ⟨a, ha, hs⟩ := List.mem_filterMap.1 h
  obtain ⟨step, hstep, rfl⟩ := List.mem_map.1 ha
  have hleads := leads_outline hstep
  unfold Action.segment? at hs
  split at hs
  · next t r part haction =>
    rw [haction] at hleads
    exact Option.some.inj hs ▸ hleads.1
  · cases hs

end BannedApi.Tree
