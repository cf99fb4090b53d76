import BannedApi.Proofs.Tree.Grammar
import BannedApi.Proofs.Tree.Yield

/-!
A walk accepts exactly the well-formed units.

A walk does what the outline of a mapping asks for and goes on into the parts, up to the first
refusal. All that an outline asks for can be done if and only if the mapping follows its rule
(`passes_outline`). The parts are smaller than the mapping, so by induction a walk refuses nothing
if and only if the whole of the value is well formed (`fault_yieldOf_iff`), and a unit is read if and
only if it is (`unitOf_cases`).
-/
namespace BannedApi.Tree

open Value (isNull_iff)

/-! ### One mapping at a time -/

/-- The action can be done: it is no refusal, and a part that it visits is as it must be. -/
def Action.Passes (P : Role → Value → Prop) : Action → Prop
  | .emit .. => True
  | .refuse _ => False
  | .visit _ role part => P role part

section Passes

variable {P : Role → Value → Prop} {v : Value}

theorem passes_plainly {as : List Action} :
    (∀ s ∈ plainly as, s.action.Passes P) ↔ ∀ a ∈ as, a.Passes P := by
  simp [plainly]

theorem passes_inside {opening : Opening} {as : List Action} :
    (∀ s ∈ inside opening as, s.action.Passes P) ↔ ∀ a ∈ as, a.Passes P := by
  simp [inside]

theorem not_passes_refuse {fault : Malformed} :
    ¬ ∀ s ∈ plainly [.refuse fault], s.action.Passes P := by
  simp [plainly, Action.Passes]

theorem passes_emitFor {construct : Construct} {as : List Action} :
    (∀ a ∈ emitFor v construct :: as, a.Passes P) ↔ ∀ a ∈ as, a.Passes P := by
  simp [emitFor, Action.Passes]

theorem passes_visitEach {role : Role} {key : String} :
    (∀ a ∈ visitEach role key v, a.Passes P) ↔ ∃ xs, v.Lists key xs ∧ ∀ x ∈ xs, P role x := by
  unfold visitEach
  simp only [← listOf_eq_ok_iff]
  cases listOf key v with
  | error p => simp [Action.Passes]
  | ok xs =>
    simp only [Except.ok.injEq, exists_eq_left', List.forall_mem_iff_forall_getElem]
    simp [Action.Passes]

theorem passes_visitField {key : String} :
    (∀ a ∈ visitField key v, a.Passes P) ↔ (v.field key ≠ .null → P .statement (v.field key)) := by
  simp only [visitField]
  by_cases hnull : v.field key = .null
  · rw [if_pos (isNull_iff.2 hnull)]
    simp [hnull]
  · rw [if_neg fun h => hnull (isNull_iff.1 h)]
    simp [Action.Passes, hnull]

theorem passes_visitParts {key : String} :
    (∀ a ∈ visitParts key v, a.Passes P)
      ↔ ((v.field key).kind = .map ∨ (v.field key).kind = .unwritten → P .statement (v.field key))
        ∧ ∀ xs, (v.field key).items? = some xs → ∀ x ∈ xs, P .statement x := by
  have hitems := Value.isSome_items? (v.field key)
  have hnone (h : (v.field key).kind ≠ .list) : (v.field key).items? = none := by
    rw [← Option.not_isSome_iff_eq_none, hitems]
    exact h
  unfold visitParts
  split
  · next hmap =>
    have hnull : v.field key ≠ .null := fun h => by rw [h] at hmap; cases hmap
    rw [passes_visitField]
    simp [hnull, hmap, hnone (by rw [hmap]; decide)]
  · next hend =>
    have hnull : v.field key ≠ .null := fun h => by rw [h] at hend; cases hend
    rw [passes_visitField]
    simp [hnull, hend, hnone (by rw [hend]; decide)]
  · next hlist =>
    have hnull : v.field key ≠ .null := fun h => by rw [h] at hlist; cases hlist
    obtain ⟨xs, hxs⟩ := Option.isSome_iff_exists.1 (hitems.2 hlist)
    rw [passes_visitEach]
    simp [Value.Lists, hnull, hlist, hxs]
  · next hmap hend hlist =>
    simpa [hnone hlist] using fun h => absurd h (not_or.2 ⟨hmap, hend⟩)

end Passes

/-! ### The rules follow the outline -/

theorem ofKind?_eq_some_iff {kind : String} {form : Form} :
    Form.ofKind? kind = some form ↔ kind ∈ form.kinds := by
  unfold Form.ofKind?
  cases form <;> simp [Form.kinds] <;> grind

theorem Declaration.header {form : Form} {v : Value} (h : Declaration form v) : Header v := by
  cases h with
  | classLike hhead hlist hmembers => exact hhead
  | methodLike hhead hlist hmaps hparameters hlist' hbody => exact hhead
  | variableLike hhead hinitializer => exact hhead

theorem passes_bodyOf {form : Form} {name : String} {v : Value} (hhead : Header v) :
    (∀ a ∈ bodyOf form name v, a.Passes WellFormed) ↔ Declaration form v := by
  cases form with
  | classLike =>
    rw [bodyOf, passes_visitEach]
    constructor
    · rintro ⟨members, hlist, hmembers⟩
      exact .classLike hhead hlist hmembers
    · rintro (⟨-, hlist, hmembers⟩)
      exact ⟨_, hlist, hmembers⟩
  | methodLike =>
    rw [bodyOf, List.cons_append, passes_emitFor, List.forall_mem_append, passes_visitEach,
      passes_visitEach]
    constructor
    · rintro ⟨⟨parameters, hlist, hparameters⟩, body, hlist', hbody⟩
      exact .methodLike hhead hlist (fun p hp => (hparameters p hp).1)
        (fun p hp => (hparameters p hp).2) hlist' hbody
    · intro h
      cases h with
      | methodLike _ hlist hmaps hparameters hlist' hbody =>
        exact ⟨⟨_, hlist, fun p hp => ⟨hmaps p hp, hparameters p hp⟩⟩, _, hlist', hbody⟩
  | variableLike =>
    rw [bodyOf, passes_emitFor, passes_visitField]
    constructor
    · exact .variableLike hhead
    · intro h
      cases h with
      | variableLike _ hinitializer => exact hinitializer

theorem passes_declaration {form : Form} {kind : String} {v : Value} :
    (∀ s ∈ declaration form kind v, s.action.Passes WellFormed) ↔ Declaration form v := by
  have hname := declarationName_isOk_iff kind v
  have hnotes := annotationsOf_isOk_iff v
  unfold declaration
  cases hn : declarationName kind v with
  | error p =>
    refine iff_of_false not_passes_refuse fun h => ?_
    obtain ⟨name, hok⟩ := hname.2 h.header.name
    cases hn.symm.trans hok
  | ok name =>
    cases ha : annotationsOf v with
    | error f =>
      refine iff_of_false not_passes_refuse fun h => ?_
      obtain ⟨notes, hok⟩ := hnotes.2 h.header.annotations
      cases ha.symm.trans hok
    | ok notes =>
      rw [passes_inside]
      exact passes_bodyOf ⟨hname.1 ⟨name, hn⟩, hnotes.1 ⟨notes, ha⟩⟩

theorem passes_call {v : Value} :
    (∀ s ∈ call v, s.action.Passes WellFormed) ↔ Expression (some "call") v := by
  have hcallOf := callOf_isOk_iff (v := v)
  unfold call
  constructor
  · intro h
    cases hc : callOf v with
    | error f =>
      rw [hc] at h
      exact absurd h not_passes_refuse
    | ok construct =>
      obtain ⟨⟨as, hlist, hread⟩, hmethod⟩ := hcallOf.1 ⟨construct, hc⟩
      rw [hc] at h
      simp only [passes_plainly, List.cons_append, passes_emitFor, List.forall_mem_append,
        passes_visitField, passes_visitEach] at h
      obtain ⟨hreceiver, bs, hlist', harguments⟩ := h
      refine .call rfl hmethod hreceiver hlist' (fun a ha => ?_) harguments
      -- the arguments that were read as such are those that are visited
      cases (listOf_eq_ok_iff.2 hlist).symm.trans (listOf_eq_ok_iff.2 hlist')
      obtain ⟨x, hx⟩ := hread a ha
      exact mayName_of_argumentOf hx
  · intro h
    cases h with
    | call hcall hmethod hreceiver hlist hsymbols harguments =>
      obtain ⟨construct, hc⟩ := hcallOf.2 ⟨⟨_, hlist, fun a ha =>
        argumentOf_isOk_of_statement (harguments a ha) (hsymbols a ha)⟩, hmethod⟩
      rw [hc]
      simp only [passes_plainly, List.cons_append, passes_emitFor, List.forall_mem_append,
        passes_visitField, passes_visitEach]
      exact ⟨hreceiver, _, hlist, harguments⟩
    | construction hnew hconstructor hlist harguments hlist' hnotes hbody =>
      exact absurd hnew (by decide)
    | other hcall hnew hwritten hmaps hlists => exact absurd rfl hcall

theorem passes_anonymousBody {v : Value} :
    (∀ s ∈ anonymousBody v, s.action.Passes WellFormed)
      ↔ ∃ body, v.Lists "body" body ∧ (body ≠ [] → Annotated v) ∧ ∀ x ∈ body, Statement x := by
  simp only [← listOf_eq_ok_iff]
  unfold anonymousBody
  cases hlist : listOf "body" v with
  | error p =>
    refine iff_of_false not_passes_refuse ?_
    rintro ⟨body, hok, -⟩
    cases hok
  | ok body =>
    cases body with
    | nil => simp
    | cons x xs =>
      simp only [Except.ok.injEq, exists_eq_left', ne_eq, reduceCtorEq, not_false_eq_true,
        forall_const, ← annotationsOf_isOk_iff]
      cases annotationsOf v with
      | error f =>
        refine iff_of_false not_passes_refuse ?_
        rintro ⟨⟨notes, hok⟩, -⟩
        cases hok
      | ok notes =>
        simp only [passes_inside, passes_visitEach, ← listOf_eq_ok_iff, hlist, Except.ok.injEq,
          exists_eq_left', exists_eq', true_and]
        rfl

theorem passes_construction {v : Value} :
    (∀ s ∈ construction v, s.action.Passes WellFormed) ↔ Expression (some "new") v := by
  have hconstructionOf := constructionOf_isOk_iff (v := v)
  unfold construction
  constructor
  · intro h
    cases hc : constructionOf v with
    | error f =>
      rw [hc] at h
      exact absurd h not_passes_refuse
    | ok construct =>
      rw [hc] at h
      simp only [List.forall_mem_append, passes_plainly, passes_emitFor, passes_visitEach,
        passes_anonymousBody] at h
      obtain ⟨⟨as, hlist, harguments⟩, body, hlist', hnotes, hbody⟩ := h
      have hconstructor := hconstructionOf.1 ⟨construct, hc⟩
      exact .construction rfl hconstructor hlist harguments hlist' hnotes hbody
  · intro h
    cases h with
    | call hcall hmethod hreceiver hlist hsymbols harguments => exact absurd hcall (by decide)
    | construction hnew hconstructor hlist harguments hlist' hnotes hbody =>
      obtain ⟨construct, hc⟩ := hconstructionOf.2 hconstructor
      rw [hc]
      simp only [List.forall_mem_append, passes_plainly, passes_emitFor, passes_visitEach,
        passes_anonymousBody]
      exact ⟨⟨_, hlist, harguments⟩, _, hlist', hnotes, hbody⟩
    | other hcall hnew hwritten hmaps hlists => exact absurd rfl hnew

theorem passes_parts {v : Value} {kind : Option String} (hcall : kind ≠ some "call")
    (hnew : kind ≠ some "new") :
    (∀ s ∈ plainly (partKeys.flatMap fun key => visitParts key v), s.action.Passes WellFormed)
      ↔ Expression kind v := by
  rw [passes_plainly, List.forall_mem_flatMap]
  simp only [passes_visitParts]
  constructor
  · intro h
    -- what is not written out is visited like a mapping, and no statement
    refine .other hcall hnew (fun key hkey hend => ?_) (fun key hkey hmap => ?_)
      fun key hkey => (h key hkey).2
    · have hstatement : Statement (v.field key) := (h key hkey).1 (.inr hend)
      cases hend.symm.trans hstatement.isMap
    · exact (h key hkey).1 (.inl hmap)
  · intro h key hkey
    cases h with
    | call hcall' hmethod hreceiver hlist hsymbols harguments => exact absurd hcall' hcall
    | construction hnew' hconstructor hlist harguments hlist' hnotes hbody =>
      exact absurd hnew' hnew
    | other hcall hnew hwritten hmaps hlists =>
      refine ⟨?_, hlists key hkey⟩
      rintro (hmap | hend)
      · exact hmaps key hkey hmap
      · exact absurd hend (hwritten key hkey)

theorem Statement.declaration_of_kind {v : Value} {kind : String} {form : Form} (h : Statement v)
    (hkind : StatesKind v (some kind)) (hform : kind ∈ form.kinds) : Declaration form v := by
  cases h with
  | declaration hmap hkind' hform' h =>
    cases hkind.unique hkind'
    cases (ofKind?_eq_some_iff.2 hform).symm.trans (ofKind?_eq_some_iff.2 hform')
    exact h
  | expression hmap hkind' hform' h =>
    cases hkind.unique hkind'
    exact absurd rfl (hform' form kind hform)

theorem noDeclaration_of_ofKind? {kind : String} (h : Form.ofKind? kind = none) :
    NoDeclaration (some kind) := by
  rintro form k hk ⟨⟩
  cases h.symm.trans (ofKind?_eq_some_iff.2 hk)

theorem passes_statement {v : Value} (hmap : v.kind = .map) :
    (∀ s ∈ statement v, s.action.Passes WellFormed) ↔ Statement v := by
  unfold statement
  cases hk : kindOf v with
  | error p =>
    refine iff_of_false not_passes_refuse fun h => ?_
    obtain ⟨kind, hkind⟩ := h.exists_kind
    cases hk.symm.trans (kindOf_eq_ok_iff.2 hkind)
  | ok kind =>
    have hkind := kindOf_eq_ok_iff.1 hk
    -- a kind of no declaration leaves the rule of its expressions
    have hexpression (hform : NoDeclaration kind) : Expression kind v ↔ Statement v :=
      ⟨.expression hmap hkind hform, fun h => h.expression_of_kind hkind hform⟩
    cases kind with
    | none =>
      rw [← hexpression fun _ _ _ h => nomatch h]
      exact passes_parts (fun h => nomatch h) (fun h => nomatch h)
    | some kind =>
      cases hf : Form.ofKind? kind with
      | some form =>
        have hform := ofKind?_eq_some_iff.1 hf
        simp only [hf, passes_declaration]
        exact ⟨.declaration hmap hkind hform, fun h => h.declaration_of_kind hkind hform⟩
      | none =>
        rw [← hexpression (noDeclaration_of_ofKind? hf)]
        simp only [hf]
        split
        · next hcall =>
          subst hcall
          exact passes_call
        · split
          · next hnew =>
            subst hnew
            exact passes_construction
          · next hcall hnew => exact passes_parts (by simpa using hcall) (by simpa using hnew)

theorem passes_importAction {P : Role → Value → Prop} {index : Nat} {v : Value} :
    (importAction index v).Passes P ↔ Named v := by
  rw [← importOf_isOk_iff]
  unfold importAction
  cases importOf v with
  | error p => simp [Action.Passes]
  | ok construct => simp [Action.Passes, emitFor]

theorem passes_unitActions {v : Value} (hmap : v.kind = .map) :
    (∀ a ∈ unitActions v, a.Passes WellFormed) ↔ WellFormedUnit v := by
  have hunit : WellFormedUnit v ↔ (∃ xs, v.Lists "imports" xs ∧ ∀ x ∈ xs, Named x)
      ∧ ∃ xs, v.Lists "declarations" xs ∧ ∀ x ∈ xs, Statement x :=
    ⟨fun h => ⟨h.imports, h.declarations⟩, fun h => ⟨hmap, h.1, h.2⟩⟩
  rw [unitActions, List.forall_mem_append, passes_visitEach, hunit]
  refine and_congr ?_ Iff.rfl
  simp only [← listOf_eq_ok_iff]
  cases listOf "imports" v with
  | error p => simp [Action.Passes]
  | ok xs =>
    simp only [Except.ok.injEq, exists_eq_left', List.forall_mem_iff_forall_getElem]
    simp [passes_importAction]

theorem WellFormed.isMap {role : Role} {v : Value} (h : WellFormed role v) : v.kind = .map := by
  cases role with
  | unit => exact WellFormedUnit.isMap h
  | statement => exact Statement.isMap h
  | parameter => exact h.1

/-- Everything that is to be done with a value can be done if and only if it is well formed. -/
theorem passes_outline {role : Role} {v : Value} :
    (∀ s ∈ outline role v, s.action.Passes WellFormed) ↔ WellFormed role v := by
  unfold outline
  by_cases hmap : v.kind = .map
  · rw [mapping_eq_ok hmap]
    cases role with
    | unit => exact passes_plainly.trans (passes_unitActions hmap)
    | statement => exact passes_statement hmap
    | parameter => exact passes_declaration.trans ⟨fun h => ⟨hmap, h⟩, fun h => h.2⟩
  · obtain ⟨p, hp⟩ := exists_mapping_eq_error hmap
    rw [hp]
    exact iff_of_false not_passes_refuse fun h => hmap h.isMap

/-! ### Walks -/

theorem Yield.fault_all : ∀ {ys : List Yield},
    (Yield.all ys).fault = none ↔ ∀ y ∈ ys, y.fault = none
  | [] => by simp
  | y :: ys => by
    have ih : (Yield.all ys).fault = none ↔ ∀ y ∈ ys, y.fault = none := Yield.fault_all
    rw [Yield.all_cons, List.forall_mem_cons, ← ih, Yield.andThen]
    cases hy : y.fault with
    | none => simp
    | some fault => simp [hy]

/-- A walk does not refuse if none of its steps does. -/
theorem fault_yieldOf (setting : Setting) (role : Role) (v : Value) :
    (Walker.yieldOf setting role v).fault = none
      ↔ ∀ s ∈ outline role v,
          s.action.Passes fun r part => (Walker.yieldOf setting r part).fault = none := by
  rw [Walker.yieldOf_eq, Yield.fault_all, List.forall_mem_map]
  refine forall₂_congr fun s _ => ?_
  rw [Walker.stepYield, Yield.inside]
  cases s.action with
  | emit line column construct => simp [Walker.actYield, Action.Passes]
  | refuse fault => simp [Walker.actYield, Action.Passes]
  | visit segment r part => simp [Walker.actYield, Action.Passes, Yield.below]

/-- A walk does not refuse if and only if the value is well formed. -/
theorem fault_yieldOf_iff (setting : Setting) (role : Role) (v : Value) :
    (Walker.yieldOf setting role v).fault = none ↔ WellFormed role v := by
  rw [fault_yieldOf, ← passes_outline]
  refine forall₂_congr fun s hs => ?_
  cases haction : s.action with
  | emit line column construct => rfl
  | refuse fault => rfl
  | visit segment r part =>
    have hlt := sizeOf_lt_of_visit hs haction
    exact fault_yieldOf_iff setting r part
termination_by sizeOf v

/-- A unit is read if it is well formed, and else is refused where its walk stops. -/
theorem unitOf_cases (markers : Markers) (document : String) (index : Nat) (raw : Value) :
    (WellFormedUnit raw ∧ ∃ unit, unitOf markers document index raw = .ok unit)
      ∨ (¬ WellFormedUnit raw
        ∧ ∃ fault, (Walker.yieldOf ⟨markers, unitFile document raw⟩ .unit raw).fault = some fault
          ∧ unitOf markers document index raw
            = .error (fault.below [.item "compilation_units" index])) := by
  have hwalk := fault_yieldOf_iff ⟨markers, unitFile document raw⟩ .unit raw
  simp only [unitOf, Walker.visit_eq_reap, Walker.reap]
  cases hfault : (Walker.yieldOf ⟨markers, unitFile document raw⟩ .unit raw).fault with
  | none => exact .inl ⟨hwalk.1 hfault, _, rfl⟩
  | some fault =>
    refine .inr ⟨fun h => ?_, fault, rfl, rfl⟩
    cases hfault.symm.trans (hwalk.2 h)

end BannedApi.Tree
