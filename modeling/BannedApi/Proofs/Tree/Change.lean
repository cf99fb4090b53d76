import BannedApi.Proofs.Tree.Ways

/-!
Changing a part of a tree, and what becomes of the outlines above it.

What is read of a mapping where it stands and what is visited from there are different fields. A
call looks a little further, at the face that each of its arguments shows. So when the part behind
one step is changed and keeps its face, the outline stays as it is but for the value that this very
step visits (`outline_change`).
-/
namespace BannedApi.Tree

open Value (AgreeOff)

/-- Change the part of a mapping that a step leads to. -/
def Segment.change : Segment → (Value → Value) → Value → Value
  | .field key, f => Value.changeField key f
  | .item key index, f => Value.changeField key (Value.changeItem index f)

theorem Segment.agreeOff_change {v : Value} (h : v.kind = .map) (s : Segment) (f : Value → Value) :
    AgreeOff [s.key] v (s.change f v) := by
  cases s with
  | field key => exact Value.agreeOff_changeField h key f
  | item key index => exact Value.agreeOff_changeField h key _

theorem Segment.not_mem_key {s : Segment} {key : String} (h : s.key ≠ key) : key ∉ [s.key] := by
  simpa using fun hk : key = s.key => h hk.symm

/-- Change what stands at the end of a way. -/
def changeAt (way : List Segment) (f : Value → Value) : Value → Value := way.foldr Segment.change f

@[simp] theorem changeAt_cons (s : Segment) (way : List Segment) (f : Value → Value) :
    changeAt (s :: way) f = s.change (changeAt way f) := rfl

/-! ### What is read of a mapping where it stands -/

/-- Two mappings that no enclosing mapping can tell apart: they agree off their annotations and the
parts in them. -/
def SameFace (x y : Value) : Prop := AgreeOff ("annotations" :: walkedKeys) x y

section Reading

variable {keys : List String} {x y : Value}

theorem mapping_eq_ok {v : Value} (h : v.kind = .map) : mapping v = .ok v := by
  rw [mapping, if_pos ((Value.isSome_entries? v).2 h)]

/-- What is no mapping, or not written out, is refused. -/
theorem exists_mapping_eq_error {v : Value} (h : v.kind ≠ .map) : ∃ p, mapping v = .error p := by
  rw [mapping, if_neg fun hsome => h ((Value.isSome_entries? v).1 hsome)]
  split
  · exact ⟨_, rfl⟩
  · exact ⟨_, rfl⟩

theorem kindOf_eq (h : AgreeOff keys x y) (hk : "kind" ∉ keys) : kindOf y = kindOf x := by
  rw [kindOf, kindOf, h.field _ hk]

theorem listOf_eq (h : AgreeOff keys x y) {key : String} (hk : key ∉ keys) :
    listOf key y = listOf key x := by
  rw [listOf, listOf, h.field _ hk]

theorem annotationsOf_eq (h : AgreeOff keys x y) (hk : "annotations" ∉ keys) :
    annotationsOf y = annotationsOf x := by
  rw [annotationsOf, annotationsOf, listOf_eq h hk]

theorem declarationName_eq (h : AgreeOff keys x y) (hk : "name" ∉ keys) (kind : String) :
    declarationName kind y = declarationName kind x := by
  rw [declarationName, declarationName, h.field _ hk]

theorem emitFor_eq (h : AgreeOff keys x y) (hline : "line" ∉ keys) (hcolumn : "column" ∉ keys)
    (construct : Construct) : emitFor y construct = emitFor x construct := by
  rw [emitFor, emitFor, h.field _ hline, h.field _ hcolumn]

theorem constructionOf_eq (h : AgreeOff keys x y) (hc : "constructor" ∉ keys) (ht : "type" ∉ keys) :
    constructionOf y = constructionOf x := by
  rw [constructionOf, constructionOf, h.field _ hc, h.field _ ht]

theorem visitEach_eq (h : AgreeOff keys x y) {key : String} (hk : key ∉ keys) (role : Role) :
    visitEach role key y = visitEach role key x := by
  rw [visitEach, visitEach, listOf_eq h hk]

theorem visitField_eq (h : AgreeOff keys x y) {key : String} (hk : key ∉ keys) :
    visitField key y = visitField key x := by
  rw [visitField, visitField, h.field _ hk]

theorem visitParts_eq (h : AgreeOff keys x y) {key : String} (hk : key ∉ keys) :
    visitParts key y = visitParts key x := by
  rw [visitParts, visitParts, h.field _ hk, visitField_eq h hk, visitEach_eq h hk]

/-- A call sees the face of an argument and nothing else of it. -/
theorem argumentOf_eq (h : SameFace x y) : argumentOf y = argumentOf x := by
  have hsymbol : argumentSymbol y = argumentSymbol x := by
    rw [argumentSymbol, argumentSymbol, kindOf_eq h (by decide), h.field "symbol" (by decide),
      h.field "method" (by decide), h.field "constructor" (by decide)]
  rw [argumentOf, argumentOf, mapping_eq_ok h.left, mapping_eq_ok h.right]
  show (argumentSymbol y >>= _) = (argumentSymbol x >>= _)
  rw [hsymbol, h.field "type" (by decide)]

end Reading

/-! ### Outlines above a change -/

/-- The action with the part behind a step changed. -/
def Action.change (s : Segment) (f : Value → Value) : Action → Action
  | .visit t role part => .visit t role (if t = s then f part else part)
  | a => a

/-- The step with the part behind it changed. -/
def Step.change (s : Segment) (f : Value → Value) (step : Step) : Step :=
  ⟨step.inside, step.action.change s f⟩

theorem Action.change_of_ne {s : Segment} {f : Value → Value} {a : Action}
    (h : a.segment? ≠ some s) : a.change s f = a := by
  cases a with
  | visit t role part =>
    have hts : ¬ t = s := fun hts => h (congrArg some hts)
    rw [Action.change, if_neg hts]
  | emit line column construct => rfl
  | refuse fault => rfl

theorem map_change_of_not_mem {s : Segment} {f : Value → Value} {as : List Action}
    (h : s ∉ segments as) : as.map (Action.change s f) = as := by
  refine (List.map_congr_left fun a ha => ?_).trans (List.map_id as)
  refine Action.change_of_ne fun hs => h ?_
  exact List.mem_filterMap.2 ⟨a, ha, hs⟩

theorem map_change_of_not_mem_ways {s : Segment} {f : Value → Value} {steps : List Step}
    (h : s ∉ ways steps) : steps.map (Step.change s f) = steps := by
  refine (List.map_congr_left fun step hstep => ?_).trans (List.map_id steps)
  rw [Step.change, Action.change_of_ne fun hs => h ?_]
  · rfl
  · exact List.mem_filterMap.2 ⟨step.action, List.mem_map_of_mem hstep, hs⟩

@[simp] theorem map_change_plainly (s : Segment) (f : Value → Value) (as : List Action) :
    (plainly as).map (Step.change s f) = plainly (as.map (Action.change s f)) := by
  simp [plainly, Step.change, Function.comp_def]

@[simp] theorem map_change_inside (s : Segment) (f : Value → Value) (opening : Opening)
    (as : List Action) :
    (inside opening as).map (Step.change s f) = inside opening (as.map (Action.change s f)) := by
  simp [inside, Step.change, Function.comp_def]

section Changing

variable {s : Segment} {f : Value → Value} {v : Value}

theorem listOf_changeItem (key : String) (index : Nat) (f : Value → Value) (v : Value) :
    listOf key (v.changeField key (Value.changeItem index f))
      = (listOf key v).map (·.modify index f) := by
  have hfield : (v.changeField key (Value.changeItem index f)).field key
      = (v.field key).changeItem index f := by
    rw [Value.field, Value.field, Value.field?_changeField, if_pos rfl]
    cases v.field? key <;> rfl
  rw [listOf, listOf, hfield, Value.isNull_changeItem, Value.items?_changeItem]
  split
  · simp [Except.map]
  · cases (v.field key).items? <;> simp [Except.map]

theorem mapIdx_modify_visit (key : String) (role : Role) (index : Nat) (f : Value → Value)
    (xs : List Value) :
    (xs.modify index f).mapIdx (fun i x => Action.visit (.item key i) role x)
      = (xs.mapIdx fun i x => Action.visit (.item key i) role x).map
          (Action.change (.item key index) f) := by
  refine List.ext_getElem? fun i => ?_
  rw [List.getElem?_mapIdx, List.getElem?_modify, List.getElem?_map, List.getElem?_mapIdx]
  cases xs[i]? with
  | none => rfl
  | some x =>
    by_cases hi : index = i
    · simp [Action.change, hi]
    · have hi' : ¬ i = index := fun h => hi h.symm
      simp [Action.change, hi, hi']

/-- A field of parts, when the part behind a step is changed: either the step goes through this
field and then it is one of its own ways, or the field stays as it is. -/
theorem visitEach_change (hv : v.kind = .map) (role : Role) (key : String)
    (h : s.key = key → s ∈ segments (visitEach role key v)) :
    visitEach role key (s.change f v) = (visitEach role key v).map (Action.change s f) := by
  by_cases hkey : s.key = key
  · obtain ⟨i, rfl⟩ := mem_segments_visitEach (h hkey)
    rw [visitEach, visitEach, Segment.change, listOf_changeItem]
    cases listOf key v with
    | error p => rfl
    | ok xs => exact mapIdx_modify_visit key role i f xs
  · rw [visitEach_eq (Segment.agreeOff_change hv s f) (Segment.not_mem_key hkey),
      map_change_of_not_mem]
    exact fun hs => hkey (key_of_mem_visitEach hs)

theorem visitField_change (hv : v.kind = .map) (key : String)
    (hface : ∀ part, s.part? v = some part → SameFace part (f part))
    (h : s.key = key → s ∈ segments (visitField key v)) :
    visitField key (s.change f v) = (visitField key v).map (Action.change s f) := by
  by_cases hkey : s.key = key
  · obtain ⟨rfl, hnull⟩ := mem_segments_visitField (h hkey)
    have hpart := field?_of_not_null hnull
    have hnew := Value.field_changeField hpart f
    have hnull' : (f (v.field key)).isNull = false :=
      Value.isNull_of_kind (by rw [(hface _ hpart).right]; decide)
    simp [visitField, Segment.change, hnew, hnull, hnull', Action.change]
  · rw [visitField_eq (Segment.agreeOff_change hv s f) (Segment.not_mem_key hkey),
      map_change_of_not_mem]
    exact fun hs => hkey (key_of_mem_visitField hs)

theorem visitParts_change (hv : v.kind = .map) (key : String)
    (hface : ∀ part, s.part? v = some part → SameFace part (f part))
    (h : s.key = key → s ∈ segments (visitParts key v)) :
    visitParts key (s.change f v) = (visitParts key v).map (Action.change s f) := by
  by_cases hkey : s.key = key
  · have hmem := h hkey
    rcases mem_segments_visitParts hmem with ⟨hnull, rfl⟩ | ⟨hkind, i, rfl⟩
    · have hpart := field?_of_not_null hnull
      have hkind := (hface _ hpart).left
      have hkind' : ((Segment.change (.field key) f v).field key).kind = .map := by
        rw [Segment.change, Value.field_changeField hpart]
        exact (hface _ hpart).right
      unfold visitParts at hmem ⊢
      simp only [hkind, hkind'] at hmem ⊢
      exact visitField_change hv key hface fun _ => hmem
    · have hpart := field?_of_not_null (Value.isNull_of_kind (by rw [hkind]; decide))
      have hkind' : ((Segment.change (.item key i) f v).field key).kind = .list := by
        rw [Segment.change, Value.field_changeField hpart, Value.kind_changeItem, hkind]
      unfold visitParts at hmem ⊢
      simp only [hkind, hkind'] at hmem ⊢
      exact visitEach_change hv .statement key fun _ => hmem
  · rw [visitParts_eq (Segment.agreeOff_change hv s f) (Segment.not_mem_key hkey),
      map_change_of_not_mem]
    exact fun hs => hkey (key_of_mem_visitParts hs)

/-- A mapping with a part changed reads as before wherever it stands. -/
theorem agreeOff_walked (hv : v.kind = .map) (hs : s.key ∈ walkedKeys) :
    AgreeOff walkedKeys v (s.change f v) :=
  (Segment.agreeOff_change hv s f).mono fun key hkey => by
    rw [List.mem_singleton.1 hkey]
    exact hs

theorem emitFor_change (hv : v.kind = .map) (hs : s.key ∈ walkedKeys) (construct : Construct) :
    emitFor (s.change f v) construct = emitFor v construct :=
  emitFor_eq (agreeOff_walked hv hs) (by decide) (by decide) construct

theorem bodyOf_change (hv : v.kind = .map) (hs : s.key ∈ walkedKeys) (form : Form) (name : String)
    (hface : ∀ part, s.part? v = some part → SameFace part (f part))
    (h : s ∈ segments (bodyOf form name v)) :
    bodyOf form name (s.change f v) = (bodyOf form name v).map (Action.change s f) := by
  cases form with
  | classLike => exact visitEach_change hv .statement "members" fun _ => h
  | methodLike =>
    simp only [bodyOf, List.cons_append, segments_emitFor, segments_append, List.mem_append] at h
    have hread := agreeOff_walked (f := f) hv hs
    have hparams := visitEach_change (f := f) hv .parameter "parameters" fun hk =>
      h.resolve_right fun hb => absurd (hk.symm.trans (key_of_mem_visitEach hb)) (by decide)
    have hbody := visitEach_change (f := f) hv .statement "body" fun hk =>
      h.resolve_left fun hp => absurd (hk.symm.trans (key_of_mem_visitEach hp)) (by decide)
    simp only [bodyOf, List.cons_append, List.map_cons, List.map_append]
    rw [hparams, hbody, emitFor_change hv hs, hread.field "return_type" (by decide),
      hread.field? "resolved" (by decide)]
    rfl
  | variableLike =>
    simp only [bodyOf, segments_emitFor] at h
    have hread := agreeOff_walked (f := f) hv hs
    simp only [bodyOf, List.map_cons]
    rw [visitField_change hv "initializer" hface fun _ => h, emitFor_change hv hs,
      hread.field "type" (by decide)]
    rfl

theorem declaration_change (hv : v.kind = .map) (hs : s.key ∈ walkedKeys) (form : Form)
    (kind : String) (hface : ∀ part, s.part? v = some part → SameFace part (f part))
    (h : s ∈ ways (declaration form kind v)) :
    declaration form kind (s.change f v) = (declaration form kind v).map (Step.change s f) := by
  unfold declaration at h
  split at h
  · simp at h
  · next name hname =>
    split at h
    · simp at h
    · next notes hnotes =>
      rw [ways_inside] at h
      have hread := agreeOff_walked (f := f) hv hs
      rw [declaration, declaration, declarationName_eq hread (by decide), hname,
        annotationsOf_eq hread (by decide), hnotes]
      simp only [map_change_inside]
      rw [bodyOf_change hv hs form name hface h]

/-- The arguments of a call read as before when one of them is changed and keeps its face. -/
theorem eachFrom_modify {α : Type} (read : Value → Except Problem α) (way : Nat → List Segment)
    (f : Value → Value) : ∀ (xs : List Value) (index start : Nat),
      (∀ x, xs[index]? = some x → read (f x) = read x) →
      eachFrom read way start (xs.modify index f) = eachFrom read way start xs
  | [], _, _, _ => by simp
  | x :: xs, 0, start, h => by
    rw [List.modify_zero_cons, eachFrom, eachFrom, h x rfl]
  | x :: xs, index + 1, start, h => by
    rw [List.modify_succ_cons, eachFrom, eachFrom,
      eachFrom_modify read way f xs index (start + 1) h]

theorem callOf_change (hv : v.kind = .map) (hs : s.key ∈ walkedKeys)
    (hface : ∀ part, s.part? v = some part → SameFace part (f part))
    (h : s.key = "arguments" → s ∈ segments (visitEach .statement "arguments" v)) :
    callOf (s.change f v) = callOf v := by
  have hread := agreeOff_walked (f := f) hv hs
  have harguments : each argumentOf (fun i => [.item "arguments" i]) "arguments" (s.change f v)
      = each argumentOf (fun i => [.item "arguments" i]) "arguments" v := by
    by_cases hkey : s.key = "arguments"
    · obtain ⟨i, rfl⟩ := mem_segments_visitEach (h hkey)
      rw [each, each, Segment.change, listOf_changeItem]
      cases hlist : listOf "arguments" v with
      | error p => rfl
      | ok xs =>
        refine eachFrom_modify argumentOf _ f xs i 0 fun x hx => ?_
        exact argumentOf_eq (hface x (listOf_eq_ok hlist hx))
    · rw [each, each, listOf_eq (Segment.agreeOff_change hv s f) (Segment.not_mem_key hkey)]
  rw [callOf, callOf, harguments, hread.field "method" (by decide),
    hread.field "receiver_type" (by decide), hread.field "type" (by decide)]

theorem call_change (hv : v.kind = .map) (hs : s.key ∈ walkedKeys)
    (hface : ∀ part, s.part? v = some part → SameFace part (f part)) (h : s ∈ ways (call v)) :
    call (s.change f v) = (call v).map (Step.change s f) := by
  unfold call at h
  split at h
  · simp at h
  · next construct hcall =>
    simp only [ways_plainly, List.cons_append, segments_emitFor, segments_append,
      List.mem_append] at h
    have hargs : s.key = "arguments" → s ∈ segments (visitEach .statement "arguments" v) :=
      fun hk => h.resolve_left fun hr =>
        absurd (hk.symm.trans (key_of_mem_visitField hr)) (by decide)
    have hreceiver : s.key = "receiver" → s ∈ segments (visitField "receiver" v) :=
      fun hk => h.resolve_right fun ha =>
        absurd (hk.symm.trans (key_of_mem_visitEach ha)) (by decide)
    rw [call, call, callOf_change hv hs hface hargs, hcall]
    simp only [map_change_plainly, List.cons_append, List.map_cons, List.map_append]
    rw [visitField_change hv "receiver" hface hreceiver,
      visitEach_change hv .statement "arguments" hargs, emitFor_change hv hs]
    rfl

theorem anonymousBody_change (hv : v.kind = .map) (hs : s.key ∈ walkedKeys)
    (h : s.key = "body" → s ∈ ways (anonymousBody v)) :
    anonymousBody (s.change f v) = (anonymousBody v).map (Step.change s f) := by
  have hread := agreeOff_walked (f := f) hv hs
  have hnotes := annotationsOf_eq hread (by decide)
  by_cases hkey : s.key = "body"
  · have hmem := h hkey
    unfold anonymousBody at hmem
    split at hmem
    · simp at hmem
    · cases hmem
    · next xs hne hlist =>
      split at hmem
      · simp at hmem
      · next notes hold =>
        rw [ways_inside] at hmem
        obtain ⟨i, rfl⟩ := mem_segments_visitEach hmem
        have hlist' : listOf "body" (Segment.change (.item "body" i) f v)
            = .ok (xs.modify i f) := by
          rw [Segment.change, listOf_changeItem, hlist]
          rfl
        -- a list keeps its length, so the body is still there
        have hne' : xs.modify i f ≠ [] := by
          intro hnil
          have hlen := congrArg List.length hnil
          rw [List.length_modify, List.length_nil, List.length_eq_zero_iff] at hlen
          exact hne hlen
        have hvisit := visitEach_change (f := f) hv .statement "body" fun _ => hmem
        obtain ⟨x, xs, rfl⟩ := List.exists_cons_of_ne_nil hne
        obtain ⟨y, ys, hy⟩ := List.exists_cons_of_ne_nil hne'
        simp only [anonymousBody, hlist', hy, hlist, hnotes, hold, hvisit, map_change_inside]
  · have hne := Segment.not_mem_key hkey
    have hlist := listOf_eq (Segment.agreeOff_change hv s f) hne
    have hbody : anonymousBody (s.change f v) = anonymousBody v := by
      rw [anonymousBody, anonymousBody, hlist, hnotes,
        visitEach_eq (Segment.agreeOff_change hv s f) hne]
    rw [hbody, map_change_of_not_mem_ways]
    exact fun hs => hkey (key_of_mem_anonymousBody hs)

theorem construction_change (hv : v.kind = .map) (hs : s.key ∈ walkedKeys)
    (h : s ∈ ways (construction v)) :
    construction (s.change f v) = (construction v).map (Step.change s f) := by
  unfold construction at h
  split at h
  · simp at h
  · next construct hnew =>
    simp only [ways_append, ways_plainly, segments_emitFor, List.mem_append] at h
    have hread := agreeOff_walked (f := f) hv hs
    have hargs : s.key = "arguments" → s ∈ segments (visitEach .statement "arguments" v) :=
      fun hk => h.resolve_right fun hb =>
        absurd (hk.symm.trans (key_of_mem_anonymousBody hb)) (by decide)
    have hbody : s.key = "body" → s ∈ ways (anonymousBody v) :=
      fun hk => h.resolve_left fun ha =>
        absurd (hk.symm.trans (key_of_mem_visitEach ha)) (by decide)
    rw [construction, construction, constructionOf_eq hread (by decide) (by decide), hnew]
    simp only [List.map_append, map_change_plainly, List.map_cons]
    rw [visitEach_change hv .statement "arguments" hargs, anonymousBody_change hv hs hbody,
      emitFor_change hv hs]
    rfl

theorem parts_change (hv : v.kind = .map)
    (hface : ∀ part, s.part? v = some part → SameFace part (f part))
    (h : s ∈ segments (partKeys.flatMap fun key => visitParts key v)) :
    (partKeys.flatMap fun key => visitParts key (s.change f v))
      = (partKeys.flatMap fun key => visitParts key v).map (Action.change s f) := by
  rw [segments, List.filterMap_flatMap, List.mem_flatMap] at h
  obtain ⟨k, -, hk⟩ := h
  rw [List.map_flatMap]
  refine List.flatMap_congr fun key _ => visitParts_change hv key hface fun hkey => ?_
  rw [← hkey, key_of_mem_visitParts hk]
  exact hk

theorem statement_change (hv : v.kind = .map) (hs : s.key ∈ walkedKeys)
    (hface : ∀ part, s.part? v = some part → SameFace part (f part)) (h : s ∈ ways (statement v)) :
    statement (s.change f v) = (statement v).map (Step.change s f) := by
  have hkind := kindOf_eq (agreeOff_walked (f := f) hv hs) (by decide)
  unfold statement at h ⊢
  rw [hkind]
  cases hk : kindOf v with
  | error p => simp [hk] at h
  | ok kind? =>
    cases kind? with
    | none =>
      simp only [hk, ways_plainly] at h
      simp only [map_change_plainly, parts_change hv hface h]
    | some kind =>
      simp only [hk] at h ⊢
      cases hform : Form.ofKind? kind with
      | some form =>
        simp only [hform] at h ⊢
        exact declaration_change hv hs form kind hface h
      | none =>
        simp only [hform] at h ⊢
        by_cases hcall : kind = "call"
        · rw [if_pos hcall] at h ⊢
          rw [if_pos hcall]
          exact call_change hv hs hface h
        · rw [if_neg hcall] at h ⊢
          rw [if_neg hcall]
          by_cases hnew : kind = "new"
          · rw [if_pos hnew] at h ⊢
            rw [if_pos hnew]
            exact construction_change hv hs h
          · rw [if_neg hnew, ways_plainly] at h
            rw [if_neg hnew, if_neg hnew, map_change_plainly, parts_change hv hface h]

theorem map_change_imports (xs : List Value) :
    (xs.mapIdx importAction).map (Action.change s f) = xs.mapIdx importAction := by
  refine map_change_of_not_mem ?_
  rw [segments_imports]
  exact List.not_mem_nil

theorem unitActions_change (hv : v.kind = .map) (hs : s.key ∈ walkedKeys)
    (h : s ∈ segments (unitActions v)) :
    unitActions (s.change f v) = (unitActions v).map (Action.change s f) := by
  rw [segments_unitActions] at h
  have hread := agreeOff_walked (f := f) hv hs
  rw [unitActions, unitActions, List.map_append, listOf_eq hread (by decide),
    visitEach_change hv .statement "declarations" fun _ => h]
  congr 1
  split
  · rfl
  · exact (map_change_imports _).symm

end Changing

/-- When the part behind a step of an outline is changed and keeps its face, the outline stays as it
is but for the value that this step visits. -/
theorem outline_change {role : Role} {v : Value} {s : Segment} {f : Value → Value}
    (hface : ∀ part, s.part? v = some part → SameFace part (f part))
    (h : s ∈ ways (outline role v)) :
    outline role (s.change f v) = (outline role v).map (Step.change s f) := by
  have hs := key_of_mem_outline h
  by_cases hv : v.kind = .map
  · have hv' := (Segment.agreeOff_change hv s f).right
    rw [outline, mapping_eq_ok hv] at h
    rw [outline, outline, mapping_eq_ok hv, mapping_eq_ok hv']
    cases role with
    | unit =>
      simp only [ways_plainly] at h
      simp only [map_change_plainly, unitActions_change hv hs h]
    | statement => exact statement_change hv hs hface h
    | parameter => exact declaration_change hv hs .variableLike "parameter" hface h
  · obtain ⟨p, hp⟩ := exists_mapping_eq_error hv
    simp [outline, hp] at h

end BannedApi.Tree
