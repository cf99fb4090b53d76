import BannedApi.Proofs.Tree.Flaw
import BannedApi.Tree.Document

/-!
Where a refusal points.

Every refusal in the outline of a value says why reading stops at the value, or at an entry that is
read from it (`told_outline`). So by induction over the parts the way that a walk comes back with ends
at the value where it stops (`blames_yieldOf`). If the walk would not go on without end, this value
has a flaw, and the words of the way lead there from the top of the document
(`refusal_points_at_flaw`).
-/
namespace BannedApi.Tree

open Value (isNull_iff)
open Outcome (bind_eq_error mapError_eq_error)

/-! ### One mapping at a time -/

/-- A refusal at a mapping: it says why reading stops at the mapping, or at an entry that is read from
it. -/
inductive Blames (role : Role) (v : Value) : Malformed → Prop
  | here {p : Problem} (h : Stops (.walked role) v p) : Blames role v (.here p)
  | entry {shape : Shape} {more : List Segment} {use : Use} {w : Value} {p : Problem}
      (hmap : v.kind = .map) (hshape : Shaped role v shape) (hreads : shape.Reads more use)
      (hw : at? more v = some w) (h : Stops use w p) : Blames role v ⟨more, p⟩

/-- A refusal says why reading stops, and what is visited is read from the mapping. -/
def Action.Told (role : Role) (v : Value) : Action → Prop
  | .emit .. => True
  | .refuse m => Blames role v m
  | .visit s r part => v.kind = .map
      ∧ ∃ shape, Shaped role v shape ∧ shape.Reads [s] (.walked r) ∧ s.part? v = some part

theorem field?_of_ne_null {key : String} {v : Value} (h : v.field key ≠ .null) :
    v.field? key = some (v.field key) :=
  field?_of_not_null (Bool.eq_false_iff.2 fun hnull => h (isNull_iff.1 hnull))

section Told

variable {role : Role} {v : Value} {shape : Shape}

theorem told_refuse {m : Malformed} (h : Blames role v m) :
    ∀ s ∈ plainly [.refuse m], s.action.Told role v :=
  Everywhere.plainly fun _ ha => List.mem_singleton.1 ha ▸ h

theorem told_visitEach {r : Role} {key : String} (hmap : v.kind = .map)
    (hshape : Shaped role v shape) (hkey : key ∈ shape.listKeys ∨ ∃ xs, v.Lists key xs)
    (hreads : ∀ i, shape.Reads [.item key i] (.walked r)) :
    ∀ a ∈ visitEach r key v, a.Told role v := by
  intro a ha
  unfold visitEach at ha
  split at ha
  · next hlist =>
    obtain ⟨rfl, hnone⟩ := listOf_eq_error hlist
    rw [List.mem_singleton.1 ha]
    rcases hkey with hkey | ⟨xs, hxs⟩
    · exact .here (.flaw (.list hmap hshape hkey hnone))
    · exact absurd hxs (hnone xs)
  · next xs hlist =>
    obtain ⟨i, hi, rfl⟩ := List.mem_mapIdx.1 ha
    exact ⟨hmap, shape, hshape, hreads i, listOf_eq_ok hlist (List.getElem?_eq_getElem hi)⟩

theorem told_visitField {key : String} (hmap : v.kind = .map) (hshape : Shaped role v shape)
    (hreads : shape.Reads [.field key] (.walked .statement)) :
    ∀ a ∈ visitField key v, a.Told role v := by
  intro a ha
  simp only [visitField] at ha
  split at ha
  · cases ha
  · next hnull =>
    rw [List.mem_singleton.1 ha]
    exact ⟨hmap, shape, hshape, hreads, field?_of_not_null (by simpa using hnull)⟩

theorem blames_annotations {m : Malformed} (hmap : v.kind = .map) (hshape : Shaped role v shape)
    (hkey : "annotations" ∈ shape.listKeys)
    (hreads : ∀ i, shape.Reads [.item "annotations" i] .note)
    (h : annotationsOf v = .error m) : Blames role v m := by
  rcases annotationsOf_eq_error h with ⟨rfl, hnone⟩ | ⟨i, x, hx, hflaw, rfl⟩
  · exact .here (.flaw (.list hmap hshape hkey hnone))
  · exact .entry hmap hshape (hreads i) ((at?_singleton _ v).trans hx) (.flaw hflaw)

theorem told_bodyOf {form : Form} {name : String} (hmap : v.kind = .map)
    (hshape : Shaped role v (.declaration form)) : ∀ a ∈ bodyOf form name v, a.Told role v := by
  intro a ha
  cases form with
  | classLike => exact told_visitEach hmap hshape (.inl (by decide)) .members a ha
  | methodLike =>
    simp only [bodyOf, List.cons_append, List.mem_cons, List.mem_append] at ha
    rcases ha with rfl | ha | ha
    · trivial
    · exact told_visitEach hmap hshape (.inl (by decide)) .parameters a ha
    · exact told_visitEach hmap hshape (.inl (by decide)) .body a ha
  | variableLike =>
    simp only [bodyOf, List.mem_cons] at ha
    rcases ha with rfl | ha
    · trivial
    · exact told_visitField hmap hshape .initializer a ha

theorem told_declaration {form : Form} {kind : String} (hmap : v.kind = .map)
    (hshape : Shaped role v (.declaration form)) :
    ∀ s ∈ declaration form kind v, s.action.Told role v := by
  have hkey : "annotations" ∈ (Shape.declaration form).listKeys := by cases form <;> decide
  unfold declaration
  split
  · next hname =>
    obtain ⟨htruthy, htext, rfl⟩ := declarationName_eq_error hname
    exact told_refuse (.here (.flaw (.name hmap hshape htruthy htext)))
  · split
    · next hnotes =>
      exact told_refuse (blames_annotations hmap hshape hkey (.annotations form) hnotes)
    · exact Everywhere.inside (told_bodyOf hmap hshape)

theorem blames_callOf {m : Malformed} (hmap : v.kind = .map)
    (hshape : Shaped role v (.expression (some "call"))) (h : callOf v = .error m) :
    Blames role v m := by
  rcases bind_eq_error.1 h with hfault | ⟨arguments, -, hrest⟩
  · rcases each_eq_error hfault with ⟨rfl, hnone⟩ | ⟨i, x, p, hx, hp, rfl⟩
    · exact .here (.flaw (.list hmap hshape (by decide) hnone))
    · exact .entry hmap hshape (.argument i) ((at?_singleton _ v).trans hx) (argumentOf_eq_error hp)
  · rcases bind_eq_error.1 hrest with hfault | ⟨method, -, hdone⟩
    · obtain ⟨p, hp, rfl⟩ := mapError_eq_error.1 hfault
      rcases symbolOf_eq_error hp with hbad | ⟨hend, rfl⟩
      · exact .here (.flaw (.method hmap hshape hbad))
      · exact .here (.symbol hend)
    · cases hdone

theorem told_call (hmap : v.kind = .map) (hshape : Shaped role v (.expression (some "call"))) :
    ∀ s ∈ call v, s.action.Told role v := by
  unfold call
  split
  · next hcall => exact told_refuse (blames_callOf hmap hshape hcall)
  · refine Everywhere.plainly fun a ha => ?_
    simp only [List.cons_append, List.mem_cons, List.mem_append] at ha
    rcases ha with rfl | ha | ha
    · trivial
    · exact told_visitField hmap hshape .receiver a ha
    · exact told_visitEach hmap hshape (.inl (by decide)) (.passed (.inl rfl)) a ha

/-- A parameter of a constructor stands two steps further down. -/
theorem at?_constructor {i : Nat} {x : Value}
    (h : Segment.part? (.item "parameters" i) (v.field "constructor") = some x) :
    at? [.field "constructor", .item "parameters" i] v = some x := by
  have hne : v.field "constructor" ≠ .null := by
    intro hnull
    rw [hnull] at h
    cases h
  rw [at?, Segment.part?, field?_of_ne_null hne, Option.bind_some, at?_singleton, h]

theorem blames_constructionOf {m : Malformed} (hmap : v.kind = .map)
    (hshape : Shaped role v (.expression (some "new"))) (h : constructionOf v = .error m) :
    Blames role v m := by
  rcases bind_eq_error.1 h with hfault | ⟨symbol, -, hrest⟩
  · obtain ⟨p, hp, rfl⟩ := mapError_eq_error.1 hfault
    rcases symbolOf_eq_error hp with hbad | ⟨hend, rfl⟩
    · exact .here (.flaw (.construction hmap hshape hbad))
    · exact .here (.symbol hend)
  · rcases bind_eq_error.1 hrest with hfault | ⟨parameters, -, hdone⟩
    · rcases each_eq_error hfault with ⟨rfl, hnone⟩ | ⟨i, x, p, hx, hp, rfl⟩
      · exact .here (.flaw (.parameters hmap hshape hnone))
      · exact .entry hmap hshape (.constructed i) (at?_constructor hx) (parameterOf_eq_error hp)
    · cases hdone

theorem told_anonymousBody (hmap : v.kind = .map) (hkind : StatesKind v (some "new")) :
    ∀ s ∈ anonymousBody v, s.action.Told .statement v := by
  unfold anonymousBody
  split
  · next hlist =>
    obtain ⟨rfl, hnone⟩ := listOf_eq_error hlist
    have hshape : Shaped .statement v (.expression (some "new")) :=
      .expression hkind noDeclaration_new
    exact told_refuse (.here (.flaw (.list hmap hshape (by decide) hnone)))
  · exact fun s hs => absurd hs List.not_mem_nil
  · next body hbody hlist =>
    have hlists := listOf_eq_ok_iff.1 hlist
    have hshape : Shaped .statement v .anonymous := .anonymous hkind hlists fun h => hbody (h ▸ rfl)
    split
    · next hnotes =>
      exact told_refuse
        (blames_annotations hmap hshape (by decide) .anonymousAnnotations hnotes)
    · exact Everywhere.inside (told_visitEach hmap hshape (.inr ⟨body, hlists⟩) .anonymousBody)

theorem told_construction (hmap : v.kind = .map) (hkind : StatesKind v (some "new")) :
    ∀ s ∈ construction v, s.action.Told .statement v := by
  have hshape : Shaped .statement v (.expression (some "new")) :=
    .expression hkind noDeclaration_new
  unfold construction
  split
  · next hnew => exact told_refuse (blames_constructionOf hmap hshape hnew)
  · intro s hs
    rcases List.mem_append.1 hs with hs | hs
    · refine Everywhere.plainly (fun a ha => ?_) s hs
      rcases List.mem_cons.1 ha with rfl | ha
      · trivial
      · exact told_visitEach hmap hshape (.inl (by decide)) (.passed (.inr rfl)) a ha
    · exact told_anonymousBody hmap hkind s hs

theorem told_parts {kind : Option String} (hmap : v.kind = .map)
    (hshape : Shaped role v (.expression kind)) (hcall : kind ≠ some "call")
    (hnew : kind ≠ some "new") :
    ∀ s ∈ plainly (partKeys.flatMap fun key => visitParts key v), s.action.Told role v := by
  refine Everywhere.plainly fun a ha => ?_
  obtain ⟨key, hkey, ha⟩ := List.mem_flatMap.1 ha
  unfold visitParts at ha
  split at ha
  · exact told_visitField hmap hshape (.part hcall hnew hkey) a ha
  · exact told_visitField hmap hshape (.part hcall hnew hkey) a ha
  · next hlist =>
    obtain ⟨xs, hxs⟩ := Option.isSome_iff_exists.1 ((Value.isSome_items? _).2 hlist)
    exact told_visitEach hmap hshape (.inr ⟨xs, .inr hxs⟩) (fun i => .part hcall hnew hkey) a ha
  · cases ha

theorem told_statement (hmap : v.kind = .map) :
    ∀ s ∈ statement v, s.action.Told .statement v := by
  unfold statement
  split
  · next hkind =>
    obtain ⟨rfl, hnone⟩ := kindOf_eq_error hkind
    exact told_refuse (.here (.flaw (.kind (.inl rfl) hmap hnone)))
  · next hkind =>
    have hshape : Shaped .statement v (.expression none) :=
      .expression (kindOf_eq_ok_iff.1 hkind) fun _ _ _ h => by cases h
    exact told_parts hmap hshape (by decide) (by decide)
  · next kind hkind =>
    have hstated := kindOf_eq_ok_iff.1 hkind
    split
    · next form hform =>
      exact told_declaration hmap (.declaration hstated (ofKind?_eq_some_iff.1 hform))
    · next hform =>
      have hshape : Shaped .statement v (.expression (some kind)) :=
        .expression hstated (noDeclaration_of_ofKind? hform)
      split
      · next hcall =>
        subst hcall
        exact told_call hmap hshape
      · split
        · next hnew =>
          subst hnew
          exact told_construction hmap hstated
        · next hcall hnew =>
          exact told_parts hmap hshape (by simpa using hcall) (by simpa using hnew)

theorem told_unitActions (hmap : v.kind = .map) : ∀ a ∈ unitActions v, a.Told .unit v := by
  intro a ha
  rcases List.mem_append.1 ha with ha | ha
  · split at ha
    · next hlist =>
      obtain ⟨rfl, hnone⟩ := listOf_eq_error hlist
      rw [List.mem_singleton.1 ha]
      exact .here (.flaw (.list hmap .unit (by decide) hnone))
    · next xs hlist =>
      obtain ⟨i, hi, rfl⟩ := List.mem_mapIdx.1 ha
      unfold importAction
      split
      · next p hp =>
        have hx := listOf_eq_ok hlist (List.getElem?_eq_getElem hi)
        exact .entry hmap .unit (.imports i) ((at?_singleton _ v).trans hx) (importOf_eq_error hp)
      · trivial
  · exact told_visitEach hmap .unit (.inl (by decide)) .declarations a ha

end Told

/-- Every refusal of an outline says why reading stops at the value or at an entry that is read from
it, and every part that is visited is read from it. -/
theorem told_outline {role : Role} {v : Value} :
    ∀ s ∈ outline role v, s.action.Told role v := by
  unfold outline
  split
  · next hfault => exact told_refuse (.here (stops_of_mapping Use.noConfusion hfault))
  · next raw hraw =>
    obtain ⟨hmap, rfl⟩ := mapping_eq_ok_iff.1 hraw
    cases role with
    | unit => exact Everywhere.plainly (told_unitActions hmap)
    | statement => exact told_statement hmap
    | parameter => exact told_declaration hmap .parameter

/-! ### Walks -/

theorem Yield.exists_of_fault_all {ys : List Yield} {m : Malformed}
    (h : (Yield.all ys).fault = some m) : ∃ y ∈ ys, y.fault = some m := by
  induction ys with
  | nil => cases h
  | cons y ys ih =>
    rw [Yield.all_cons, Yield.andThen] at h
    split at h
    · obtain ⟨z, hz, hfault⟩ := ih h
      exact ⟨z, List.mem_cons_of_mem y hz, hfault⟩
    · exact ⟨y, List.mem_cons_self .., h⟩

/-- A walk comes back with the way to the value where it stops. -/
theorem blames_yieldOf {document : Value} {setting : Setting} {role : Role} {v : Value}
    {way : List Segment} {m : Malformed} (hv : Reached document way (.walked role) v)
    (h : (Walker.yieldOf setting role v).fault = some m) :
    ∃ use w, Reached document (way ++ m.path) use w ∧ Stops use w m.problem := by
  rw [Walker.yieldOf_eq] at h
  obtain ⟨y, hy, hfault⟩ := Yield.exists_of_fault_all h
  obtain ⟨step, hstep, rfl⟩ := List.mem_map.1 hy
  have htold := told_outline step hstep
  rw [Walker.stepYield, Yield.inside] at hfault
  cases haction : step.action with
  | emit line column construct =>
    rw [haction] at hfault
    cases hfault
  | refuse fault =>
    rw [haction] at hfault htold
    cases hfault
    cases htold with
    | here hstops =>
      refine ⟨.walked role, v, ?_, hstops⟩
      rw [Malformed.here, List.append_nil]
      exact hv
    | entry hmap hshape hreads hw hstops => exact ⟨_, _, .part hv hmap hshape hreads hw, hstops⟩
  | visit segment r part =>
    have hlt := sizeOf_lt_of_visit hstep haction
    rw [haction] at hfault htold
    obtain ⟨hmap, shape, hshape, hreads, hpart⟩ := htold
    obtain ⟨below, hbelow, rfl⟩ := Option.map_eq_some_iff.1 hfault
    have hnext := hv.part hmap hshape hreads ((at?_singleton _ v).trans hpart)
    obtain ⟨use, w, hw, hstops⟩ := blames_yieldOf hnext hbelow
    refine ⟨use, w, ?_, hstops⟩
    rw [Malformed.below, ← List.append_assoc]
    exact hw
termination_by sizeOf v

/-! ### Documents -/

theorem Reached.at? {document : Value} {way : List Segment} {use : Use} {v : Value}
    (h : Reached document way use v) : at? way document = some v := by
  induction h with
  | @unit units index v hunits hv =>
    have hne : document.field "compilation_units" ≠ .null := by
      intro hnull
      rw [hnull] at hunits
      cases hunits
    rw [at?_singleton, Segment.part?, field?_of_ne_null hne, Option.bind_some, hunits,
      Option.bind_some, hv]
  | part h hmap hshape hreads hw ih => rw [at?_append, ih, Option.bind_some, hw]

/-- The keys on the ways that are read. -/
def readKeys : List String :=
  ["compilation_units", "imports", "annotations", "constructor"] ++ walkedKeys

theorem Shape.Reads.key_mem {shape : Shape} {way : List Segment} {use : Use}
    (h : shape.Reads way use) : ∀ s ∈ way, s.key ∈ readKeys := by
  have hparts : ∀ key ∈ partKeys, key ∈ readKeys := by decide
  cases h with
  | part hcall hnew hkey => exact List.forall_mem_singleton.2 (hparts _ hkey)
  | _ => simp [Segment.key, readKeys, walkedKeys]

theorem Reached.key_mem {document : Value} {way : List Segment} {use : Use} {v : Value}
    (h : Reached document way use v) : ∀ s ∈ way, s.key ∈ readKeys := by
  induction h with
  | unit hunits hv => simp [Segment.key, readKeys]
  | part h hmap hshape hreads hw ih => exact List.forall_mem_append.2 ⟨ih, hreads.key_mem⟩

theorem Reached.ne_nil {document : Value} {way : List Segment} {use : Use} {v : Value}
    (h : Reached document way use v) : way ≠ [] := by
  induction h with
  | unit hunits hv => exact List.cons_ne_nil _ _
  | part h hmap hshape hreads hw ih => exact List.append_ne_nil_of_left_ne_nil ih _

/-- A way that is read can be read from its words. -/
theorem Reached.wayOfText? {document : Value} {way : List Segment} {use : Use} {v : Value}
    (h : Reached document way use v) : wayOfText? (pathText way) = some way := by
  have hsimple : ∀ key ∈ readKeys, '.' ∉ key.toList ∧ '[' ∉ key.toList := by decide
  exact wayOfText?_pathText h.ne_nil fun s hs => hsimple _ (h.key_mem s hs)

/-- The first unit that cannot be read is the one that is named. -/
theorem unitsFrom_eq_error_iff {markers : Markers} {path : String} {index : Nat}
    {units : List Value} {m : Malformed} :
    unitsFrom markers path index units = .error m
      ↔ ∃ before raw after, units = before ++ raw :: after ∧ (∀ u ∈ before, WellFormedUnit u)
        ∧ unitOf markers path (index + before.length) raw = .error m := by
  constructor
  · intro h
    induction units generalizing index with
    | nil => cases h
    | cons u units ih =>
      rw [unitsFrom] at h
      split at h
      · next hu =>
        cases h
        exact ⟨[], u, units, rfl, by simp, hu⟩
      · next unit hu =>
        obtain ⟨before, raw, after, rfl, hbefore, hraw⟩ := ih (Outcome.map_eq_error.1 h)
        have hformed : WellFormedUnit u := by
          rcases unitOf_cases markers path index u with ⟨hformed, -⟩ | ⟨-, fault, -, hfault⟩
          · exact hformed
          · cases hu.symm.trans hfault
        refine ⟨u :: before, raw, after, rfl, List.forall_mem_cons.2 ⟨hformed, hbefore⟩, ?_⟩
        rwa [List.length_cons, ← Nat.add_assoc, Nat.add_right_comm]
  · rintro ⟨before, raw, after, rfl, hbefore, hraw⟩
    induction before generalizing index with
    | nil =>
      rw [List.length_nil, Nat.add_zero] at hraw
      rw [List.nil_append, unitsFrom, hraw]
    | cons u before ih =>
      obtain ⟨hformed, hbefore⟩ := List.forall_mem_cons.1 hbefore
      rcases unitOf_cases markers path index u with ⟨-, unit, hunit⟩ | ⟨hnot, -⟩
      · rw [List.length_cons, ← Nat.add_assoc, Nat.add_right_comm] at hraw
        rw [List.cons_append, unitsFrom, hunit, ih hbefore hraw]
        rfl
      · exact absurd hformed hnot

theorem Fault.ofWalk_eq_malformed {fault m : Malformed} (h : Fault.ofWalk fault = .malformed m) :
    fault = m ∧ m.problem ≠ .endless := by
  unfold Fault.ofWalk at h
  split at h
  · cases h
  · next hends =>
    cases h
    exact ⟨rfl, hends⟩

/-- A refusal points at the fault. The words of its way can be read as steps from the top of the
document. The first step goes to a unit that is not well formed, and all units before it are. The
way leads to a value that is there and that is read in its use, and the problem is a flaw of this
value in its own fields; if the value is one that is walked, it is not well formed. -/
theorem refusal_points_at_flaw {markers : Markers} {path : String} {document : Value}
    {m : Malformed} (h : unitsOf markers path document = .error (.malformed m)) :
    wayOfText? (pathText m.path) = some m.path
      ∧ (∃ before raw after rest,
          (document.field "compilation_units").items? = some (before ++ raw :: after)
          ∧ m.path = .item "compilation_units" before.length :: rest
          ∧ (∀ u ∈ before, WellFormedUnit u) ∧ ¬ WellFormedUnit raw)
      ∧ ∃ use v, at? m.path document = some v ∧ Reached document m.path use v
          ∧ Flaw use v m.problem ∧ ∀ role, use = .walked role → ¬ WellFormed role v := by
  unfold unitsOf at h
  split at h
  · cases h
  · next units hunits =>
    obtain ⟨fault, hfrom, heq⟩ := mapError_eq_error.1 h
    obtain ⟨rfl, hends⟩ := Fault.ofWalk_eq_malformed heq
    obtain ⟨before, raw, after, rfl, hbefore, hraw⟩ := unitsFrom_eq_error_iff.1 hfrom
    rw [Nat.zero_add] at hraw
    rcases unitOf_cases markers path before.length raw with ⟨-, unit, hunit⟩ | ⟨hformed, f, hf, hat⟩
    · cases hraw.symm.trans hunit
    · cases hraw.symm.trans hat
      have hunit : Reached document [.item "compilation_units" before.length] (.walked .unit) raw :=
        .unit hunits (by simp)
      obtain ⟨use, v, hv, hstops⟩ := blames_yieldOf hunit hf
      have hflaw := hstops.flaw_of_ne hends
      refine ⟨hv.wayOfText?, ⟨before, raw, after, f.path, hunits, rfl, hbefore, hformed⟩,
        use, v, hv.at?, hv, hflaw, ?_⟩
      rintro role rfl
      exact hflaw.not_wellFormed

/-- The second unit has a parameter deep inside that is no mapping. -/
def deepTree : Value :=
  let task := Value.object
    [("kind", .text "new"),
      ("constructor", .object [("name", .text "Task"),
        ("parameters", .list [.object [], .int 3])])]
  let run := Value.object
    [("kind", .text "method"), ("name", .text "run"),
      ("body", .list [.object
        [("kind", .text "call"), ("receiver", .object [("body", .list [task])])]])]
  let outer := Value.object [("kind", .text "class"), ("members", .list [run])]
  .object
    [("compilation_units", .list [.object [], .object [("declarations", .list [outer])]])]

/-- The way to the parameter. -/
def deepWay : List Segment :=
  [.item "compilation_units" 1, .item "declarations" 0, .item "members" 0, .item "body" 0,
    .field "receiver", .item "body" 0, .field "constructor", .item "parameters" 1]

theorem refusal_points_at_parameter :
    unitsOf .standard "tree.json" deepTree = .error (.malformed ⟨deepWay, .notMapping .int⟩)
      ∧ wayOfText? (pathText deepWay) = some deepWay
      ∧ ∃ use, Reached deepTree deepWay use (.int 3)
          ∧ Flaw use (.int 3) (.notMapping .int) := by
  have hrefused : unitsOf .standard "tree.json" deepTree
      = .error (.malformed ⟨deepWay, .notMapping .int⟩) := by
    with_unfolding_all rfl
  obtain ⟨htext, -, use, v, hat, hreached, hflaw, -⟩ := refusal_points_at_flaw hrefused
  have hvalue : at? deepWay deepTree = some (.int 3) := by rfl
  cases hat.symm.trans hvalue
  exact ⟨hrefused, htext, use, hreached, hflaw⟩

end BannedApi.Tree
