import BannedApi.Proofs.Tree.Entry

/-!
Declarations: what is walked inside them, and what an annotation does to them.

Everything that is emitted while a declaration is walked stands inside its frame
(`yieldOf_declared`). One more annotation changes nothing but the flag of this frame, so with a
marker the nodes stay the same up to their scopes and all of them are suppressed
(`outcome_annotate`); and what is emitted inside a marked declaration is suppressed at whatever
depth (`suppressed_of_marked`).
-/
namespace BannedApi

/-- A node without the declarations around it. -/
def Node.bare (n : Node) : Node := { n with scope := [] }

theorem Scope.isSuppressed_of_suffix {s t : Scope} (h : s <:+ t) (hs : s.isSuppressed = true) :
    t.isSuppressed = true := by
  obtain ⟨front, rfl⟩ := h
  unfold isSuppressed at *
  rw [List.any_append, hs, Bool.or_true]

namespace Tree

open Value (AgreeOff)

/-! ### Declarations -/

/-- The form and the kind of what is read as a declaration in this role. -/
def declared? (role : Role) (v : Value) : Option (Form × String) :=
  match role, kindOf v with
  | .parameter, _ => some (.variableLike, "parameter")
  | .statement, .ok (some kind) => (Form.ofKind? kind).map (·, kind)
  | _, _ => none

theorem declared?_eq {keys : List String} {x y : Value} (h : AgreeOff keys x y)
    (hk : "kind" ∉ keys) (role : Role) : declared? role y = declared? role x := by
  unfold declared?
  rw [kindOf_eq h hk]

/-- The visit is one of a declaration: of a class, a method or a variable, or of a parameter. -/
def Visit.isDeclaration (x : Visit) : Bool := (declared? x.role x.value).isSome

/-- The annotations of a mapping hold a marker. -/
def Marked (markers : Markers) (v : Value) : Prop :=
  ∃ notes, annotationsOf v = .ok notes ∧ markers.isMarked notes = true

/-- Write one more annotation behind those of a mapping; without a list of them there are none. -/
def annotate (note : String) (v : Value) : Value :=
  v.putField "annotations" (.list ((v.field "annotations").items?.getD [] ++ [.text note]))

theorem outline_of_declared {role : Role} {v : Value} {form : Form} {kind : String}
    (h : declared? role v = some (form, kind)) (hv : v.kind = .map) :
    outline role v = declaration form kind v := by
  rw [outline, mapping_eq_ok hv]
  unfold declared? at h
  split at h
  · cases h
    rfl
  · next kind' hkind =>
    rw [Option.map_eq_some_iff] at h
    obtain ⟨form', hform, hpair⟩ := h
    cases hpair
    simp only [statement, hkind, hform]
  · cases h

/-- What is done inside a declaration yields this. -/
def bodyYield (setting : Setting) (form : Form) (name : String) (v : Value) : Yield :=
  Yield.all ((bodyOf form name v).map (Walker.actYield setting))

/-- The yield of a declaration is that of what is done inside it, with its frame around it. -/
theorem yieldOf_declared (setting : Setting) {role : Role} {v : Value} {form : Form}
    {kind name : String} {notes : List String} (h : declared? role v = some (form, kind))
    (hv : v.kind = .map) (hname : declarationName kind v = .ok name)
    (hnotes : annotationsOf v = .ok notes) :
    Walker.yieldOf setting role v
      = (bodyYield setting form name v).inside
          [Frame.declared setting.markers kind name notes] := by
  rw [Walker.yieldOf_eq, outline_of_declared h hv, declaration, hname]
  simp only [hnotes, inside, List.map_map]
  rw [bodyYield, ← Yield.all_map_inside, List.map_map]
  rfl

theorem Visit.after_inj {x : Visit} {a b : List Node} : x.after a = x.after b ↔ a = b := by
  simp [after, List.append_cancel_left_eq]

/-- The nodes of a declaration are those of what is done inside it, in its frame and in those around
it. -/
theorem outcome_declared (setting : Setting) {x : Visit} {form : Form} {kind name : String}
    {notes : List String} (h : declared? x.role x.value = some (form, kind))
    (hv : x.value.kind = .map) (hname : declarationName kind x.value = .ok name)
    (hnotes : annotationsOf x.value = .ok notes) :
    x.outcome setting
      = (x.after ((bodyYield setting form name x.value).nodes.map
            (Node.under (Frame.declared setting.markers kind name notes :: x.walker.scope))),
          (bodyYield setting form name x.value).fault.map (·.below x.walker.way.reverse)) := by
  rw [Visit.outcome, Walker.visit_eq_reap, yieldOf_declared setting h hv hname hnotes]
  simp only [Walker.reap, Yield.inside, Visit.after, List.map_map]
  congr 3
  refine List.map_congr_left fun n _ => ?_
  rw [Function.comp_apply, Node.under_under]
  rfl

/-- A visit without a refusal is one of a mapping. -/
theorem kind_of_accepted {setting : Setting} {x : Visit} {after : Walker}
    (h : x.outcome setting = (after, none)) : x.value.kind = .map := by
  by_contra hv
  obtain ⟨p, hp⟩ := exists_mapping_eq_error hv
  rw [Visit.outcome, Walker.visit_eq_runAll, outline, hp] at h
  simp [plainly, Walker.runAll, Walker.take, Walker.within, Walker.act] at h

/-- A declaration that is walked without a refusal has a name and annotations. -/
theorem declared_of_accepted {setting : Setting} {x : Visit} {after : Walker} {form : Form}
    {kind : String} (h : x.outcome setting = (after, none))
    (hdecl : declared? x.role x.value = some (form, kind)) :
    ∃ name notes, declarationName kind x.value = .ok name ∧ annotationsOf x.value = .ok notes := by
  have hv := kind_of_accepted h
  rw [Visit.outcome, Walker.visit_eq_runAll, outline_of_declared hdecl hv, declaration] at h
  cases hname : declarationName kind x.value with
  | error p =>
    simp [hname, plainly, Walker.runAll, Walker.take, Walker.within, Walker.act] at h
  | ok name =>
    cases hnotes : annotationsOf x.value with
    | error f =>
      simp [hname, hnotes, plainly, Walker.runAll, Walker.take, Walker.within, Walker.act] at h
    | ok notes => exact ⟨name, notes, rfl, rfl⟩

/-- Whatever a visit emits stands inside the declarations around the visit. -/
theorem scope_suffix_of_outcome {setting : Setting} {x : Visit} {nodes : List Node}
    {fault : Option Malformed} (h : x.outcome setting = (x.after nodes, fault)) :
    ∀ n ∈ nodes, x.walker.scope <:+ n.scope := by
  intro n hn
  rw [Visit.outcome, Walker.visit_eq_reap] at h
  have hnodes := congrArg (fun o => o.1.nodes) h
  simp only [Walker.reap, Visit.after, List.append_cancel_left_eq] at hnodes
  rw [← hnodes] at hn
  obtain ⟨m, -, rfl⟩ := List.mem_map.1 hn
  exact ⟨m.scope, rfl⟩

/-! ### Writing one more annotation -/

theorem annotationsFrom_append {note : String} :
    ∀ {xs : List Value} {notes : List String} (i : Nat), annotationsFrom i xs = .ok notes →
      annotationsFrom i (xs ++ [.text note]) = .ok (notes ++ [note])
  | [], notes, i, h => by
    cases h
    rfl
  | .text s :: xs, notes, i, h => by
    rw [annotationsFrom] at h
    cases hrest : annotationsFrom (i + 1) xs with
    | error f => simp [hrest, Except.map] at h
    | ok rest =>
      simp only [hrest, Except.map, Except.ok.injEq] at h
      subst h
      rw [List.cons_append, annotationsFrom, annotationsFrom_append (i + 1) hrest]
      rfl
  | .null :: _, _, _, h => by simp [annotationsFrom] at h
  | .bool _ :: _, _, _, h => by simp [annotationsFrom] at h
  | .scalar (.number _) :: _, _, _, h => by simp [annotationsFrom] at h
  | .scalar (.moment _) :: _, _, _, h => by simp [annotationsFrom] at h
  | .scalar (.bytes _) :: _, _, _, h => by simp [annotationsFrom] at h
  | .list _ :: _, _, _, h => by simp [annotationsFrom] at h
  | .map _ :: _, _, _, h => by simp [annotationsFrom] at h
  | .tuple _ :: _, _, _, h => by simp [annotationsFrom] at h
  | .set _ :: _, _, _, h => by simp [annotationsFrom] at h
  | .knot _ _ :: _, _, _, h => by simp [annotationsFrom] at h
  | .unwritten :: _, _, _, h => by simp [annotationsFrom] at h

theorem annotationsOf_annotate {v : Value} {notes : List String} (hv : v.kind = .map)
    (h : annotationsOf v = .ok notes) (note : String) :
    annotationsOf (annotate note v) = .ok (notes ++ [note]) := by
  have hfield : (annotate note v).field "annotations"
      = .list ((v.field "annotations").items?.getD [] ++ [.text note]) := by
    rw [Value.field, annotate, Value.field?_putField _ _ _ hv, if_pos rfl, Option.getD_some]
  rw [annotationsOf, listOf, hfield]
  simp only [Value.isNull, Value.items?, Bool.false_eq_true, if_false]
  unfold annotationsOf listOf at h
  by_cases hnull : (v.field "annotations").isNull = true
  · have hitems : (v.field "annotations").items? = none := by
      unfold Value.isNull at hnull
      split at hnull
      · next heq => rw [heq]; rfl
      · cases hnull
    rw [if_pos hnull] at h
    rw [hitems, Option.getD_none]
    exact annotationsFrom_append 0 h
  · rw [if_neg hnull] at h
    cases hitems : (v.field "annotations").items? with
    | none => simp [hitems] at h
    | some xs =>
      rw [hitems] at h
      exact annotationsFrom_append 0 h

theorem agreeOff_annotate {v : Value} (hv : v.kind = .map) (note : String) :
    AgreeOff ["annotations"] v (annotate note v) :=
  Value.agreeOff_putField hv "annotations" _

theorem bodyOf_annotate {v : Value} (hv : v.kind = .map) (note : String) (form : Form)
    (name : String) : bodyOf form name (annotate note v) = bodyOf form name v := by
  have h := agreeOff_annotate hv note
  cases form with
  | classLike => exact visitEach_eq h (by decide) .statement
  | methodLike =>
    simp only [bodyOf]
    rw [emitFor_eq h (by decide) (by decide), h.field "return_type" (by decide),
      h.field? "resolved" (by decide), visitEach_eq h (by decide) .parameter,
      visitEach_eq h (by decide) .statement]
  | variableLike =>
    simp only [bodyOf]
    rw [emitFor_eq h (by decide) (by decide), h.field "type" (by decide),
      visitField_eq h (by decide)]

theorem sameFace_annotate {v : Value} (hv : v.kind = .map) (note : String) :
    SameFace v (annotate note v) :=
  (agreeOff_annotate hv note).mono fun key hkey => by
    rw [List.mem_singleton.1 hkey]
    exact List.mem_cons_self ..

/-- With a marker behind its annotations, a declaration emits the same nodes up to their scopes, and
all of them are suppressed. -/
theorem outcome_annotate {setting : Setting} {x : Visit} {inner : List Node} {note : String}
    (h : x.outcome setting = (x.after inner, none)) (hdecl : x.isDeclaration = true)
    (hnote : setting.markers.isMarker note = true) :
    ∃ inner', (x.change (annotate note)).outcome setting = (x.after inner', none)
      ∧ inner'.map Node.bare = inner.map Node.bare
      ∧ ∀ n ∈ inner', n.scope.isSuppressed = true := by
  obtain ⟨⟨form, kind⟩, hform⟩ := Option.isSome_iff_exists.1 hdecl
  have hv := kind_of_accepted h
  have hv' := (agreeOff_annotate hv note).right
  obtain ⟨name, notes, hname, hnotes⟩ := declared_of_accepted h hform
  have hform' := (declared?_eq (agreeOff_annotate hv note) (by decide) x.role).trans hform
  have hname' := (declarationName_eq (agreeOff_annotate hv note) (by decide) kind).trans hname
  have hnotes' := annotationsOf_annotate hv hnotes note
  have hbody : bodyYield setting form name (annotate note x.value)
      = bodyYield setting form name x.value := by
    rw [bodyYield, bodyYield, bodyOf_annotate hv]
  -- both visits put the same yield into a frame, and only the flags of the frames differ
  obtain ⟨hafter, hfault⟩ :=
    Prod.mk.inj (h.symm.trans (outcome_declared setting hform hv hname hnotes))
  obtain rfl := Visit.after_inj.1 hafter
  have hnew := outcome_declared setting (x := x.change (annotate note)) hform' hv' hname' hnotes'
  simp only [Visit.change, hbody, ← hfault] at hnew
  refine ⟨_, hnew, ?_, ?_⟩
  · rw [List.map_map, List.map_map]
    rfl
  · intro n hn
    obtain ⟨m, -, rfl⟩ := List.mem_map.1 hn
    simp [Node.under, Scope.isSuppressed, Frame.declared, Markers.isMarked, hnote]

/-- What is emitted inside a marked declaration is suppressed, at whatever depth. -/
theorem suppressed_of_marked {setting : Setting} {x y : Visit} {way : List Segment}
    {inner : List Node} (henters : Enters setting x way y)
    (h : y.outcome setting = (y.after inner, none)) (hdecl : x.isDeclaration = true)
    (hmarked : Marked setting.markers x.value) :
    ∀ n ∈ inner, n.scope.isSuppressed = true := by
  obtain ⟨⟨form, kind⟩, hform⟩ := Option.isSome_iff_exists.1 hdecl
  obtain ⟨notes, hnotes, hmark⟩ := hmarked
  intro n hn
  cases henters with
  | here =>
    -- the declaration itself is what is visited: its frame is the first around its nodes
    have hv := kind_of_accepted h
    obtain ⟨name, notes', hname, hnotes'⟩ := declared_of_accepted h hform
    obtain ⟨hafter, -⟩ :=
      Prod.mk.inj (h.symm.trans (outcome_declared setting hform hv hname hnotes))
    rw [Visit.after_inj.1 hafter] at hn
    obtain ⟨m, -, rfl⟩ := List.mem_map.1 hn
    simp [Node.under, Scope.isSuppressed, Frame.declared, hmark]
  | @down _ _ done rest opening segment r part w way hsteps hdone hnext =>
    -- the first step down opens the frame, and it stays open further down
    have hv := Segment.kind_of_part? (Enters.leads_of_split hsteps).2
    obtain ⟨name, hopening⟩ : ∃ name, opening = some ⟨kind, name, notes⟩ := by
      have hmem : (⟨opening, .visit segment r part⟩ : Step) ∈ outline x.role x.value := by
        rw [hsteps]
        simp
      rw [outline_of_declared hform hv, declaration] at hmem
      cases hname : declarationName kind x.value with
      | error p => simp [hname, plainly] at hmem
      | ok name =>
        simp only [hname, hnotes, inside, List.mem_map] at hmem
        obtain ⟨a, -, ha⟩ := hmem
        exact ⟨name, (congrArg Step.inside ha).symm⟩
    have hframe : (w.descend setting opening segment).scope.isSuppressed = true := by
      simp [Walker.descend, hopening, Setting.frames, Scope.isSuppressed, Frame.declared, hmark]
    have hscope := hnext.scope_suffix.trans (scope_suffix_of_outcome h n hn)
    exact Scope.isSuppressed_of_suffix hscope hframe

end Tree

end BannedApi
