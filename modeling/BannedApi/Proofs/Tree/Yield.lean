import BannedApi.Tree.Walk

/-!
What a walk yields: the nodes it emits and, when it refuses, the reason.

A walk looks at the declarations it is in, at the way it came and at the nodes emitted so far only
to put them into what it gives. So the walk of a value is known once it is known from an empty
start: `visit_eq_reap` says that a walker comes back to where it was, with the nodes of that yield
behind its own, each of them with the walker's declarations around it. `yieldOf_eq` is the recursion
that yields follow: the yields of the steps of the outline, one after the other, up to the first
refusal.
-/
namespace BannedApi

/-- A node with more declarations around it. -/
def Node.under (scope : Scope) (n : Node) : Node := { n with scope := n.scope ++ scope }

@[simp] theorem Node.under_nil (n : Node) : n.under [] = n := by
  simp [Node.under]

theorem Node.under_under (inner outer : Scope) (n : Node) :
    (n.under inner).under outer = n.under (inner ++ outer) := by
  simp [Node.under, List.append_assoc]

namespace Tree

/-- The nodes that a walk emits, and why it refuses if it does. -/
structure Yield where
  nodes : List Node := []
  fault : Option Malformed := none

namespace Yield

/-- One yield and then another, unless the first one ends in a refusal. -/
def andThen (a b : Yield) : Yield :=
  match a.fault with
  | none => ⟨a.nodes ++ b.nodes, b.fault⟩
  | some _ => a

/-- Yields one after the other, up to the first refusal. -/
def all (ys : List Yield) : Yield := ys.foldr andThen {}

/-- A yield with more declarations around it. -/
def inside (scope : Scope) (y : Yield) : Yield := ⟨y.nodes.map (Node.under scope), y.fault⟩

/-- A yield seen from further up. -/
def below (way : List Segment) (y : Yield) : Yield := ⟨y.nodes, y.fault.map (·.below way)⟩

@[simp] theorem all_nil : all [] = {} := rfl

@[simp] theorem all_cons (y : Yield) (ys : List Yield) : all (y :: ys) = y.andThen (all ys) := rfl

@[simp] theorem inside_nil (y : Yield) : y.inside [] = y := by
  have h : Node.under [] = id := funext Node.under_nil
  simp [inside, h]

theorem inside_andThen (scope : Scope) (a b : Yield) :
    (a.andThen b).inside scope = (a.inside scope).andThen (b.inside scope) := by
  obtain ⟨nodes, fault⟩ := a
  cases fault <;> simp [andThen, inside]

/-- Declarations around every part of a yield are declarations around the whole of it. -/
theorem all_map_inside (scope : Scope) :
    ∀ ys : List Yield, all (ys.map (inside scope)) = (all ys).inside scope
  | [] => rfl
  | y :: ys => by
    rw [List.map_cons, all_cons, all_cons, inside_andThen, all_map_inside scope ys]

end Yield

/-- The frame of a declaration that is opened for a step, if there is one. -/
def Setting.frames (setting : Setting) (opening : Option Opening) : Scope :=
  (opening.map fun o => Frame.declared setting.markers o.kind o.name o.annotations).toList

namespace Walker

/-! ### Steps one at a time -/

/-- Do what an action says. -/
def act (setting : Setting) (action : Action) (w : Walker) : Walker × Option Malformed :=
  match action with
  | .emit line column construct => (w.emit setting line column construct, none)
  | .refuse fault => (w, some (fault.below w.way.reverse))
  | .visit segment r part => below segment (visit setting r part) w

/-- Take a step: do what it says, inside the declaration it stands in. -/
def take (setting : Setting) (step : Step) (w : Walker) : Walker × Option Malformed :=
  within setting step.inside (act setting step.action) w

theorem runAll_attach (setting : Setting) (steps : List Step)
    (f : {s // s ∈ steps} → Walker → Walker × Option Malformed)
    (hf : ∀ s w, f s w = take setting s.1 w) :
    ∀ (rest : List {s // s ∈ steps}) (w : Walker),
      runAll f rest w = runAll (take setting) (rest.map (·.1)) w
  | [], _ => rfl
  | s :: rest, w => by
    rw [List.map_cons, runAll, runAll, hf]
    split
    · next after _ => exact runAll_attach setting steps f hf rest after
    · rfl

/-- A walk takes the steps of the outline in turn. -/
theorem visit_eq_runAll (setting : Setting) (role : Role) (v : Value) (w : Walker) :
    w.visit setting role v = runAll (take setting) (outline role v) w := by
  rw [visit, runAll_attach setting (outline role v) _ _ (outline role v).attach w,
    List.attach_map_subtype_val]
  intro s w
  unfold take
  congr 1
  funext w
  unfold act
  split <;> simp_all

theorem runAll_append {α : Type} (act : α → Walker → Walker × Option Malformed) :
    ∀ (xs ys : List α) (w : Walker), runAll act (xs ++ ys) w
      = match runAll act xs w with
        | (after, none) => runAll act ys after
        | (after, some fault) => (after, some fault)
  | [], _, _ => rfl
  | x :: xs, ys, w => by
    rw [List.cons_append, runAll, runAll]
    cases act x w with
    | mk after fault =>
      cases fault with
      | none => exact runAll_append act xs ys after
      | some _ => rfl

/-! ### Yields and where they are put -/

/-- Put a yield where the walker stands: the nodes behind its own and with its declarations around
them, the fault at the end of its way. -/
def reap (y : Yield) (w : Walker) : Walker × Option Malformed :=
  ({ w with nodes := w.nodes ++ y.nodes.map (Node.under w.scope) },
    y.fault.map (·.below w.way.reverse))

/-- What the walk of a value yields by itself. -/
def yieldOf (setting : Setting) (role : Role) (v : Value) : Yield :=
  ⟨(visit setting role v {}).1.nodes, (visit setting role v {}).2⟩

/-- What an action yields by itself. -/
def actYield (setting : Setting) : Action → Yield
  | .emit line column construct => { nodes := [⟨⟨setting.file, line, column⟩, [], construct⟩] }
  | .refuse fault => { fault := some fault }
  | .visit segment r part => (yieldOf setting r part).below [segment]

/-- What a step yields by itself. -/
def stepYield (setting : Setting) (step : Step) : Yield :=
  (actYield setting step.action).inside (setting.frames step.inside)

@[simp] theorem reap_empty (w : Walker) : w.reap {} = (w, none) := by
  simp [reap]

theorem reap_andThen (a b : Yield) (w : Walker) :
    w.reap (a.andThen b)
      = match w.reap a with
        | (after, none) => after.reap b
        | (after, some fault) => (after, some fault) := by
  obtain ⟨nodes, fault⟩ := a
  cases fault <;> simp [reap, Yield.andThen]

theorem reap_start (y : Yield) :
    ({} : Walker).reap y = (({ nodes := y.nodes } : Walker), y.fault) := by
  have h : Node.under [] = id := funext Node.under_nil
  have hbelow : (fun m : Malformed => m.below []) = id := by
    funext m
    simp [Malformed.below]
  simp [reap, h, hbelow]

/-- A step further down: the walker comes back, and the fault is found one step further down. -/
theorem below_eq_reap {segment : Segment} {act : Walker → Walker × Option Malformed} {y : Yield}
    (h : ∀ w, act w = w.reap y) (w : Walker) :
    below segment act w = w.reap (y.below [segment]) := by
  unfold below
  rw [h]
  simp only [reap, Yield.below, List.tail_cons, Option.map_map, List.reverse_cons]
  congr 2
  funext m
  simp [Malformed.below, List.append_assoc]

/-- Inside a declaration: the walker leaves it again, and the nodes have its frame around them. -/
theorem within_eq_reap {setting : Setting} {act : Walker → Walker × Option Malformed} {y : Yield}
    (h : ∀ w, act w = w.reap y) (opening : Option Opening) (w : Walker) :
    within setting opening act w = w.reap (y.inside (setting.frames opening)) := by
  cases opening with
  | none => simp [within, Setting.frames, h]
  | some o =>
    simp only [within, h, Setting.frames, Option.map_some, Option.toList_some, reap, Yield.inside,
      Scope.parent, List.tail_cons, List.map_map]
    congr 3
    refine List.map_congr_left fun n _ => ?_
    rw [Function.comp_apply, Node.under_under]
    rfl

theorem take_eq_reap {setting : Setting} {step : Step}
    (h : ∀ segment r part, step.action = .visit segment r part →
      ∀ w : Walker, w.visit setting r part = w.reap (yieldOf setting r part)) (w : Walker) :
    take setting step w = w.reap (stepYield setting step) := by
  refine within_eq_reap (fun w => ?_) step.inside w
  cases haction : step.action with
  | emit line column construct => simp [act, actYield, reap, emit, Node.under]
  | refuse fault => simp [act, actYield, reap]
  | visit segment r part => exact below_eq_reap (h segment r part haction) w

theorem runAll_eq_reap {setting : Setting} :
    ∀ (steps : List Step) (_ : ∀ s ∈ steps, ∀ w, take setting s w = w.reap (stepYield setting s))
      (w : Walker),
      runAll (take setting) steps w = w.reap (Yield.all (steps.map (stepYield setting)))
  | [], _, w => by simp [runAll]
  | s :: steps, h, w => by
    have hs := h s (List.mem_cons_self ..) w
    have hsteps := runAll_eq_reap steps fun s' hs' => h s' (List.mem_cons_of_mem s hs')
    rw [runAll, hs, List.map_cons, Yield.all_cons, reap_andThen]
    cases hw : w.reap (stepYield setting s) with
    | mk after fault =>
      cases fault with
      | none => exact hsteps after
      | some fault => rfl

/-- The walk of a value is its yield, put where the walker stands. -/
theorem visit_eq_reap (setting : Setting) (role : Role) (v : Value) (w : Walker) :
    w.visit setting role v = w.reap (yieldOf setting role v) := by
  induction role, v, w using visit.induct with
  | case1 role v w ih =>
    have hall : ∀ w : Walker, w.visit setting role v
        = w.reap (Yield.all ((outline role v).map (stepYield setting))) := by
      intro w
      rw [visit_eq_runAll]
      refine runAll_eq_reap _ (fun s hs => ?_) w
      exact take_eq_reap fun segment r part ha => ih ⟨s, hs⟩ segment r part ha
    have hyield : yieldOf setting role v
        = Yield.all ((outline role v).map (stepYield setting)) := by
      unfold yieldOf
      rw [hall {}, reap_start]
    rw [hyield]
    exact hall w

theorem take_eq (setting : Setting) (step : Step) (w : Walker) :
    take setting step w = w.reap (stepYield setting step) :=
  take_eq_reap (fun _ r part _ => visit_eq_reap setting r part) w

theorem runAll_eq (setting : Setting) (steps : List Step) (w : Walker) :
    runAll (take setting) steps w = w.reap (Yield.all (steps.map (stepYield setting))) :=
  runAll_eq_reap steps (fun s _ => take_eq setting s) w

/-- Yields follow the outline. -/
theorem yieldOf_eq (setting : Setting) (role : Role) (v : Value) :
    yieldOf setting role v = Yield.all ((outline role v).map (stepYield setting)) := by
  unfold yieldOf
  rw [visit_eq_runAll, runAll_eq, reap_start]

end Walker

end Tree

end BannedApi
