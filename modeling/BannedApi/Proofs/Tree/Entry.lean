import BannedApi.Proofs.Tree.Change
import BannedApi.Proofs.Tree.Yield

/-!
How a walk comes to a place, and how it goes on from there.

`Enters x way y` follows the walk itself: from the visit `x` the walker takes steps, all of them
without a refusal, until the step that leads on along `way`, and so on down to the visit `y`. What
is done before a place is reached does not depend on what stands there, as long as its face stays
the same (`Enters.change`), and neither does what is done afterwards (`Enters.resume`).
-/
namespace BannedApi.Tree

/-- A visit that is about to be made: what is visited, as what, and where the walker stands. -/
structure Visit where
  role : Role
  value : Value
  walker : Walker

namespace Visit

/-- What becomes of a visit. -/
def outcome (setting : Setting) (x : Visit) : Walker × Option Malformed :=
  x.walker.visit setting x.role x.value

/-- The same visit of a changed value. -/
def change (f : Value → Value) (x : Visit) : Visit := { x with value := f x.value }

/-- The walker after a visit that emitted these nodes. -/
def after (nodes : List Node) (x : Visit) : Walker :=
  { x.walker with nodes := x.walker.nodes ++ nodes }

end Visit

namespace Walker

/-- The walker one step further down, inside the declaration that is opened for the step. -/
def descend (setting : Setting) (opening : Option Opening) (segment : Segment) (w : Walker) :
    Walker :=
  { w with scope := setting.frames opening ++ w.scope, way := segment :: w.way }

/-- A step into a part: the nodes stay, and the walker comes back to where it was. -/
theorem take_visit (setting : Setting) (opening : Option Opening) (segment : Segment) (r : Role)
    (part : Value) (w : Walker) :
    take setting ⟨opening, .visit segment r part⟩ w
      = ({ w with nodes := ((w.descend setting opening segment).visit setting r part).1.nodes },
          ((w.descend setting opening segment).visit setting r part).2) := by
  rw [take_eq, visit_eq_reap]
  simp only [reap, stepYield, actYield, Yield.inside, Yield.below, descend, List.map_map,
    Option.map_map, List.reverse_cons]
  congr 3
  · refine List.map_congr_left fun n _ => ?_
    rw [Function.comp_apply, Node.under_under]
  · funext m
    simp [Malformed.below, List.append_assoc]

/-- Taking steps leaves the walker where it was, with more nodes. -/
theorem nodes_of_runAll {setting : Setting} {steps : List Step} {w after : Walker}
    {fault : Option Malformed} (h : runAll (take setting) steps w = (after, fault)) :
    ∃ nodes, after = { w with nodes := w.nodes ++ nodes } := by
  rw [runAll_eq] at h
  exact ⟨_, (congrArg Prod.fst h).symm⟩

theorem nodes_of_visit {setting : Setting} {role : Role} {v : Value} {w after : Walker}
    {fault : Option Malformed} (h : w.visit setting role v = (after, fault)) :
    ∃ nodes, after = { w with nodes := w.nodes ++ nodes } := by
  rw [visit_eq_runAll] at h
  exact nodes_of_runAll h

/-- A walk that has taken some steps goes on with the next one. -/
theorem visit_of_split {setting : Setting} {role : Role} {v : Value} {done rest : List Step}
    {step : Step} {w middle : Walker} (hsteps : outline role v = done ++ step :: rest)
    (hdone : runAll (take setting) done w = (middle, none)) :
    w.visit setting role v
      = match take setting step middle with
        | (after, none) => runAll (take setting) rest after
        | (after, some fault) => (after, some fault) := by
  rw [visit_eq_runAll, hsteps, runAll_append, hdone]
  rfl

/-- The steps that are left give the same whatever was emitted before them. -/
theorem runAll_of_nodes {setting : Setting} {steps : List Step} {w : Walker} {nodes : List Node}
    (h : runAll (take setting) steps w = ({ w with nodes := w.nodes ++ nodes }, none))
    (before : List Node) :
    runAll (take setting) steps { w with nodes := before }
      = ({ w with nodes := before ++ nodes }, none) := by
  rw [runAll_eq] at h ⊢
  simp only [reap, Prod.mk.injEq, Walker.mk.injEq, List.append_cancel_left_eq, true_and,
    Option.map_eq_none_iff] at h ⊢
  rw [h.1]
  exact ⟨rfl, h.2⟩

end Walker

/-- The walk that starts with the visit `x` comes along `way` to the visit `y`. -/
inductive Enters (setting : Setting) : Visit → List Segment → Visit → Prop where
  | here (x : Visit) : Enters setting x [] x
  | down {x y : Visit} {done rest : List Step} {opening : Option Opening} {segment : Segment}
      {r : Role} {part : Value} {w : Walker} {way : List Segment}
      (hsteps : outline x.role x.value = done ++ ⟨opening, .visit segment r part⟩ :: rest)
      (hdone : Walker.runAll (Walker.take setting) done x.walker = (w, none))
      (hnext : Enters setting ⟨r, part, w.descend setting opening segment⟩ way y) :
      Enters setting x (segment :: way) y

namespace Enters

variable {setting : Setting} {x y z : Visit} {way more : List Segment}

theorem trans (h : Enters setting x way y) (h' : Enters setting y more z) :
    Enters setting x (way ++ more) z := by
  induction h with
  | here x => exact h'
  | down hsteps hdone hnext ih => exact .down hsteps hdone (ih h')

/-- Going down only adds declarations. -/
theorem scope_suffix (h : Enters setting x way y) : x.walker.scope <:+ y.walker.scope := by
  induction h with
  | here x => exact List.suffix_rfl
  | @down x y done rest opening segment r part w way hsteps hdone hnext ih =>
    obtain ⟨nodes, rfl⟩ := Walker.nodes_of_runAll hdone
    exact (List.suffix_append _ x.walker.scope).trans ih

theorem leads_of_split {v part : Value} {role r : Role} {done rest : List Step}
    {opening : Option Opening} {s : Segment}
    (h : outline role v = done ++ ⟨opening, .visit s r part⟩ :: rest) :
    s.key ∈ walkedKeys ∧ s.part? v = some part := by
  have hmem : (⟨opening, .visit s r part⟩ : Step) ∈ outline role v := by
    rw [h]
    simp
  exact leads_outline hmem

/-- The step that leads on is the only one that goes this way. -/
theorem outline_change_split {role : Role} {v part : Value} {done rest : List Step}
    {opening : Option Opening} {s : Segment} {r : Role} {f : Value → Value}
    (h : outline role v = done ++ ⟨opening, .visit s r part⟩ :: rest)
    (hface : SameFace part (f part)) :
    outline role (s.change f v) = done ++ ⟨opening, .visit s r (f part)⟩ :: rest := by
  have hways : ways (outline role v) = ways done ++ s :: ways rest := by
    rw [h, ways_append]
    rfl
  have hnodup := nodup_segments_outline role v
  rw [hways, List.nodup_append] at hnodup
  obtain ⟨-, hrest, hdone⟩ := hnodup
  have hpart := (leads_of_split h).2
  have houtline : outline role (s.change f v) = (outline role v).map (Step.change s f) := by
    refine outline_change (fun p hp => ?_) ?_
    · rw [hpart] at hp
      rw [← Option.some.inj hp]
      exact hface
    · rw [hways]
      simp
  have hbefore : done.map (Step.change s f) = done :=
    map_change_of_not_mem_ways fun hs => hdone s hs s (List.mem_cons_self ..) rfl
  have hafter : rest.map (Step.change s f) = rest :=
    map_change_of_not_mem_ways (List.nodup_cons.1 hrest).1
  rw [houtline, h, List.map_append, List.map_cons, hbefore, hafter]
  simp [Step.change, Action.change]

/-- A change further down is a change of walked fields only. -/
theorem agreeOff_changeAt {keys : List String} {f : Value → Value}
    (hkeys : ∀ key ∈ walkedKeys, key ∈ keys) (h : Enters setting x way y)
    (hy : Value.AgreeOff keys y.value (f y.value)) :
    Value.AgreeOff keys x.value (changeAt way f x.value) := by
  cases h with
  | here => exact hy
  | down hsteps hdone hnext =>
    obtain ⟨hkey, hpart⟩ := leads_of_split hsteps
    refine (Segment.agreeOff_change (Segment.kind_of_part? hpart) _ _).mono fun key hmem => ?_
    rw [List.mem_singleton.1 hmem]
    exact hkeys _ hkey

/-- A walk comes the same way to the same place when what stands there is changed and keeps its
face. -/
theorem change {f : Value → Value} (h : Enters setting x way y)
    (hface : SameFace y.value (f y.value)) :
    Enters setting (x.change (changeAt way f)) way (y.change f) := by
  induction h with
  | here x => exact .here _
  | down hsteps hdone hnext ih =>
    have hpart := hnext.agreeOff_changeAt (fun _ => List.mem_cons_of_mem _) hface
    exact .down (outline_change_split hsteps hpart) hdone (ih hface)

/-- What happens after a place has been left: when the whole walk is accepted, it emits the nodes up
to the place, the nodes of the place and some nodes after it; and those before and after stay the
same when what stands there is changed. -/
theorem resume {last : Walker} (h : Enters setting x way y)
    (hok : x.outcome setting = (last, none)) :
    ∃ inner after, y.outcome setting = (y.after inner, none)
      ∧ last = { x.walker with nodes := y.walker.nodes ++ inner ++ after }
      ∧ ∀ f inner', SameFace y.value (f y.value) →
          (y.change f).outcome setting = (y.after inner', none) →
          (x.change (changeAt way f)).outcome setting
            = ({ x.walker with nodes := y.walker.nodes ++ inner' ++ after }, none) := by
  induction h generalizing last with
  | here x =>
    obtain ⟨inner, rfl⟩ := Walker.nodes_of_visit hok
    refine ⟨inner, [], hok, by rw [List.append_nil], ?_⟩
    intro f inner' _ h
    rw [List.append_nil]
    exact h
  | @down x y done rest opening segment r part w way hsteps hdone hnext ih =>
    rw [Visit.outcome, Walker.visit_of_split hsteps hdone, Walker.take_visit] at hok
    -- the visit of the part cannot have been refused
    obtain ⟨below, hbelow⟩ : ∃ below, (w.descend setting opening segment).visit setting r part
        = (below, none) := by
      cases hvisit : (w.descend setting opening segment).visit setting r part with
      | mk below fault =>
        cases fault with
        | none => exact ⟨below, rfl⟩
        | some fault => simp [hvisit] at hok
    obtain ⟨inner, after, hinner, rfl, hswap⟩ := ih hbelow
    rw [hbelow] at hok
    obtain ⟨more, rfl⟩ := Walker.nodes_of_runAll hok
    obtain ⟨nodes, rfl⟩ := Walker.nodes_of_runAll hdone
    refine ⟨inner, after ++ more, hinner, by simp, fun f inner' hface h => ?_⟩
    have hpart := hnext.agreeOff_changeAt (fun _ => List.mem_cons_of_mem _) hface
    have hsteps' := outline_change_split hsteps hpart
    have hvisit := hswap f inner' hface h
    simp only [Visit.outcome, Visit.change, changeAt_cons] at hvisit ⊢
    rw [Walker.visit_of_split hsteps' hdone, Walker.take_visit, hvisit, ← List.append_assoc]
    exact Walker.runAll_of_nodes hok _

end Enters

end BannedApi.Tree
