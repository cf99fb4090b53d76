import BannedApi.Proofs.Tree.Survey
import Mathlib.Data.List.Induction
import Mathlib.Data.List.Infix

/-!
Runs of the scope stack.

A stack knows the enclosing declarations by their frames alone: each frame stands before the frames
around it, and leaving a declaration goes back to what stands behind the frame that was saved when
it was entered. `stillOpen` says without any stack which declarations of a history are entered and
not yet left. `tracks_step` is the invariant that ties the two for one move, `run_wellNested` the
result for whole histories.
-/
namespace BannedApi.ScopeStack

open BannedApi.Tree (Opening)

/-- How a declaration is left: at its end, or because what was done inside it failed. -/
inductive Exit where
  | finished
  | failed
  deriving DecidableEq, Repr

/-- A move on a stack. A leave is of the declaration entered last. -/
inductive Move where
  | push (opening : Opening)
  | leave (exit : Exit)
  deriving DecidableEq, Repr

namespace Move

/-- The move enters a declaration. -/
def isPush : Move → Bool
  | push _ => true
  | leave _ => false

/-- The move leaves a declaration. -/
def isLeave : Move → Bool
  | push _ => false
  | leave _ => true

end Move

/-- Make a move. A declaration is left in the same way whether it was finished or failed. -/
def step (markers : Markers) : Move → ScopeStack → Option ScopeStack
  | .push o, s => some (s.enter (.declared markers o.kind o.name o.annotations))
  | .leave _, s => s.leave none

/-- Make moves one after the other. -/
def run (markers : Markers) (moves : List Move) (s : ScopeStack) : Option ScopeStack :=
  moves.foldlM (fun s move => step markers move s) s

theorem run_concat (markers : Markers) (history : List Move) (move : Move) (s : ScopeStack) :
    run markers (history ++ [move]) s = (run markers history s).bind (step markers move) := by
  simp [run, List.foldlM_append]

/-! ### Histories -/

/-- How often a declaration was entered. -/
def pushes (history : List Move) : Nat := history.countP Move.isPush

/-- How often a declaration was left. -/
def leaves (history : List Move) : Nat := history.countP Move.isLeave

/-- At no time have more declarations been left than entered. -/
def WellNested (moves : List Move) : Prop :=
  ∀ history, history <+: moves → leaves history ≤ pushes history

instance (moves : List Move) : Decidable (WellNested moves) :=
  decidable_of_iff (∀ history ∈ moves.inits, leaves history ≤ pushes history)
    (by simp only [List.mem_inits, WellNested])

/-- The declarations that are open after a history that is read backwards. A leave closes the last
declaration entered before it that is not closed yet; `closing` counts the leaves that wait for
theirs. -/
def openBefore (closing : Nat) : List Move → List Opening
  | [] => []
  | .leave _ :: earlier => openBefore (closing + 1) earlier
  | .push o :: earlier =>
    match closing with
    | 0 => o :: openBefore 0 earlier
    | closing + 1 => openBefore closing earlier

/-- The declarations entered and not yet left, the last one first. -/
def stillOpen (history : List Move) : List Opening := openBefore 0 history.reverse

section Counts

variable (history : List Move) (o : Opening) (exit : Exit)

@[simp] theorem pushes_push : pushes (history ++ [.push o]) = pushes history + 1 := by
  simp [pushes, Move.isPush]

@[simp] theorem pushes_leave : pushes (history ++ [.leave exit]) = pushes history := by
  simp [pushes, Move.isPush]

@[simp] theorem leaves_push : leaves (history ++ [.push o]) = leaves history := by
  simp [leaves, Move.isLeave]

@[simp] theorem leaves_leave : leaves (history ++ [.leave exit]) = leaves history + 1 := by
  simp [leaves, Move.isLeave]

end Counts

theorem openBefore_succ (closing : Nat) (earlier : List Move) :
    openBefore (closing + 1) earlier = (openBefore closing earlier).tail := by
  induction earlier generalizing closing with
  | nil => rfl
  | cons move earlier ih =>
    cases move with
    | leave exit => exact ih (closing + 1)
    | push o =>
      cases closing with
      | zero => rfl
      | succ closing => exact ih closing

@[simp] theorem stillOpen_push (history : List Move) (o : Opening) :
    stillOpen (history ++ [.push o]) = o :: stillOpen history := by
  simp [stillOpen, openBefore]

@[simp] theorem stillOpen_leave (history : List Move) (exit : Exit) :
    stillOpen (history ++ [.leave exit]) = (stillOpen history).tail := by
  simp [stillOpen, openBefore, openBefore_succ]

theorem WellNested.of_prefix {history moves : List Move} (h : WellNested moves)
    (hearly : history <+: moves) : WellNested history :=
  fun _ hearlier => h _ (hearlier.trans hearly)

/-- In a well-nested history as many declarations are open as were entered and not left. -/
theorem length_stillOpen {history : List Move} (h : WellNested history) :
    (stillOpen history).length + leaves history = pushes history := by
  induction history using List.reverseRecOn with
  | nil => rfl
  | append_singleton history move ih =>
    have hcount := ih (h.of_prefix (List.prefix_append _ _))
    cases move with
    | push o =>
      rw [stillOpen_push, List.length_cons, leaves_push, pushes_push]
      omega
    | leave exit =>
      have hlast := h _ List.prefix_rfl
      rw [leaves_leave, pushes_leave] at hlast ⊢
      rw [stillOpen_leave, List.length_tail]
      omega

/-! ### Moves -/

/-- The scopes that were saved when the declarations of a scope were entered, oldest first. -/
def saved : Scope → List Scope
  | [] => []
  | frame :: outer => saved outer ++ [frame :: outer]

/-- The stack has the frames of these declarations, and has saved what it needs to leave them. -/
structure Tracks (markers : Markers) (openings : List Opening) (s : ScopeStack) : Prop where
  current : s.current = openings.map (Opening.frame markers)
  entered : s.entered = saved s.current

theorem tracks_start (markers : Markers) : Tracks markers [] {} := ⟨rfl, rfl⟩

theorem placeOf_last (count : Nat) : placeOf (count + 1) (-1) = some count := by
  have hlast : (-1 : Int) + (count + 1 : Nat) = count := by omega
  have hinside : 0 ≤ (count : Int) ∧ (count : Int) < (count + 1 : Nat) := by omega
  simp only [placeOf, Int.reduceNeg, Int.reduceLT, if_true, hlast, Bool.and_eq_true,
    decide_eq_true_eq, if_pos hinside, Int.toNat_natCast]

theorem leave_none {s : ScopeStack} {before : List Scope} {last : Scope}
    (h : s.entered = before ++ [last]) : s.leave none = some ⟨last.parent, before⟩ := by
  have hplace : placeOf s.entered.length (-1) = some before.length := by
    rw [h, List.length_append, List.length_singleton, placeOf_last]
  have herase : (before ++ [last]).eraseIdx before.length = before := by
    rw [List.eraseIdx_append_of_length_le (Nat.le_refl _), Nat.sub_self]
    exact List.append_nil before
  rw [leave, Option.getD_none, hplace, Option.bind_some, h, List.getElem?_concat_length,
    Option.map_some, herase]

theorem tracks_push {markers : Markers} {openings : List Opening} {s : ScopeStack}
    (h : Tracks markers openings s) (o : Opening) :
    ∃ after, step markers (.push o) s = some after ∧ Tracks markers (o :: openings) after := by
  refine ⟨_, rfl, ?_, ?_⟩
  · simp [enter, h.current, Opening.frame]
  · simp [enter, h.entered, saved]

theorem tracks_leave {markers : Markers} {o : Opening} {openings : List Opening} {s : ScopeStack}
    (h : Tracks markers (o :: openings) s) (exit : Exit) :
    ∃ after, step markers (.leave exit) s = some after ∧ Tracks markers openings after := by
  -- The scope saved last is the current one, so its parent is the scope around the declaration.
  have hentered : s.entered = saved (openings.map (Opening.frame markers))
      ++ [(o :: openings).map (Opening.frame markers)] := by
    rw [h.entered, h.current]
    rfl
  exact ⟨_, leave_none hentered, rfl, rfl⟩

/-- One more move of a well-nested history keeps stack and history together. -/
theorem tracks_step {markers : Markers} {history : List Move} {move : Move} {s : ScopeStack}
    (hnested : WellNested (history ++ [move])) (h : Tracks markers (stillOpen history) s) :
    ∃ after, step markers move s = some after
      ∧ Tracks markers (stillOpen (history ++ [move])) after := by
  cases move with
  | push o =>
    rw [stillOpen_push]
    exact tracks_push h o
  | leave exit =>
    have hcount := length_stillOpen (hnested.of_prefix (List.prefix_append _ _))
    have hlast := hnested _ List.prefix_rfl
    rw [stillOpen_leave]
    cases hopen : stillOpen history with
    | nil =>
      -- Nothing is open, so the last move would leave more than was entered.
      rw [hopen, List.length_nil] at hcount
      rw [leaves_leave, pushes_leave] at hlast
      omega
    | cons o openings =>
      rw [hopen] at h
      exact tracks_leave h exit

theorem tracks_run (markers : Markers) {history : List Move} (h : WellNested history) :
    ∃ s, run markers history {} = some s ∧ Tracks markers (stillOpen history) s := by
  induction history using List.reverseRecOn with
  | nil => exact ⟨{}, rfl, tracks_start markers⟩
  | append_singleton history move ih =>
    obtain ⟨s, hrun, hs⟩ := ih (h.of_prefix (List.prefix_append _ _))
    obtain ⟨after, hstep, hafter⟩ := tracks_step h hs
    exact ⟨after, by rw [run_concat, hrun, Option.bind_some, hstep], hafter⟩

/-! ### Whole runs -/

theorem isSuppressed_frames (markers : Markers) (openings : List Opening) :
    Scope.isSuppressed (openings.map (Opening.frame markers)) = true
      ↔ ∃ o ∈ openings, ∃ note ∈ o.annotations, markers.isMarker note = true := by
  simp [Scope.isSuppressed, Opening.frame, Frame.declared, Markers.isMarked]

/-- A stack follows every well-nested history, whatever the markers and however declarations are
left. After each move its frames are those of the declarations entered and not yet left, innermost
first, each with its kind and name and marked as its annotations are. Their number is the depth, and
their names from the outermost inwards are the path. A node that stands there is suppressed if and
only if one of them has a marker among its annotations. When all are left there is no scope. -/
theorem run_wellNested (markers : Markers) (moves history : List Move) (h : WellNested moves)
    (hearly : history <+: moves) :
    ∃ s, run markers history {} = some s
      ∧ s.current = (stillOpen history).map (fun o =>
          { kind := o.kind, name := o.name, suppressed := markers.isMarked o.annotations })
      ∧ s.depth = (stillOpen history).length
      ∧ s.current.path = String.intercalate "." ((stillOpen history).reverse.map (·.name))
      ∧ (∀ node : Node, node.scope = s.current →
          (node.scope.isSuppressed = true
            ↔ ∃ o ∈ stillOpen history, ∃ note ∈ o.annotations, markers.isMarker note = true))
      ∧ (leaves history = pushes history → s.current = []) := by
  have hnested := h.of_prefix hearly
  obtain ⟨s, hrun, hs⟩ := tracks_run markers hnested
  refine ⟨s, hrun, hs.current, ?_, ?_, ?_, ?_⟩
  · rw [depth, hs.current, List.length_map]
  · rw [Scope.path, hs.current, ← List.map_reverse, List.map_map]
    rfl
  · intro node hnode
    rw [hnode, hs.current]
    exact isSuppressed_frames markers _
  · intro hall
    have hcount := length_stillOpen hnested
    have hnone : stillOpen history = [] := List.eq_nil_of_length_eq_zero (by omega)
    rw [hs.current, hnone]
    rfl

/-- A variable is left by a failure, and the marked method around it is still open. -/
def sampleMoves : List Move :=
  [.push ⟨"class", "Outer", []⟩, .push ⟨"method", "m", ["@XplatBanSuppression"]⟩,
    .push ⟨"local", "x", []⟩, .leave .failed]

theorem run_wellNested_failed : WellNested sampleMoves
    ∧ ∃ s, run .standard sampleMoves {} = some s
      ∧ s.current = [⟨"method", "m", true⟩, ⟨"class", "Outer", false⟩] ∧ s.depth = 2
      ∧ s.current.path = "Outer.m" ∧ s.current.isSuppressed = true := by
  have hnested : WellNested sampleMoves := by decide
  obtain ⟨s, hrun, hcurrent, hdepth, hpath, hnode, -⟩ :=
    run_wellNested .standard sampleMoves sampleMoves hnested List.prefix_rfl
  have hmarked : Markers.standard.isMarked ["@XplatBanSuppression"] = true := by decide +kernel
  refine ⟨hnested, s, hrun, ?_, hdepth, hpath, ?_⟩
  · have hunmarked : Markers.standard.isMarked [] = false := rfl
    simp [hcurrent, sampleMoves, stillOpen, openBefore, hmarked, hunmarked]
  · refine (hnode ⟨⟨.null, .null, .null⟩, s.current, .importing .null .null⟩ rfl).2 ?_
    exact ⟨⟨"method", "m", ["@XplatBanSuppression"]⟩, by decide, "@XplatBanSuppression", by decide,
      by decide +kernel⟩

end BannedApi.ScopeStack
