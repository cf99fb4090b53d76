import BannedApi.Proofs.Tree.Yield

/-!
Where a part of a tree stands has no influence on what is found in it.

A walk that starts inside declarations and far from the top emits the nodes that it emits by itself,
with those declarations around each of them, and refuses for the same reason, seen from the top
(`visit_enclosed`). So the parts in a list field can be walked one by one: what is emitted for a list
is what is emitted for its beginning and then for its end (`visitChildren_append`), and a part that is
replaced by another changes its own block of nodes and nothing else (`visitChildren_replace`).
-/
namespace BannedApi.Tree

namespace Yield

theorem andThen_of_none {a : Yield} (h : a.fault = none) (b : Yield) :
    a.andThen b = ⟨a.nodes ++ b.nodes, b.fault⟩ := by
  rw [andThen, h]

theorem andThen_of_some {a : Yield} {fault : Malformed} (h : a.fault = some fault) (b : Yield) :
    a.andThen b = a := by
  rw [andThen, h]

theorem andThen_assoc (a b c : Yield) : (a.andThen b).andThen c = a.andThen (b.andThen c) := by
  cases ha : a.fault with
  | some fault => simp only [andThen_of_some ha]
  | none =>
    rw [andThen_of_none ha, andThen_of_none ha]
    cases hb : b.fault with
    | some fault => simp [andThen, hb]
    | none => simp [andThen, hb]

theorem all_append (xs ys : List Yield) : all (xs ++ ys) = (all xs).andThen (all ys) := by
  induction xs with
  | nil => simp [andThen]
  | cons x xs ih => rw [List.cons_append, all_cons, all_cons, ih, andThen_assoc]

theorem fault_andThen (a b : Yield) :
    (a.andThen b).fault = none ↔ a.fault = none ∧ b.fault = none := by
  cases ha : a.fault with
  | none => simp [andThen, ha]
  | some fault => simp [andThen, ha]

/-- Two yields that differ in the way to the fault at most. -/
def Alike (a b : Yield) : Prop := a.nodes = b.nodes ∧ (a.fault = none ↔ b.fault = none)

theorem alike_below (way way' : List Segment) (y : Yield) : (y.below way).Alike (y.below way') := by
  simp [Alike, below]

theorem Alike.andThen {a a' b b' : Yield} (ha : a.Alike a') (hb : b.Alike b') :
    (a.andThen b).Alike (a'.andThen b') := by
  obtain ⟨hanodes, hafault⟩ := ha
  obtain ⟨hbnodes, hbfault⟩ := hb
  refine ⟨?_, by rw [fault_andThen, fault_andThen, hafault, hbfault]⟩
  cases hfault : a.fault with
  | none => rw [andThen_of_none hfault, andThen_of_none (hafault.1 hfault), hanodes, hbnodes]
  | some fault =>
    obtain ⟨fault', hfault'⟩ : ∃ fault', a'.fault = some fault' := by
      refine Option.ne_none_iff_exists'.1 fun hnone => ?_
      rw [hafault.2 hnone] at hfault
      cases hfault
    rw [andThen_of_some hfault, andThen_of_some hfault', hanodes]

end Yield

namespace Walker

variable (setting : Setting) (role : Role) (key : String)

/-- Walk the parts in a list field of a mapping, one after the other. -/
def visitChildren (raw : Value) (w : Walker) : Walker × Option Malformed :=
  runAll (take setting) (plainly (visitEach role key raw)) w

/-- What the parts in a list field yield by themselves; `index` counts those before. -/
def childrenYield (index : Nat) (xs : List Value) : Yield :=
  .all ((xs.mapIdx fun i x => Action.visit (.item key (i + index)) role x).map (actYield setting))

variable {setting role key}

theorem visitChildren_eq {raw : Value} {xs : List Value} (h : listOf key raw = .ok xs)
    (w : Walker) :
    w.visitChildren setting role key raw = w.reap (childrenYield setting role key 0 xs) := by
  have hstep : (stepYield setting ∘ fun a => ⟨none, a⟩) = actYield setting := by
    funext a
    simp [stepYield, Setting.frames]
  rw [visitChildren, runAll_eq, visitEach, h, plainly, List.map_map, hstep]
  rfl

theorem childrenYield_append (index : Nat) (xs ys : List Value) :
    childrenYield setting role key index (xs ++ ys)
      = (childrenYield setting role key index xs).andThen
          (childrenYield setting role key (xs.length + index) ys) := by
  rw [childrenYield, List.mapIdx_append, List.map_append, Yield.all_append]
  simp only [childrenYield, Nat.add_assoc]

theorem childrenYield_cons (index : Nat) (x : Value) (xs : List Value) :
    childrenYield setting role key index (x :: xs)
      = ((yieldOf setting role x).below [.item key index]).andThen
          (childrenYield setting role key (index + 1) xs) := by
  rw [childrenYield, List.mapIdx_cons, List.map_cons, Yield.all_cons, Nat.zero_add, childrenYield]
  simp only [Nat.add_assoc, Nat.add_comm 1]
  rfl

/-- Where the parts stand in the list shows in the fault alone. -/
theorem childrenYield_alike (i j : Nat) (xs : List Value) :
    (childrenYield setting role key i xs).Alike (childrenYield setting role key j xs) := by
  induction xs generalizing i j with
  | nil => exact ⟨rfl, Iff.rfl⟩
  | cons x xs ih =>
    rw [childrenYield_cons, childrenYield_cons]
    exact (Yield.alike_below _ _ _).andThen (ih (i + 1) (j + 1))

theorem fault_childrenYield (index : Nat) (xs : List Value) :
    (childrenYield setting role key index xs).fault = none
      ↔ ∀ x ∈ xs, (yieldOf setting role x).fault = none := by
  induction xs generalizing index with
  | nil => simp [childrenYield]
  | cons x xs ih =>
    rw [childrenYield_cons, Yield.fault_andThen, ih, List.forall_mem_cons]
    simp [Yield.below]

@[simp] theorem fault_reap (y : Yield) (w : Walker) : (w.reap y).2 = none ↔ y.fault = none := by
  simp [reap]

@[simp] theorem nodes_reap (y : Yield) (w : Walker) :
    (w.reap y).1.nodes = w.nodes ++ y.nodes.map (Node.under w.scope) := rfl

/-! ### Lists of parts -/

theorem visitChildren_isOk_iff {raw : Value} {xs : List Value} (h : listOf key raw = .ok xs)
    (w : Walker) :
    (w.visitChildren setting role key raw).2 = none
      ↔ ∀ x ∈ xs, (visit setting role x {}).2 = none := by
  rw [visitChildren_eq h, fault_reap, fault_childrenYield]
  rfl

/-- The nodes of a list are those of its beginning and then those of its end, and if its beginning is
refused the end is not looked at. -/
theorem visitChildren_append {raw front back : Value} {xs ys : List Value}
    (hraw : listOf key raw = .ok (xs ++ ys)) (hfront : listOf key front = .ok xs)
    (hback : listOf key back = .ok ys) (w : Walker) :
    ((w.visitChildren setting role key front).2 = none → ∃ first last,
      (w.visitChildren setting role key front).1.nodes = w.nodes ++ first
      ∧ (w.visitChildren setting role key back).1.nodes = w.nodes ++ last
      ∧ (w.visitChildren setting role key raw).1.nodes = w.nodes ++ first ++ last)
    ∧ ((w.visitChildren setting role key front).2 ≠ none →
      w.visitChildren setting role key raw = w.visitChildren setting role key front) := by
  rw [visitChildren_eq hraw, visitChildren_eq hfront, visitChildren_eq hback, childrenYield_append]
  -- The parts at the end are counted from where the beginning ends; that shows in a fault alone.
  have hnodes : (childrenYield setting role key (xs.length + 0) ys).nodes
      = (childrenYield setting role key 0 ys).nodes := (childrenYield_alike _ _ ys).1
  constructor
  · intro haccepted
    rw [fault_reap] at haccepted
    refine ⟨_, _, rfl, rfl, ?_⟩
    rw [Yield.andThen_of_none haccepted, nodes_reap, hnodes, List.map_append, List.append_assoc]
  · intro hrefused
    rw [ne_eq, fault_reap] at hrefused
    obtain ⟨fault, hfault⟩ := Option.ne_none_iff_exists'.1 hrefused
    rw [Yield.andThen_of_some hfault]

/-- A part that is replaced by another changes its own block of nodes. -/
theorem visitChildren_replace {raw raw' x y : Value} {before after : List Value}
    (hraw : listOf key raw = .ok (before ++ x :: after))
    (hraw' : listOf key raw' = .ok (before ++ y :: after)) (w : Walker)
    (haccepted : ∀ v ∈ before ++ [x, y], (visit setting role v {}).2 = none) :
    (w.visitChildren setting role key raw').2 = (w.visitChildren setting role key raw).2
    ∧ ∃ first last,
      (w.visitChildren setting role key raw).1.nodes
        = w.nodes ++ first ++ (visit setting role x {}).1.nodes.map (Node.under w.scope) ++ last
      ∧ (w.visitChildren setting role key raw').1.nodes
        = w.nodes ++ first ++ (visit setting role y {}).1.nodes.map (Node.under w.scope)
          ++ last := by
  simp only [List.forall_mem_append, List.forall_mem_cons] at haccepted
  obtain ⟨hbefore, hx, hy, -⟩ := haccepted
  have hfront : (childrenYield setting role key 0 before).fault = none :=
    (fault_childrenYield 0 before).2 hbefore
  have hblock : ∀ v, (visit setting role v {}).2 = none →
      childrenYield setting role key 0 (before ++ v :: after)
        = ⟨(childrenYield setting role key 0 before).nodes ++ ((visit setting role v {}).1.nodes
            ++ (childrenYield setting role key (before.length + 0 + 1) after).nodes),
          (childrenYield setting role key (before.length + 0 + 1) after).fault⟩ := by
    intro v hv
    have hfault : ((yieldOf setting role v).below [.item key (before.length + 0)]).fault = none :=
      Option.map_eq_none_iff.2 hv
    rw [childrenYield_append, childrenYield_cons, Yield.andThen_of_none hfront,
      Yield.andThen_of_none hfault]
    rfl
  rw [visitChildren_eq hraw, visitChildren_eq hraw', hblock x hx, hblock y hy]
  refine ⟨rfl, (childrenYield setting role key 0 before).nodes.map (Node.under w.scope),
    (childrenYield setting role key (before.length + 0 + 1) after).nodes.map (Node.under w.scope),
    ?_, ?_⟩
  · simp
  · simp

/-- Walking does not depend on where one stands. Inside any declarations and at the end of any way, a
value is accepted if and only if it is accepted by itself; the nodes emitted are those emitted by
itself, with the declarations around each of them; and if it is refused, then for the same problem
behind the same steps from there on. So a list of parts is accepted if each of them is accepted by
itself, the nodes of a list are those of its beginning and then those of its end, and a part that is
replaced by another accepted one changes its own block of nodes and nothing else. -/
theorem visit_enclosed (setting : Setting) (role : Role) (w : Walker) :
    (∀ v, ((w.visit setting role v).2 = none ↔ (visit setting role v {}).2 = none)
      ∧ (w.visit setting role v).1.nodes
        = w.nodes ++ (visit setting role v {}).1.nodes.map (Node.under w.scope)
      ∧ (w.visit setting role v).2
        = (visit setting role v {}).2.map fun m => ⟨w.way.reverse ++ m.path, m.problem⟩)
    ∧ (∀ key raw xs, listOf key raw = .ok xs →
      ((w.visitChildren setting role key raw).2 = none
        ↔ ∀ x ∈ xs, (visit setting role x {}).2 = none))
    ∧ (∀ key raw front back xs ys, listOf key raw = .ok (xs ++ ys) →
      listOf key front = .ok xs → listOf key back = .ok ys →
      ((w.visitChildren setting role key front).2 = none → ∃ first last,
        (w.visitChildren setting role key front).1.nodes = w.nodes ++ first
        ∧ (w.visitChildren setting role key back).1.nodes = w.nodes ++ last
        ∧ (w.visitChildren setting role key raw).1.nodes = w.nodes ++ first ++ last)
      ∧ ((w.visitChildren setting role key front).2 ≠ none →
        w.visitChildren setting role key raw = w.visitChildren setting role key front))
    ∧ ∀ key raw raw' before x y after, listOf key raw = .ok (before ++ x :: after) →
      listOf key raw' = .ok (before ++ y :: after) →
      (∀ v ∈ before ++ [x, y], (visit setting role v {}).2 = none) →
      (w.visitChildren setting role key raw').2 = (w.visitChildren setting role key raw).2
      ∧ ∃ first last,
        (w.visitChildren setting role key raw).1.nodes
          = w.nodes ++ first ++ (visit setting role x {}).1.nodes.map (Node.under w.scope) ++ last
        ∧ (w.visitChildren setting role key raw').1.nodes
          = w.nodes ++ first ++ (visit setting role y {}).1.nodes.map (Node.under w.scope)
            ++ last := by
  refine ⟨?_, ?_, ?_, ?_⟩
  · intro v
    rw [visit_eq_reap setting role v w]
    exact ⟨fault_reap _ w, rfl, rfl⟩
  · intro key raw xs hraw
    exact visitChildren_isOk_iff hraw w
  · intro key raw front back xs ys hraw hfront hback
    exact visitChildren_append hraw hfront hback w
  · intro key raw raw' before x y after hraw hraw' haccepted
    exact visitChildren_replace hraw hraw' w haccepted

end Walker

end BannedApi.Tree
