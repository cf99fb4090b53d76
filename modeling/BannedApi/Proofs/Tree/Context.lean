import BannedApi.Proofs.Tree.Enclosing

/-!
The walker comes back to where it was.

An outline opens a declaration for each step inside it and names a fault by the way to it. Seen as
blocks, a walk enters a declaration once, around all that is done inside it, and leaves it for the
parent of the declaration entered; and it goes along the way to a fault, refuses there and comes
back. Both views are the same (`runAll_inside`, `runAll_refuse`), so a declaration and an expression
can be walked block by block (`visitDeclaration_eq`, `visitExpression_eq`). Whatever is walked, and
however it ends, the walker then stands where it stood before (`visit_restored`).
-/
namespace BannedApi.Tree.Walker

/-! ### Blocks -/

/-- Do something inside a declaration, and leave it for its parent at the end. -/
def inDeclaration {α : Type} (setting : Setting) (o : Opening) (act : Walker → Walker × α)
    (w : Walker) : Walker × α :=
  let inner : Scope := Frame.declared setting.markers o.kind o.name o.annotations :: w.scope
  let (after, result) := act { w with scope := inner }
  ({ after with scope := inner.parent }, result)

/-- Do something at the end of a way. -/
def along {α : Type} : List Segment → (Walker → Walker × α) → Walker → Walker × α
  | [], act => act
  | segment :: way, act => below segment (along way act)

/-- Do one thing and then another, unless the first one ends in a refusal. -/
def followedBy (first next : Walker → Walker × Option Malformed) (w : Walker) :
    Walker × Option Malformed :=
  match first w with
  | (after, none) => next after
  | (after, some fault) => (after, some fault)

/-- Refuse where one stands: the fault is named by the whole way there. -/
def refuse (problem : Problem) (w : Walker) : Walker × Option Malformed :=
  (w, some ⟨w.way.reverse, problem⟩)

/-- Go to where a fault is and refuse there. -/
def refuseAt (fault : Malformed) : Walker → Walker × Option Malformed :=
  along fault.path (refuse fault.problem)

variable (setting : Setting)

/-- Walk a declaration of some kind. A kind that is neither that of a class nor that of a method is
walked as a variable. -/
def visitDeclaration (kind : String) (raw : Value) (w : Walker) : Walker × Option Malformed :=
  match declarationName kind raw with
  | .error problem => refuse problem w
  | .ok name =>
    match annotationsOf raw with
    | .error fault => refuseAt fault w
    | .ok annotations =>
      inDeclaration setting ⟨kind, name, annotations⟩
        (runAll (act setting) (bodyOf ((Form.ofKind? kind).getD .variableLike) name raw)) w

/-- Walk the body of an anonymous class, if there is one. -/
def visitAnonymousBody (raw : Value) (w : Walker) : Walker × Option Malformed :=
  match listOf "body" raw with
  | .error problem => refuse problem w
  | .ok [] => (w, none)
  | .ok _ =>
    match annotationsOf raw with
    | .error fault => refuseAt fault w
    | .ok annotations =>
      inDeclaration setting ⟨"class", "<anonymous>", annotations⟩
        (visitChildren setting .statement "body" raw) w

/-- Walk an expression; a declaration may stand in its place. -/
def visitExpression (raw : Value) (w : Walker) : Walker × Option Malformed :=
  match kindOf raw with
  | .error problem => refuse problem w
  | .ok kind =>
    if kind = some "call" then
      match callOf raw with
      | .error fault => refuseAt fault w
      | .ok construct =>
        runAll (act setting) (emitFor raw construct :: visitField "receiver" raw
          ++ visitEach .statement "arguments" raw) w
    else if kind = some "new" then
      match constructionOf raw with
      | .error fault => refuseAt fault w
      | .ok construct =>
        followedBy
          (runAll (act setting) (emitFor raw construct :: visitEach .statement "arguments" raw))
          (visitAnonymousBody setting raw) w
    else
      match kind.filter fun k => (Form.ofKind? k).isSome with
      | some declared => visitDeclaration setting declared raw w
      | none => runAll (act setting) (partKeys.flatMap fun key => visitParts key raw) w

variable {setting}

/-! ### Blocks and steps -/

/-- The walker comes back from where it refused, and the fault has the whole way to it. -/
theorem along_refuse (way : List Segment) (problem : Problem) (w : Walker) :
    along way (refuse problem) w = (w, some ⟨w.way.reverse ++ way, problem⟩) := by
  induction way generalizing w with
  | nil => simp [along, refuse]
  | cons segment way ih =>
    rw [along, below, ih]
    simp [List.append_assoc]

theorem runAll_refuse (fault : Malformed) (w : Walker) :
    runAll (take setting) (plainly [.refuse fault]) w = refuseAt fault w := by
  rw [refuseAt, along_refuse]
  rfl

theorem runAll_plainly (actions : List Action) (w : Walker) :
    runAll (take setting) (plainly actions) w = runAll (act setting) actions w := by
  induction actions generalizing w with
  | nil => rfl
  | cons action actions ih =>
    have hstep : take setting ⟨none, action⟩ w = act setting action w := rfl
    rw [plainly, List.map_cons, runAll, runAll, hstep]
    cases act setting action w with
    | mk after fault =>
      cases fault with
      | none => exact ih after
      | some fault => rfl

theorem runAll_append_eq (steps more : List Step) (w : Walker) :
    runAll (take setting) (steps ++ more) w
      = followedBy (runAll (take setting) steps) (runAll (take setting) more) w := by
  rw [runAll_append]
  cases hfirst : runAll (take setting) steps w with
  | mk after fault =>
    cases fault with
    | none => simp [followedBy, hfirst]
    | some fault => simp [followedBy, hfirst]

theorem runAll_act_eq (actions : List Action) (w : Walker) :
    runAll (act setting) actions w
      = w.reap (Yield.all ((plainly actions).map (stepYield setting))) := by
  rw [← runAll_plainly, runAll_eq]

/-- If what is done inside comes back to the declaration, then its parent is the parent of the scope
that one is in at the end. -/
theorem within_eq_inDeclaration {act : Walker → Walker × Option Malformed}
    (h : ∀ w, (act w).1.scope = w.scope) (o : Opening) (w : Walker) :
    within setting (some o) act w = inDeclaration setting o act w := by
  simp only [within, inDeclaration, h]

/-- Opening a declaration for each step inside it is opening it once around them all. -/
theorem runAll_inside (o : Opening) (actions : List Action) (w : Walker) :
    runAll (take setting) (inside o actions) w
      = inDeclaration setting o (runAll (act setting) actions) w := by
  -- What is done inside need not be known, only that it comes back to the declaration.
  have hback : ∀ w, (runAll (act setting) actions w).1.scope = w.scope := by
    intro w
    rw [runAll_act_eq]
    rfl
  rw [← within_eq_inDeclaration hback, within_eq_reap (runAll_act_eq actions), runAll_eq,
    ← Yield.all_map_inside]
  simp [inside, plainly, stepYield, Setting.frames, Function.comp_def]

theorem visitDeclaration_eq (kind : String) (raw : Value) (w : Walker) :
    visitDeclaration setting kind raw w
      = runAll (take setting)
          (declaration ((Form.ofKind? kind).getD .variableLike) kind raw) w := by
  rw [visitDeclaration, declaration]
  cases declarationName kind raw with
  | error problem => exact (runAll_refuse (.here problem) w).symm
  | ok name =>
    cases annotationsOf raw with
    | error fault => exact (runAll_refuse fault w).symm
    | ok annotations => exact (runAll_inside _ _ w).symm

theorem visitAnonymousBody_eq (raw : Value) (w : Walker) :
    visitAnonymousBody setting raw w = runAll (take setting) (anonymousBody raw) w := by
  have hchildren : visitChildren setting .statement "body" raw
      = runAll (act setting) (visitEach .statement "body" raw) := by
    funext w
    exact runAll_plainly _ w
  rw [visitAnonymousBody, anonymousBody, hchildren]
  cases listOf "body" raw with
  | error problem => exact (runAll_refuse (.here problem) w).symm
  | ok body =>
    cases body with
    | nil => rfl
    | cons x xs =>
      cases annotationsOf raw with
      | error fault => exact (runAll_refuse fault w).symm
      | ok annotations => exact (runAll_inside _ _ w).symm

theorem visitExpression_eq (raw : Value) (w : Walker) :
    visitExpression setting raw w = runAll (take setting) (statement raw) w := by
  rw [visitExpression, statement]
  cases kindOf raw with
  | error problem => exact (runAll_refuse (.here problem) w).symm
  | ok kind =>
    cases kind with
    | none => exact (runAll_plainly _ w).symm
    | some kind =>
      simp only [Option.some.injEq]
      -- Calls and constructions are no declarations, so it does not matter what is asked first.
      by_cases hcall : kind = "call"
      · have hform : Form.ofKind? "call" = none := by decide
        subst hcall
        simp only [if_true, hform, call]
        cases callOf raw with
        | error fault => exact (runAll_refuse fault w).symm
        | ok construct => exact (runAll_plainly _ w).symm
      by_cases hnew : kind = "new"
      · have hform : Form.ofKind? "new" = none := by decide
        subst hnew
        simp only [hcall, if_true, if_false, hform, construction]
        cases constructionOf raw with
        | error fault => exact (runAll_refuse fault w).symm
        | ok construct =>
          have hbody : visitAnonymousBody setting raw = runAll (take setting) (anonymousBody raw) :=
            funext (visitAnonymousBody_eq raw)
          simp only [hbody, runAll_append_eq, funext (runAll_plainly _)]
      simp only [hcall, hnew, if_false]
      cases hform : Form.ofKind? kind with
      | none => simp [Option.filter, hform, runAll_plainly]
      | some form => simp [Option.filter, hform, visitDeclaration_eq]

/-! ### On every exit -/

/-- The walker is back where it was. It is in the same declarations and at the end of the same way,
and has its nodes, perhaps with more behind them. In between it was only further in and further
down: each of the new nodes stands inside those declarations, and the way to a fault begins with
that way. -/
structure Restored (before : Walker) (outcome : Walker × Option Malformed) : Prop where
  scope : outcome.1.scope = before.scope
  way : outcome.1.way = before.way
  nodes : ∃ emitted, outcome.1.nodes = before.nodes ++ emitted
    ∧ ∀ node ∈ emitted, before.scope <:+ node.scope
  fault : ∀ fault, outcome.2 = some fault → before.way.reverse <+: fault.path

theorem restored_reap (y : Yield) (w : Walker) : Restored w (w.reap y) where
  scope := rfl
  way := rfl
  nodes := by
    refine ⟨y.nodes.map (Node.under w.scope), rfl, fun node hnode => ?_⟩
    obtain ⟨n, -, rfl⟩ := List.mem_map.1 hnode
    exact List.suffix_append n.scope w.scope
  fault := by
    intro fault hfault
    obtain ⟨m, -, rfl⟩ := Option.map_eq_some_iff.1 hfault
    exact List.prefix_append w.way.reverse m.path

theorem restored_runAll (steps : List Step) (w : Walker) :
    Restored w (runAll (take setting) steps w) := by
  rw [runAll_eq]
  exact restored_reap _ w

/-- The walker restores its context on every exit. Wherever it stands and whatever it has emitted,
after a walk of any value, of a declaration of any kind, of an expression or of the parts in a list
field it is in the declarations and at the end of the way that it started from, and its nodes are
those it had and then the new ones, whether the walk is accepted or refused. -/
theorem visit_restored (setting : Setting) (w : Walker) :
    (∀ role v, Restored w (w.visit setting role v))
    ∧ (∀ kind raw, Restored w (w.visitDeclaration setting kind raw))
    ∧ (∀ raw, Restored w (w.visitExpression setting raw))
    ∧ ∀ role key raw, Restored w (w.visitChildren setting role key raw) := by
  refine ⟨fun role v => ?_, fun kind raw => ?_, fun raw => ?_, fun role key raw => ?_⟩
  · rw [visit_eq_runAll]
    exact restored_runAll _ w
  · rw [visitDeclaration_eq]
    exact restored_runAll _ w
  · rw [visitExpression_eq]
    exact restored_runAll _ w
  · exact restored_runAll _ w

-- A method is left again when its second parameter is refused; the nodes up to there stay.
example :
    let w : Walker := { scope := [⟨"class", "Outer", false⟩], way := [.item "members" 2] }
    let outcome := w.visit ⟨.standard, .null⟩ .statement
      (.object [("kind", .text "method"), ("parameters", .list [.object [], .int 1])])
    outcome.2 = some ⟨[.item "members" 2, .item "parameters" 1], .notMapping .int⟩
      ∧ outcome.1.nodes.map (·.scope.path) = ["Outer.<method>", "Outer.<method>.<parameter>"]
      ∧ outcome.1.scope = w.scope ∧ outcome.1.way = w.way := by
  decide +kernel

end BannedApi.Tree.Walker
