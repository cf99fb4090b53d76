import BannedApi.Node
import BannedApi.Tree.Malformed

/-!
The outline of a place in a tree: what is to be done there, in order, without going further down.

A tree is a nest of mappings. `outline` looks at one of them and lists its steps: emit a node, go on
into a part, or give up because the mapping is malformed. A step may stand inside a declaration, which
is opened for it and closed after it. The outline depends on the mapping alone, neither on the
markers nor on the way to it.
-/
namespace BannedApi.Tree

/-- How a value of the tree is to be read. -/
inductive Role where
  /-- A compilation unit. -/
  | unit
  /-- A declaration, statement or expression. -/
  | statement
  /-- A parameter of a method. -/
  | parameter
  deriving DecidableEq, Repr

/-- A declaration that encloses what is done inside it. -/
structure Opening where
  kind : String
  name : String
  annotations : List String
  deriving DecidableEq, Repr

/-- One thing to do. -/
inductive Action where
  | emit (line column : Value) (construct : Construct)
  | refuse (fault : Malformed)
  | visit (segment : Segment) (role : Role) (value : Value)

/-- One thing to do, perhaps inside a declaration. -/
structure Step where
  inside : Option Opening := none
  action : Action

/-! ### Fields -/

/-- A field that holds a list; a missing or null field is empty. -/
def listOf (key : String) (raw : Value) : Except Problem (List Value) :=
  if (raw.field key).isNull then .ok []
  else
    match (raw.field key).items? with
    | some xs => .ok xs
    | none => .error (.notList key)

/-- A value that must be a mapping, and be written out. -/
def mapping (raw : Value) : Except Problem Value :=
  if raw.entries?.isSome then .ok raw
  else if raw.kind = .unwritten then .error .endless
  else .error (.notMapping raw.kind)

/-- The kind of a mapping, if it states one. -/
def kindOf (raw : Value) : Except Problem (Option String) :=
  match raw.field "kind" with
  | .null => .ok none
  | .text s => .ok (some s)
  | v => .error (.kindNotText v.kind)

/-- A name that is a text and not empty. -/
def nameOr (problem : Problem) (raw : Value) : Except Problem String :=
  match raw.field "name" with
  | .text s => if s.isEmpty then .error problem else .ok s
  | _ => .error problem

/-- Annotations must be texts; `index` counts those before. -/
def annotationsFrom (index : Nat) : List Value → Except Malformed (List String)
  | [] => .ok []
  | .text s :: rest => (annotationsFrom (index + 1) rest).map (s :: ·)
  | v :: _ => .error ⟨[.item "annotations" index], .annotationNotText v.kind⟩

/-- The annotations of a mapping. -/
def annotationsOf (raw : Value) : Except Malformed (List String) :=
  match listOf "annotations" raw with
  | .error p => .error (.here p)
  | .ok xs => annotationsFrom 0 xs

/-- The name of a declaration; one without a name is called after its kind. -/
def declarationName (kind : String) (raw : Value) : Except Problem String :=
  let name := raw.field "name"
  if name.truthy then
    match name with
    | .text s => .ok s
    | v => .error (.nameNotText v.kind)
  else .ok s!"<{kind}>"

/-! ### Symbols, arguments, parameters -/

/-- A resolved symbol; null is none. -/
def symbolOf (raw : Value) : Except Problem (Option Symbol) :=
  if raw.isNull then .ok none
  else do
    let raw ← mapping raw
    let name ← nameOr .symbolWithoutName raw
    return some ⟨.text name, raw.field "package", raw.field "signature"⟩

/-- The symbol an argument refers to: its own, or that of the call or construction it is. -/
def argumentSymbol (raw : Value) : Except Problem Value :=
  let symbol := raw.field "symbol"
  if symbol.isNull then
    (kindOf raw).map fun kind =>
      if kind = some "call" then raw.field "method"
      else if kind = some "new" then raw.field "constructor"
      else .null
  else .ok symbol

/-- An argument of a call. -/
def argumentOf (raw : Value) : Except Problem Argument := do
  let raw ← mapping raw
  let symbol ← symbolOf (← argumentSymbol raw)
  return ⟨raw.field "type", symbol⟩

/-- A declared parameter of a constructor. -/
def parameterOf (raw : Value) : Except Problem Parameter := do
  let raw ← mapping raw
  return ⟨raw.field "type", raw.field "package", raw.field "name"⟩

/-- Read items in turn; the first one that is malformed is named by its place. -/
def eachFrom {α : Type} (read : Value → Except Problem α) (way : Nat → List Segment) (index : Nat) :
    List Value → Except Malformed (List α)
  | [] => .ok []
  | x :: xs =>
    match read x with
    | .error p => .error ⟨way index, p⟩
    | .ok a => (eachFrom read way (index + 1) xs).map (a :: ·)

/-- A list field whose items are read in turn. -/
def each {α : Type} (read : Value → Except Problem α) (way : Nat → List Segment) (key : String)
    (raw : Value) : Except Malformed (List α) :=
  match listOf key raw with
  | .error p => .error (.here p)
  | .ok xs => eachFrom read way 0 xs

/-! ### Constructs -/

/-- A method call. -/
def callOf (raw : Value) : Except Malformed Construct := do
  let arguments ← each argumentOf (fun i => [.item "arguments" i]) "arguments" raw
  let method ← (symbolOf (raw.field "method")).mapError .here
  return .call method (raw.field "receiver_type") (raw.field "type") arguments

/-- An object construction. -/
def constructionOf (raw : Value) : Except Malformed Construct := do
  let callee := raw.field "constructor"
  let symbol ← (symbolOf callee).mapError .here
  let parameters ← each parameterOf (fun i => [.field "constructor", .item "parameters" i])
    "parameters" callee
  return .construction symbol (raw.field "type") parameters

/-- An import. Its package is what stands before the last dot, unless it is a static import or the
package is stated. -/
def importOf (raw : Value) : Except Problem Construct := do
  let raw ← mapping raw
  let name ← nameOr .importWithoutName raw
  let stated := raw.field "package"
  let derived := stated.isNull && !(raw.field "static").truthy && name.toList.contains '.'
  return .importing (.text name)
    (if derived then .text (String.ofList (Text.beforeLast '.' name.toList)) else stated)

/-! ### Steps -/

/-- Emit a node for a mapping. -/
def emitFor (raw : Value) (construct : Construct) : Action :=
  .emit (raw.field "line") (raw.field "column") construct

/-- Go into each item of a list field. -/
def visitEach (role : Role) (key : String) (raw : Value) : List Action :=
  match listOf key raw with
  | .error p => [.refuse (.here p)]
  | .ok xs => xs.mapIdx fun i x => .visit (.item key i) role x

/-- Go into a field unless it is null. -/
def visitField (key : String) (raw : Value) : List Action :=
  let child := raw.field key
  if child.isNull then [] else [.visit (.field key) .statement child]

/-- Steps that stand where one is. -/
def plainly (actions : List Action) : List Step := actions.map fun a => ⟨none, a⟩

/-- Steps inside a declaration. -/
def inside (opening : Opening) (actions : List Action) : List Step :=
  actions.map fun a => ⟨some opening, a⟩

/-- The three forms of declarations. -/
inductive Form where
  | classLike | methodLike | variableLike
  deriving DecidableEq, Repr

/-- The form of a declaration of this kind; other kinds are no declarations. -/
def Form.ofKind? (kind : String) : Option Form :=
  if ["class", "interface", "enum", "record", "annotation_type"].contains kind then some .classLike
  else if ["method", "constructor"].contains kind then some .methodLike
  else if ["variable", "field", "local", "parameter"].contains kind then some .variableLike
  else none

/-- What is done inside a declaration. -/
def bodyOf (form : Form) (name : String) (raw : Value) : List Action :=
  match form with
  | .classLike => visitEach .statement "members" raw
  | .methodLike =>
    emitFor raw (.methodDecl (.text name) (raw.field "return_type")
        ((raw.field? "resolved").getD (.bool true)))
      :: visitEach .parameter "parameters" raw ++ visitEach .statement "body" raw
  | .variableLike =>
    emitFor raw (.variableDecl (.text name) (raw.field "type")) :: visitField "initializer" raw

/-- A declaration. -/
def declaration (form : Form) (kind : String) (raw : Value) : List Step :=
  match declarationName kind raw with
  | .error p => plainly [.refuse (.here p)]
  | .ok name =>
    match annotationsOf raw with
    | .error f => plainly [.refuse f]
    | .ok annotations => inside ⟨kind, name, annotations⟩ (bodyOf form name raw)

/-- A call: the node, the receiver, the arguments. -/
def call (raw : Value) : List Step :=
  match callOf raw with
  | .error f => plainly [.refuse f]
  | .ok construct =>
    plainly (emitFor raw construct :: visitField "receiver" raw
      ++ visitEach .statement "arguments" raw)

/-- The body of an anonymous class. -/
def anonymousBody (raw : Value) : List Step :=
  match listOf "body" raw with
  | .error p => plainly [.refuse (.here p)]
  | .ok [] => []
  | .ok _ =>
    match annotationsOf raw with
    | .error f => plainly [.refuse f]
    | .ok annotations =>
      inside ⟨"class", "<anonymous>", annotations⟩ (visitEach .statement "body" raw)

/-- A construction: the node, the arguments, the body of an anonymous class. -/
def construction (raw : Value) : List Step :=
  match constructionOf raw with
  | .error f => plainly [.refuse f]
  | .ok construct =>
    plainly (emitFor raw construct :: visitEach .statement "arguments" raw) ++ anonymousBody raw

/-- The fields that any other mapping may have parts in. -/
def partKeys : List String :=
  ["receiver", "children", "arguments", "initializer", "body", "parameters"]

/-- Go into the parts of a field, whether it is a mapping or a list. -/
def visitParts (key : String) (raw : Value) : List Action :=
  match (raw.field key).kind with
  | .map | .unwritten => visitField key raw
  | .list => visitEach .statement key raw
  | _ => []

/-- A declaration, statement or expression. -/
def statement (raw : Value) : List Step :=
  match kindOf raw with
  | .error p => plainly [.refuse (.here p)]
  | .ok none => plainly (partKeys.flatMap fun key => visitParts key raw)
  | .ok (some kind) =>
    match Form.ofKind? kind with
    | some form => declaration form kind raw
    | none =>
      if kind = "call" then call raw
      else if kind = "new" then construction raw
      else plainly (partKeys.flatMap fun key => visitParts key raw)

/-- The import at a place of the list. -/
def importAction (index : Nat) (raw : Value) : Action :=
  match importOf raw with
  | .error p => .refuse ⟨[.item "imports" index], p⟩
  | .ok construct => emitFor raw construct

/-- A compilation unit: the imports, then the declarations. -/
def unitActions (raw : Value) : List Action :=
  (match listOf "imports" raw with
    | .error p => [.refuse (.here p)]
    | .ok xs => xs.mapIdx importAction)
    ++ visitEach .statement "declarations" raw

/-- What is to be done with a value. -/
def outline (role : Role) (v : Value) : List Step :=
  match mapping v with
  | .error p => plainly [.refuse (.here p)]
  | .ok raw =>
    match role with
    | .unit => plainly (unitActions raw)
    | .statement => statement raw
    | .parameter => declaration .variableLike "parameter" raw

/-! ### What is visited is smaller -/

/-- The action visits nothing of that size or larger. -/
def Action.Below (n : Nat) : Action → Prop
  | .visit _ _ w => sizeOf w < n
  | _ => True

theorem sizeOf_field_lt {key : String} {raw : Value} (h : (raw.field key).isNull = false) :
    sizeOf (raw.field key) < sizeOf raw := by
  cases hf : raw.field? key with
  | none => simp [Value.field, hf, Value.isNull] at h
  | some w => simpa [Value.field, hf] using Value.sizeOf_lt_of_field? hf

theorem sizeOf_lt_of_mem_listOf {key : String} {raw x : Value} {xs : List Value}
    (h : listOf key raw = .ok xs) (hx : x ∈ xs) : sizeOf x < sizeOf raw := by
  unfold listOf at h
  split at h
  · cases h; cases hx
  · next hnull =>
    split at h
    · next ys hy =>
      cases h
      have hlt : sizeOf x < sizeOf (raw.field key) := Value.sizeOf_lt_of_mem_items hy hx
      have hfield : sizeOf (raw.field key) < sizeOf raw := sizeOf_field_lt (by simpa using hnull)
      omega
    · cases h

theorem below_visitEach {role : Role} {key : String} {raw : Value} :
    ∀ a ∈ visitEach role key raw, a.Below (sizeOf raw) := by
  intro a ha
  unfold visitEach at ha
  split at ha
  · simp only [List.mem_singleton] at ha
    subst ha; trivial
  · next xs hxs =>
    obtain ⟨i, hi, rfl⟩ := List.mem_mapIdx.1 ha
    exact sizeOf_lt_of_mem_listOf hxs (List.getElem_mem hi)

theorem below_visitField {key : String} {raw : Value} :
    ∀ a ∈ visitField key raw, a.Below (sizeOf raw) := by
  intro a ha
  simp only [visitField] at ha
  split at ha
  · cases ha
  · next h =>
    simp only [List.mem_singleton] at ha
    subst ha
    exact sizeOf_field_lt (by simpa using h)

theorem below_visitParts {key : String} {raw : Value} :
    ∀ a ∈ visitParts key raw, a.Below (sizeOf raw) := by
  intro a ha
  unfold visitParts at ha
  split at ha
  · exact below_visitField a ha
  · exact below_visitField a ha
  · exact below_visitEach a ha
  · cases ha

theorem below_bodyOf {form : Form} {name : String} {raw : Value} :
    ∀ a ∈ bodyOf form name raw, a.Below (sizeOf raw) := by
  intro a ha
  cases form with
  | classLike => exact below_visitEach a ha
  | methodLike =>
    simp only [bodyOf, List.cons_append, List.mem_cons, List.mem_append] at ha
    rcases ha with rfl | ha | ha
    · trivial
    · exact below_visitEach a ha
    · exact below_visitEach a ha
  | variableLike =>
    simp only [bodyOf, List.mem_cons] at ha
    rcases ha with rfl | ha
    · trivial
    · exact below_visitField a ha

theorem below_plainly {n : Nat} {actions : List Action} (h : ∀ a ∈ actions, a.Below n) :
    ∀ s ∈ plainly actions, s.action.Below n := by
  intro s hs
  obtain ⟨a, ha, rfl⟩ := List.mem_map.1 hs
  exact h a ha

theorem below_inside {n : Nat} {opening : Opening} {actions : List Action}
    (h : ∀ a ∈ actions, a.Below n) : ∀ s ∈ inside opening actions, s.action.Below n := by
  intro s hs
  obtain ⟨a, ha, rfl⟩ := List.mem_map.1 hs
  exact h a ha

theorem below_refuse {n : Nat} {f : Malformed} : ∀ s ∈ plainly [.refuse f], s.action.Below n :=
  below_plainly (by simp [Action.Below])

theorem below_declaration {form : Form} {kind : String} {raw : Value} :
    ∀ s ∈ declaration form kind raw, s.action.Below (sizeOf raw) := by
  unfold declaration
  split
  · exact below_refuse
  · split
    · exact below_refuse
    · exact below_inside below_bodyOf

theorem below_call {raw : Value} : ∀ s ∈ call raw, s.action.Below (sizeOf raw) := by
  unfold call
  split
  · exact below_refuse
  · refine below_plainly fun a ha => ?_
    simp only [List.cons_append, List.mem_cons, List.mem_append] at ha
    rcases ha with rfl | ha | ha
    · trivial
    · exact below_visitField a ha
    · exact below_visitEach a ha

theorem below_anonymousBody {raw : Value} : ∀ s ∈ anonymousBody raw, s.action.Below (sizeOf raw) := by
  unfold anonymousBody
  split
  · exact below_refuse
  · simp
  · split
    · exact below_refuse
    · exact below_inside below_visitEach

theorem below_construction {raw : Value} : ∀ s ∈ construction raw, s.action.Below (sizeOf raw) := by
  unfold construction
  split
  · exact below_refuse
  · intro s hs
    rcases List.mem_append.1 hs with hs | hs
    · refine below_plainly (fun a ha => ?_) s hs
      rcases List.mem_cons.1 ha with rfl | ha
      · trivial
      · exact below_visitEach a ha
    · exact below_anonymousBody s hs

theorem below_parts {raw : Value} :
    ∀ s ∈ plainly (partKeys.flatMap fun key => visitParts key raw), s.action.Below (sizeOf raw) := by
  refine below_plainly fun a ha => ?_
  obtain ⟨key, _, ha⟩ := List.mem_flatMap.1 ha
  exact below_visitParts a ha

theorem below_statement {raw : Value} : ∀ s ∈ statement raw, s.action.Below (sizeOf raw) := by
  unfold statement
  split
  · exact below_refuse
  · exact below_parts
  · split
    · exact below_declaration
    · split
      · exact below_call
      · split
        · exact below_construction
        · exact below_parts

theorem below_unitActions {raw : Value} : ∀ a ∈ unitActions raw, a.Below (sizeOf raw) := by
  intro a ha
  unfold unitActions at ha
  rcases List.mem_append.1 ha with ha | ha
  · split at ha
    · simp only [List.mem_singleton] at ha
      subst ha; trivial
    · obtain ⟨i, hi, rfl⟩ := List.mem_mapIdx.1 ha
      unfold importAction
      split <;> trivial
  · exact below_visitEach a ha

theorem eq_of_mapping {raw v : Value} (h : mapping raw = .ok v) : v = raw := by
  unfold mapping at h
  split at h
  · cases h; rfl
  · split at h <;> cases h

/-- A value that is visited from a place is smaller than the value there. -/
theorem below_outline {role : Role} {v : Value} :
    ∀ s ∈ outline role v, s.action.Below (sizeOf v) := by
  unfold outline
  split
  · exact below_refuse
  · next raw h =>
    obtain rfl := eq_of_mapping h
    cases role with
    | unit => exact below_plainly below_unitActions
    | statement => exact below_statement
    | parameter => exact below_declaration

theorem sizeOf_lt_of_visit {role r : Role} {v w : Value} {s : Step} {segment : Segment}
    (hs : s ∈ outline role v) (ha : s.action = .visit segment r w) : sizeOf w < sizeOf v := by
  have h := below_outline s hs
  rw [ha] at h
  exact h

end BannedApi.Tree
