import BannedApi.Proofs.Tree.Yield
import BannedApi.Proofs.Value.Erasure
import BannedApi.Tree.Document
import Mathlib.Data.List.Basic

/-!
Trees without the arguments of their types.

A walk looks into no type. So the walk of a tree whose types have lost their arguments takes the same
steps and ends at the same place for the same reason, and the nodes that it emits are those of the
tree itself with their types cut (`outline_cut`, `yieldOf_cut`). What a diagnostic tells as it
stands (a signature, a line, a column) is left alone.
-/
namespace BannedApi

namespace Tree

/-- The fields that a diagnostic tells as they stand. -/
def toldFields : List String := ["signature", "line", "column"]

/-- A tree without the arguments of its types. -/
def cut (v : Value) : Value := v.erase toldFields

/-- A type without its arguments. -/
def cutType (v : Value) : Value := v.eraseType toldFields

end Tree

/-! ### Nodes -/

/-- The symbol, with a package that may hold types cut. -/
def Symbol.cut (s : Symbol) : Symbol := { s with package := Tree.cut s.package }

/-- The argument with its type cut. -/
def Argument.cut (a : Argument) : Argument :=
  ⟨Tree.cutType a.type, a.symbol.map Symbol.cut⟩

/-- The parameter with its type cut. -/
def Parameter.cut (p : Parameter) : Parameter :=
  ⟨Tree.cutType p.type, Tree.cut p.package, Tree.cut p.name⟩

/-- The construct with all types cut. -/
def Construct.cut : Construct → Construct
  | .call method receiver result arguments =>
    .call (method.map Symbol.cut) (Tree.cutType receiver) (Tree.cutType result)
      (arguments.map Argument.cut)
  | .construction callee type parameters =>
    .construction (callee.map Symbol.cut) (Tree.cutType type) (parameters.map Parameter.cut)
  | .importing name package => .importing name (Tree.cut package)
  | .variableDecl name type => .variableDecl name (Tree.cutType type)
  | .methodDecl name type resolved =>
    .methodDecl name (Tree.cutType type) (Tree.cut resolved)

/-- The node with all types cut. -/
def Node.cut (n : Node) : Node :=
  ⟨{ n.location with file := Tree.cut n.location.file }, n.scope, n.construct.cut⟩

/-- The unit with all types cut. -/
def CompilationUnit.cut (u : CompilationUnit) : CompilationUnit :=
  ⟨Tree.cut u.file, u.nodes.map Node.cut⟩

namespace Tree

/-! ### What is read of a mapping -/

@[simp] theorem cut_scalar (s : Scalar) : cut (.scalar s) = .scalar s := Value.erase_scalar _ s

@[simp] theorem kind_cut (v : Value) : (cut v).kind = v.kind := Value.kind_erase _ v

@[simp] theorem isNull_cut (v : Value) : (cut v).isNull = v.isNull := Value.isNull_erase _ v

@[simp] theorem truthy_cut (v : Value) : (cut v).truthy = v.truthy := Value.truthy_erase _ v

theorem items?_cut (v : Value) : (cut v).items? = v.items?.map (·.map cut) :=
  Value.items?_erase _ v

/-- A field that holds no type and is not told. -/
def isPlain (key : String) : Bool := !toldFields.contains key && !Value.typeFields.contains key

theorem field?_cut {key : String} (h : isPlain key = true) (v : Value) :
    (cut v).field? key = (v.field? key).map cut := by
  simp only [isPlain, Bool.and_eq_true, Bool.not_eq_true', List.contains_eq_mem,
    decide_eq_false_iff_not] at h
  have hplain : Value.eraseIn toldFields key = cut :=
    funext fun w => Value.eraseIn_of_plain _ h.1 h.2 w
  rw [cut, Value.field?_erase, hplain]

theorem field_cut {key : String} (h : isPlain key = true) (v : Value) :
    (cut v).field key = cut (v.field key) := by
  rw [Value.field, Value.field, field?_cut h]
  cases v.field? key <;> simp

theorem field_cut_type {key : String} (h : key ∈ Value.typeFields) (v : Value) :
    (cut v).field key = cutType (v.field key) := by
  have hkept : key ∉ toldFields := by
    revert key
    decide
  rw [cut, Value.field_erase, Value.eraseIn_of_type _ hkept h, cutType]

theorem field_cut_told {key : String} (h : key ∈ toldFields) (v : Value) :
    (cut v).field key = v.field key := by
  rw [cut, Value.field_erase, Value.eraseIn_of_mem _ h]

theorem mapping_cut (v : Value) : mapping (cut v) = (mapping v).map cut := by
  have hmap : (cut v).entries?.isSome = v.entries?.isSome := by
    rw [Bool.eq_iff_iff, Value.isSome_entries?, Value.isSome_entries?, kind_cut]
  rw [mapping, mapping, hmap, kind_cut]
  split
  · rfl
  · split <;> rfl

theorem listOf_cut {key : String} (h : isPlain key = true) (v : Value) :
    listOf key (cut v) = (listOf key v).map (·.map cut) := by
  rw [listOf, listOf, field_cut h, isNull_cut, items?_cut]
  split
  · rfl
  · cases (v.field key).items? <;> rfl

theorem kindOf_cut (v : Value) : kindOf (cut v) = kindOf v := by
  rw [kindOf, kindOf, field_cut (by decide)]
  cases v.field "kind" with
  | scalar s => rw [cut_scalar]
  | knot label w => simp [cut, Value.erase, Value.kind]
  | _ => rfl

theorem nameOr_cut (problem : Problem) (v : Value) : nameOr problem (cut v) = nameOr problem v := by
  rw [nameOr, nameOr, field_cut (by decide)]
  cases v.field "name" with
  | scalar s => rw [cut_scalar]
  | _ => rfl

theorem annotationsFrom_cut (index : Nat) (xs : List Value) :
    annotationsFrom index (xs.map cut) = annotationsFrom index xs := by
  fun_induction annotationsFrom index xs with
  | case1 index => rfl
  | case2 index s rest ih =>
    rw [List.map_cons, cut_scalar, annotationsFrom, ih]
  | case3 index v rest htext =>
    -- what is refused here is no text, and cutting types makes none of it
    have hcut : ∀ s, cut v ≠ .text s := by
      intro s hs
      cases v with
      | scalar x => exact htext s ((cut_scalar x).symm.trans hs)
      | _ => cases hs
    rw [List.map_cons, annotationsFrom, kind_cut]
    exact hcut

theorem annotationsOf_cut (v : Value) : annotationsOf (cut v) = annotationsOf v := by
  rw [annotationsOf, annotationsOf, listOf_cut (by decide)]
  cases listOf "annotations" v with
  | error p => rfl
  | ok xs => exact annotationsFrom_cut 0 xs

theorem declarationName_cut (kind : String) (v : Value) :
    declarationName kind (cut v) = declarationName kind v := by
  simp only [declarationName, field_cut (show isPlain "name" = true by decide), truthy_cut]
  split
  · cases v.field "name" with
    | scalar s => rw [cut_scalar]
    | knot label w => simp [cut, Value.erase, Value.kind]
    | _ => rfl
  · rfl

/-! ### Symbols, arguments, parameters -/

theorem symbolOf_cut (v : Value) :
    symbolOf (cut v) = (symbolOf v).map (Option.map Symbol.cut) := by
  rw [symbolOf, symbolOf, isNull_cut, mapping_cut]
  split
  · rfl
  · cases mapping v with
    | error p => rfl
    | ok raw =>
      show (nameOr _ (cut raw) >>= _) = Except.map _ (nameOr _ raw >>= _)
      rw [nameOr_cut, field_cut (by decide), field_cut_told (by decide)]
      cases nameOr .symbolWithoutName raw <;> rfl

theorem argumentSymbol_cut (v : Value) : argumentSymbol (cut v) = (argumentSymbol v).map cut := by
  have hplain : ∀ key ∈ ["symbol", "method", "constructor"], isPlain key = true := by decide
  simp only [argumentSymbol, kindOf_cut, field_cut (hplain "symbol" (by decide)),
    field_cut (hplain "method" (by decide)), field_cut (hplain "constructor" (by decide)),
    isNull_cut]
  split
  · cases kindOf v with
    | error p => rfl
    | ok kind =>
      refine congrArg Except.ok ?_
      dsimp only
      split
      · rfl
      · split
        · rfl
        · exact (cut_scalar .null).symm
  · rfl

theorem argumentOf_cut (v : Value) : argumentOf (cut v) = (argumentOf v).map Argument.cut := by
  rw [argumentOf, argumentOf, mapping_cut]
  cases mapping v with
  | error p => rfl
  | ok raw =>
    show (argumentSymbol (cut raw) >>= _) = Except.map _ (argumentSymbol raw >>= _)
    rw [argumentSymbol_cut, field_cut_type (by decide)]
    cases argumentSymbol raw with
    | error p => rfl
    | ok symbol =>
      show (symbolOf (cut symbol) >>= _) = Except.map _ (symbolOf symbol >>= _)
      rw [symbolOf_cut]
      cases symbolOf symbol <;> rfl

theorem parameterOf_cut (v : Value) : parameterOf (cut v) = (parameterOf v).map Parameter.cut := by
  rw [parameterOf, parameterOf, mapping_cut]
  cases mapping v with
  | error p => rfl
  | ok raw =>
    show Except.ok (Parameter.mk _ _ _) = Except.ok (Parameter.mk _ _ _)
    rw [field_cut_type (by decide), field_cut (by decide), field_cut (by decide)]

section Each

variable {α : Type} {read : Value → Except Problem α} {g : α → α}

theorem eachFrom_cut (h : ∀ v, read (cut v) = (read v).map g) (way : Nat → List Segment) :
    ∀ (index : Nat) (xs : List Value),
      eachFrom read way index (xs.map cut) = (eachFrom read way index xs).map (·.map g)
  | _, [] => rfl
  | index, x :: xs => by
    rw [List.map_cons, eachFrom, eachFrom, h, eachFrom_cut h way (index + 1) xs]
    cases read x with
    | error p => rfl
    | ok a => cases eachFrom read way (index + 1) xs <;> rfl

theorem each_cut (h : ∀ v, read (cut v) = (read v).map g) (way : Nat → List Segment)
    {key : String} (hkey : isPlain key = true) (v : Value) :
    each read way key (cut v) = (each read way key v).map (·.map g) := by
  rw [each, each, listOf_cut hkey]
  cases listOf key v with
  | error p => rfl
  | ok xs => exact eachFrom_cut h way 0 xs

end Each

/-! ### Constructs -/

theorem callOf_cut (v : Value) : callOf (cut v) = (callOf v).map Construct.cut := by
  rw [callOf, callOf, each_cut argumentOf_cut _ (by decide), field_cut (by decide), symbolOf_cut,
    field_cut_type (by decide), field_cut_type (by decide)]
  cases each argumentOf (fun i => [.item "arguments" i]) "arguments" v with
  | error f => rfl
  | ok arguments => cases symbolOf (v.field "method") <;> rfl

theorem constructionOf_cut (v : Value) :
    constructionOf (cut v) = (constructionOf v).map Construct.cut := by
  simp only [constructionOf, field_cut (show isPlain "constructor" = true by decide), symbolOf_cut,
    field_cut_type (show "type" ∈ Value.typeFields by decide),
    each_cut parameterOf_cut _ (show isPlain "parameters" = true by decide)]
  cases symbolOf (v.field "constructor") with
  | error p => rfl
  | ok symbol =>
    cases each parameterOf (fun i => [.field "constructor", .item "parameters" i]) "parameters"
      (v.field "constructor") <;> rfl

theorem importOf_cut (v : Value) : importOf (cut v) = (importOf v).map Construct.cut := by
  rw [importOf, importOf, mapping_cut]
  cases mapping v with
  | error p => rfl
  | ok raw =>
    show (nameOr _ (cut raw) >>= _) = Except.map _ (nameOr _ raw >>= _)
    simp only [nameOr_cut, field_cut (show isPlain "package" = true by decide),
      field_cut (show isPlain "static" = true by decide), isNull_cut, truthy_cut]
    cases nameOr .importWithoutName raw with
    | error p => rfl
    | ok name =>
      show Except.ok (Construct.importing _ _) = Except.ok (Construct.importing _ _)
      split
      · rw [cut_scalar]
      · rfl

/-! ### Outlines -/

/-- The action on the tree with all types cut. -/
def Action.cut : Action → Action
  | .emit line column construct => .emit line column construct.cut
  | .refuse fault => .refuse fault
  | .visit segment role value => .visit segment role (Tree.cut value)

/-- The step on the tree with all types cut. -/
def Step.cut (s : Step) : Step := ⟨s.inside, s.action.cut⟩

@[simp] theorem map_cut_plainly (as : List Action) :
    (plainly as).map Step.cut = plainly (as.map Action.cut) := by
  simp [plainly, Step.cut, Function.comp_def]

@[simp] theorem map_cut_inside (opening : Opening) (as : List Action) :
    (inside opening as).map Step.cut = inside opening (as.map Action.cut) := by
  simp [inside, Step.cut, Function.comp_def]

theorem emitFor_cut (v : Value) (construct : Construct) :
    emitFor (cut v) construct.cut = (emitFor v construct).cut := by
  rw [emitFor, emitFor, field_cut_told (by decide), field_cut_told (by decide)]
  rfl

theorem mapIdx_cut {act : Nat → Value → Action} (h : ∀ i v, act i (cut v) = (act i v).cut)
    (xs : List Value) : (xs.map cut).mapIdx act = (xs.mapIdx act).map Action.cut := by
  refine List.ext_getElem? fun i => ?_
  rw [List.getElem?_mapIdx, List.getElem?_map, List.getElem?_map, List.getElem?_mapIdx]
  cases xs[i]? with
  | none => rfl
  | some x => exact congrArg some (h i x)

theorem visitEach_cut (role : Role) {key : String} (h : isPlain key = true) (v : Value) :
    visitEach role key (cut v) = (visitEach role key v).map Action.cut := by
  rw [visitEach, visitEach, listOf_cut h]
  cases listOf key v with
  | error p => rfl
  | ok xs => exact mapIdx_cut (fun _ _ => rfl) xs

theorem visitField_cut {key : String} (h : isPlain key = true) (v : Value) :
    visitField key (cut v) = (visitField key v).map Action.cut := by
  simp only [visitField, field_cut h, isNull_cut]
  split <;> rfl

theorem visitParts_cut {key : String} (h : isPlain key = true) (v : Value) :
    visitParts key (cut v) = (visitParts key v).map Action.cut := by
  rw [visitParts, visitParts, field_cut h, kind_cut, visitField_cut h, visitEach_cut _ h]
  split <;> rfl

theorem bodyOf_cut (form : Form) (name : String) (v : Value) :
    bodyOf form name (cut v) = (bodyOf form name v).map Action.cut := by
  cases form with
  | classLike => exact visitEach_cut .statement (by decide) v
  | methodLike =>
    have hresolved : ((cut v).field? "resolved").getD (.bool true)
        = cut ((v.field? "resolved").getD (.bool true)) := by
      rw [field?_cut (by decide)]
      cases v.field? "resolved" with
      | none => exact (cut_scalar _).symm
      | some w => rfl
    have hemit := emitFor_cut v (.methodDecl (.text name) (v.field "return_type")
      ((v.field? "resolved").getD (.bool true)))
    simp only [bodyOf, hresolved, field_cut_type (show "return_type" ∈ Value.typeFields by decide),
      visitEach_cut _ (show isPlain "parameters" = true by decide),
      visitEach_cut _ (show isPlain "body" = true by decide), List.map_append, List.map_cons,
      ← hemit]
    rfl
  | variableLike =>
    have hemit := emitFor_cut v (.variableDecl (.text name) (v.field "type"))
    simp only [bodyOf, field_cut_type (show "type" ∈ Value.typeFields by decide),
      visitField_cut (show isPlain "initializer" = true by decide), List.map_cons, ← hemit]
    rfl

theorem declaration_cut (form : Form) (kind : String) (v : Value) :
    declaration form kind (cut v) = (declaration form kind v).map Step.cut := by
  simp only [declaration, declarationName_cut, annotationsOf_cut, bodyOf_cut]
  cases declarationName kind v with
  | error p => rfl
  | ok name =>
    cases annotationsOf v with
    | error f => rfl
    | ok annotations => exact (map_cut_inside _ _).symm

theorem call_cut (v : Value) : call (cut v) = (call v).map Step.cut := by
  rw [call, call, callOf_cut]
  cases callOf v with
  | error f => rfl
  | ok construct =>
    show plainly _ = List.map _ (plainly _)
    rw [map_cut_plainly, emitFor_cut, visitField_cut (by decide), visitEach_cut _ (by decide),
      List.map_append, List.map_cons]

theorem anonymousBody_cut (v : Value) : anonymousBody (cut v) = (anonymousBody v).map Step.cut := by
  rw [anonymousBody, anonymousBody, listOf_cut (by decide), annotationsOf_cut,
    visitEach_cut _ (by decide)]
  rcases listOf "body" v with p | _ | ⟨x, xs⟩
  · rfl
  · rfl
  · cases annotationsOf v with
    | error f => rfl
    | ok annotations => exact (map_cut_inside _ _).symm

theorem construction_cut (v : Value) : construction (cut v) = (construction v).map Step.cut := by
  rw [construction, construction, constructionOf_cut]
  cases constructionOf v with
  | error f => rfl
  | ok construct =>
    show plainly _ ++ _ = List.map _ (plainly _ ++ _)
    rw [List.map_append, map_cut_plainly, emitFor_cut, visitEach_cut _ (by decide),
      anonymousBody_cut, List.map_cons]

theorem parts_cut (v : Value) :
    plainly (partKeys.flatMap fun key => visitParts key (cut v))
      = (plainly (partKeys.flatMap fun key => visitParts key v)).map Step.cut := by
  have hplain : ∀ key ∈ partKeys, isPlain key = true := by decide
  rw [map_cut_plainly, List.map_flatMap]
  exact congrArg plainly
    (List.flatMap_congr fun key hkey => visitParts_cut (hplain key hkey) v)

theorem statement_cut (v : Value) : statement (cut v) = (statement v).map Step.cut := by
  rw [statement, statement, kindOf_cut, parts_cut, call_cut, construction_cut]
  rcases kindOf v with p | _ | kind
  · rfl
  · rfl
  · cases hform : Form.ofKind? kind with
    | some form =>
      simp only [hform]
      exact declaration_cut form kind v
    | none =>
      simp only [hform]
      split
      · rfl
      · split <;> rfl

theorem importAction_cut (index : Nat) (v : Value) :
    importAction index (cut v) = (importAction index v).cut := by
  rw [importAction, importAction, importOf_cut]
  cases importOf v with
  | error p => rfl
  | ok construct => exact emitFor_cut v construct

theorem unitActions_cut (v : Value) : unitActions (cut v) = (unitActions v).map Action.cut := by
  rw [unitActions, unitActions, listOf_cut (by decide), visitEach_cut _ (by decide),
    List.map_append]
  cases listOf "imports" v with
  | error p => rfl
  | ok xs => exact congrArg (· ++ _) (mapIdx_cut importAction_cut xs)

/-- With all types cut, the steps of a place are the same on the same parts. -/
theorem outline_cut (role : Role) (v : Value) :
    outline role (cut v) = (outline role v).map Step.cut := by
  rw [outline, outline, mapping_cut]
  cases mapping v with
  | error p => rfl
  | ok raw =>
    cases role with
    | unit =>
      show plainly _ = List.map _ (plainly _)
      rw [map_cut_plainly, unitActions_cut]
    | statement => exact statement_cut raw
    | parameter => exact declaration_cut .variableLike "parameter" raw

/-! ### Walks -/

/-- The setting of a unit with all types cut. -/
def Setting.cut (s : Setting) : Setting := ⟨s.markers, Tree.cut s.file⟩

/-- The yield with the types of all nodes cut. -/
def Yield.cut (y : Yield) : Yield := ⟨y.nodes.map Node.cut, y.fault⟩

theorem Yield.cut_andThen (a b : Yield) : (a.andThen b).cut = a.cut.andThen b.cut := by
  obtain ⟨nodes, fault⟩ := a
  cases fault <;> simp [andThen, cut]

theorem Yield.all_map_cut : ∀ ys : List Yield, all (ys.map Yield.cut) = (all ys).cut
  | [] => rfl
  | y :: ys => by rw [List.map_cons, all_cons, all_cons, cut_andThen, all_map_cut ys]

theorem Yield.cut_inside (scope : Scope) (y : Yield) :
    (y.inside scope).cut = y.cut.inside scope := by
  simp only [inside, cut, List.map_map]
  rfl

namespace Walker

theorem stepYield_cut {setting : Setting} {step : Step}
    (h : ∀ segment role part, step.action = .visit segment role part →
      yieldOf setting.cut role (Tree.cut part) = (yieldOf setting role part).cut) :
    stepYield setting.cut step.cut = (stepYield setting step).cut := by
  have hact : actYield setting.cut step.action.cut = (actYield setting step.action).cut := by
    cases haction : step.action with
    | emit line column construct => rfl
    | refuse fault => rfl
    | visit segment role part =>
      rw [Action.cut, actYield, actYield, h segment role part haction]
      rfl
  rw [stepYield, stepYield, Yield.cut_inside, ← hact]
  rfl

/-- With all types cut, a walk ends as before, and it emits the same nodes with their types cut. -/
theorem yieldOf_cut (setting : Setting) (role : Role) (v : Value) :
    yieldOf setting.cut role (Tree.cut v) = (yieldOf setting role v).cut := by
  rw [yieldOf_eq, yieldOf_eq, outline_cut, List.map_map, ← Yield.all_map_cut, List.map_map]
  -- Both outlines have the same steps, so the yields are compared step by step; a part that a step
  -- visits is smaller than the value.
  refine congrArg Yield.all (List.map_congr_left fun step hstep => ?_)
  exact stepYield_cut fun segment r part haction => yieldOf_cut setting r part
termination_by sizeOf v
decreasing_by exact sizeOf_lt_of_visit hstep haction

end Walker

/-! ### Documents -/

variable (markers : Markers) (path : String)

theorem unitFile_cut (v : Value) : unitFile path (cut v) = cut (unitFile path v) := by
  simp only [unitFile, field_cut (show isPlain "file" = true by decide), truthy_cut]
  split
  · rfl
  · exact (cut_scalar _).symm

theorem unitOf_cut (index : Nat) (v : Value) :
    unitOf markers path index (cut v) = (unitOf markers path index v).map CompilationUnit.cut := by
  have hwalk := Walker.yieldOf_cut ⟨markers, unitFile path v⟩ .unit v
  simp only [Setting.cut] at hwalk
  simp only [unitOf, Walker.visit_eq_reap, unitFile_cut, hwalk, Walker.reap, Yield.cut]
  cases (Walker.yieldOf ⟨markers, unitFile path v⟩ .unit v).fault with
  | some fault => rfl
  | none => simp [Except.map, CompilationUnit.cut, Node.under]

theorem unitsFrom_cut : ∀ (index : Nat) (xs : List Value),
    unitsFrom markers path index (xs.map cut)
      = (unitsFrom markers path index xs).map (·.map CompilationUnit.cut)
  | _, [] => rfl
  | index, x :: xs => by
    rw [List.map_cons, unitsFrom, unitsFrom, unitOf_cut, unitsFrom_cut (index + 1) xs]
    cases unitOf markers path index x with
    | error fault => rfl
    | ok unit => cases unitsFrom markers path (index + 1) xs <;> rfl

theorem unitsOf_cut (document : Value) :
    unitsOf markers path (cut document)
      = (unitsOf markers path document).map (·.map CompilationUnit.cut) := by
  rw [unitsOf, unitsOf, field_cut (by decide), items?_cut]
  cases (document.field "compilation_units").items? with
  | none => rfl
  | some xs =>
    show (unitsFrom markers path 0 (xs.map cut)).mapError _
      = ((unitsFrom markers path 0 xs).mapError _).map _
    rw [unitsFrom_cut]
    cases unitsFrom markers path 0 xs <;> rfl

theorem detectFormat_cut (document : Value) : detectFormat (cut document) = detectFormat document := by
  rw [detectFormat, detectFormat, field_cut (by decide), field_cut (by decide), items?_cut,
    Option.isSome_map]
  cases document.field "format" with
  | scalar s => rw [cut_scalar]
  | _ => rfl

theorem isKnownVersion_cut (document : Value) :
    isKnownVersion (cut document) = isKnownVersion document := by
  rw [isKnownVersion, isKnownVersion, field?_cut (by decide)]
  rcases document.field? "version" with _ | version
  · rfl
  · cases version with
    | scalar s => rw [Option.map_some, cut_scalar]
    | _ => rfl

/-- The warning about a version can tell the types in it, but whether there are too many digits for
it does not depend on them. -/
theorem versionRecords_cut (document : Value) (f : ValueFault) :
    versionRecords path (cut document) = .error f ↔ versionRecords path document = .error f := by
  have hlong : (cut (document.field "version")).isLongIn []
      = (document.field "version").isLongIn [] := Value.isLongIn_erase _ [] _
  rw [versionRecords, versionRecords, isKnownVersion_cut, field_cut (by decide), Value.shown,
    Value.shown, hlong]
  split
  · rfl
  · split
    · rfl
    · exact iff_of_false (fun h => by cases h) (fun h => by cases h)

/-- A document with all types cut is read as before, up to the types of the nodes. -/
theorem units_ofDocument_cut (document : Value) :
    (ofDocument markers path (cut document)).units
      = (ofDocument markers path document).units.map (·.map CompilationUnit.cut) := by
  simp only [ofDocument, detectFormat_cut, unitsOf_cut]
  split
  · rfl
  · cases hdoc : versionRecords path document with
    | error f =>
      rw [(versionRecords_cut path document f).2 hdoc]
      rfl
    | ok warnings =>
      cases hcut : versionRecords path (cut document) with
      | error f => cases ((versionRecords_cut path document f).1 hcut).symm.trans hdoc
      | ok _ => cases unitsOf markers path document <;> rfl

end Tree

end BannedApi
