import BannedApi.Proofs.Analysis.Files
import BannedApi.Proofs.Tree.Erasure

/-!
The arguments of types have no influence on an analysis.

A check looks at the key of a type, which has no arguments, and a package with types in it cannot be
looked up at all. So a node whose types were cut is diagnosed as before (`diagnose_cut`), and a
document whose types were cut is refused as before or analyzed as before (`ofUnits_cut`). A signature,
a line and a column are told as they stand: a type inside them is text like any other
(`ofUnits_told`).
-/
namespace BannedApi

namespace Match

variable (r : Registry) (rule : Rule)

/-! ### Checks -/

theorem classCheck_cutType (type : Value) (write : Wording) :
    classCheck r rule (Tree.cutType type) write = classCheck r rule type write := by
  rw [classCheck, classCheck, Tree.cutType, Value.ofValue_eraseType]

theorem prefixCheck_cutType (type : Value) (write : Wording) :
    prefixCheck r rule (Tree.cutType type) write = prefixCheck r rule type write := by
  rw [prefixCheck, prefixCheck, Tree.cutType, Value.ofValue_eraseType]

theorem methodCheck_cutType (owner name : Value) :
    methodCheck r rule (Tree.cutType owner) name = methodCheck r rule owner name := by
  rw [methodCheck, methodCheck, Tree.cutType, Value.ofValue_eraseType]

/-- A package with parts is no key, before and after its types are cut. -/
theorem packageCheck_cut (package : Value) (write : Wording) :
    packageCheck r rule (Tree.cut package) write = packageCheck r rule package write := by
  cases package with
  | scalar s => rw [Tree.cut_scalar]
  | knot label v =>
    have hkind := Tree.kind_cut (.knot label v)
    simp only [Tree.cut, Value.erase] at hkind ⊢
    show Except.error (ValueFault.notAKey _) = Except.error (ValueFault.notAKey _)
    rw [hkind]
  | _ => rfl

theorem label_cut (s : Symbol) : s.cut.label = s.label := rfl

theorem argumentChecks_cut (method : Symbol) (a : Argument) :
    argumentChecks r method.cut a.cut = argumentChecks r method a := by
  obtain ⟨type, symbol⟩ := a
  cases symbol with
  | none => rfl
  | some symbol =>
    simp only [argumentChecks, Argument.cut, Option.map_some, Symbol.cut, classCheck_cutType,
      packageCheck_cut]
    rfl

theorem parameterChecks_cut (callee : Symbol) (p : Parameter) :
    parameterChecks r callee.cut p.cut = parameterChecks r callee p := by
  simp only [parameterChecks, Parameter.cut, classCheck_cutType, packageCheck_cut, label_cut]

theorem typeChecks_cutType (classRule packageRule : Rule) (type : Value) :
    typeChecks r classRule packageRule (Tree.cutType type)
      = typeChecks r classRule packageRule type := by
  rw [typeChecks, typeChecks, classCheck_cutType, prefixCheck_cutType]

/-- A construct whose types were cut is checked as before. -/
theorem checks_cut (c : Construct) : checks r c.cut = checks r c := by
  cases c with
  | call method receiver result arguments =>
    cases method with
    | none => rfl
    | some method =>
      simp only [Construct.cut, Option.map_some, checks, classCheck_cutType, prefixCheck_cutType,
        methodCheck_cutType, label_cut, List.flatMap_map, argumentChecks_cut]
      simp only [Symbol.cut, packageCheck_cut]
  | construction callee type parameters =>
    cases callee with
    | none => rfl
    | some callee =>
      simp only [Construct.cut, Option.map_some, checks, classCheck_cutType, List.flatMap_map,
        parameterChecks_cut]
      simp only [Symbol.cut, packageCheck_cut]
  | importing name package => simp only [Construct.cut, checks, packageCheck_cut]
  | variableDecl name type => exact typeChecks_cutType r .variableClass .variablePackage type
  | methodDecl name type resolved =>
    simp only [Construct.cut, checks, Tree.truthy_cut, typeChecks_cutType]

theorem kindName_cut (c : Construct) : c.cut.kindName = c.kindName := by
  cases c <;> rfl

/-- A place can be told only if its file is a text, and that has no types in it. -/
theorem text_cut (l : Location) :
    ({ l with file := Tree.cut l.file } : Location).text = l.text := by
  obtain ⟨file, line, column⟩ := l
  cases file with
  | scalar s => rw [Tree.cut_scalar]
  | knot label v =>
    have hkind := Tree.kind_cut (.knot label v)
    simp only [Tree.cut, Value.erase] at hkind ⊢
    simp only [Location.text, hkind]
  | _ => rfl

theorem file_of_text {l : Location} {place : String} (h : l.text = .ok place) :
    ∃ file, l.file = .text file := by
  unfold Location.text at h
  obtain ⟨line, -, h⟩ := Outcome.bind_eq_ok.1 h
  dsimp only at h
  split at h
  all_goals
    obtain ⟨column, -, h⟩ := Outcome.bind_eq_ok.1 h
    split at h
    · next file hfile => exact ⟨file, hfile⟩
    · cases h

/-- A node whose types were cut is diagnosed as before. -/
theorem diagnose_cut (n : Node) : diagnose r n.cut = diagnose r n := by
  have hhit : hit r n.cut = hit r n := by
    rw [hit, hit, Node.cut, checks_cut]
  have hplace : n.cut.location.text = n.location.text := text_cut n.location
  rw [diagnose, diagnose, hhit, hplace, Node.cut, kindName_cut]
  rcases hit r n with fault | _ | h
  · rfl
  · rfl
  · cases htext : n.location.text with
    | error fault => rfl
    | ok place =>
      obtain ⟨file, hfile⟩ := file_of_text htext
      have hcut : Tree.cut n.location.file = n.location.file := by
        rw [hfile]
        exact Tree.cut_scalar _
      rw [hcut]

end Match

namespace Analysis

/-! ### Units and documents -/

theorem unitDiagnostics_cut (r : Registry) (u : CompilationUnit) :
    unitDiagnostics r u.cut = unitDiagnostics r u := by
  have hlong : (Tree.cut u.file).isLongIn [] = u.file.isLongIn [] := Value.isLongIn_erase _ [] _
  have hnodes : u.cut.nodes.mapM (Match.diagnose r) = u.nodes.mapM (Match.diagnose r) := by
    rw [CompilationUnit.cut, List.mapM_map]
    exact congrArg (u.nodes.mapM ·) (funext (Match.diagnose_cut r))
  rw [unitDiagnostics, unitDiagnostics, hnodes, CompilationUnit.cut, Value.shown, Value.shown,
    hlong]
  cases u.nodes.mapM (Match.diagnose r) with
  | error fault => rfl
  | ok found => cases u.file.isLongIn [] <;> rfl

theorem nodeCount_cut : ∀ units : List CompilationUnit,
    nodeCount (units.map CompilationUnit.cut) = nodeCount units
  | [] => rfl
  | u :: units => by
    have ih := nodeCount_cut units
    unfold nodeCount at ih ⊢
    rw [List.map_cons, List.foldr_cons, List.foldr_cons, ih, CompilationUnit.cut, List.length_map]

theorem diagnosticsOfUnits_cut (r : Registry) (units : List CompilationUnit) :
    diagnosticsOfUnits r (units.map CompilationUnit.cut) = diagnosticsOfUnits r units := by
  rw [diagnosticsOfUnits, diagnosticsOfUnits, List.mapM_map]
  exact congrArg (fun f => (units.mapM f).map List.flatten) (funext (unitDiagnostics_cut r))

/-- Cut all types of a document before their arguments, but not inside what is told as it stands (a
signature, a line, a column). The document is refused as before, for the same reason at the same
place; and if it is accepted, then its units give the same analysis or the same fault. -/
theorem ofUnits_cut (markers : Markers) (path : String) (document : Value) :
    (∀ fault, (Tree.ofDocument markers path (document.erase Tree.toldFields)).units = .error fault
      ↔ (Tree.ofDocument markers path document).units = .error fault)
    ∧ ∀ units units',
      (Tree.ofDocument markers path document).units = .ok units →
      (Tree.ofDocument markers path (document.erase Tree.toldFields)).units = .ok units' →
      ∀ (r : Registry) (jobs : Int) (elapsed : Number) (errors inputs : List String),
        (ofUnits r jobs elapsed units' errors inputs).map (·.1)
          = (ofUnits r jobs elapsed units errors inputs).map (·.1) := by
  have hcut := Tree.units_ofDocument_cut markers path document
  rw [Tree.cut] at hcut
  refine ⟨fun fault => ?_, fun units units' hunits hunits' r jobs elapsed errors inputs => ?_⟩
  · rw [hcut]
    cases (Tree.ofDocument markers path document).units with
    | error fault' => rfl
    | ok units => exact iff_of_false (fun h => by cases h) (fun h => by cases h)
  · rw [hcut, hunits] at hunits'
    obtain rfl : units.map CompilationUnit.cut = units' := Except.ok.inj hunits'
    rw [analysis_ofUnits, analysis_ofUnits, diagnosticsOfUnits_cut, nodeCount_cut,
      List.length_map]

/-! ### Types in what is told -/

/-- A mapping that holds a type. -/
def sampleTyping (type : String) : Value := .object [("type", .text type)]

/-- A call with such a mapping for its line, its column and the signature of its method. -/
def sampleTelling (type : String) : Value :=
  .object [("kind", .text "call"), ("line", sampleTyping type), ("column", sampleTyping type),
    ("method", .object [("name", .text "f"), ("signature", sampleTyping type)]),
    ("type", .text "x.Y")]

/-- A loader that bans the type of the call. -/
def sampleResult : Loader := { classes := .ofList [("x.Y", "")] }

/-- What is said about the call. -/
def sampleTold (type : String) : Diagnostic :=
  ⟨⟨.text "t.json", sampleTyping type, sampleTyping type⟩,
    s!"Use of \x7b'type': '{type}'\x7d is not allowed, as x.Y has been banned due to "
      ++ "cross platform incompatibility.",
    some "call", some "call-result-class", checkName⟩

/-- The diagnostics of an analysis of the units of a document. -/
def diagnosticsIn (r : Registry) (document : Value) : Option (List Diagnostic) :=
  match (Tree.ofDocument .standard "t.json" document).units with
  | .error _ => none
  | .ok units =>
    ((ofUnits r 1 (.int 0) units [] []).map fun result => result.1.diagnostics).toOption

/-- A signature, a line and a column are told as they stand, so cutting the types in them changes
the message and the place. -/
theorem ofUnits_told :
    diagnosticsIn sampleResult.build (sampleTree "declarations" (sampleTelling "A<B>"))
      = some [sampleTold "A<B>"]
    ∧ diagnosticsIn sampleResult.build
        ((sampleTree "declarations" (sampleTelling "A<B>")).erase [])
      = some [sampleTold "A"]
    ∧ sampleTold "A<B>" ≠ sampleTold "A" := by
  refine ⟨by with_unfolding_all rfl, by with_unfolding_all rfl, fun h => ?_⟩
  have hmessage := congrArg Diagnostic.message h
  revert hmessage
  decide

end Analysis

end BannedApi
