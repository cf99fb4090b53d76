import BannedApi.Analysis.Basic
import BannedApi.Proofs.Tree.Declaration

/-!
Suppression: what a marker on a declaration does to the diagnostics of a unit.

A marker leaves the nodes as they are, and of those inside the declaration none is reported any
more; what is emitted before and after is not touched (`unitDiagnostics_annotated`). For the same
reason nothing that stands inside a marked declaration has any influence on the diagnostics
(`unitDiagnostics_suppressed`).
-/
namespace BannedApi

namespace Match

theorem diagnose_of_suppressed {r : Registry} {n : Node} (h : n.scope.isSuppressed = true) :
    diagnose r n = .ok none := by
  unfold diagnose hit
  rw [if_pos h]
  rfl

end Match

namespace Analysis

/-- The diagnostics of nodes, in order. -/
def diagnosticsOf (r : Registry) (nodes : List Node) : Except ValueFault (List Diagnostic) :=
  (nodes.mapM (Match.diagnose r)).map (·.filterMap id)

theorem diagnosticsOf_append (r : Registry) (xs ys : List Node) :
    diagnosticsOf r (xs ++ ys)
      = (diagnosticsOf r xs).bind fun ds => (diagnosticsOf r ys).map fun es => ds ++ es := by
  unfold diagnosticsOf
  rw [List.mapM_append]
  cases xs.mapM (Match.diagnose r) with
  | error e => rfl
  | ok ds =>
    cases ys.mapM (Match.diagnose r) with
    | error e => rfl
    | ok es => simp [Except.map, Except.bind, bind, pure, Except.pure]

theorem diagnosticsOf_append_eq_ok {r : Registry} {xs ys : List Node} {found : List Diagnostic} :
    diagnosticsOf r (xs ++ ys) = .ok found ↔ ∃ ds es, diagnosticsOf r xs = .ok ds
      ∧ diagnosticsOf r ys = .ok es ∧ found = ds ++ es := by
  rw [diagnosticsOf_append]
  cases diagnosticsOf r xs with
  | error e => simp [Except.bind]
  | ok ds =>
    cases diagnosticsOf r ys with
    | error e => simp [Except.bind, Except.map]
    | ok es => simp [Except.bind, Except.map, eq_comm]

/-- Suppressed nodes have no diagnostics, and none of them is a fault. -/
theorem diagnosticsOf_of_suppressed (r : Registry) :
    ∀ {nodes : List Node}, (∀ n ∈ nodes, n.scope.isSuppressed = true) →
      diagnosticsOf r nodes = .ok []
  | [], _ => rfl
  | n :: nodes, h => by
    have ih := diagnosticsOf_of_suppressed r fun m hm => h m (List.mem_cons_of_mem n hm)
    have hn : diagnosticsOf r [n] = .ok [] := by
      unfold diagnosticsOf
      rw [List.mapM_cons, Match.diagnose_of_suppressed (h n (List.mem_cons_self ..))]
      rfl
    rw [← List.singleton_append, diagnosticsOf_append, hn, ih]
    rfl

theorem diagnosticsOf_skip (r : Registry) {inner : List Node} (before after : List Node)
    (h : ∀ n ∈ inner, n.scope.isSuppressed = true) :
    diagnosticsOf r (before ++ inner ++ after) = diagnosticsOf r (before ++ after) := by
  rw [diagnosticsOf_append, diagnosticsOf_append, diagnosticsOf_append,
    diagnosticsOf_of_suppressed r h]
  cases diagnosticsOf r before with
  | error e => rfl
  | ok ds => simp [Except.bind, Except.map]

theorem unitDiagnostics_eq (r : Registry) (u : CompilationUnit) :
    unitDiagnostics r u
      = (diagnosticsOf r u.nodes).bind fun ds => u.file.shown.map fun _ => ds := by
  unfold unitDiagnostics diagnosticsOf
  cases u.nodes.mapM (Match.diagnose r) with
  | error e => rfl
  | ok ds => cases u.file.shown <;> rfl

theorem unitDiagnostics_eq_ok {r : Registry} {u : CompilationUnit} {found : List Diagnostic} :
    unitDiagnostics r u = .ok found
      ↔ diagnosticsOf r u.nodes = .ok found ∧ ∃ name, u.file.shown = .ok name := by
  rw [unitDiagnostics_eq]
  cases diagnosticsOf r u.nodes with
  | error e => simp [Except.bind]
  | ok ds => cases u.file.shown <;> simp [Except.bind, Except.map]

end Analysis

namespace Tree

open Value (AgreeOff)

/-! ### Whole units -/

/-- The visit of the compilation unit at a place of the document. -/
def Visit.ofUnit (index : Nat) (raw : Value) : Visit :=
  ⟨.unit, raw, { way := [.item "compilation_units" index] }⟩

theorem Visit.ofUnit_change (f : Value → Value) (index : Nat) (raw : Value) :
    (ofUnit index raw).change f = ofUnit index (f raw) := rfl

theorem outcome_of_unitOf {markers : Markers} {document : String} {index : Nat} {raw : Value}
    {unit : CompilationUnit} (h : unitOf markers document index raw = .ok unit) :
    ∃ last, (Visit.ofUnit index raw).outcome ⟨markers, unitFile document raw⟩ = (last, none)
      ∧ unit = ⟨unitFile document raw, last.nodes⟩ := by
  unfold unitOf at h
  simp only at h
  split at h
  · next w hw =>
    cases h
    exact ⟨w, hw, rfl⟩
  · cases h

theorem unitOf_of_outcome {markers : Markers} {document : String} {index : Nat} {raw : Value}
    {last : Walker}
    (h : (Visit.ofUnit index raw).outcome ⟨markers, unitFile document raw⟩ = (last, none)) :
    unitOf markers document index raw = .ok ⟨unitFile document raw, last.nodes⟩ := by
  rw [Visit.outcome, Visit.ofUnit] at h
  simp only [unitOf, h]

theorem unitFile_of_sameFace {document : String} {raw raw' : Value} (h : SameFace raw raw') :
    unitFile document raw' = unitFile document raw := by
  rw [unitFile, unitFile, h.field "file" (by decide)]

/-- Marking a declaration silences exactly what is inside it. A unit that is accepted and analyzed
stays accepted when a marker is written behind the annotations of a declaration in it, and emits the
same nodes up to their scopes. The diagnostics are those from before without those of the nodes that
are emitted while the declaration is walked. -/
theorem unitDiagnostics_annotated (r : Registry) (markers : Markers) (document : String)
    (index : Nat) (raw : Value) (unit : CompilationUnit) (found : List Diagnostic) (note : String)
    (way : List Segment) (y : Visit)
    (haccepted : unitOf markers document index raw = .ok unit)
    (hfound : Analysis.unitDiagnostics r unit = .ok found)
    (hnote : markers.isMarker note = true)
    (henters : Enters ⟨markers, unitFile document raw⟩ (Visit.ofUnit index raw) way y)
    (hdecl : y.isDeclaration = true) :
    ∃ (inner after : List Node) (unit' : CompilationUnit) (kept dropped rest : List Diagnostic),
      y.outcome ⟨markers, unitFile document raw⟩ = (y.after inner, none)
      ∧ unit.nodes = y.walker.nodes ++ inner ++ after
      ∧ Analysis.diagnosticsOf r y.walker.nodes = .ok kept
      ∧ Analysis.diagnosticsOf r inner = .ok dropped
      ∧ Analysis.diagnosticsOf r after = .ok rest
      ∧ found = kept ++ dropped ++ rest
      ∧ unitOf markers document index (changeAt way (annotate note) raw) = .ok unit'
      ∧ unit'.nodes.map Node.bare = unit.nodes.map Node.bare
      ∧ Analysis.unitDiagnostics r unit' = .ok (kept ++ rest) := by
  obtain ⟨last, hok, rfl⟩ := outcome_of_unitOf haccepted
  obtain ⟨inner, after, hinner, rfl, hswap⟩ := henters.resume hok
  have hface := sameFace_annotate (kind_of_accepted hinner) note
  obtain ⟨inner', hinner', hbare, hsilent⟩ := outcome_annotate hinner hdecl hnote
  have hfile : unitFile document (changeAt way (annotate note) raw) = unitFile document raw :=
    unitFile_of_sameFace (henters.agreeOff_changeAt (fun _ => List.mem_cons_of_mem _) hface)
  -- the new unit: the same nodes before and after, and the suppressed ones in between
  have hunit := hswap (annotate note) inner' hface hinner'
  rw [← hfile] at hunit
  have haccepted' := unitOf_of_outcome hunit
  -- the old diagnostics fall into three parts
  obtain ⟨hall, hshown⟩ := Analysis.unitDiagnostics_eq_ok.1 hfound
  obtain ⟨front, rest, hfront, hrest, rfl⟩ := Analysis.diagnosticsOf_append_eq_ok.1 hall
  obtain ⟨kept, dropped, hkept, hdropped, rfl⟩ := Analysis.diagnosticsOf_append_eq_ok.1 hfront
  refine ⟨inner, after, _, kept, dropped, rest, hinner, rfl, hkept, hdropped, hrest, rfl,
    haccepted', ?_, ?_⟩
  · simp only [List.map_append, hbare]
  · rw [Analysis.unitDiagnostics_eq_ok]
    refine ⟨?_, ?_⟩
    · rw [Analysis.diagnosticsOf_skip r _ _ hsilent]
      exact Analysis.diagnosticsOf_append_eq_ok.2 ⟨kept, rest, hkept, hrest, rfl⟩
    · rw [hfile]
      exact hshown

/-! ### A unit with a method between two fields -/

def sampleVariable (kind name : String) (type : Value) : Value :=
  .object [("kind", .text kind), ("name", .text name), ("type", type)]

/-- A type that `sampleRegistry` bans. -/
def sampleType : Value := .text "a.B<c.D>"

/-- A method with a parameter and with a field of an anonymous class inside. -/
def sampleMethod : Value :=
  .object [("kind", .text "method"), ("name", .text "run"),
    ("parameters", .list [sampleVariable "parameter" "p" sampleType]),
    ("body", .list [.object [("kind", .text "new"),
      ("body", .list [sampleVariable "field" "inner" sampleType])]])]

/-- A class that has the method between two fields. -/
def sampleClass : Value :=
  .object [("kind", .text "class"), ("name", .text "C"),
    ("members", .list [sampleVariable "field" "first" sampleType, sampleMethod,
      sampleVariable "field" "last" sampleType])]

/-- The unit of this class. -/
def sampleUnit : Value := .object [("declarations", .list [sampleClass])]

/-- A registry that bans a class without a reason. -/
def sampleRegistry : Registry := { classes := .ofList [("a.B", .text "")] }

/-- The way to the method. -/
def sampleWay : List Segment := [.item "declarations" 0, .item "members" 1]

/-- A node of the unit, inside the class. -/
def sampleNode (inner : Scope) (construct : Construct) : Node :=
  ⟨⟨.text "T.json", .null, .null⟩, inner ++ [⟨"class", "C", false⟩], construct⟩

/-- The node of one of the variables. -/
def sampleUse (kind name : String) (type : Value) (inner : Scope) : Node :=
  sampleNode (⟨kind, name, false⟩ :: inner) (.variableDecl (.text name) type)

/-- The nodes of the method, marked or not, with a parameter of this name and type. -/
def sampleInner (marked : Bool) (name : String) (type : Value) : List Node :=
  let run : Frame := ⟨"method", "run", marked⟩
  [sampleNode [run] (.methodDecl (.text "run") .null (.bool true)),
    sampleUse "parameter" name type [run], sampleNode [run] (.construction none .null []),
    sampleUse "field" "inner" sampleType [⟨"class", "<anonymous>", false⟩, run]]

/-- The nodes of the method when nothing is marked. -/
def sampleOpen : List Node := sampleInner false "p" sampleType

/-- The node of the field before the method. -/
def sampleFirst : Node := sampleUse "field" "first" sampleType []

/-- The node of the field after the method. -/
def sampleLast : Node := sampleUse "field" "last" sampleType []

/-- The unit with these nodes of the method. -/
def sampleAround (inner : List Node) : CompilationUnit :=
  ⟨.text "T.json", [sampleFirst] ++ inner ++ [sampleLast]⟩

/-- What is said about each of the variables. -/
def sampleDiagnostic : Diagnostic :=
  ⟨⟨.text "T.json", .null, .null⟩,
    "Use of a.B has been banned due to cross platform incompatibility.",
    some "variable", some "variable-class", checkName⟩

/-- The visit of the method. -/
def sampleVisit : Visit :=
  ⟨.statement, sampleMethod, [⟨"class", "C", false⟩],
    [.item "members" 1, .item "declarations" 0, .item "compilation_units" 0],
    [sampleFirst]⟩

theorem enters_sampleVisit :
    Enters ⟨.standard, unitFile "T.json" sampleUnit⟩ (Visit.ofUnit 0 sampleUnit) sampleWay
      sampleVisit := by
  have hfile : unitFile "T.json" sampleUnit = .text "T.json" := rfl
  rw [hfile]
  let opening : Opening := ⟨"class", "C", []⟩
  let member (i : Nat) (v : Value) : Step := ⟨some opening, .visit (.item "members" i) .statement v⟩
  let first := member 0 (sampleVariable "field" "first" sampleType)
  let last := member 2 (sampleVariable "field" "last" sampleType)
  have hunit : outline .unit sampleUnit
      = [] ++ ⟨none, .visit (.item "declarations" 0) .statement sampleClass⟩ :: [] := rfl
  have hclass : outline .statement sampleClass
      = [first] ++ member 1 sampleMethod :: [last] := rfl
  have hfirst : Walker.runAll (Walker.take ⟨.standard, .text "T.json"⟩) [first]
      ⟨[], [.item "declarations" 0, .item "compilation_units" 0], []⟩
      = (⟨[], [.item "declarations" 0, .item "compilation_units" 0], [sampleFirst]⟩, none) := by
    with_unfolding_all rfl
  exact .down hunit rfl (.down hclass hfirst (.here _))

theorem unitDiagnostics_annotated_method :
    unitOf .standard "T.json" 0 sampleUnit = .ok (sampleAround sampleOpen)
      ∧ Analysis.unitDiagnostics sampleRegistry (sampleAround sampleOpen)
        = .ok (List.replicate 4 sampleDiagnostic)
      ∧ ∃ unit', unitOf .standard "T.json" 0
            (changeAt sampleWay (annotate "@XplatBanSuppression") sampleUnit) = .ok unit'
          ∧ unit'.nodes.map Node.bare = (sampleAround sampleOpen).nodes.map Node.bare
          ∧ Analysis.unitDiagnostics sampleRegistry unit'
            = .ok (List.replicate 2 sampleDiagnostic) := by
  have haccepted : unitOf .standard "T.json" 0 sampleUnit
      = .ok (sampleAround sampleOpen) := by with_unfolding_all rfl
  have hfound : Analysis.unitDiagnostics sampleRegistry (sampleAround sampleOpen)
      = .ok (List.replicate 4 sampleDiagnostic) := by with_unfolding_all rfl
  have hvisit : sampleVisit.outcome ⟨.standard, .text "T.json"⟩
      = (sampleVisit.after sampleOpen, none) := by with_unfolding_all rfl
  have hnote : Markers.standard.isMarker "@XplatBanSuppression" = true := by decide
  have hdecl : sampleVisit.isDeclaration = true := rfl
  obtain ⟨inner, after, unit', kept, dropped, rest, hinner, hnodes, hkept, -, hrest, -, haccepted',
    hbare, hfound'⟩ := unitDiagnostics_annotated sampleRegistry .standard "T.json" 0 sampleUnit _ _
      "@XplatBanSuppression" sampleWay sampleVisit haccepted hfound hnote enters_sampleVisit hdecl
  refine ⟨haccepted, hfound, unit', haccepted', hbare, ?_⟩
  -- the nodes of the method are known, so those before and after it are known too
  obtain rfl : inner = sampleOpen := by
    have h := congrArg (fun o => o.1.nodes) (hinner.symm.trans hvisit)
    exact List.append_cancel_left h
  obtain rfl : after = [sampleLast] := (List.append_cancel_left hnodes).symm
  have hfirst : Analysis.diagnosticsOf sampleRegistry [sampleFirst]
      = .ok [sampleDiagnostic] := by with_unfolding_all rfl
  have hlast : Analysis.diagnosticsOf sampleRegistry [sampleLast]
      = .ok [sampleDiagnostic] := by with_unfolding_all rfl
  cases hkept.symm.trans hfirst
  cases hrest.symm.trans hlast
  exact hfound'

/-! ### Suppressed content -/

/-- Suppressed content has no influence on the diagnostics. Two accepted units that differ only in
what stands inside one declaration, which is marked or lies below a marked one, have the same
diagnostics or the same fault; the nodes of that declaration have no part in either. -/
theorem unitDiagnostics_suppressed (r : Registry) (markers : Markers) (document : String)
    (index : Nat) (raw : Value) (unit unit' : CompilationUnit) (outer inner : List Segment)
    (x y : Visit) (content : Value)
    (haccepted : unitOf markers document index raw = .ok unit)
    (haccepted' : unitOf markers document index (changeAt (outer ++ inner) (fun _ => content) raw)
      = .ok unit')
    (houter : Enters ⟨markers, unitFile document raw⟩ (Visit.ofUnit index raw) outer x)
    (hx : x.isDeclaration = true) (hmarked : Marked markers x.value)
    (hinner : Enters ⟨markers, unitFile document raw⟩ x inner y)
    (hdiffer : AgreeOff ["members", "parameters", "body", "initializer"] y.value content) :
    Analysis.unitDiagnostics r unit = Analysis.unitDiagnostics r unit'
      ∧ ∃ nodes nodes' after : List Node,
        unit.nodes = y.walker.nodes ++ nodes ++ after
        ∧ unit'.nodes = y.walker.nodes ++ nodes' ++ after
        ∧ y.outcome ⟨markers, unitFile document raw⟩ = (y.after nodes, none)
        ∧ ∀ n ∈ nodes ++ nodes', Match.diagnose r n = .ok none := by
  have hface : SameFace y.value content := hdiffer.mono (by decide)
  have henters := houter.trans hinner
  have hfile : unitFile document (changeAt (outer ++ inner) (fun _ => content) raw)
      = unitFile document raw :=
    unitFile_of_sameFace (henters.agreeOff_changeAt (fun _ => List.mem_cons_of_mem _) hface)
  obtain ⟨last, hok, rfl⟩ := outcome_of_unitOf haccepted
  obtain ⟨last', hok', rfl⟩ := outcome_of_unitOf haccepted'
  rw [hfile] at hok'
  obtain ⟨nodes, after, hnodes, rfl, hswap⟩ := henters.resume hok
  have henters' := henters.change (f := fun _ => content) hface
  rw [Visit.ofUnit_change] at henters'
  obtain ⟨nodes', -, hnodes', -, -⟩ := henters'.resume hok'
  -- the changed unit goes on after the declaration like the old one
  have hlast := (hswap (fun _ => content) nodes' hface hnodes').symm.trans hok'
  obtain rfl := congrArg Prod.fst hlast
  -- the marked declaration is still marked, so both contents are silent
  have hwalked : AgreeOff walkedKeys x.value (changeAt inner (fun _ => content) x.value) :=
    hinner.agreeOff_changeAt (fun _ => id) (hdiffer.mono (by decide))
  have hsilent := suppressed_of_marked hinner hnodes hx hmarked
  have hx' : (x.change (changeAt inner fun _ => content)).isDeclaration = true := by
    rw [← hx]
    exact congrArg Option.isSome (declared?_eq hwalked (by decide) x.role)
  have hmarked' : Marked markers (x.change (changeAt inner fun _ => content)).value := by
    obtain ⟨notes, hnotes, hmark⟩ := hmarked
    exact ⟨notes, (annotationsOf_eq hwalked (by decide)).trans hnotes, hmark⟩
  have hsilent' := suppressed_of_marked (hinner.change hface) hnodes' hx' hmarked'
  refine ⟨?_, nodes, nodes', after, rfl, rfl, hnodes, fun n hn => ?_⟩
  · rw [Analysis.unitDiagnostics_eq, Analysis.unitDiagnostics_eq,
      Analysis.diagnosticsOf_skip r _ _ hsilent, Analysis.diagnosticsOf_skip r _ _ hsilent', hfile]
  · refine Match.diagnose_of_suppressed ?_
    exact (List.mem_append.1 hn).elim (hsilent n) (hsilent' n)

/-- The method with a marker and with another parameter, whose type is a number. -/
def sampleContent : Value :=
  (annotate "@XplatBanSuppression" sampleMethod).putField "parameters"
    (.list [sampleVariable "parameter" "q" (.int 5)])

theorem unitDiagnostics_suppressed_method :
    unitOf .standard "T.json" 0 (changeAt sampleWay (annotate "@XplatBanSuppression") sampleUnit)
        = .ok (sampleAround (sampleInner true "p" sampleType))
      ∧ unitOf .standard "T.json" 0 (changeAt sampleWay (fun _ => sampleContent)
          (changeAt sampleWay (annotate "@XplatBanSuppression") sampleUnit))
        = .ok (sampleAround (sampleInner true "q" (.int 5)))
      ∧ Analysis.unitDiagnostics sampleRegistry (sampleAround (sampleInner true "p" sampleType))
        = Analysis.unitDiagnostics sampleRegistry
            (sampleAround (sampleInner true "q" (.int 5))) := by
  let marked := changeAt sampleWay (annotate "@XplatBanSuppression") sampleUnit
  have haccepted : unitOf .standard "T.json" 0 marked
      = .ok (sampleAround (sampleInner true "p" sampleType)) := by
    with_unfolding_all rfl
  have haccepted' : unitOf .standard "T.json" 0 (changeAt (sampleWay ++ []) (fun _ => sampleContent)
      marked) = .ok (sampleAround (sampleInner true "q" (.int 5))) := by
    with_unfolding_all rfl
  have hmarked : Marked .standard (annotate "@XplatBanSuppression" sampleMethod) :=
    ⟨["@XplatBanSuppression"], rfl, by decide⟩
  have henters := enters_sampleVisit.change (sameFace_annotate rfl "@XplatBanSuppression")
  have hdiffer : AgreeOff ["members", "parameters", "body", "initializer"]
      (annotate "@XplatBanSuppression" sampleMethod) sampleContent :=
    (Value.agreeOff_putField rfl "parameters" _).mono (by decide)
  have hsame := unitDiagnostics_suppressed sampleRegistry .standard "T.json" 0 marked _ _
    sampleWay [] _ _ sampleContent haccepted haccepted' henters rfl hmarked (.here _) hdiffer
  exact ⟨haccepted, haccepted', hsame.1⟩

end Tree

end BannedApi
