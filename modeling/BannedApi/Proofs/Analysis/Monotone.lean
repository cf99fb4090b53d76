import BannedApi.Proofs.Analysis.Files
import BannedApi.Proofs.Match.Monotone
import BannedApi.Proofs.Suppression

/-!
Runs with more bans.

The diagnostics of a run are those of its nodes in order, so what holds of one node holds of the run:
with more bans every node that was reported still is, and no place is lost or moved
(`diagnose_mono`).
-/
namespace BannedApi.Analysis

/-- Where a diagnostic is, and what kind of node it is about. -/
def spot (d : Diagnostic) : Location × Option String := (d.location, d.nodeKind)

/-! ### The nodes of a run -/

theorem diagnosticsOf_eq_ok_iff {r : Registry} {nodes : List Node} {ds : List Diagnostic} :
    diagnosticsOf r nodes = .ok ds
      ↔ ∃ found, List.Forall₂ (fun n o => Match.diagnose r n = .ok o) nodes found
        ∧ found.filterMap id = ds := by
  rw [diagnosticsOf, Outcome.map_eq_ok]
  simp only [Outcome.mapM_eq_ok_iff]

/-- The diagnostics of nodes are what is found at each of them. -/
theorem mem_diagnosticsOf {r : Registry} {nodes : List Node} {ds : List Diagnostic}
    (h : diagnosticsOf r nodes = .ok ds) {d : Diagnostic} :
    d ∈ ds ↔ ∃ n ∈ nodes, Match.diagnose r n = .ok (some d) := by
  obtain ⟨found, hfound, rfl⟩ := diagnosticsOf_eq_ok_iff.1 h
  clear h
  induction hfound with
  | nil => simp
  | @cons n o nodes found hn _ ih =>
    simp only [List.mem_filterMap, id, exists_eq_right] at ih ⊢
    rw [List.mem_cons, ih, List.exists_mem_cons_iff, hn, Except.ok.injEq, eq_comm]

/-- The diagnostics of units are those of all their nodes. -/
theorem diagnosticsOf_of_units {r : Registry} {units : List CompilationUnit}
    {ds : List Diagnostic} (h : diagnosticsOfUnits r units = .ok ds) :
    diagnosticsOf r (units.flatMap (·.nodes)) = .ok ds := by
  obtain ⟨found, hfound, rfl⟩ := Outcome.map_eq_ok.1 h
  rw [Outcome.mapM_eq_ok_iff] at hfound
  clear h
  induction hfound with
  | nil => rfl
  | @cons u es units found hu _ ih =>
    rw [List.flatMap_cons, diagnosticsOf_append_eq_ok]
    exact ⟨es, found.flatten, (unitDiagnostics_eq_ok.1 hu).1, ih, rfl⟩

theorem diagnosticsOf_of_ofUnits {r : Registry} {jobs : Int} {elapsed : Number}
    {units : List CompilationUnit} {errors inputs : List String}
    {result : Analysis × List Log.Record}
    (h : ofUnits r jobs elapsed units errors inputs = .ok result) :
    diagnosticsOf r (units.flatMap (·.nodes)) = .ok result.1.diagnostics := by
  have hanalysis := analysis_ofUnits r jobs elapsed units errors inputs
  rw [h] at hanalysis
  obtain ⟨ds, hds, hresult⟩ := Outcome.map_eq_ok.1 hanalysis.symm
  have hdiagnostics : ds = result.1.diagnostics := congrArg diagnostics hresult
  rw [← hdiagnostics]
  exact diagnosticsOf_of_units hds

/-! ### More bans -/

section Covering

variable {r s : Registry} (hcovers : s.Covers r) (hs : s.Worded)

include hcovers hs

/-- A node that gives a result with more bans is reported if it was reported with fewer. -/
theorem reported_of_isOk {n : Node} {d : Diagnostic} {found : Option Diagnostic}
    (h : Match.diagnose r n = .ok (some d)) (hfound : Match.diagnose s n = .ok found) :
    ∃ d', found = some d' ∧ d'.location = d.location ∧ d'.nodeKind = d.nodeKind := by
  rcases Match.diagnose_reports hcovers hs h with ⟨d', hd', hsame⟩ | ⟨-, fault, hfault⟩
  · cases hd'.symm.trans hfound
    exact ⟨d', rfl, hsame⟩
  · cases hfault.symm.trans hfound

theorem sublist_spots {nodes : List Node} {ds es : List Diagnostic}
    (hds : diagnosticsOf r nodes = .ok ds) (hes : diagnosticsOf s nodes = .ok es) :
    (ds.map spot).Sublist (es.map spot) := by
  obtain ⟨few, hfew, rfl⟩ := diagnosticsOf_eq_ok_iff.1 hds
  obtain ⟨many, hmany, rfl⟩ := diagnosticsOf_eq_ok_iff.1 hes
  clear hds hes
  induction hfew generalizing many with
  | nil =>
    cases hmany
    exact .slnil
  | @cons n found nodes few hn _ ih =>
    obtain ⟨found', many, hn', hrest, rfl⟩ := List.forall₂_cons_left_iff.1 hmany
    have hrest := ih many hrest
    cases found with
    | none =>
      cases found' with
      | none => exact hrest
      | some d' => exact hrest.cons _
    | some d =>
      obtain ⟨d', rfl, hplace, hkind⟩ := reported_of_isOk hcovers hs hn hn'
      have hspot : spot d' = spot d := by rw [spot, spot, hplace, hkind]
      simpa [hspot] using hrest

/-- More bans hide no finding. If a registry has every ban of another one, a node that is reported
with the fewer bans is reported with the more bans, at the same place and as the same kind of node,
though perhaps by another rule. So a run that gives a result with both reports every node that it
reported, and at least the same places in the same order. -/
theorem diagnose_mono :
    (∀ n d, n.construct.isNamed = true → Match.diagnose r n = .ok (some d) →
      ∃ d', Match.diagnose s n = .ok (some d') ∧ d'.location = d.location
        ∧ d'.nodeKind = d.nodeKind)
    ∧ ∀ units jobs elapsed errors inputs few many,
      ofUnits r jobs elapsed units errors inputs = .ok few →
      ofUnits s jobs elapsed units errors inputs = .ok many →
      (∀ u ∈ units, ∀ n ∈ u.nodes, ∀ d, Match.diagnose r n = .ok (some d) →
        ∃ d', Match.diagnose s n = .ok (some d') ∧ d'.location = d.location
          ∧ d'.nodeKind = d.nodeKind)
      ∧ (few.1.diagnostics.map spot).Sublist (many.1.diagnostics.map spot) := by
  refine ⟨fun n d hname hd => ?_, fun units jobs elapsed errors inputs few many hfew hmany => ?_⟩
  · rcases Match.diagnose_reports hcovers hs hd with hreported | ⟨hnot, -⟩
    · exact hreported
    · rw [hname] at hnot
      cases hnot
  · have hall := diagnosticsOf_of_ofUnits hmany
    refine ⟨fun u hu n hn d hd => ?_, sublist_spots hcovers hs (diagnosticsOf_of_ofUnits hfew) hall⟩
    obtain ⟨found, hfound, -⟩ := Outcome.map_eq_ok.1 hall
    obtain ⟨o, ho⟩ := Outcome.exists_mapM_eq_ok.1 ⟨found, hfound⟩ n
      (List.mem_flatMap.2 ⟨u, hu, hn⟩)
    obtain ⟨d', rfl, hsame⟩ := reported_of_isOk hcovers hs hd ho
    exact ⟨d', ho, hsame⟩

end Covering

/-- A package is banned. -/
def sampleFew : Loader := { packages := .ofList [("p", "")] }

/-- A part of the package is banned too, and a class. -/
def sampleMany : Loader :=
  { classes := .ofList [("a.B", "")], packages := .ofList [("p.q", ""), ("p", "")] }

/-- A call of a method of the class, with a result from the package. -/
def sampleCall : Node :=
  ⟨⟨.text "T.java", .null, .null⟩, [],
    .call (some ⟨.text "run", .null, .null⟩) (.text "a.B") (.text "p.q.R") []⟩

theorem covers_sampleMany : sampleMany.build.Covers sampleFew.build where
  classes := by decide
  packages := by decide
  methods h := by cases h

/-- What is said about the call. -/
def sampleSaid (rule : Rule) (message : String) : Diagnostic :=
  ⟨⟨.text "T.java", .null, .null⟩, message, some "call", some rule.name, checkName⟩

/-- The call is reported for its result, and with more bans for its receiver instead. -/
theorem diagnose_mono_receiver :
    sampleMany.build.Covers sampleFew.build
      ∧ Match.diagnose sampleFew.build sampleCall = .ok (some (sampleSaid .callResultPackage
          "Use of run is not allowed, as p has been banned due to cross platform incompatibility."))
      ∧ ∃ d', Match.diagnose sampleMany.build sampleCall = .ok (some d')
        ∧ d'.location = sampleCall.location ∧ d'.nodeKind = some "call"
        ∧ d' = sampleSaid .callReceiverClass
          "Use of a.B has been banned due to cross platform incompatibility." := by
  have hfew : Match.diagnose sampleFew.build sampleCall = .ok (some (sampleSaid .callResultPackage
      "Use of run is not allowed, as p has been banned due to cross platform incompatibility.")) :=
    by with_unfolding_all rfl
  have hmany : Match.diagnose sampleMany.build sampleCall = .ok (some (sampleSaid .callReceiverClass
      "Use of a.B has been banned due to cross platform incompatibility.")) := by
    with_unfolding_all rfl
  obtain ⟨d', hd', hplace, hkind⟩ :=
    (diagnose_mono covers_sampleMany sampleMany.worded_build).1 sampleCall _ rfl hfew
  refine ⟨covers_sampleMany, hfew, d', hd', hplace, hkind, ?_⟩
  cases hd'.symm.trans hmany
  rfl

end BannedApi.Analysis
