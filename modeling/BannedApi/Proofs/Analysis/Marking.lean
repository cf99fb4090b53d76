import BannedApi.Proofs.Analysis.Monotone
import BannedApi.Proofs.Tree.Survey

/-!
Runs with more markers.

What a document has in it does not depend on the markers (`Tree.units_ofDocument_eq`), only which
declarations are marked does, and more markers mark more of them (`Site.isMarked_mono`). A site with
a marked declaration around it is silent, and any other site is diagnosed as with fewer markers
(`diagnose_node`). So more markers take away diagnostics and do nothing else
(`ofUnits_more_markers`).
-/
namespace BannedApi

open BannedApi.Tree (Site UnitSites sitesOf)

/-! ### More markers -/

section More

variable {few many : Markers} (hmore : ∀ m ∈ few.names, m ∈ many.names)

include hmore

theorem Markers.any_mono {p : String → Bool} (h : few.names.any p = true) :
    many.names.any p = true := by
  obtain ⟨m, hm, hp⟩ := List.any_eq_true.1 h
  exact List.any_eq_true.2 ⟨m, hmore m hm, hp⟩

theorem Markers.isMarker_mono {note : String} (h : few.isMarker note = true) :
    many.isMarker note = true := by
  simp only [Markers.isMarker] at h ⊢
  split at h
  · next hdot => rw [if_pos hdot]; exact any_mono hmore h
  · next hdot => rw [if_neg hdot]; exact any_mono hmore h

theorem Tree.Site.isMarked_mono {s : Site} (h : s.isMarked few = true) :
    s.isMarked many = true := by
  obtain ⟨o, ho, hmarked⟩ := List.any_eq_true.1 h
  obtain ⟨note, hnote, hmarker⟩ := List.any_eq_true.1 hmarked
  exact List.any_eq_true.2
    ⟨o, ho, List.any_eq_true.2 ⟨note, hnote, Markers.isMarker_mono hmore hmarker⟩⟩

/-- A site is silent if a declaration around it is marked, and is diagnosed as before if not. -/
theorem Match.diagnose_node (r : Registry) (s : Site) :
    diagnose r (s.node many)
      = if s.isMarked many then .ok none else diagnose r (s.node few) := by
  split
  · next hmarked => exact diagnose_of_suppressed (by rw [Site.isSuppressed_node, hmarked])
  · next hmany =>
    have hfew : ¬ s.isMarked few = true := fun h => hmany (Site.isMarked_mono hmore h)
    -- the scope has no other part in a diagnosis than to be suppressed or not
    have hhit : hit r (s.node many) = hit r (s.node few) := by
      simp only [hit, Site.isSuppressed_node, if_neg hmany, if_neg hfew]
      rfl
    rw [diagnose, diagnose, hhit]
    rfl

namespace Analysis

variable {r : Registry}

/-- With more markers, what was found at a site is left out if a declaration around it is marked. -/
theorem diagnosticsOf_node {sites : List Site} {found : List (Option Diagnostic)}
    (h : List.Forall₂ (fun s o => Match.diagnose r (s.node few) = .ok o) sites found) :
    diagnosticsOf r (sites.map (Site.node many))
      = .ok (((sites.zip found).filter fun p => !p.1.isMarked many).filterMap (·.2)) := by
  induction h with
  | nil => rfl
  | @cons s o sites found hs _ ih =>
    have hone : diagnosticsOf r [s.node many]
        = .ok (([(s, o)].filter fun p => !p.1.isMarked many).filterMap (·.2)) := by
      rw [diagnosticsOf, List.mapM_cons, Match.diagnose_node hmore, hs, List.filter_cons]
      cases s.isMarked many <;> cases o <;> rfl
    rw [List.map_cons, ← List.singleton_append, diagnosticsOf_append, hone, ih]
    simp only [Except.bind, Except.map, ← List.filterMap_append, ← List.filter_append,
      List.singleton_append, List.zip_cons_cons]

/-- A unit that gives a result with fewer markers gives one with more. -/
theorem unitDiagnostics_unit {u : UnitSites} {ds : List Diagnostic}
    (h : unitDiagnostics r (u.unit few) = .ok ds) :
    ∃ es, unitDiagnostics r (u.unit many) = .ok es := by
  obtain ⟨hds, hshown⟩ := unitDiagnostics_eq_ok.1 h
  obtain ⟨found, hfound, -⟩ := diagnosticsOf_eq_ok_iff.1 hds
  exact ⟨_, unitDiagnostics_eq_ok.2
    ⟨diagnosticsOf_node hmore (List.forall₂_map_left_iff.1 hfound), hshown⟩⟩

end Analysis

end More

namespace Analysis

theorem nodes_unit (markers : Markers) (us : List UnitSites) :
    (us.map (UnitSites.unit markers)).flatMap (·.nodes)
      = (us.flatMap (·.sites)).map (Site.node markers) := by
  rw [List.flatMap_map, List.map_flatMap]
  rfl

theorem found_sublist {sites : List Site} {found : List (Option Diagnostic)}
    (h : sites.length = found.length) (keep : Site → Bool) :
    (((sites.zip found).filter fun p => keep p.1).filterMap (·.2)).Sublist
      (found.filterMap id) := by
  have hsnd : (sites.zip found).map Prod.snd = found := List.map_snd_zip h.ge
  calc (((sites.zip found).filter fun p => keep p.1).filterMap (·.2)).Sublist
        ((sites.zip found).filterMap (·.2)) := List.filter_sublist.filterMap _
    _ = ((sites.zip found).map Prod.snd).filterMap id := by rw [List.filterMap_map]; rfl
    _ = found.filterMap id := by rw [hsnd]

/-- With more markers a document is refused for the same reason as before, or its units have the same
sites as before. If they could be analyzed before then they still can, and of the diagnostics those
are left, in their order, whose site has no marked declaration around it. -/
theorem ofUnits_more_markers (r : Registry) (few many : Markers)
    (hmore : ∀ m ∈ few.names, m ∈ many.names) (path : String) (document : Value) :
    (∀ fault, (Tree.ofDocument few path document).units = .error fault
      ↔ (Tree.ofDocument many path document).units = .error fault)
    ∧ ∀ units units',
      (Tree.ofDocument few path document).units = .ok units →
      (Tree.ofDocument many path document).units = .ok units' →
      units = (sitesOf path document).map (UnitSites.unit few)
      ∧ units' = (sitesOf path document).map (UnitSites.unit many)
      ∧ ∀ (jobs : Int) (elapsed : Number) (errors inputs : List String) result,
        ofUnits r jobs elapsed units errors inputs = .ok result →
        ∃ result' found,
          ofUnits r jobs elapsed units' errors inputs = .ok result'
          ∧ List.Forall₂ (fun s o => Match.diagnose r (s.node few) = .ok o)
              ((sitesOf path document).flatMap (·.sites)) found
          ∧ result.1.diagnostics = found.filterMap id
          ∧ result'.1.diagnostics
              = ((((sitesOf path document).flatMap (·.sites)).zip found).filter
                  fun p => !p.1.isMarked many).filterMap (·.2)
          ∧ result'.1.diagnostics.Sublist result.1.diagnostics := by
  rw [Tree.units_ofDocument_eq few, Tree.units_ofDocument_eq many]
  refine ⟨fun fault => by rw [Outcome.map_eq_error, Outcome.map_eq_error], ?_⟩
  intro units units' hunits hunits'
  obtain ⟨_, -, rfl⟩ := Outcome.map_eq_ok.1 hunits
  obtain ⟨_, -, rfl⟩ := Outcome.map_eq_ok.1 hunits'
  refine ⟨rfl, rfl, fun jobs elapsed errors inputs result hresult => ?_⟩
  -- what was found at the sites with fewer markers
  have hbefore := diagnosticsOf_of_ofUnits hresult
  rw [nodes_unit] at hbefore
  obtain ⟨found, hfound, hds⟩ := diagnosticsOf_eq_ok_iff.1 hbefore
  rw [List.forall₂_map_left_iff] at hfound
  obtain ⟨result', hresult'⟩ : ∃ result', ofUnits r jobs elapsed
      ((sitesOf path document).map (UnitSites.unit many)) errors inputs = .ok result' := by
    rw [ofUnits_isOk_iff, List.forall_mem_map]
    intro u hu
    obtain ⟨ds, hu⟩ := ofUnits_isOk_iff.1 ⟨result, hresult⟩ _ (List.mem_map_of_mem hu)
    exact unitDiagnostics_unit hmore hu
  have hafter := diagnosticsOf_of_ofUnits hresult'
  rw [nodes_unit, diagnosticsOf_node hmore hfound] at hafter
  have hleft := (Except.ok.inj hafter).symm
  refine ⟨result', found, hresult', hfound, hds.symm, hleft, ?_⟩
  rw [hleft, ← hds]
  exact found_sublist hfound.length_eq fun s => !s.isMarked many

/-! ### A marked body of an anonymous class -/

/-- A field of a banned type. -/
def sampleMember : Value :=
  .object [("kind", .text "field"), ("name", .text "x"), ("type", .text "a.B")]

/-- A unit with such a field, and with another in an annotated body of an anonymous class. -/
def sampleQuiet : Value :=
  .object [("compilation_units", .list [.object [("declarations", .list [sampleMember,
    .object [("kind", .text "new"), ("annotations", .list [.text "@Quiet(\"x\")"]),
      ("body", .list [sampleMember])]])]])]

/-- The standard markers, and the annotation of the body by its qualified name. -/
def sampleMarkers : Markers := ⟨"x.Quiet" :: Markers.standard.names⟩

/-- The nodes of the unit, with the body marked or not. -/
def quietUnit (marked : Bool) : CompilationUnit :=
  let place : Location := ⟨.text "t.json", .null, .null⟩
  let member (outer : Scope) : Node :=
    ⟨place, ⟨"field", "x", false⟩ :: outer, .variableDecl (.text "x") (.text "a.B")⟩
  ⟨.text "t.json", [member [], ⟨place, [], .construction none .null []⟩,
    member [⟨"class", "<anonymous>", marked⟩]]⟩

/-- What is said about each of the fields. -/
def quietDiagnostic : Diagnostic :=
  ⟨⟨.text "t.json", .null, .null⟩,
    "Use of a.B has been banned due to cross platform incompatibility.",
    some "variable", some "variable-class", checkName⟩

theorem ofUnits_more_markers_quiet :
    (∀ m ∈ Markers.standard.names, m ∈ sampleMarkers.names)
    ∧ (Tree.ofDocument .standard "t.json" sampleQuiet).units = .ok [quietUnit false]
    ∧ (Tree.ofDocument sampleMarkers "t.json" sampleQuiet).units = .ok [quietUnit true]
    ∧ ∃ result result',
      ofUnits sampleLoader.build 1 (.int 0) [quietUnit false] [] [] = .ok result
      ∧ ofUnits sampleLoader.build 1 (.int 0) [quietUnit true] [] [] = .ok result'
      ∧ result.1.diagnostics = [quietDiagnostic, quietDiagnostic]
      ∧ result'.1.diagnostics = [quietDiagnostic]
      ∧ result'.1.diagnostics.Sublist result.1.diagnostics := by
  have hmore : ∀ m ∈ Markers.standard.names, m ∈ sampleMarkers.names :=
    fun m hm => List.mem_cons_of_mem _ hm
  have hfew : (Tree.ofDocument .standard "t.json" sampleQuiet).units = .ok [quietUnit false] := by
    with_unfolding_all rfl
  have hmany : (Tree.ofDocument sampleMarkers "t.json" sampleQuiet).units
      = .ok [quietUnit true] := by with_unfolding_all rfl
  have hbefore : (ofUnits sampleLoader.build 1 (.int 0) [quietUnit false] [] []).map
      (·.1.diagnostics) = .ok [quietDiagnostic, quietDiagnostic] := by with_unfolding_all rfl
  have hafter : (ofUnits sampleLoader.build 1 (.int 0) [quietUnit true] [] []).map
      (·.1.diagnostics) = .ok [quietDiagnostic] := by with_unfolding_all rfl
  obtain ⟨result, hresult, hdiagnostics⟩ := Outcome.map_eq_ok.1 hbefore
  obtain ⟨-, hunits⟩ := ofUnits_more_markers sampleLoader.build .standard sampleMarkers hmore
    "t.json" sampleQuiet
  obtain ⟨-, -, hanalysis⟩ := hunits _ _ hfew hmany
  obtain ⟨result', found, hresult', -, -, -, hsublist⟩ := hanalysis 1 (.int 0) [] [] result hresult
  rw [hresult'] at hafter
  exact ⟨hmore, hfew, hmany, result, result', hresult, hresult', hdiagnostics,
    Except.ok.inj hafter, hsublist⟩

end Analysis

end BannedApi
