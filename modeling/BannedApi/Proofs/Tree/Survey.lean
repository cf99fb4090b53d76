import BannedApi.Proofs.Tree.Yield
import BannedApi.Tree.Document

/-!
Surveys: what a walk sees before it looks at any marker.

The markers have a part in one thing only, the flags in the frames around a node. So a tree can be
walked without them, if each construct keeps the declarations that were opened around it with all
their annotations. `surveyOf` is this walk. `yieldOf_eq_mark` says that the walk with markers gives
the same, with every declaration turned into a frame; up to there nothing depends on the markers,
neither which constructs are emitted nor whether and where the walk refuses.
-/
namespace BannedApi.Tree

/-- The frame of a declaration. -/
def Opening.frame (markers : Markers) (o : Opening) : Frame :=
  .declared markers o.kind o.name o.annotations

/-- A construct at a place, with the declarations opened around it, innermost first. -/
structure Site where
  location : Location
  openings : List Opening := []
  construct : Construct

namespace Site

/-- The site as a node. -/
def node (markers : Markers) (s : Site) : Node :=
  ⟨s.location, s.openings.map (Opening.frame markers), s.construct⟩

/-- A declaration around the site has a marker among its annotations. -/
def isMarked (markers : Markers) (s : Site) : Bool :=
  s.openings.any fun o => markers.isMarked o.annotations

/-- The site with more declarations around it. -/
def under (openings : List Opening) (s : Site) : Site :=
  { s with openings := s.openings ++ openings }

theorem node_under (markers : Markers) (openings : List Opening) (s : Site) :
    (s.under openings).node markers
      = (s.node markers).under (openings.map (Opening.frame markers)) := by
  simp [node, under, Node.under]

theorem isSuppressed_node (markers : Markers) (s : Site) :
    (s.node markers).scope.isSuppressed = s.isMarked markers := by
  rw [node, Scope.isSuppressed, isMarked, List.any_map]
  rfl

end Site

/-- The sites that a walk comes by, and why it refuses if it does. -/
structure Survey where
  sites : List Site := []
  fault : Option Malformed := none

namespace Survey

/-- One survey and then another, unless the first one ends in a refusal. -/
def andThen (a b : Survey) : Survey :=
  match a.fault with
  | none => ⟨a.sites ++ b.sites, b.fault⟩
  | some _ => a

/-- Surveys one after the other, up to the first refusal. -/
def all (ss : List Survey) : Survey := ss.foldr andThen {}

/-- A survey inside a declaration, if there is one. -/
def inside (opening : Option Opening) (s : Survey) : Survey :=
  ⟨s.sites.map (Site.under opening.toList), s.fault⟩

/-- A survey seen from further up. -/
def below (way : List Segment) (s : Survey) : Survey := ⟨s.sites, s.fault.map (·.below way)⟩

/-- The yield with these markers. -/
def mark (markers : Markers) (s : Survey) : Yield := ⟨s.sites.map (Site.node markers), s.fault⟩

variable (markers : Markers)

theorem mark_andThen (a b : Survey) :
    (a.andThen b).mark markers = (a.mark markers).andThen (b.mark markers) := by
  obtain ⟨sites, fault⟩ := a
  cases fault <;> simp [andThen, mark, Yield.andThen]

theorem mark_all : ∀ ss : List Survey, (all ss).mark markers = Yield.all (ss.map (mark markers))
  | [] => rfl
  | s :: ss => by
    rw [List.map_cons, Yield.all_cons, ← mark_all ss, ← mark_andThen]
    rfl

theorem mark_inside (file : Value) (opening : Option Opening) (s : Survey) :
    (s.inside opening).mark markers
      = (s.mark markers).inside (Setting.frames ⟨markers, file⟩ opening) := by
  have hframes : opening.toList.map (Opening.frame markers)
      = Setting.frames ⟨markers, file⟩ opening := by
    cases opening <;> rfl
  simp only [inside, mark, Yield.inside, List.map_map]
  congr 1
  refine List.map_congr_left fun site _ => ?_
  rw [Function.comp_apply, Function.comp_apply, Site.node_under, hframes]

end Survey

/-- What the walk of a value surveys. -/
def surveyOf (file : Value) (role : Role) (v : Value) : Survey :=
  Survey.all ((outline role v).attach.map fun step =>
    Survey.inside step.1.inside
      (match _h : step.1.action with
        | .emit line column construct =>
          { sites := [{ location := ⟨file, line, column⟩, construct }] }
        | .refuse fault => { fault := some fault }
        | .visit segment r part => (surveyOf file r part).below [segment]))
termination_by sizeOf v
decreasing_by exact sizeOf_lt_of_visit step.2 _h

/-- A walk yields what it surveys, with the declarations around each site marked or not. -/
theorem yieldOf_eq_mark (markers : Markers) (file : Value) (role : Role) (v : Value) :
    Walker.yieldOf ⟨markers, file⟩ role v = (surveyOf file role v).mark markers := by
  rw [Walker.yieldOf_eq, surveyOf, Survey.mark_all, List.map_map,
    ← List.attach_map_subtype_val (outline role v), List.map_map, List.attach_map_subtype_val]
  -- Step by step: a part that a step visits is smaller than the value.
  refine congrArg Yield.all (List.map_congr_left fun step _ => ?_)
  rw [Function.comp_apply, Function.comp_apply, Walker.stepYield,
    Survey.mark_inside markers file]
  congr 1
  split
  · next line column construct haction =>
    rw [haction]
    rfl
  · next fault haction =>
    rw [haction]
    rfl
  · next segment r part haction =>
    rw [haction, Walker.actYield, yieldOf_eq_mark markers file r part]
    rfl
termination_by sizeOf v
decreasing_by exact sizeOf_lt_of_visit step.2 ‹_›

/-! ### Documents -/

/-- The sites of a unit. -/
structure UnitSites where
  file : Value
  sites : List Site

/-- The unit with these markers. -/
def UnitSites.unit (markers : Markers) (u : UnitSites) : CompilationUnit :=
  ⟨u.file, u.sites.map (Site.node markers)⟩

/-- The sites of the unit in a mapping. -/
def sitesOfUnit (path : String) (raw : Value) : UnitSites :=
  ⟨unitFile path raw, (surveyOf (unitFile path raw) .unit raw).sites⟩

/-- The sites of the units of a document. -/
def sitesOf (path : String) (document : Value) : List UnitSites :=
  ((document.field "compilation_units").items?.getD []).map (sitesOfUnit path)

/-- No annotation is a marker. -/
def noMarkers : Markers := ⟨[]⟩

theorem unitOf_eq (markers : Markers) (path : String) (index : Nat) (raw : Value) :
    unitOf markers path index raw
      = (unitOf noMarkers path index raw).map fun _ => (sitesOfUnit path raw).unit markers := by
  simp only [unitOf, Walker.visit_eq_reap, yieldOf_eq_mark, Walker.reap, Survey.mark]
  cases (surveyOf (unitFile path raw) .unit raw).fault with
  | some fault => rfl
  | none =>
    have hunder : Node.under [] = id := funext Node.under_nil
    simp [Except.map, UnitSites.unit, sitesOfUnit, hunder]

theorem unitsFrom_eq (markers : Markers) (path : String) : ∀ (index : Nat) (items : List Value),
    unitsFrom markers path index items
      = (unitsFrom noMarkers path index items).map fun _ =>
          (items.map (sitesOfUnit path)).map (UnitSites.unit markers)
  | _, [] => rfl
  | index, raw :: rest => by
    rw [unitsFrom, unitsFrom, unitOf_eq markers, unitsFrom_eq markers path (index + 1) rest]
    cases unitOf noMarkers path index raw with
    | error fault => rfl
    | ok unit => cases unitsFrom noMarkers path (index + 1) rest <;> rfl

/-- With any markers a document is read as without: it is refused for the same reason, or its units
are those that were surveyed. -/
theorem units_ofDocument_eq (markers : Markers) (path : String) (document : Value) :
    (ofDocument markers path document).units
      = (ofDocument noMarkers path document).units.map fun _ =>
          (sitesOf path document).map (UnitSites.unit markers) := by
  have hunits : unitsOf markers path document
      = (unitsOf noMarkers path document).map fun _ =>
          (sitesOf path document).map (UnitSites.unit markers) := by
    rw [unitsOf, unitsOf, sitesOf]
    cases (document.field "compilation_units").items? with
    | none => rfl
    | some items =>
      simp only [Option.getD_some]
      rw [unitsFrom_eq markers]
      cases unitsFrom noMarkers path 0 items <;> rfl
  simp only [ofDocument, hunits]
  split
  · rfl
  · cases versionRecords path document with
    | error f => rfl
    | ok warnings => cases unitsOf noMarkers path document <;> rfl

end BannedApi.Tree
