import BannedApi.Tree.Outline

/-!
Walking a tree: the steps of each outline are taken in order, parts before what follows them, until
all are done or one of them refuses.

The walker knows the declarations it is in and the way it came. Entering and leaving are done around
each step, also when the step refuses, and nodes emitted before a refusal stay emitted.
-/
namespace BannedApi.Tree

/-- Where the walk stands: the enclosing declarations, the way from the top (the last step first) and
the nodes emitted so far. -/
structure Walker where
  scope : Scope := []
  way : List Segment := []
  nodes : List Node := []
  deriving Repr

/-- What is the same for the whole of a unit. -/
structure Setting where
  markers : Markers
  file : Value

namespace Walker

/-- Emit a node where the walker stands. -/
def emit (setting : Setting) (line column : Value) (construct : Construct) (w : Walker) : Walker :=
  { w with nodes := w.nodes ++ [⟨⟨setting.file, line, column⟩, w.scope, construct⟩] }

/-- Do something inside a declaration. -/
def within {α : Type} (setting : Setting) (opening : Option Opening) (act : Walker → Walker × α)
    (w : Walker) : Walker × α :=
  match opening with
  | none => act w
  | some o =>
    let (after, result) :=
      act { w with scope := Frame.declared setting.markers o.kind o.name o.annotations :: w.scope }
    ({ after with scope := after.scope.parent }, result)

/-- Do something one step further down. -/
def below {α : Type} (segment : Segment) (act : Walker → Walker × α) (w : Walker) : Walker × α :=
  let (after, result) := act { w with way := segment :: w.way }
  ({ after with way := after.way.tail }, result)

/-- Do something with each item in turn, up to the first refusal. -/
def runAll {α : Type} (act : α → Walker → Walker × Option Malformed) :
    List α → Walker → Walker × Option Malformed
  | [], w => (w, none)
  | x :: xs, w =>
    match act x w with
    | (after, none) => runAll act xs after
    | (after, some fault) => (after, some fault)

/-- Walk a value: take the steps of its outline. -/
def visit (setting : Setting) (role : Role) (v : Value) (w : Walker) : Walker × Option Malformed :=
  runAll
    (fun step w =>
      within setting step.1.inside
        (fun w =>
          match _h : step.1.action with
          | .emit line column construct => (w.emit setting line column construct, none)
          | .refuse fault => (w, some (fault.below w.way.reverse))
          | .visit segment r part => below segment (visit setting r part) w)
        w)
    (outline role v).attach w
termination_by sizeOf v
decreasing_by exact sizeOf_lt_of_visit step.2 _h

end Walker

/-- The file a unit comes from: the one it names, else the document itself. -/
def unitFile (document : String) (raw : Value) : Value :=
  let file := raw.field "file"
  if file.truthy then file else .text document

/-- The compilation unit at a place of the document. -/
def unitOf (markers : Markers) (document : String) (index : Nat) (raw : Value) :
    Except Malformed CompilationUnit :=
  let file := unitFile document raw
  let start : Walker := { way := [.item "compilation_units" index] }
  match start.visit ⟨markers, file⟩ .unit raw with
  | (w, none) => .ok ⟨file, w.nodes⟩
  | (_, some fault) => .error fault

/-- The compilation units of a list, up to the first that is malformed; `index` counts those
before. -/
def unitsFrom (markers : Markers) (document : String) (index : Nat) :
    List Value → Except Malformed (List CompilationUnit)
  | [] => .ok []
  | raw :: rest =>
    match unitOf markers document index raw with
    | .error fault => .error fault
    | .ok unit => (unitsFrom markers document (index + 1) rest).map (unit :: ·)

end BannedApi.Tree
