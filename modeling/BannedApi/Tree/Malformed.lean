import BannedApi.Value.Kind

/-!
Malformed trees: what is wrong, and the way from the top of the document to the place where it is
wrong.
-/
namespace BannedApi.Tree

/-- One step from a mapping to a value inside it: a field, or an item of a list in a field. -/
inductive Segment where
  | field (key : String)
  | item (key : String) (index : Nat)
  deriving DecidableEq, Repr

/-- A step in words. -/
def Segment.text : Segment → String
  | .field key => key
  | .item key index => s!"{key}[{index}]"

/-- A way in words. -/
def pathText (path : List Segment) : String := String.intercalate "." (path.map Segment.text)

/-- What is wrong at a place of a tree. -/
inductive Problem where
  | notMapping (kind : Kind)
  | notList (key : String)
  | kindNotText (kind : Kind)
  | nameNotText (kind : Kind)
  | annotationNotText (kind : Kind)
  | importWithoutName
  | symbolWithoutName
  /-- The tree holds itself, and the walk goes on without end. -/
  | endless
  deriving DecidableEq, Repr

/-- The problem in words. -/
def Problem.message : Problem → String
  | .notMapping k => s!"expected an object, got {k.name}"
  | .notList key => s!"'{key}' must be a list"
  | .kindNotText k => s!"'kind' must be a string, got {k.name}"
  | .nameNotText k => s!"declaration 'name' must be a string, got {k.name}"
  | .annotationNotText k => s!"annotation must be a name, got {k.name}"
  | .importWithoutName => "import without a 'name'"
  | .symbolWithoutName => "symbol without a 'name'"
  | .endless => "the tree holds itself"

/-- A problem, and the way to it from where one stands. -/
structure Malformed where
  path : List Segment
  problem : Problem
  deriving DecidableEq, Repr

namespace Malformed

/-- A problem where one stands. -/
def here (problem : Problem) : Malformed := ⟨[], problem⟩

/-- The same problem seen from further up. -/
def below (way : List Segment) (m : Malformed) : Malformed := ⟨way ++ m.path, m.problem⟩

end Malformed

end BannedApi.Tree
