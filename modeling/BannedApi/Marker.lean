import BannedApi.Text.Blank
import BannedApi.Text.Segment
import BannedApi.Value.Kind

/-!
Suppression markers: annotations that silence a declaration and everything inside it.

An annotation with a qualified name is a marker when it is listed as it stands; one with a simple name
when it is the simple name of a listed marker.
-/
namespace BannedApi

/-- The annotation names that suppress diagnostics. -/
structure Markers where
  names : List String
  deriving DecidableEq, Repr

namespace Markers

/-- The markers used when none are chosen. -/
def standard : Markers :=
  ⟨["XplatBanSuppression", "com.google.errorprone.xplat.checker.XplatBanSuppression"]⟩

/-- The markers in the order of their names, each once. -/
def sorted (m : Markers) : List String := m.names.eraseDups.mergeSort fun a b => decide (a ≤ b)

/-- The name of an annotation: without blanks around it, the signs in front and the arguments. -/
def annotationName (note : String) : List Char :=
  Text.before '(' ((Text.trim note.toList).dropWhile (· == '@'))

/-- The part of a qualified name after its last dot. -/
def simpleName (name : String) : List Char := Text.afterLast '.' name.toList

/-- Whether an annotation is a marker. -/
def isMarker (m : Markers) (note : String) : Bool :=
  let name := annotationName note
  if name.contains '.' then m.names.any (·.toList == name)
  else m.names.any (simpleName · == name)

/-- Whether one of the annotations is a marker. -/
def isMarked (m : Markers) (annotations : List String) : Bool := annotations.any m.isMarker

/-- Whether one of loosely typed annotations is a marker. They are looked at in turn, and one that is
no text is a fault unless a marker stands before it. -/
def isMarkedBy (m : Markers) : List Value → Except ValueFault Bool
  | [] => .ok false
  | .text s :: rest => if m.isMarker s then .ok true else m.isMarkedBy rest
  | v :: _ => .error (.noOperation v.kind "strip")

end Markers

end BannedApi
