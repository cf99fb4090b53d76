import BannedApi.Marker

/-!
Scopes: the declarations that enclose a place of the source, innermost first.

`ScopeStack` tracks them while declarations are entered and left. Leaving a declaration makes its
parent the current scope, whatever was entered in between.
-/
namespace BannedApi

/-- One enclosing declaration. -/
structure Frame where
  kind : String
  name : String
  suppressed : Bool := false
  deriving DecidableEq, Repr

/-- The frame of a declaration with these annotations. -/
def Frame.declared (markers : Markers) (kind name : String) (annotations : List String) : Frame :=
  ⟨kind, name, markers.isMarked annotations⟩

/-- The enclosing declarations, innermost first. -/
abbrev Scope := List Frame

namespace Scope

/-- The names from the outermost declaration inwards, with dots between them. -/
def path (s : Scope) : String := String.intercalate "." (s.reverse.map (·.name))

/-- Whether the place or a declaration around it is suppressed. -/
def isSuppressed (s : Scope) : Bool := s.any (·.suppressed)

/-- The scope around a declaration. -/
def parent (s : Scope) : Scope := s.tail

end Scope

/-- The scope one stands in, and the declarations entered and not yet left, oldest first. -/
structure ScopeStack where
  current : Scope := []
  entered : List Scope := []
  deriving Repr

namespace ScopeStack

/-- The number of enclosing declarations. -/
def depth (s : ScopeStack) : Nat := s.current.length

/-- Enter a declaration. -/
def enter (frame : Frame) (s : ScopeStack) : ScopeStack :=
  let inner := frame :: s.current
  ⟨inner, s.entered ++ [inner]⟩

/-- The place among so many that a number names: a negative one counts from the end. -/
def placeOf (count : Nat) (n : Int) : Option Nat :=
  let i := if n < 0 then n + count else n
  if 0 ≤ i && i < count then some i.toNat else none

/-- Leave the declaration at a place among those entered; without a place, the one entered last. -/
def leave (place : Option Int) (s : ScopeStack) : Option ScopeStack :=
  (placeOf s.entered.length (place.getD (-1))).bind fun i =>
    (s.entered[i]?).map fun left => ⟨left.parent, s.entered.eraseIdx i⟩

end ScopeStack

end BannedApi
