import BannedApi.Text.Segment
import BannedApi.Value.Kind

/-!
Type keys: the name under which a resolved type is looked up. What stands from the first `<` on tells
the type's arguments and is dropped; a type that is not known has a key of its own.
-/
namespace BannedApi.TypeKey

/-- The key of a type that is not known. -/
def unknown : String := "nullType"

/-- The key of a type's text. -/
def ofText (type : String) : String := String.ofList (Text.before '<' type.toList)

/-- The key of a type as it stands in a tree. What is nothing or empty is not known; anything else
must be a text. -/
def ofValue (type : Value) : Except ValueFault String :=
  if type.truthy then
    match type with
    | .text s => .ok (ofText s)
    | .scalar (.bytes _) => .error .notSearchable
    | v => .error (.noOperation v.kind "find")
  else .ok unknown

end BannedApi.TypeKey
