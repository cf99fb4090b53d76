import BannedApi.Yaml.Knot

/-!
The value of a YAML text. Keys must be scalars; a key given again keeps its place and takes the later
value; entries merged into a mapping come before its own.
-/
namespace BannedApi.Yaml

/-- The value of a text; one without a document is null. -/
def read (source : Source) : Except Fault Value := do
  match ← readDocument (tokens source) with
  | none => return .null
  | some document => document.value

end BannedApi.Yaml
