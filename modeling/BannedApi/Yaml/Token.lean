/-!
Tokens of a YAML text. Where blocks begin and end is told by tokens of their own, made from the
indentation.
-/
namespace BannedApi.Yaml

/-- A tag as it is written: a handle, if there is one, and a suffix. -/
structure TagText where
  handle : Option String
  suffix : String
  deriving DecidableEq, Repr

/-- A directive. -/
inductive Directive where
  | version (major : Nat)
  | tagHandle (handle start : String)
  | other
  deriving DecidableEq, Repr

/-- A token. -/
inductive Token where
  | directive (d : Directive)
  | documentStart
  | documentEnd
  | blockSequenceStart
  | blockMappingStart
  | blockEnd
  | flowSequenceStart
  | flowSequenceEnd
  | flowMappingStart
  | flowMappingEnd
  | flowEntry
  | blockEntry
  | key
  | value
  | alias (name : String)
  | anchor (name : String)
  | tag (t : TagText)
  /-- A scalar; a plain one stands without quotes. -/
  | scalar (text : String) (plain : Bool)
  | streamEnd
  deriving DecidableEq, Repr

end BannedApi.Yaml
