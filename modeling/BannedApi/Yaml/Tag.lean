import BannedApi.Yaml.Token

/-!
Tags: the kind of a node. A node without a tag gets one by its form, and a plain scalar by its text.
-/
namespace BannedApi.Yaml

/-- The kind of a node. -/
inductive Tag where
  | null | bool | int | float | moment | text | binary | sequence | mapping
  /-- A mapping of which only the keys count. -/
  | set
  /-- A list of keys, each with what it names. -/
  | pairs
  /-- A key whose mappings are merged into the mapping it stands in. -/
  | merge
  /-- A sign for a default value, which only counts as a key. -/
  | default
  | unknown
  deriving DecidableEq, Repr

/-- What the tags of the language itself begin with. -/
def coreStart : String := "tag:yaml.org,2002:"

/-- The names of the tags, behind that start. -/
def coreNames : List (String × Tag) :=
  [("null", .null), ("bool", .bool), ("int", .int), ("float", .float), ("timestamp", .moment),
    ("str", .text), ("binary", .binary), ("seq", .sequence), ("map", .mapping), ("set", .set),
    ("pairs", .pairs), ("omap", .pairs), ("merge", .merge), ("value", .default)]

/-- The tag of a full name. -/
def Tag.ofName (name : String) : Tag :=
  ((coreNames.find? fun n => coreStart ++ n.1 == name).map (·.2)).getD .unknown

/-- The handles that need no directive. -/
def standardHandles : List (String × String) := [("!", "!"), ("!!", coreStart)]

/-- The full name of a tag as it is written. -/
def TagText.name? (handles : List (String × String)) (t : TagText) : Option String :=
  match t.handle with
  | none => some t.suffix
  | some h => (handles.lookup h).map (· ++ t.suffix)

end BannedApi.Yaml
