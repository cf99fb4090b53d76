import BannedApi.OrderedMap
import BannedApi.Value.Kind

/-!
The registry of bans: banned classes, banned package prefixes, and banned methods by the class that
declares them, each with a reason.
-/
namespace BannedApi

/-- The three sections of a ban list. -/
inductive Section where
  | classes | packages | methods
  deriving DecidableEq, Repr

/-- The name of a section in a ban list document. -/
def Section.name : Section → String
  | .classes => "classes"
  | .packages => "packages"
  | .methods => "methods"

/-- The sections in the order of a document. -/
def Section.all : List Section := [.classes, .packages, .methods]

/-- A table of names with the reasons for their bans. A ban list states reasons as texts; a registry
takes any value for one, and null for none. -/
abbrev ReasonTable := OrderedMap Value

/-- The merged ban lists, and the names of the sources they came from. -/
structure Registry where
  classes : ReasonTable := .empty
  packages : ReasonTable := .empty
  methods : OrderedMap ReasonTable := .empty
  sources : List String := []

instance : Inhabited Registry := ⟨{}⟩

/-- Look up a value as a name. What is no text is no name; a value with parts cannot be looked up. -/
def OrderedMap.lookup {α : Type} (m : OrderedMap α) : Value → Except ValueFault (Option α)
  | .text s => .ok (m.get? s)
  | v => v.key.map fun _ => none

namespace Registry

/-- A reason that is none leaves a name without a ban. -/
def stated (reason : Option Value) : Option Value := reason.filter (!·.isNull)

/-- The reason a class is banned for. -/
def classBan (r : Registry) (key : String) : Option Value := stated (r.classes.get? key)

/-- The reason a package is banned for, by its exact name. -/
def packageBan (r : Registry) (key : String) : Option Value := stated (r.packages.get? key)

/-- The reason a loosely typed name is banned for as a class. -/
def classBanOf (r : Registry) (key : Value) : Except ValueFault (Option Value) :=
  (r.classes.lookup key).map stated

/-- The reason a loosely typed name is banned for as a package. -/
def packageBanOf (r : Registry) (key : Value) : Except ValueFault (Option Value) :=
  (r.packages.lookup key).map stated

/-- The reason a method of a class is banned for. The name is looked at only when the class has
banned methods. -/
def methodBan (r : Registry) (owner name : Value) : Except ValueFault (Option Value) := do
  match ← r.methods.lookup owner with
  | none => .ok none
  | some names => (names.lookup name).map stated

/-- The banned package prefixes: the longest first, those of one length in the order of their
texts. -/
def prefixes (r : Registry) : List String :=
  (r.packages.entries.map (·.1)).mergeSort fun a b =>
    decide (b.length < a.length) || (a.length == b.length && decide (a ≤ b))

/-- The longest banned package prefix of a key, with its reason. -/
def prefixBan (r : Registry) (key : String) : Option (String × Value) :=
  (r.prefixes.find? fun p => p.toList.isPrefixOf key.toList).bind fun p =>
    (r.packages.get? p).map (p, ·)

/-- The longest banned package prefix of a loosely typed key. What is no text starts with no prefix:
that is a fault as soon as there is one to try. -/
def prefixBanOf (r : Registry) : Value → Except ValueFault (Option (String × Value))
  | .text key => .ok (r.prefixBan key)
  | v => if r.prefixes.isEmpty then .ok none else .error (.noOperation v.kind "startswith")

/-- The registry bans nothing. -/
def isEmpty (r : Registry) : Bool :=
  r.classes.isEmpty && r.packages.isEmpty && r.methods.isEmpty

/-- The number of bans in a section. -/
def count (r : Registry) : Section → Nat
  | .classes => r.classes.size
  | .packages => r.packages.size
  | .methods => r.methods.total OrderedMap.size

/-- The registry in one line. -/
def summary (r : Registry) : String :=
  s!"BanRegistry(classes={r.count .classes}, packages={r.count .packages}, methods={r.count .methods})"

end Registry

/-- A ban by itself. -/
structure BanEntry where
  key : String
  reason : Value
  part : Section
  /-- The class that declares a banned method. -/
  owner : Option String := none
  deriving Repr

namespace Registry

/-- All bans, section by section, sorted by owner and name. -/
def banEntries (r : Registry) : List BanEntry :=
  (r.classes.sorted.map fun e => { key := e.1, reason := e.2, part := .classes })
    ++ (r.packages.sorted.map fun e => { key := e.1, reason := e.2, part := .packages })
    ++ r.methods.sorted.flatMap fun m =>
      m.2.sorted.map fun e => { key := e.1, reason := e.2, part := .methods, owner := some m.1 }

/-- A table as a mapping sorted by name. -/
def tableDocument (t : ReasonTable) : Value := .object t.sorted

/-- The registry as a ban list document, sorted by name. -/
def toDocument (r : Registry) : Value :=
  .object [("classes", tableDocument r.classes), ("packages", tableDocument r.packages),
    ("methods", .object (r.methods.sorted.map fun m => (m.1, tableDocument m.2)))]

end Registry

end BannedApi
