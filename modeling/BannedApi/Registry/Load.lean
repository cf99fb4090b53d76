import BannedApi.Abort
import BannedApi.Json.Reader
import BannedApi.Log.Record
import BannedApi.Registry.Basic
import BannedApi.Store.Basic
import BannedApi.Value.Display
import BannedApi.Web

/-!
Loading ban lists. A document has up to three sections; one that is missing or malformed contributes
nothing, and a document that is no mapping is refused as a whole.

`Reading` is what one source says by itself: its result, its tables and what is logged about it. A
`Loader` merges readings in order, and on a name given twice the later one wins; for methods the name
is the class, so a later source replaces all banned methods of that class.
-/
namespace BannedApi

/-- What is wrong with a section. -/
inductive SectionProblem where
  | notMapping (kind : Kind)
  | reasonNotText (key : String)
  | inClass (owner : String) (problem : SectionProblem)
  deriving DecidableEq, Repr

/-- The problem in words. -/
def SectionProblem.message : SectionProblem → String
  | .notMapping k => s!"expected an object, got {k.name}"
  | .reasonNotText key => s!"reason for '{key}' must be a string"
  | .inClass owner p => s!"methods of '{owner}': {p.message}"

/-- What became of a source. -/
inductive LoadOutcome where
  /-- Nothing of the source was used. -/
  | failed (error : String)
  /-- The sections that were used, with the number of their bans, and those that were not. -/
  | applied (loaded : List (Section × Nat)) (missing malformed : List Section)
  deriving DecidableEq, Repr

/-- How a source was used. -/
inductive LoadStatus where
  | loaded | incomplete | failed
  deriving DecidableEq, Repr

/-- The name of a status. -/
def LoadStatus.name : LoadStatus → String
  | .loaded => "loaded"
  | .incomplete => "partial"
  | .failed => "failed"

/-- What became of a named source. -/
structure LoadResult where
  source : String
  outcome : LoadOutcome
  deriving DecidableEq, Repr

namespace LoadResult

/-- How the source was used: wholly, in part or not at all. -/
def status (r : LoadResult) : LoadStatus :=
  match r.outcome with
  | .failed _ => .failed
  | .applied _ missing malformed =>
    if missing.isEmpty && malformed.isEmpty then .loaded else .incomplete

/-- Why the source was not used. -/
def error? (r : LoadResult) : Option String :=
  match r.outcome with
  | .failed e => some e
  | .applied .. => none

/-- The source was used, at least in part. -/
def isOk (r : LoadResult) : Bool := r.error?.isNone

end LoadResult

/-- A table of a ban list: names with the reasons for their bans. -/
abbrev BanTable := OrderedMap String

/-- What a source says. A section without a table is left out. -/
structure Reading where
  result : LoadResult
  classes : Option BanTable := none
  packages : Option BanTable := none
  methods : Option (OrderedMap BanTable) := none
  records : List Log.Record := []

namespace Reading

open Log (Record Level)

/-- A record about loading. -/
def record (level : Level) (message : String) : Record := ⟨level, .loading, message⟩

/-- A source of which nothing is used. -/
def refused (source error warning : String) : Reading :=
  { result := ⟨source, .failed error⟩, records := [record .warning warning] }

/-! ### Sections -/

/-- What a section holds, or what is wrong with it, and how many entries without a name were
skipped on the way. -/
structure SectionReading (α : Type) where
  table : Except SectionProblem α
  skipped : Nat

/-- Take the entries of a table in turn; the first reason that is no text ends the section. -/
def readTableFrom (table : BanTable) (skipped : Nat) : List (String × Value) → SectionReading BanTable
  | [] => ⟨.ok table, skipped⟩
  | (name, .text reason) :: rest =>
    if name.isEmpty then readTableFrom table (skipped + 1) rest
    else readTableFrom (table.insert name reason) skipped rest
  | (name, _) :: _ => ⟨.error (.reasonNotText name), skipped⟩

/-- A table of names and reasons. Ban lists are JSON texts, and all their keys are names. -/
def readTable (v : Value) : SectionReading BanTable :=
  match v.fields? with
  | some fields => readTableFrom .empty 0 fields
  | none => ⟨.error (.notMapping v.kind), 0⟩

/-- Take the classes of the methods section in turn. -/
def readOwnersFrom (methods : OrderedMap BanTable) (skipped : Nat) :
    List (String × Value) → SectionReading (OrderedMap BanTable)
  | [] => ⟨.ok methods, skipped⟩
  | (owner, names) :: rest =>
    let reading := readTable names
    match reading.table with
    | .error p => ⟨.error (.inClass owner p), skipped + reading.skipped⟩
    | .ok table => readOwnersFrom (methods.insert owner table) (skipped + reading.skipped) rest

/-- The methods section: a table for each class. -/
def readOwners (v : Value) : SectionReading (OrderedMap BanTable) :=
  match v.fields? with
  | some fields => readOwnersFrom .empty 0 fields
  | none => ⟨.error (.notMapping v.kind), 0⟩

/-- What is known about a section of a document: it is missing, or it was read. -/
def sectionOf {α : Type} (read : Value → SectionReading α) (part : Section) (document : Value) :
    Option (SectionReading α) :=
  (document.field? part.name).map read

/-- What is logged about a section. -/
def sectionRecords {α : Type} (label : String) (part : Section) :
    Option (SectionReading α) → List Record
  | none => [record .info s!"Missing \"{part.name}\" top level JSON name inside '{label}'."]
  | some reading =>
    List.replicate reading.skipped (record .warning "Skipping ban entry with an empty name")
      ++ match reading.table with
        | .ok _ => []
        | .error p => [record .warning s!"Ignoring \"{part.name}\" in '{label}': {p.message}"]

/-- The table of a section that can be used. -/
def usable {α : Type} (reading : Option (SectionReading α)) : Option α :=
  reading.bind fun r => r.table.toOption

/-- The section is there and cannot be used. -/
def isMalformed {α : Type} (reading : Option (SectionReading α)) : Bool :=
  reading.any fun r => r.table.toOption.isNone

/-! ### Sources -/

/-- Read a document that is already parsed. -/
def ofDocument (label : String) (document : Value) : Reading :=
  match document.entries? with
  | some _ =>
    let classes := sectionOf readTable .classes document
    let packages := sectionOf readTable .packages document
    let methods := sectionOf readOwners .methods document
    let loaded :=
      ((usable classes).map fun t => (Section.classes, t.size)).toList
        ++ ((usable packages).map fun t => (Section.packages, t.size)).toList
        ++ ((usable methods).map fun t => (Section.methods, t.total OrderedMap.size)).toList
    let missing := Section.all.filter fun part => (document.field? part.name).isNone
    let malformed :=
      (if isMalformed classes then [Section.classes] else [])
        ++ (if isMalformed packages then [Section.packages] else [])
        ++ (if isMalformed methods then [Section.methods] else [])
    let total := loaded.foldr (fun l n => l.2 + n) 0
    { result := ⟨label, .applied loaded missing malformed⟩
      classes := usable classes
      packages := usable packages
      methods := usable methods
      records :=
        sectionRecords label .classes classes ++ sectionRecords label .packages packages
          ++ sectionRecords label .methods methods
          ++ [record .info s!"Loaded {total} ban entries from {label}"] }
  | none =>
    let error := s!"expected a JSON object at the top level, got {document.kind.name}"
    refused label error s!"Ban list '{label}' is invalid: {error}"

/-- Read a JSON text. A whole number that is too long ends the run. -/
def ofText (label text : String) : Except Abort Reading :=
  match Json.parse text with
  | .ok document => .ok (ofDocument label document)
  | .error (.malformed e) =>
    .ok (refused label s!"invalid JSON: {e}"
      s!"JSON file '{label}' is invalid. Unable to parse: {e}")
  | .error (.integer f) => .error (.integer f)

/-- A file that cannot be read for a reason said in words. -/
def unreadable (path reason : String) : Reading :=
  refused path s!"unreadable: {reason}" s!"Ban list file could not be read: {path}: {reason}"

/-- Read a file. A path that cannot be written down ends the run. -/
def ofFile (store : Store) (path : String) : Except Abort Reading :=
  match store.readText path with
  | .ok text => ofText path text
  | .error (.opening .nullCharacter) => .error (.opening .nullCharacter)
  | .error (.opening (.file ⟨.notFound, _⟩)) =>
    .ok (refused path "file not found" s!"Ban list file not found: {path}")
  | .error (.opening (.file fault)) => .ok (unreadable path fault.message)
  | .error (.encoding fault) => .ok (unreadable path fault.message)

/-- What is logged before an address is asked. -/
def asked (url : String) : Record := record .debug s!"Fetching ban list: {url}"

/-- Fetch and read the document at an address. -/
def ofUrl (web : Web) (url : String) : Except Abort Reading := do
  let reading ←
    match web.get url with
    | .ok text => ofText url text
    | .error e =>
      .ok (refused url s!"fetch failed: {e}" s!"Ban list could not be fetched from {url}: {e}")
  return { reading with records := asked url :: reading.records }

/-- Read whatever a source names: an address or a path. -/
def ofSource (store : Store) (web : Web) (source : String) : Except Abort Reading :=
  if Web.isUrl source then ofUrl web source else ofFile store source

/-- The requests that reading a source makes. -/
def fetches (source : String) (timeout : Number) : List Fetch :=
  if Web.isUrl source then [⟨source, timeout⟩] else []

end Reading

/-- What has been loaded so far. -/
structure Loader where
  classes : BanTable := .empty
  packages : BanTable := .empty
  methods : OrderedMap BanTable := .empty
  results : List LoadResult := []

namespace Loader

/-- Merge what a source says. -/
def merge (l : Loader) (r : Reading) : Loader :=
  { classes := (r.classes.map l.classes.union).getD l.classes
    packages := (r.packages.map l.packages.union).getD l.packages
    methods := (r.methods.map l.methods.union).getD l.methods
    results := l.results ++ [r.result] }

/-- The registry of everything loaded so far. -/
def build (l : Loader) : Registry :=
  { classes := l.classes.map .text
    packages := l.packages.map .text
    methods := l.methods.map (·.map .text)
    sources := (l.results.filter (·.isOk)).map (·.source) }

end Loader

end BannedApi
