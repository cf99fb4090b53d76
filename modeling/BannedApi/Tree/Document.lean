import BannedApi.Abort
import BannedApi.Fault
import BannedApi.Json.Reader
import BannedApi.Log.Record
import BannedApi.Store.Document
import BannedApi.Text.Small
import BannedApi.Tree.Walk

/-!
Tree documents: JSON or YAML files that hold compilation units.
-/
namespace BannedApi.Tree

/-- The name of the one format that is read. -/
def formatName : String := "xplat-typed-ast"

/-- The format of a document: the one it declares, or the usual one if it has a list of units. -/
def detectFormat (document : Value) : String :=
  match document.field "format" with
  | .text declared => declared
  | _ => if (document.field "compilation_units").items?.isSome then formatName else "unknown"

/-- Why a tree cannot be read. -/
inductive Fault where
  | missing
  | invalidJson (message : String)
  | invalidYaml
  | unreadable (message : String)
  | unsupported (detected : String)
  | unitsNotList
  | malformed (m : Malformed)
  /-- The run cannot go on; that is no fault of the tree. -/
  | fatal (fault : Abort)
  deriving DecidableEq, Repr

/-- What stands for the reason why a YAML text is not well formed. -/
def yamlProblem : String := "<yaml error>"

/-- The fault of the tree in a file, in words. -/
def Fault.message (path : String) : Fault → String
  | .missing => s!"Typed tree file not found: {path}"
  | .invalidJson m => Fault.inTree (some path) none s!"Invalid JSON: {m}"
  | .invalidYaml => Fault.inTree (some path) none s!"Invalid YAML: {yamlProblem}"
  | .unreadable m => Fault.inTree (some path) none s!"Could not read file: {m}"
  | .unsupported detected =>
    Fault.inTree (some path) none
      s!"Unsupported document format. Detected: {detected}, Supported: ['{formatName}']"
  | .unitsNotList => Fault.inTree (some path) none "'compilation_units' must be a list"
  | .malformed m => Fault.inTree (some path) (some (pathText m.path)) m.problem.message
  | .fatal f => f.message

/-- The file is written in YAML, by its name. -/
def isYaml (path : String) : Bool :=
  [".yaml", ".yml"].any fun ending => ending.toList.isSuffixOf (Text.lower path).toList

/-- The fault of opening a file. -/
def Fault.ofOpen : OpenFault → Fault
  | .file f => .unreadable f.message
  | .nullCharacter => .fatal (.opening .nullCharacter)

/-- The value in a JSON file. -/
def readJson (store : Store) (path : String) : Except Fault Value :=
  match store.readText path with
  | .error (.opening f) => .error (.ofOpen f)
  | .error (.encoding f) => .error (.unreadable f.message)
  | .ok text =>
    (Json.parse text).mapError fun
      | .malformed m => .invalidJson m
      | .integer f => .fatal (.integer f)

/-- The value in a YAML file. -/
def readYaml (store : Store) (path : String) : Except Fault Value :=
  match store.read path with
  | .error f => .error (.ofOpen f)
  | .ok content =>
    content.yaml.mapError fun
      | .malformed => .invalidYaml
      | .unfinished => .invalidYaml
      | .encoding f => .unreadable f.message
      | .scalar f => .fatal (.scalar f)

/-- The document in a file. -/
def readDocument (store : Store) (path : String) : Except Fault Value :=
  if !store.holds path then .error .missing
  else if isYaml path then readYaml store path
  else readJson store path

/-- What reading a tree gives: its units or a fault, and what is logged about it. -/
structure Reading where
  units : Except Fault (List CompilationUnit)
  records : List Log.Record := []

/-- A record about reading. -/
def record (level : Log.Level) (message : String) : Log.Record := ⟨level, .tree, message⟩

/-- The version of a document is the known one; a document without one is taken to have it. -/
def isKnownVersion (document : Value) : Bool :=
  match document.field? "version" with
  | none => true
  | some (.scalar s) => s.sameKey (.number (.int 1))
  | some _ => false

/-- What is logged about the version of a document. A version that cannot be put into words ends the
run. -/
def versionRecords (path : String) (document : Value) : Except ValueFault (List Log.Record) :=
  if isKnownVersion document then .ok []
  else
    (document.field "version").shown.map fun version =>
      [record .warning s!"{path}: unknown {formatName} version {version}, reading as version 1"]

/-- The fault of a walk: what is wrong with the tree, unless the walk goes on without end. -/
def Fault.ofWalk (m : Malformed) : Fault :=
  if m.problem = .endless then .fatal .endless else .malformed m

/-- The units of a document of the known format. -/
def unitsOf (markers : Markers) (path : String) (document : Value) :
    Except Fault (List CompilationUnit) :=
  match (document.field "compilation_units").items? with
  | none => .error .unitsNotList
  | some items => (unitsFrom markers path 0 items).mapError .ofWalk

/-- The units of a document. -/
def ofDocument (markers : Markers) (path : String) (document : Value) : Reading :=
  let detected := detectFormat document
  if detected ≠ formatName then { units := .error (.unsupported detected) }
  else
    match versionRecords path document with
    | .error f => { units := .error (.fatal (.value f)) }
    | .ok warnings =>
      match unitsOf markers path document with
      | .error f => ⟨.error f, warnings⟩
      | .ok units =>
        ⟨.ok units, warnings ++ [record .debug
          s!"Parsed {units.length} compilation unit(s) from {path}"]⟩

/-- The units of the tree in a file. -/
def ofFile (markers : Markers) (store : Store) (path : String) : Reading :=
  match readDocument store path with
  | .error f => { units := .error f }
  | .ok document => ofDocument markers path document

end BannedApi.Tree
