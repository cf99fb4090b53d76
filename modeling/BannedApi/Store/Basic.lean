import BannedApi.Text.Newline
import BannedApi.Text.Quoted
import BannedApi.Text.Segment
import BannedApi.Text.Utf8
import BannedApi.Workbook.Basic

/-!
The files a run sees: a tree of directories and files below the working directory.

A path is walked part by part. Each part but the last must be a directory, so a path can fail because
something is missing, because a file stands where a directory must be, because a directory stands
where a file must be, or because it is too long. A path may lead out of the working directory; nothing
is known there but the directories above.
-/
namespace BannedApi

/-- What a file holds. -/
inductive Content where
  | bytes (data : List UInt8)
  | text (s : String)
  | workbook (w : Workbook)
  deriving DecidableEq, Repr

/-- What stands at a path. -/
inductive Entry where
  | directory
  | file (content : Content)
  deriving DecidableEq, Repr

/-- Why a path cannot be used. -/
inductive FileCause where
  | notFound | notADirectory | isADirectory | nameTooLong
  deriving DecidableEq, Repr

/-- The cause in words, with its number. -/
def FileCause.message : FileCause → String
  | .notFound => "[Errno 2] No such file or directory"
  | .notADirectory => "[Errno 20] Not a directory"
  | .isADirectory => "[Errno 21] Is a directory"
  | .nameTooLong => "[Errno 36] File name too long"

/-- A path that cannot be used. -/
structure FileFault where
  cause : FileCause
  path : String
  deriving DecidableEq, Repr

/-- The fault in words. -/
def FileFault.message (f : FileFault) : String := s!"{f.cause.message}: {Text.quoted f.path}"

/-- Why a file cannot be opened. -/
inductive OpenFault where
  | file (fault : FileFault)
  /-- The path holds the null character, which no path can hold. -/
  | nullCharacter
  deriving DecidableEq, Repr

/-- The fault in words. -/
def OpenFault.message : OpenFault → String
  | .file f => f.message
  | .nullCharacter => "embedded null byte"

/-- Why a text file cannot be read. -/
inductive ReadFault where
  | opening (fault : OpenFault)
  | encoding (fault : Text.Utf8.Fault)
  deriving DecidableEq, Repr

/-- Directories and files by the parts of their paths. -/
structure Store where
  entries : List (List String × Entry) := []
  deriving Repr

namespace Store

/-! ### Paths -/

/-- The parts of a path between its slashes. -/
def parts (path : String) : List String := (Text.splitAt '/' path.toList).map String.ofList

/-- The name of the directory above all others. -/
def top : String := "/"

/-- Where a path starts: at the top, or in the working directory. -/
def origin (path : String) : List String := if path.toList.head? = some '/' then [top] else []

/-- The place is a directory above the working directory, or the top. -/
def isAbove (place : List String) : Bool := place == [top] || place.all (· == "..")

/-- The place is in the working directory. -/
def isInside (place : List String) : Bool :=
  place.head?.all fun part => part != ".." && part != top

/-- The place a part of a path leads to. The top is its own parent. -/
def move (place : List String) (part : String) : List String :=
  if part = "" || part = "." then place
  else if part = ".." then
    if place = [top] then place
    else if isAbove place then place ++ [".."]
    else place.dropLast
  else place ++ [part]

/-- The place a path names, whatever stands on the way. -/
def place (path : String) : List String := (parts path).foldl move (origin path)

/-- The number of bytes a text takes. -/
def byteCount (s : String) : Nat := s.utf8ByteSize

/-- The most bytes that a part of a path may take, and a path as a whole. -/
def partLimit : Nat := 255

/-- The most bytes that a path may take. -/
def pathLimit : Nat := 4095

/-- What stands at a place. -/
def entry? (s : Store) (place : List String) : Option Entry :=
  if isAbove place then some .directory else (s.entries.find? (·.1 == place)).map (·.2)

/-- Take one part of a path, from a place that must be a directory. -/
def step (s : Store) (place : List String) (part : String) : Except FileCause (List String) :=
  match s.entry? place with
  | none => .error .notFound
  | some (.file _) => .error .notADirectory
  | some .directory =>
    if partLimit < byteCount part then .error .nameTooLong else .ok (move place part)

/-- The place a path leads to. -/
def resolve (s : Store) (path : String) : Except FileCause (List String) :=
  if path.isEmpty then .error .notFound
  else if pathLimit < byteCount path then .error .nameTooLong
  else (parts path).foldlM s.step (origin path)

/-- A path that can be written down at all. -/
def isPath (path : String) : Bool := !path.toList.contains '\x00'

/-! ### Reading -/

/-- Something stands at the path. -/
def holds (s : Store) (path : String) : Bool :=
  isPath path
    && match s.resolve path with
      | .ok p => (s.entry? p).isSome
      | .error _ => false

/-- The content of a file. -/
def read (s : Store) (path : String) : Except OpenFault Content :=
  if !isPath path then .error .nullCharacter
  else
    match s.resolve path with
    | .error c => .error (.file ⟨c, path⟩)
    | .ok p =>
      match s.entry? p with
      | none => .error (.file ⟨.notFound, path⟩)
      | some .directory => .error (.file ⟨.isADirectory, path⟩)
      | some (.file content) => .ok content

/-- The text of a file, with line feeds at its line ends. -/
def readText (s : Store) (path : String) : Except ReadFault String :=
  match s.read path with
  | .error f => .error (.opening f)
  | .ok (.text t) => .ok (String.ofList (Text.unifyNewlines t.toList))
  | .ok (.workbook _) => .ok ""
  | .ok (.bytes data) =>
    match Text.Utf8.decode data with
    | .error f => .error (.encoding f)
    | .ok cs => .ok (String.ofList (Text.unifyNewlines cs))

/-! ### Writing -/

/-- Put an entry at a place. -/
def put (place : List String) (e : Entry) : List (List String × Entry) → List (List String × Entry)
  | [] => [(place, e)]
  | (p, old) :: rest => if p = place then (p, e) :: rest else (p, old) :: put place e rest

/-- Put an entry at a path, with the directories above it. -/
def add (path : String) (e : Entry) (s : Store) : Store :=
  let target := place path
  let above := (List.range target.length).tail.map fun n => target.take n
  let withDirectories := above.foldl (fun es p => put p .directory es) s.entries
  ⟨if target.isEmpty then withDirectories else put target e withDirectories⟩

/-- The place of a file to be written: the directory it is in must be there. A path that ends in a
slash names no file. -/
def target (s : Store) (path : String) : Except FileCause (List String) := do
  let names := ((parts path).reverse.dropWhile (·.isEmpty)).reverse
  if path.isEmpty then .error .notFound
  else if pathLimit < byteCount path then .error .nameTooLong
  else
    let above ← names.dropLast.foldlM s.step (origin path)
    let p ← s.step above ((parts path).getLast?.getD "")
    if s.entry? p = some .directory then .error .isADirectory else .ok p

/-- The place of a file to be opened for writing. -/
def openTarget (s : Store) (path : String) : Except OpenFault (List String) :=
  if isPath path then (s.target path).mapError fun c => .file ⟨c, path⟩
  else .error .nullCharacter

/-- Write a file, in place of what it held. -/
def write (s : Store) (path : String) (content : Content) : Except OpenFault Store :=
  (s.openTarget path).map fun p => ⟨put p (.file content) s.entries⟩

/-- A file with a text at its end; a workbook is not changed by it. -/
def extended (text : String) : Option Entry → Content
  | some (.file (.text t)) => .text (t ++ text)
  | some (.file (.bytes data)) => .bytes (data ++ text.toUTF8.toList)
  | some (.file (.workbook w)) => .workbook w
  | _ => .text text

/-- Write a text to the end of a file, which is made if it is not there. -/
def append (s : Store) (path : String) (text : String) : Except OpenFault Store :=
  (s.openTarget path).map fun p => ⟨put p (.file (extended text (s.entry? p))) s.entries⟩

end Store

end BannedApi
