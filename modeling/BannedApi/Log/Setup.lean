import BannedApi.Abort
import BannedApi.Log.Line
import BannedApi.Store.Journal
import BannedApi.Text.Capital

/-!
Where records go: to the terminal from a chosen level on, and if a file is chosen, all of them to the
file.
-/
namespace BannedApi.Log

/-- What is chosen about logging. -/
structure Options where
  level : String := "INFO"
  file : Option String := none
  verbose : Bool := false
  /-- Colours for the level; when it is open, they are used on a terminal. -/
  colors : Option Bool := none
  deriving Repr

/-- Where records go. -/
structure Setup where
  /-- The level from which on records are made at all. -/
  threshold : Level
  /-- The level from which on records go to the terminal. -/
  console : Level
  style : Style
  colors : Bool
  file : Option String
  deriving Repr

/-- The names that stand for something else than a level, and for what. -/
def otherNames : List (String × LevelFault) :=
  [("BASIC_FORMAT", .text "%(levelname)s:%(name)s:%(message)s"),
    ("_STYLES", .parts
      ("\x7b'%': (<class 'logging.PercentStyle'>, '%(levelname)s:%(name)s:%(message)s'), "
        ++ "'\x7b': (<class 'logging.StrFormatStyle'>, '\x7blevelname\x7d:\x7bname\x7d:\x7bmessage\x7d'), "
        ++ "'$': (<class 'logging.StringTemplateStyle'>, "
        ++ "'$\x7blevelname\x7d:$\x7bname\x7d:$\x7bmessage\x7d')\x7d"))]

/-- The names of levels; some have two. -/
def levelNames : List (String × Level) :=
  [("DEBUG", .debug), ("INFO", .info), ("WARN", .warning), ("WARNING", .warning),
    ("ERROR", .error), ("FATAL", .critical), ("CRITICAL", .critical), ("NOTSET", ⟨0⟩)]

/-- The level of a name, in any case; a name that is not known stands for the ordinary course of
work. -/
def Level.ofName (name : String) : Except LevelFault Level :=
  match otherNames.lookup (Text.upper name) with
  | some fault => .error fault
  | none => .ok ((levelNames.lookup (Text.upper name)).getD .info)

namespace Setup

/-- Logging as chosen. -/
def ofOptions (terminal : Bool) (o : Options) : Except LevelFault Setup := do
  let level ← Level.ofName o.level
  let file := o.file.filter (!·.isEmpty)
  return {
    threshold := if file.isSome then .debug else level
    console := level
    style := if o.verbose then .full else .brief
    colors := o.colors.getD terminal
    file }

/-- The levels of the places that records go to. -/
def levels (s : Setup) : List Level := s.console :: (s.file.map fun _ => Level.debug).toList

/-- The record is made. A threshold of zero leaves the choice to the common root, which takes
warnings. -/
def makes (s : Setup) (r : Record) : Bool :=
  let threshold := if s.threshold = ⟨0⟩ then .warning else s.threshold
  decide (threshold.rank ≤ r.level.rank)

/-- Lines of records. -/
def linesOf (style : Style) (colors : Bool) (stamp : Stamp) (rs : List Record) : String :=
  String.join (rs.map fun r => style.line colors stamp r ++ "\n")

/-- What goes to the terminal. -/
def consoleText (s : Setup) (stamp : Stamp) (rs : List Record) : String :=
  linesOf s.style s.colors stamp
    (rs.filter fun r => s.makes r && decide (s.console.rank ≤ r.level.rank))

/-- What goes to the file. -/
def fileText (s : Setup) (stamp : Stamp) (rs : List Record) : String :=
  linesOf .full false stamp
    (rs.filter fun r => s.makes r && decide (Level.debug.rank ≤ r.level.rank))

/-- The path of a log file without detours. -/
def logPath (path : String) : String := String.intercalate "/" (Store.place path)

/-- What a path from the top starts with: one slash, however many there are, but two stay two. -/
def topText (path : String) : String :=
  if (path.toList.takeWhile (· == '/')).length = 2 then "//" else "/"

/-- The full path of a log file in a working directory. -/
def fullPath (directory path : String) : String :=
  match Store.place path with
  | [] => directory
  | part :: rest =>
    if part = Store.top then topText path ++ String.intercalate "/" rest
    else directory ++ "/" ++ logPath path

/-- Open the log file, if there is one: it is made if it is not there. A fault names the file by its
full path. -/
def openFile (s : Setup) (store : Store) (directory : String) : Except OpenFault Store :=
  match s.file with
  | none => .ok store
  | some file =>
    if (Store.place file).isEmpty then .error (.file ⟨.isADirectory, directory⟩)
    else
      (store.append (logPath file) "").mapError fun
        | .file f => .file ⟨f.cause, fullPath directory file⟩
        | .nullCharacter => .nullCharacter

/-- The log file grows with every record. -/
def journal (s : Setup) (stamp : Stamp) : Journal := fun store records =>
  match s.file with
  | none => store
  | some file => (store.append (logPath file) (s.fileText stamp records)).toOption.getD store

end Setup

/-- What goes to the terminal before logging is set up: the bare messages from warnings on. -/
def bareText (rs : List Record) : String :=
  String.join ((rs.filter fun r => decide (Level.warning.rank ≤ r.level.rank)).map (·.message ++ "\n"))

end BannedApi.Log
