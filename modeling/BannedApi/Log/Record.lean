import BannedApi.Number.Basic
import BannedApi.Text.Quoted

/-!
Log records: a level, the part of the program that speaks, and a message.

Functions that have something to report return their records as a list beside the result, in the
order in which they were made. Who shows them, and how, is decided by `Log.Setup`.
-/
namespace BannedApi.Log

/-- How important a record is. -/
structure Level where
  rank : Int
  deriving DecidableEq, Repr

namespace Level

/-- What only a developer wants to know. -/
def debug : Level := ⟨10⟩

/-- The ordinary course of work. -/
def info : Level := ⟨20⟩

/-- Something was left out. -/
def warning : Level := ⟨30⟩

/-- Something could not be done. -/
def error : Level := ⟨40⟩

/-- Nothing can be done. -/
def critical : Level := ⟨50⟩

/-- The levels with names. -/
def named : List (Level × String) :=
  [(debug, "DEBUG"), (info, "INFO"), (warning, "WARNING"), (error, "ERROR"),
    (critical, "CRITICAL"), (⟨0⟩, "NOTSET")]

end Level

/-- The name of the level with a rank; one between the named levels is called by its rank. -/
def rankName (rank : Number) : String :=
  match Level.named.find? fun l => rank.sameValue (.int l.1.rank) with
  | some l => l.2
  | none => "Level " ++ rank.text

/-- The name of a level. -/
def Level.name (l : Level) : String := rankName (.int l.rank)

/-- A name stands for something else than a level. -/
inductive LevelFault where
  /-- It stands for a text. -/
  | text (s : String)
  /-- It stands for something with parts, given as a listing shows it. -/
  | parts (listing : String)
  deriving DecidableEq, Repr

/-- The fault in words. -/
def LevelFault.message : LevelFault → String
  | .text s => "Unknown level: " ++ Text.quoted s
  | .parts listing => "Level not an integer or a valid string: " ++ listing

/-- The part of the program that makes a record. -/
inductive Origin where
  | loading | tree | matching | analysis | settings | command
  | other (name : String)
  deriving DecidableEq, Repr

/-- The name of a channel below the common root. -/
def channel (name : String) : String := "xplat_bans." ++ name

/-- The name of the channel a part of the program speaks on. -/
def Origin.name : Origin → String
  | .loading => channel "registry.loader"
  | .tree => channel "tree.typed_ast"
  | .matching => channel "matching.matcher"
  | .analysis => channel "analyzer"
  | .settings => channel "config"
  | .command => channel "cli"
  | .other name => channel name

/-- One record. -/
structure Record where
  level : Level
  origin : Origin
  message : String
  deriving DecidableEq, Repr

end BannedApi.Log
