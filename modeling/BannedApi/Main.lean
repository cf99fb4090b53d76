import BannedApi.Command.Run
import BannedApi.Workbook.Saved
import Std.Time.DateTime

/-!
The command line program. The files that a run may touch are read, the run is computed, and what it
leaves behind is printed and written.

The program has no network: every address is one that nothing answers, so a ban list is fetched from
none. It has no writer for workbooks either: the cells of a workbook are written as plain text, with
tabs between them.
-/
namespace BannedApi.Main

/-- The path of a place. -/
def pathOf (place : List String) : String :=
  match place with
  | [] => "."
  | part :: rest =>
    if part = Store.top then "/" ++ String.intercalate "/" rest else String.intercalate "/" place

/-- Put what stands at a path, and at the places above it, into a store. -/
def load (store : Store) (path : String) : IO Store := do
  let place := Store.place path
  let mut store := store
  for n in List.range place.length do
    let part := pathOf (place.take (n + 1))
    let file := (← IO.currentDir) / part
    if ← file.isDir then store := store.add part .directory
    else if ← file.pathExists then
      store := store.add part (.file (.bytes (← IO.FS.readBinFile file).toList))
  return store

/-- The files that a command names. -/
def namedFiles (common : Command.Common) (task : Command.Task) : List String :=
  common.bans.toList ++ common.config.toList ++ common.logFile.toList
    ++ match task with
      | .check c => c.trees ++ c.output.toList
      | .listBans l => l.output.toList

/-- The files that settings name. -/
def settingsFiles (store : Store) (path : Option String) : List String :=
  match Settings.load store path with
  | .ok ⟨.ok s, _⟩ => s.override.toList ++ s.logFile.toList
  | _ => []

/-- The cells of a workbook as lines, with tabs between cells and an empty line between sheets. -/
def workbookText (w : Workbook) : String :=
  let text : Workbook.Saved → String
    | .scalar .null => ""
    | .scalar v => v.display
    | .time hh mm ss us => Serial.timeText hh mm ss us
  let line (row : List Workbook.Saved) : String := String.intercalate "\t" (row.map text)
  String.intercalate "\n" (w.sheets.map fun s => String.join ((Workbook.rows s).map (line · ++ "\n")))

/-- Write the files that a run changed. -/
def save (before after : Store) (path : String) : IO Unit := do
  let place := Store.place path
  if after.entry? place ≠ before.entry? place then
    let file := (← IO.currentDir) / pathOf place
    match after.entry? place with
    | some (.file (.text t)) => IO.FS.writeFile file t
    | some (.file (.bytes data)) => IO.FS.writeBinFile file ⟨data.toArray⟩
    | some (.file (.workbook w)) => IO.FS.writeFile file (workbookText w)
    | _ => pure ()

/-- The present time in universal time. -/
def timeText : IO String := do
  let t := Std.Time.PlainDateTime.ofWallTime
    (Std.Time.WallTime.ofTimestamp (← Std.Time.Timestamp.now) .zero)
  let m : Moment := .dateTime t.year.toInt.toNat t.month.val.toNat t.day.val.toNat
    t.hour.val.toNat t.minute.val.toNat t.second.val.toNat (t.nanosecond.val.toNat / 1000) (some 0)
  return Text.replace ' ' "T" m.text

/-- The variables that decide about colours. -/
def colorVariables : List String :=
  ["NO_COLOR", "GITHUB_ACTIONS", "GITLAB_CI", "BUILDKITE", "TERM"]

/-- The files a run may touch, by the command line and the settings. -/
def filesOf (arguments : List String) (home : String) : IO (Store × List String) := do
  match Command.Invocation.parse arguments with
  | .ok (.run common task) =>
    let named := namedFiles common task
    let store ← (named ++ Settings.usualPaths home).foldlM load {}
    let settings := common.config.orElse fun _ => Settings.usualPath? store home
    let more := settingsFiles store settings
    return (← more.foldlM load store, named ++ more)
  | _ => return ({}, [])

/-- A text with a line end behind it, unless it is empty. -/
def closed (s : String) : String := if s.isEmpty then s else Command.ensureNewline s

end BannedApi.Main

open BannedApi in
/-- Run the program. -/
def main (arguments : List String) : IO UInt32 := do
  let home := (← IO.getEnv "HOME").getD "~"
  let env ← Main.colorVariables.filterMapM fun name => do
    return (← IO.getEnv name).map fun value => (name, value)
  let (store, files) ← Main.filesOf arguments home
  let now ← Main.timeText
  let world : Command.World :=
    { store
      standard := .bundled "the bundled ban list"
      screen := ⟨env, ← (← IO.getStdout).isTty⟩
      logTerminal := ← (← IO.getStderr).isTty
      home
      directory := (← IO.currentDir).toString
      now
      elapsed := .float (.ofDecimal false 0 0)
      stamp := ⟨now, Command.programName, 1⟩ }
  match Command.run world arguments with
  | .error abort =>
    (← IO.getStderr).putStrLn abort.message
    return 1
  | .ok outcome =>
    (← IO.getStdout).putStr outcome.stdout
    (← IO.getStderr).putStr (Main.closed outcome.stderr)
    files.forM (Main.save store outcome.store)
    return UInt32.ofNat outcome.exit
