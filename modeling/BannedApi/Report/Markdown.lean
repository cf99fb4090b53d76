import BannedApi.Report.Data
import BannedApi.Text.Segment

/-!
The report as a Markdown text, for comments and summaries.
-/
namespace BannedApi.Report

/-- A text in a cell of a table: bars are escaped, and it stands on one line. -/
def tableText (s : String) : String := Text.replace '\n' " " (Text.replace '|' "\\|" s)

/-- The summary. -/
def summarySection (d : Data) : String :=
  String.intercalate "\n"
    ["## Summary", "", "| Metric | Value |", "|--------|-------|",
      s!"| Banned API uses | {d.total} |",
      s!"| Files analyzed | {d.filesAnalyzed} |",
      s!"| Files with banned API uses | {d.files.length} |",
      s!"| Nodes checked | {d.nodesVisited} |"]

/-- A position in a cell; one that is not known leaves it empty. -/
def positionText (v : Value) : Except ValueFault String := if v.isNull then .ok "" else v.shown

/-- The row of a diagnostic. -/
def diagnosticRow (d : Diagnostic) : Except ValueFault String := do
  let line ← positionText d.location.line
  let column ← positionText d.location.column
  let rule := d.rule.getD "None"
  return s!"| {line} | {column} | `{rule}` | {tableText d.message} |"

/-- The table of a file. -/
def fileTable (file : Scalar) (ds : List Diagnostic) : Except ValueFault (List String) := do
  let name ← (Value.scalar file).shown
  let rows ← ds.mapM diagnosticRow
  return ["", s!"### `{name}`", "", "| Line | Column | Rule | Message |",
    "|------|--------|------|---------|"] ++ rows

/-- The tables with one more item: below the others of its file, or in a new table at the end. -/
def addToTables {α : Type} (file : Scalar) (item : α) :
    List (Scalar × List α) → List (Scalar × List α)
  | [] => [(file, [item])]
  | (key, items) :: rest =>
    if key.sameKey file then (key, items ++ [item]) :: rest
    else (key, items) :: addToTables file item rest

/-- The diagnostics of each table, in the order in which the files first come. -/
def tables (ds : List Diagnostic) : Except ValueFault (List (Scalar × List Diagnostic)) :=
  ds.foldlM (fun made d => (Analysis.fileKey d).map fun file => addToTables file d made) []

/-- The diagnostics, file by file. -/
def diagnosticsSection (ds : List Diagnostic) : Except ValueFault String := do
  let made ← (← tables ds).mapM fun t => fileTable t.1 t.2
  return String.intercalate "\n" ("## Diagnostics" :: made.flatten)

/-- The inputs that could not be read. -/
def errorsSection (d : Data) : String :=
  String.intercalate "\n" (["## Errors", ""] ++ d.errors.map fun e => "- " ++ tableText e)

/-- When and with which ban lists the report was made. -/
def metadataSection (m : Metadata) : String :=
  let sources := String.intercalate ", " m.banSources
  String.intercalate "\n"
    (["## Metadata", "", s!"- Generated: {m.generatedAt}", s!"- Tool: {m.tool}"]
      ++ if m.banSources.isEmpty then [] else [s!"- Ban lists: {sources}"])

/-- The report as a Markdown text; sections with nothing to tell are left out. -/
def markdown (withMetadata : Bool) (d : Data) : Except ValueFault String := do
  let found ←
    if d.diagnostics.isEmpty then pure [] else do pure [← diagnosticsSection d.diagnostics]
  let sections :=
    ["# Banned API Report", summarySection d] ++ found
      ++ (if d.errors.isEmpty then [] else [errorsSection d])
      ++ (if withMetadata then [metadataSection d.metadata] else [])
  return String.intercalate "\n\n" sections ++ "\n"

end BannedApi.Report
