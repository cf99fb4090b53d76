import BannedApi.Json.Printer
import BannedApi.Report.Data

/-!
The report as a JSON document.
-/
namespace BannedApi.Report

/-- What a JSON report contains and how it is laid out. -/
structure JsonOptions where
  metadata : Bool := true
  pretty : Bool := true
  deriving Repr

/-- A text or null. -/
def optionalText (s : Option String) : Value := (s.map Value.text).getD .null

/-- A list of texts. -/
def textList (ss : List String) : Value := .list (ss.map .text)

/-- Counts by name. -/
def counts (cs : List (String × Nat)) : Value := .object (cs.map fun c => (c.1, .int c.2))

/-- The summary. -/
def summaryValue (d : Data) : Value :=
  .object
    [("total_diagnostics", .int d.total), ("files_analyzed", .int d.filesAnalyzed),
      ("files_with_diagnostics", .int d.files.length), ("nodes_visited", .int d.nodesVisited),
      ("has_issues", .bool d.hasIssues), ("processing_time_seconds", .scalar (.number d.seconds))]

/-- A diagnostic. -/
def diagnosticValue (d : Diagnostic) : Value :=
  .object
    [("file", d.location.file), ("line", d.location.line), ("column", d.location.column),
      ("severity", .text severity), ("check", .text d.check), ("rule", optionalText d.rule),
      ("node_kind", optionalText d.nodeKind), ("message", .text d.message)]

/-- The counts. -/
def statisticsValue (d : Data) : Value :=
  .object
    [("by_file", .map (d.files.map fun f => (f.1, .int f.2.length))),
      ("by_rule", counts d.byRule), ("by_node_kind", counts d.byNodeKind)]

/-- When and from what the report was made. -/
def metadataValue (m : Metadata) : Value :=
  .object
    [("generated_at", .text m.generatedAt), ("tool", .text m.tool), ("inputs", textList m.inputs),
      ("ban_sources", textList m.banSources)]

/-- The report as a document. -/
def document (o : JsonOptions) (d : Data) : Value :=
  .object
    ([("summary", summaryValue d), ("diagnostics", .list (d.diagnostics.map diagnosticValue)),
      ("statistics", statisticsValue d), ("errors", textList d.errors)]
      ++ if o.metadata then [("metadata", metadataValue d.metadata)] else [])

/-- The report as a JSON text. -/
def json (o : JsonOptions) (d : Data) : Except ValueFault String :=
  Json.print (if o.pretty then .pretty else .compact) (document o d)

end BannedApi.Report
