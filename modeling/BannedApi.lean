import BannedApi.Text.Blank
import BannedApi.Text.Segment
import BannedApi.Text.Capital
import BannedApi.Text.Cased
import BannedApi.Text.Small
import BannedApi.Text.Digit
import BannedApi.Text.Word
import BannedApi.Text.Integer
import BannedApi.Text.Base64
import BannedApi.Text.Newline
import BannedApi.Text.Utf8
import BannedApi.Text.Printable
import BannedApi.Text.Quoted
import BannedApi.Number.Basic
import BannedApi.Number.Reader
import BannedApi.Number.Notation
import BannedApi.Value.Kind
import BannedApi.Value.Display
import BannedApi.Json.Reader
import BannedApi.Json.Printer
import BannedApi.Yaml.Reader
import BannedApi.Log.Record
import BannedApi.Log.Format
import BannedApi.Log.Setup
import BannedApi.Store.Document
import BannedApi.Store.Journal
import BannedApi.TypeKey
import BannedApi.Message
import BannedApi.Marker
import BannedApi.Scope
import BannedApi.Node
import BannedApi.OrderedMap
import BannedApi.Registry.Basic
import BannedApi.Registry.Load
import BannedApi.Registry.Standard
import BannedApi.Fault
import BannedApi.Command.Run
import BannedApi.Report.Json
import BannedApi.Report.Markdown
import BannedApi.Report.Text
import BannedApi.Report.Workbook
import BannedApi.Workbook.Saved
import BannedApi.Settings
import BannedApi.Analysis.Files
import BannedApi.Tree.Walk
import BannedApi.Version
import BannedApi.Main
import BannedApi.Proofs.Tree.Yield
import BannedApi.Proofs.Value.Change
import BannedApi.Proofs.Value.Erasure
import BannedApi.Proofs.Tree.Ways
import BannedApi.Proofs.Tree.Change
import BannedApi.Proofs.Tree.Entry
import BannedApi.Proofs.Tree.Erasure
import BannedApi.Proofs.Suppression
import BannedApi.Proofs.OrderedMap
import BannedApi.Proofs.Registry.Prefix
import BannedApi.Proofs.Match.Agenda
import BannedApi.Proofs.Match.Call
import BannedApi.Proofs.Match.Construction
import BannedApi.Proofs.Registry.Run
import BannedApi.Proofs.Outcome
import BannedApi.Proofs.Tree.Grammar
import BannedApi.Proofs.Tree.Acceptance
import BannedApi.Proofs.Json.RoundTrip
import BannedApi.Proofs.Registry.RoundTrip
import BannedApi.Proofs.Registry.Override
import BannedApi.Proofs.Analysis.Pool
import BannedApi.Proofs.Match.Sound
import BannedApi.Proofs.Match.Concern
import BannedApi.Proofs.Match.Monotone
import BannedApi.Proofs.Analysis.Files
import BannedApi.Proofs.Analysis.Monotone
import BannedApi.Proofs.Analysis.Erasure
import BannedApi.Proofs.Analysis.Concatenation
import BannedApi.Proofs.Analysis.Schedule
import BannedApi.Proofs.Tree.Survey
import BannedApi.Proofs.Tree.Enclosing
import BannedApi.Proofs.Tree.Context
import BannedApi.Proofs.Analysis.Marking
import BannedApi.Proofs.Json.Newline
import BannedApi.Proofs.Text.Utf8
import BannedApi.Proofs.Registry.Origin
import BannedApi.Proofs.Settings
import BannedApi.Proofs.Store.Directory
import BannedApi.Proofs.Command.Stages
import BannedApi.Proofs.Command.Exit
import BannedApi.Proofs.Registry.Listing
import BannedApi.Proofs.ScopeStack
import BannedApi.Proofs.Report.Strip
import BannedApi.Proofs.Report.Text
import BannedApi.Proofs.Value.Display
import BannedApi.Proofs.Tree.Blame
import BannedApi.Proofs.Value.Key
import BannedApi.Proofs.Report.Tables
import BannedApi.Proofs.Report.Counts
import BannedApi.Proofs.Command.Lines
import BannedApi.Proofs.Report.Cells
import BannedApi.Proofs.Marker
import BannedApi.Proofs.Match.Rekey
import BannedApi.Proofs.Workbook.Region
import BannedApi.Proofs.Report.Workbook
import BannedApi.Proofs.Registry.Account
