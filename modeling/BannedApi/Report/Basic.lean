import BannedApi.Fault
import BannedApi.Report.Format
import BannedApi.Report.Json
import BannedApi.Report.Markdown
import BannedApi.Report.Text
import BannedApi.Report.Workbook
import BannedApi.Workbook.Saved

/-!
Reports in every format, shown or written to a file.
-/
namespace BannedApi.Report

/-- A format with its options. -/
inductive Options where
  | text (o : TextOptions)
  | json (o : JsonOptions)
  | markdown (metadata : Bool)
  | excel
  deriving Repr

/-- The format of the options. -/
def Options.format : Options → Format
  | .text _ => .text
  | .json _ => .json
  | .markdown _ => .markdown
  | .excel => .excel

/-- A finished report: a text, or a workbook. -/
inductive Rendered where
  | text (s : String)
  | workbook (w : Workbook)
  deriving Repr

/-- The report on an analysis made at a time. -/
def render (o : Options) (now : String) (a : Analysis) : Except Abort Rendered := do
  let data ← (Data.ofAnalysis now a).mapError .value
  match o with
  | .text o => ((Report.text o data).mapError .value).map .text
  | .json o => ((Report.json o data).mapError .value).map .text
  | .markdown metadata => ((Report.markdown metadata data).mapError .value).map .text
  | .excel => (Report.workbook data).map .workbook

/-- What is written to a file: a text without colours, or the workbook. -/
def Rendered.content (format : Format) : Rendered → Content
  | .text s => .text (if format = .text then stripColors s else s)
  | .workbook w => .workbook w

/-- What is shown of a report: the text, or a note about the workbook. A workbook that is not written
is known by its size, given in words. -/
def Rendered.shown (output : Option String) (size : String) : Rendered → String
  | .text s => s
  | .workbook _ =>
    match output with
    | some path => s!"Excel report saved to {path}"
    | none => s!"Excel workbook generated ({size} bytes)"

/-- Why a report was not written. -/
inductive WriteFault where
  /-- The file cannot be opened. -/
  | file (format : Format) (path : String) (fault : FileFault)
  /-- The run cannot go on. -/
  | fatal (fault : Abort)
  deriving Repr

/-- The fault in words. -/
def WriteFault.message : WriteFault → String
  | .file format path f => Fault.inReport (some format.name) (some path) f.message
  | .fatal f => f.message

/-- A workbook must be fit to be saved. -/
def Rendered.check : Rendered → Except Abort Unit
  | .text _ => .ok ()
  | .workbook w => w.checkSave.mapError .cell

/-- The files with a report in them, if a file is named for it. -/
def putFile (store : Store) (format : Format) (output : Option String) (r : Rendered) :
    Except WriteFault Store :=
  match output with
  | none => .ok store
  | some path =>
    (store.write path (r.content format)).mapError fun
      | .file f => .file format path f
      | .nullCharacter => .fatal (.opening .nullCharacter)

/-- Write a report to a file, if one is named. The file is opened first. -/
def write (store : Store) (format : Format) (output : Option String) (r : Rendered) :
    Except WriteFault Store := do
  let after ← putFile store format output r
  r.check.mapError .fatal
  return after

end BannedApi.Report
