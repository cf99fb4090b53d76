import BannedApi.Command.Arguments
import BannedApi.Report.Format
import BannedApi.Settings

/-!
What a run is asked to do: check trees, or list the bans.
-/
namespace BannedApi.Command

/-- The name of the program. -/
def programName : String := "xplat-bans"

/-- The options of both commands. -/
structure Common where
  bans : Option String := none
  config : Option String := none
  logLevel : Option String := none
  logFile : Option String := none
  verbose : Bool := false
  deriving Repr

/-- How many workers are asked for. -/
inductive Workers where
  /-- As many as the settings say. -/
  | usual
  | number (n : Int)
  /-- The number is missing where it was to stand. -/
  | missing
  deriving DecidableEq, Repr

/-- The options of a check. -/
structure Check where
  trees : List String
  format : Option Report.Format := none
  output : Option String := none
  workers : Workers := .usual
  noColor : Bool := false
  detailed : Bool := false
  deriving Repr

/-- How bans are listed. -/
inductive ListFormat where
  | json | text
  deriving DecidableEq, Repr

/-- The options of a list. -/
structure Listing where
  format : ListFormat := .json
  output : Option String := none
  deriving Repr

/-- A command. -/
inductive Task where
  | check (c : Check)
  | listBans (l : Listing)
  deriving Repr

/-- What a run is asked to do. -/
inductive Invocation where
  | version
  | help
  | run (common : Common) (task : Task)
  deriving Repr

/-! ### Grammars -/

/-- The option that asks for help. -/
def helpOption : Opt := ⟨["-h", "--help"], .answer⟩

/-- The options of both commands. -/
def commonOptions : List Opt :=
  [⟨["--bans"], .text⟩, ⟨["--config"], .text⟩, ⟨["--log-level"], .oneOf Settings.levelNames⟩,
    ⟨["--log-file"], .text⟩, ⟨["-v", "--verbose"], .nothing⟩]

/-- The names of the commands. -/
def commandNames : List String := ["check", "list-bans"]

/-- The command line as a whole. -/
def mainGrammar : Grammar :=
  ⟨programName, [helpOption, ⟨["--version"], .answer⟩], .command "command" commandNames⟩

/-- The command line of a check. -/
def checkGrammar : Grammar :=
  ⟨programName ++ " check",
    helpOption :: commonOptions
      ++ [⟨["-f", "--format"], .oneOf Report.Format.names⟩, ⟨["-o", "--output"], .text⟩,
        ⟨["-j", "--jobs"], .number⟩, ⟨["--no-color"], .nothing⟩, ⟨["--detailed"], .nothing⟩],
    .many "TREE"⟩

/-- The command line of a list. -/
def listGrammar : Grammar :=
  ⟨programName ++ " list-bans",
    helpOption :: commonOptions
      ++ [⟨["-f", "--format"], .oneOf ["json", "text"]⟩, ⟨["-o", "--output"], .text⟩],
    .none⟩

/-! ### Reading -/

/-- A value that is given and not empty. -/
def Parsed.filled? (p : Parsed) (name : String) : Option String :=
  (p.value? name).filter (!·.isEmpty)

/-- The options of both commands. -/
def Common.ofParsed (p : Parsed) : Common :=
  ⟨p.filled? "--bans", p.filled? "--config", p.filled? "--log-level", p.filled? "--log-file",
    p.has "--verbose"⟩

/-- The number of workers. -/
def Workers.ofParsed (p : Parsed) : Workers :=
  match p.given? "--jobs" with
  | none => .usual
  | some none => .missing
  | some (some value) => ((Text.readInteger 10 value).toOption.map .number).getD .missing

/-- The options of a check. -/
def Check.ofParsed (p : Parsed) : Check :=
  { trees := p.operands.getD []
    format := (p.value? "--format").bind Report.Format.ofName?
    output := p.filled? "--output"
    workers := .ofParsed p
    noColor := p.has "--no-color"
    detailed := p.has "--detailed" }

/-- The options of a list. -/
def Listing.ofParsed (p : Parsed) : Listing :=
  ⟨if p.value? "--format" = some "text" then .text else .json, p.filled? "--output"⟩

/-- What the arguments behind a command ask for; arguments that nothing was expected for are a fault of
the whole line. -/
def Invocation.ofTask (g : Grammar) (task : Parsed → Task) (extras arguments : List String) :
    Except UsageFault Invocation := do
  let p ← g.parse arguments
  if p.answered.isSome then .ok .help
  else
    let unknown := extras ++ p.extras
    if unknown.isEmpty then .ok (.run (Common.ofParsed p) (task p))
    else .error ⟨programName, .unrecognized unknown⟩

/-- What a run is asked to do. -/
def Invocation.parse (arguments : List String) : Except UsageFault Invocation := do
  let p ← mainGrammar.parse arguments
  match p.answered, p.operands.getD [] with
  | some "--version", _ => .ok .version
  | some _, _ => .ok .help
  | none, "check" :: rest =>
    Invocation.ofTask checkGrammar (fun q => .check (Check.ofParsed q)) p.extras rest
  | none, _ :: rest =>
    Invocation.ofTask listGrammar (fun q => .listBans (Listing.ofParsed q)) p.extras rest
  | none, [] => .error ⟨programName, .operandsMissing "command"⟩

end BannedApi.Command
