import BannedApi.Text.Small
import BannedApi.Text.Segment

/-!
Colours of text reports: their codes, when they are used, and how they are taken out again.
-/
namespace BannedApi.Report

/-- A colour or weight of a text. -/
inductive Color where
  | red | green | yellow | cyan | bold | reset
  deriving DecidableEq, Repr

namespace Color

/-- The code of a colour. -/
def code : Color → String
  | .red => "\x1b[91m"
  | .green => "\x1b[92m"
  | .yellow => "\x1b[93m"
  | .cyan => "\x1b[96m"
  | .bold => "\x1b[1m"
  | .reset => "\x1b[0m"

/-- The colour of a name. -/
def ofName? : String → Option Color
  | "RED" => some .red
  | "GREEN" => some .green
  | "YELLOW" => some .yellow
  | "CYAN" => some .cyan
  | "BOLD" => some .bold
  | "RESET" => some .reset
  | _ => none

end Color

/-- A text in a colour, if colours are used. -/
def paint (colors : Bool) (c : Color) (s : String) : String :=
  if colors then c.code ++ s ++ Color.reset.code else s

/-- What is known about where a report is shown: the environment, and whether it is a terminal. -/
structure Screen where
  env : List (String × String) := []
  terminal : Bool := false
  deriving Repr

namespace Screen

/-- The value of a variable that is set and not empty. -/
def set? (s : Screen) (name : String) : Option String := (s.env.lookup name).filter (!·.isEmpty)

/-- Colours can be shown: never if they are unwanted, always in builds that show them, else on
terminals of known kinds. -/
def supportsColor (s : Screen) : Bool :=
  if (s.set? "NO_COLOR").isSome then false
  else if ["GITHUB_ACTIONS", "GITLAB_CI", "BUILDKITE"].any fun v => (s.set? v).isSome then true
  else if !s.terminal then false
  else
    let term := Text.lower ((s.env.lookup "TERM").getD "")
    Text.holds "color".toList term.toList || ["xterm", "xterm-256color", "screen"].contains term

end Screen

/-- Behind a colour code, if the text begins with one. -/
def afterCode? : List Char → Option (List Char)
  | '\x1b' :: '[' :: rest =>
    match rest.dropWhile fun c => ('0' ≤ c && c ≤ '9') || c == ';' with
    | 'm' :: rest => some rest
    | _ => none
  | _ => none

/-- A text without its colour codes. -/
def stripCodes : Nat → List Char → List Char
  | 0, cs => cs
  | _, [] => []
  | fuel + 1, c :: cs =>
    match afterCode? (c :: cs) with
    | some rest => stripCodes fuel rest
    | none => c :: stripCodes fuel cs

/-- A text without its colour codes. -/
def stripColors (s : String) : String := String.ofList (stripCodes s.length s.toList)

end BannedApi.Report
