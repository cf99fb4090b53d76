import BannedApi.Text.Digit
import BannedApi.Text.Integer

/-!
Command lines. A grammar lists options by their names and says which operands are expected; reading
takes the arguments in turn.

A long option may be cut short as long as it stays the only one that begins so. A value follows its
option as the next argument, behind an equals sign, or, for a one-letter option, directly. One-letter
options without values can be joined. Operands are taken in one run; what comes later is left over.
After two hyphens all arguments are operands.
-/
namespace BannedApi.Command

/-- What an option takes. -/
inductive Takes where
  | nothing
  /-- Nothing; the option is answered at once and ends the reading. -/
  | answer
  | text
  | number
  | oneOf (words : List String)
  deriving DecidableEq, Repr

/-- An option: its names, the short one first, and what it takes. -/
structure Opt where
  names : List String
  takes : Takes := .text
  deriving DecidableEq, Repr

/-- The name an option is known by: its last. -/
def Opt.name (o : Opt) : String := o.names.getLast?.getD ""

/-- All names of an option in one text. -/
def Opt.title (o : Opt) : String := String.intercalate "/" o.names

/-- The option takes a value. -/
def Opt.hasValue (o : Opt) : Bool := o.takes != .nothing && o.takes != .answer

/-- The operands of a command line. -/
inductive Operands where
  | none
  /-- One or more, in one run. -/
  | many (label : String)
  /-- One of these words, and after it all that is left. -/
  | command (label : String) (words : List String)
  deriving DecidableEq, Repr

/-- What a command line may hold. -/
structure Grammar where
  program : String
  options : List Opt
  operands : Operands
  deriving Repr

/-- What is wrong with a command line. -/
inductive UsageProblem where
  | ambiguous (argument : String) (candidates : List String)
  | valueMissing (option : Opt)
  | valueUnwanted (option : Opt) (value : String)
  | notANumber (option : Opt) (value : String)
  | notOffered (title value : String) (words : List String)
  | operandsMissing (label : String)
  | unrecognized (arguments : List String)
  deriving Repr

/-- Words in quotes, with commas between them. -/
def offered (words : List String) : String := String.intercalate ", " (words.map Text.quoted)

/-- The problem in words. -/
def UsageProblem.message : UsageProblem → String
  | .ambiguous argument candidates =>
    s!"ambiguous option: {argument} could match " ++ String.intercalate ", " candidates
  | .valueMissing o => s!"argument {o.title}: expected one argument"
  | .valueUnwanted o v => s!"argument {o.title}: ignored explicit argument {Text.quoted v}"
  | .notANumber o v => s!"argument {o.title}: invalid int value: {Text.quoted v}"
  | .notOffered title v words =>
    s!"argument {title}: invalid choice: {Text.quoted v} (choose from {offered words})"
  | .operandsMissing label => s!"the following arguments are required: {label}"
  | .unrecognized arguments => "unrecognized arguments: " ++ String.intercalate " " arguments

/-- A problem with the command line of a program. -/
structure UsageFault where
  program : String
  problem : UsageProblem
  deriving Repr

/-- The fault in words. -/
def UsageFault.message (f : UsageFault) : String := s!"{f.program}: error: {f.problem.message}"

/-! ### Options and operands apart -/

/-- An option as it was given: which one, by which name, and what came with it. -/
structure Given where
  option : Opt
  byName : String
  attached : Option (List Char) := none
  deriving Repr

/-- An argument: an operand, the two hyphens, or an option, which may not be known. -/
inductive Word where
  | operand (s : String)
  | hyphens
  | option (argument : String) (given : Option Given)
  deriving Repr

/-- The argument itself. -/
def Word.text : Word → String
  | .operand s => s
  | .hyphens => "--"
  | .option s _ => s

/-- All options by name, in order. -/
def Grammar.byName (g : Grammar) : List (String × Opt) :=
  g.options.flatMap fun o => o.names.map fun n => (n, o)

/-- The text up to the first equals sign, and what is behind it. -/
def splitEquals (cs : List Char) : Option (List Char × List Char) :=
  if cs.contains '=' then some (cs.takeWhile (· != '='), (cs.dropWhile (· != '=')).drop 1) else none

/-- The options that an argument may mean by the start of their names. -/
def Grammar.candidates (g : Grammar) (argument : List Char) : List Given :=
  match argument with
  | '-' :: '-' :: _ =>
    let (start, value) :=
      match splitEquals argument with
      | some (start, value) => (start, some value)
      | none => (argument, none)
    g.byName.filterMap fun (n, o) =>
      if start.isPrefixOf n.toList then some ⟨o, n, value⟩ else none
  | a :: b :: rest =>
    g.byName.filterMap fun (n, o) =>
      if n.toList = [a, b] then some ⟨o, n, some rest⟩
      else if argument.isPrefixOf n.toList then some ⟨o, n, none⟩
      else none
  | _ => []

/-- The argument looks like a negative number, and so is an operand. A line feed may stand behind the
number. -/
def isNegativeNumber (argument : List Char) : Bool :=
  let isDigit (c : Char) : Bool := (Text.digit? c).isSome
  match if argument.getLast? = some '\n' then argument.dropLast else argument with
  | '-' :: body =>
    (!body.isEmpty && body.all isDigit)
      || (match body.dropWhile isDigit with
        | '.' :: rest => !rest.isEmpty && rest.all isDigit
        | _ => false)
  | _ => false

/-- What an argument is. -/
def Grammar.classify (g : Grammar) (argument : String) : Except UsageProblem Word :=
  let cs := argument.toList
  let exact (name : List Char) : Option (String × Opt) := g.byName.find? (·.1.toList == name)
  if cs.head? ≠ some '-' then .ok (.operand argument)
  else
    match exact cs with
    | some (n, o) => .ok (.option argument (some ⟨o, n, none⟩))
    | none =>
      if cs.length = 1 then .ok (.operand argument)
      else
        let assigned := (splitEquals cs).bind fun p =>
          (exact p.1).map fun e => (⟨e.2, e.1, some p.2⟩ : Given)
        match assigned, g.candidates cs with
        | some given, _ => .ok (.option argument (some given))
        | none, [given] => .ok (.option argument (some given))
        | none, [] =>
          if isNegativeNumber cs || cs.contains ' ' then .ok (.operand argument)
          else .ok (.option argument none)
        | none, several => .error (.ambiguous argument (several.map (·.byName)))

/-- What the arguments are. -/
def Grammar.words (g : Grammar) : List String → Except UsageProblem (List Word)
  | [] => .ok []
  | "--" :: rest => .ok (.hyphens :: rest.map .operand)
  | a :: rest => do return (← g.classify a) :: (← g.words rest)

/-! ### Taking arguments in turn -/

/-- What a command line says. -/
structure Parsed where
  /-- The options given, by name, with their values. -/
  options : List (String × Option String) := []
  operands : Option (List String) := none
  /-- Arguments that nothing was expected for. -/
  extras : List String := []
  /-- The option that was answered at once. -/
  answered : Option String := none
  deriving Repr

/-- An option as it was given last: its value, if it came with one. -/
def Parsed.given? (p : Parsed) (name : String) : Option (Option String) :=
  (p.options.reverse.find? (·.1 == name)).map (·.2)

/-- The value of an option; the last one given counts. -/
def Parsed.value? (p : Parsed) (name : String) : Option String := (p.given? name).join

/-- The option was given. -/
def Parsed.has (p : Parsed) (name : String) : Bool := (p.given? name).isSome

/-- The value of an option, checked. Two hyphens are no value, so that the option is given without
one. -/
def Opt.read (o : Opt) (value : String) : Except UsageProblem (Option String) :=
  if value = "--" then .ok none
  else
    match o.takes with
    | .number =>
      match Text.readInteger 10 value with
      | .ok _ => .ok (some value)
      | .error _ => .error (.notANumber o value)
    | .oneOf words =>
      if words.contains value then .ok (some value) else .error (.notOffered o.title value words)
    | _ => .ok (some value)

/-- What one argument says: options without a value, and the last option, with its value if that is in
the argument. -/
structure Joined where
  flags : List Opt := []
  last : Opt
  value : Option String := none
  deriving Repr

/-- Read what came with an option. Letters behind a one-letter option without a value are options
themselves. -/
def Grammar.joined (g : Grammar) (o : Opt) (byName : String) :
    List Char → Except UsageProblem Joined
  | [] => if o.hasValue then .ok { last := o, value := some "" } else .error (.valueUnwanted o "")
  | c :: rest =>
    let name := String.ofList ['-', c]
    let isLong := (byName.toList.drop 1).head? == some '-'
    if o.hasValue then .ok { last := o, value := some (String.ofList (c :: rest)) }
    else if isLong then .error (.valueUnwanted o (String.ofList (c :: rest)))
    else
      match g.byName.find? (·.1 == name) with
      | none => .error (.valueUnwanted o (String.ofList (c :: rest)))
      | some (_, next) =>
        if rest.isEmpty then .ok { flags := [o], last := next }
        else (g.joined next name rest).map fun j => { j with flags := o :: j.flags }

/-- Take options without a value, up to one that is answered at once. -/
def Parsed.takeFlags (p : Parsed) : List Opt → Parsed
  | [] => p
  | o :: os =>
    if o.takes = .answer then { p with answered := some o.name }
    else ({ p with options := p.options ++ [(o.name, none)] }).takeFlags os

/-- Take a known option, with the words behind it. -/
def Grammar.takeOption (g : Grammar) (p : Parsed) (given : Given) (rest : List Word) :
    Except UsageProblem (Parsed × List Word) := do
  let j ←
    match given.attached with
    | none => pure { last := given.option }
    | some text => g.joined given.option given.byName text
  if !j.last.hasValue then .ok (p.takeFlags (j.flags ++ [j.last]), rest)
  else
    let (value, rest) ←
      match j.value, rest with
      | some v, _ => pure (v, rest)
      | none, .operand v :: rest => pure (v, rest)
      | none, _ => .error (.valueMissing j.last)
    let p := p.takeFlags j.flags
    if p.answered.isSome then .ok (p, rest)
    else
      let value ← j.last.read value
      .ok ({ p with options := p.options ++ [(j.last.name, value)] }, rest)

/-- The words are operands, perhaps behind two hyphens. -/
def startsOperands (ws : List Word) : Bool :=
  match ws with
  | .hyphens :: .operand _ :: _ => true
  | .operand _ :: _ => true
  | _ => false

/-- The first two hyphens among operands are no operand. -/
def operandTexts (ws : List Word) : List String :=
  ((ws.takeWhile fun w => !(w matches .hyphens))
    ++ (ws.dropWhile fun w => !(w matches .hyphens)).drop 1).map Word.text

/-- Take operands if they are still expected and stand here. -/
def Grammar.takeOperands (g : Grammar) (p : Parsed) (ws : List Word) :
    Except UsageProblem (Option (Parsed × List Word)) :=
  if p.operands.isSome || !startsOperands ws then .ok none
  else
    match g.operands with
    | .none => .ok none
    | .many _ =>
      let run := ws.takeWhile fun w => !(w matches .option _ _)
      .ok (some ({ p with operands := some (operandTexts run) }, ws.drop run.length))
    | .command label words =>
      let texts := ws.map Word.text
      let word := texts.head?.getD ""
      if words.contains word then .ok (some ({ p with operands := some texts }, []))
      else .error (.notOffered label word words)

/-- Take all words. -/
def Grammar.take (g : Grammar) : Nat → Parsed → List Word → Except UsageProblem Parsed
  | 0, p, _ => .ok p
  | _, p, [] => .ok p
  | fuel + 1, p, .option argument given :: rest => do
    match given with
    | none => g.take fuel { p with extras := p.extras ++ [argument] } rest
    | some given =>
      let (p, rest) ← g.takeOption p given rest
      if p.answered.isSome then .ok p else g.take fuel p rest
  | fuel + 1, p, ws => do
    match ← g.takeOperands p ws with
    | some (p, rest) => g.take fuel p rest
    | none =>
      let run := ws.takeWhile fun w => !(w matches .option _ _)
      g.take fuel { p with extras := p.extras ++ run.map Word.text } (ws.drop run.length)

/-- Operands that must be there are there. -/
def Grammar.checkOperands (g : Grammar) (p : Parsed) : Except UsageProblem Parsed :=
  if p.operands.isSome || p.answered.isSome then .ok p
  else
    match g.operands with
    | .none => .ok p
    | .many label => .error (.operandsMissing label)
    | .command label _ => .error (.operandsMissing label)

/-- What a command line says. -/
def Grammar.parse (g : Grammar) (arguments : List String) : Except UsageFault Parsed :=
  (do
    let words ← g.words arguments
    let p ← g.take (words.length + 1) {} words
    g.checkOperands p : Except UsageProblem Parsed).mapError fun problem => ⟨g.program, problem⟩

end BannedApi.Command
