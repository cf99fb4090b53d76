import BannedApi.Diagnostic
import BannedApi.Log.Record
import BannedApi.Message
import BannedApi.Registry.Basic
import BannedApi.TypeKey

/-!
Matching: which ban a node violates, if any.

Each construct has a list of checks in a fixed order, and the first that hits is reported. A check
looks only at what it needs, so a value of the wrong kind is a fault when its check comes up and not
before.
-/
namespace BannedApi.Match

/-- A ban that applies: the rule and what is said about it. -/
structure Hit where
  rule : Rule
  message : String
  deriving DecidableEq, Repr

/-- What a check finds. -/
abbrev Finding := Except ValueFault (Option Hit)

/-- The first check that hits or fails. -/
def first : List Finding → Finding
  | [] => .ok none
  | .ok none :: rest => first rest
  | finding :: _ => finding

/-! ### The kinds of checks -/

/-- How the message of a rule is made from what is banned and the reason. -/
abbrev Wording := Value → Value → Except ValueFault String

/-- The hit of a rule, if there is a ban: what is banned and the reason. -/
def hitOf (rule : Rule) (write : Wording) : Option (Value × Value) → Finding
  | none => .ok none
  | some (target, reason) => (write target reason).map fun message => some ⟨rule, message⟩

/-- The class of a type is banned. -/
def classCheck (r : Registry) (rule : Rule) (type : Value) (write : Wording) : Finding := do
  let key ← TypeKey.ofValue type
  hitOf rule write ((r.classBan key).map fun reason => (.text key, reason))

/-- The class of a type starts with a banned package. -/
def prefixCheck (r : Registry) (rule : Rule) (type : Value) (write : Wording) : Finding := do
  let key ← TypeKey.ofValue type
  hitOf rule write ((r.prefixBan key).map fun ban => (.text ban.1, ban.2))

/-- A package is banned; a package that is not known is not. -/
def packageCheck (r : Registry) (rule : Rule) (package : Value) (write : Wording) : Finding :=
  if package.isNull then .ok none
  else do
    let ban ← r.packageBanOf package
    hitOf rule write (ban.map fun reason => (package, reason))

/-- A method of the class of a type is banned. -/
def methodCheck (r : Registry) (rule : Rule) (owner name : Value) : Finding := do
  let key ← TypeKey.ofValue owner
  let ban ← r.methodBan (.text key) name
  let label := Value.text (name.display ++ "()")
  hitOf rule (Message.call label) (ban.map fun reason => (.text key, reason))

/-- A qualified name is a banned class, exactly as it stands. -/
def nameCheck (r : Registry) (rule : Rule) (name : Value) : Finding := do
  let ban ← r.classBanOf name
  hitOf rule Message.direct (ban.map fun reason => (name, reason))

/-! ### The checks of each construct -/

/-- An argument of a call; one that refers to no symbol is not looked at. -/
def argumentChecks (r : Registry) (method : Symbol) (a : Argument) : List Finding :=
  match a.symbol with
  | none => []
  | some symbol =>
    let write : Wording := fun _ reason => Message.direct method.label reason
    [classCheck r .callArgumentClass a.type write,
      packageCheck r .callArgumentPackage symbol.package write]

/-- A declared parameter of a constructor. -/
def parameterChecks (r : Registry) (callee : Symbol) (p : Parameter) : List Finding :=
  let write := Message.construction callee.label
  [classCheck r .newParameterClass p.type write,
    packageCheck r .newParameterPackage p.package write]

/-- A declared type: its class, then its package. -/
def typeChecks (r : Registry) (classRule packageRule : Rule) (type : Value) : List Finding :=
  [classCheck r classRule type Message.direct, prefixCheck r packageRule type Message.direct]

/-- The checks of a construct, in order. What is not resolved has none. -/
def checks (r : Registry) : Construct → List Finding
  | .call none _ _ _ => []
  | .call (some method) receiver result arguments =>
    let write := Message.call method.label
    [classCheck r .callReceiverClass receiver Message.direct,
      packageCheck r .callMethodPackage method.package Message.direct,
      methodCheck r .callBannedMethod receiver method.name,
      classCheck r .callResultClass result write,
      prefixCheck r .callResultPackage result write]
      ++ arguments.flatMap (argumentChecks r method)
  | .construction none _ _ => []
  | .construction (some callee) type parameters =>
    [classCheck r .newConstructedClass type Message.direct,
      packageCheck r .newConstructorPackage callee.package Message.direct]
      ++ parameters.flatMap (parameterChecks r callee)
  | .importing name package =>
    [nameCheck r .importClass name, packageCheck r .importPackage package Message.direct]
  | .variableDecl _ type => typeChecks r .variableClass .variablePackage type
  | .methodDecl _ type resolved =>
    if resolved.truthy then typeChecks r .methodReturnClass .methodReturnPackage type else []

/-- The ban a node violates. Inside a suppressed declaration there is none. -/
def hit (r : Registry) (n : Node) : Finding :=
  if n.scope.isSuppressed then .ok none else first (checks r n.construct)

/-- The diagnostic of a node. The place is put into words when there is one, so its file must be a
text then. -/
def diagnose (r : Registry) (n : Node) : Except ValueFault (Option Diagnostic) := do
  match ← hit r n with
  | none => return none
  | some h =>
    let _ ← n.location.text
    return some ⟨n.location, h.message, some n.construct.kindName, some h.rule.name, checkName⟩

/-- What is logged about a diagnostic. -/
def record (d : Diagnostic) : Log.Record :=
  let place := (d.location.text).toOption.getD ""
  let rule := d.rule.getD ""
  ⟨.debug, .matching, s!"{place}: {rule}: {d.message}"⟩

end BannedApi.Match
