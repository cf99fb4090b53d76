import BannedApi.Node

/-!
Diagnostics: one use of a banned API, with the rule that found it.
-/
namespace BannedApi

/-- The rules, in the order of the checks they name. -/
inductive Rule where
  | callReceiverClass | callMethodPackage | callBannedMethod | callResultClass | callResultPackage
  | callArgumentClass | callArgumentPackage
  | newConstructedClass | newConstructorPackage | newParameterClass | newParameterPackage
  | importClass | importPackage
  | variableClass | variablePackage
  | methodReturnClass | methodReturnPackage
  deriving DecidableEq, Repr

/-- The name of a rule. -/
def Rule.name : Rule → String
  | .callReceiverClass => "call-receiver-class"
  | .callMethodPackage => "call-method-package"
  | .callBannedMethod => "call-banned-method"
  | .callResultClass => "call-result-class"
  | .callResultPackage => "call-result-package"
  | .callArgumentClass => "call-argument-class"
  | .callArgumentPackage => "call-argument-package"
  | .newConstructedClass => "new-constructed-class"
  | .newConstructorPackage => "new-constructor-package"
  | .newParameterClass => "new-parameter-class"
  | .newParameterPackage => "new-parameter-package"
  | .importClass => "import-class"
  | .importPackage => "import-package"
  | .variableClass => "variable-class"
  | .variablePackage => "variable-package"
  | .methodReturnClass => "method-return-class"
  | .methodReturnPackage => "method-return-package"

/-- The name of the check that diagnostics carry. -/
def checkName : String := "XplatBans"

/-- How grave a diagnostic is: every use of a banned API is an error. -/
def severity : String := "error"

/-- One use of a banned API. -/
structure Diagnostic where
  location : Location
  message : String
  nodeKind : Option String := none
  rule : Option String := none
  check : String := checkName
  deriving Repr

end BannedApi
