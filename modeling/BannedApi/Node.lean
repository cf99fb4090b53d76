import BannedApi.Scope
import BannedApi.Value.Display
import BannedApi.Value.Kind

/-!
Typed nodes: the constructs of a source that can use a banned API, with what was resolved about them.

Types, packages and positions are carried as the tree gave them. Only what a check needs of them is
looked at, and only then is a value of the wrong kind a fault.
-/
namespace BannedApi

/-- A place in the source. -/
structure Location where
  file : Value
  line : Value := .null
  column : Value := .null
  deriving Repr

/-- A position in words, behind a colon; one that is not known is left out. -/
def Location.position (v : Value) : Except ValueFault String :=
  if v.isNull then .ok "" else v.shown.map (":" ++ ·)

/-- The place in words: file, line and column as far as they are known. The file must be a text. -/
def Location.text (l : Location) : Except ValueFault String := do
  let line ← position l.line
  let column ← if l.line.isNull then .ok "" else position l.column
  match l.file with
  | .text file => .ok (file ++ line ++ column)
  | v => .error (.notJoinable v.kind)

/-- A resolved method or constructor. -/
structure Symbol where
  name : Value
  package : Value := .null
  signature : Value := .null
  deriving Repr

/-- How a symbol is called in messages: by its signature if it has one. -/
def Symbol.label (s : Symbol) : Value := if s.signature.truthy then s.signature else s.name

/-- An argument of a call: its type and the symbol it refers to. -/
structure Argument where
  type : Value := .null
  symbol : Option Symbol := none
  deriving Repr

/-- A declared parameter of a constructor. -/
structure Parameter where
  type : Value := .null
  package : Value := .null
  name : Value := .null
  deriving Repr

/-- What a node is. -/
inductive Construct where
  /-- A method call; the method may not have been resolved. -/
  | call (method : Option Symbol) (receiverType resultType : Value) (arguments : List Argument)
  /-- An object construction; the constructor may not have been resolved. -/
  | construction (constructor : Option Symbol) (constructedType : Value)
      (parameters : List Parameter)
  | importing (qualifiedName package : Value)
  /-- A field, local variable or parameter. -/
  | variableDecl (name declaredType : Value)
  /-- A method or constructor declaration; `resolved` fails when its type is not known. -/
  | methodDecl (name returnType resolved : Value)
  deriving Repr

/-- The name of a construct's kind. -/
def Construct.kindName : Construct → String
  | .call .. => "call"
  | .construction .. => "new_class"
  | .importing .. => "import"
  | .variableDecl .. => "variable"
  | .methodDecl .. => "method"

/-- A construct at a place, with the declarations around it. -/
structure Node where
  location : Location
  scope : Scope := []
  construct : Construct
  deriving Repr

/-- The nodes of one source file, in the order of the source. -/
structure CompilationUnit where
  file : Value
  nodes : List Node := []
  deriving Repr

end BannedApi
