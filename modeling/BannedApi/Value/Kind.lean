import BannedApi.Number.Basic
import BannedApi.Value.Basic

/-!
Kinds of values, and what goes wrong when a loosely typed field holds a value that does not allow what
is done with it.
-/
namespace BannedApi

/-- The kind of a value. What is not written out has a kind of its own. -/
inductive Kind where
  | null | bool | int | float | text | bytes | list | map | tuple | set | date | dateTime | unwritten
  deriving DecidableEq, Repr

/-- The name of a kind in messages. -/
def Kind.name : Kind → String
  | .null => "NoneType"
  | .bool => "bool"
  | .int => "int"
  | .float => "float"
  | .text => "str"
  | .bytes => "bytes"
  | .list => "list"
  | .map => "dict"
  | .tuple => "tuple"
  | .set => "set"
  | .date => "date"
  | .dateTime => "datetime"
  | .unwritten => "dict"

/-- The full name of a kind: a date belongs to a family of its own. -/
def Kind.fullName : Kind → String
  | .date => "datetime.date"
  | .dateTime => "datetime.datetime"
  | k => k.name

/-- The kind of a scalar. -/
def Scalar.kind : Scalar → Kind
  | .null => .null
  | .bool _ => .bool
  | .number (.int _) => .int
  | .number (.float _) => .float
  | .text _ => .text
  | .moment (.date ..) => .date
  | .moment (.dateTime ..) => .dateTime
  | .bytes _ => .bytes

/-- The kind of a value. -/
def Value.kind : Value → Kind
  | .scalar s => s.kind
  | .list _ => .list
  | .map _ => .map
  | .tuple _ => .tuple
  | .set _ => .set
  | .knot _ v => v.kind
  | .unwritten => .unwritten

/-- A value does not allow what is done with it. -/
inductive ValueFault where
  /-- The kind has no such operation of texts. -/
  | noOperation (kind : Kind) (operation : String)
  /-- A text cannot be searched for in bytes. -/
  | notSearchable
  /-- A value with parts cannot be looked up. -/
  | notAKey (kind : Kind)
  /-- A part of a joined text is no text. -/
  | notJoinable (kind : Kind)
  /-- A text cannot be appended to the value. -/
  | notAppendable (kind : Kind)
  /-- The value has no JSON form. -/
  | notWritable (kind : Kind)
  /-- The key has no JSON form. -/
  | keyNotWritable (kind : Kind)
  /-- The value holds itself, so it has no JSON form. -/
  | circular
  /-- A whole number has too many digits to be written out. -/
  | tooManyDigits
  deriving DecidableEq, Repr

/-- The fault in words. -/
def ValueFault.message : ValueFault → String
  | .noOperation k op => s!"'{k.fullName}' object has no attribute '{op}'"
  | .notSearchable => "argument should be integer or bytes-like object, not 'str'"
  | .notAKey k => s!"unhashable type: '{k.name}'"
  | .notJoinable k => s!"sequence item 0: expected str instance, {k.fullName} found"
  | .notAppendable .bytes => "can't concat str to bytes"
  | .notAppendable k => s!"unsupported operand type(s) for +=: '{k.fullName}' and 'str'"
  | .notWritable k => s!"Object of type {k.name} is not JSON serializable"
  | .keyNotWritable k => s!"keys must be str, int, float, bool or None, not {k.name}"
  | .circular => "Circular reference detected"
  | .tooManyDigits =>
    s!"Exceeds the limit ({Number.digitLimit} digits) for integer string conversion; "
      ++ "use sys.set_int_max_str_digits() to increase the limit"

/-- The value as a key; a value with parts is none. -/
def Value.key : Value → Except ValueFault Scalar
  | .scalar s => .ok s
  | v => .error (.notAKey v.kind)

end BannedApi
