import BannedApi.Text.Integer
import BannedApi.Text.Utf8
import BannedApi.Value.Moment

/-!
What is wrong with a YAML text: it is not well formed, it cannot be read to its end, or one of its
scalars has no value.
-/
namespace BannedApi.Yaml

/-- Why a scalar has no value. -/
inductive ScalarFault where
  /-- A number has no characters. -/
  | empty
  /-- A word stands for no truth value. -/
  | notTruth (word : String)
  | notInteger (fault : Text.IntegerFault)
  | notFloat (text : String)
  /-- A place of a number to base sixty is too large for a binary number. -/
  | tooLarge
  /-- A text is no date and no time. -/
  | notMoment
  /-- A date or time is given by entries and not by a text. -/
  | momentNotText
  | moment (problem : Moment.Problem)
  /-- The number of an escaped character is beyond the last one. -/
  | noCharacter (code : Nat)
  deriving DecidableEq, Repr

/-- Numbers of characters beyond this are not even looked at. -/
def codeLimit : Nat := Nat.pow 2 31

/-- The fault in words. -/
def ScalarFault.message : ScalarFault → String
  | .empty => "string index out of range"
  | .notTruth word => Text.quoted word
  | .notInteger f => f.message
  | .notFloat text => "could not convert string to float: " ++ Text.quoted text
  | .tooLarge => "int too large to convert to float"
  | .notMoment => "'NoneType' object has no attribute 'groupdict'"
  | .momentNotText => "expected string or bytes-like object, got 'list'"
  | .moment p => p.message
  | .noCharacter code =>
    if code < codeLimit then "chr() arg not in range(0x110000)"
    else "Python int too large to convert to C int"

/-- What is wrong with a YAML text. -/
inductive Fault where
  /-- The text is not well formed. -/
  | malformed
  /-- The text ends where it cannot. -/
  | unfinished
  /-- The text is not encoded as it must be. -/
  | encoding (fault : Text.Utf8.Fault)
  /-- A scalar has no value. -/
  | scalar (fault : ScalarFault)
  deriving DecidableEq, Repr

end BannedApi.Yaml
