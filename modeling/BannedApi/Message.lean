import BannedApi.Value.Display

/-!
What a diagnostic says. The three forms differ in what is named: the banned thing itself, a method
whose owner or result is banned, or a constructor that takes a banned type.

Names and reasons are put into words here, so a number with too many digits among them is a fault.
-/
namespace BannedApi.Message

/-- The reason given for a ban that states none. -/
def defaultReason : String := "cross platform incompatibility."

/-- A reason, or the default one when it is empty or nothing. -/
def reasonOr (reason : Value) : Except ValueFault String :=
  if reason.truthy then reason.shown else .ok defaultReason

/-- A banned class or package is used directly. -/
def direct (target reason : Value) : Except ValueFault String := do
  let target ← target.shown
  let reason ← reasonOr reason
  return s!"Use of {target} has been banned due to {reason}"

/-- A call is banned because of its owner or result type. -/
def call (method target reason : Value) : Except ValueFault String := do
  let method ← method.shown
  let target ← target.shown
  let reason ← reasonOr reason
  return s!"Use of {method} is not allowed, as {target} has been banned due to {reason}"

/-- A constructor takes a banned type. -/
def construction (constructor target reason : Value) : Except ValueFault String := do
  let constructor ← constructor.shown
  let target ← target.shown
  let reason ← reasonOr reason
  return s!"Use of this constructor ({constructor}) is not allowed, as {target} is banned due to "
    ++ reason

end BannedApi.Message
