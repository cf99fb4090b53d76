import BannedApi.Text.Utf8

/-!
What cannot stand in a workbook, and what cannot be saved.
-/
namespace BannedApi

/-- Why a value cannot be put into a cell, or a cell cannot be saved. -/
inductive CellFault where
  /-- A text holds a control character. -/
  | controlCharacter (text : String)
  /-- A value with parts, as a listing shows it. -/
  | notAScalar (listing : String)
  /-- A text is not encoded as it must be. -/
  | encoding (fault : Text.Utf8.Fault)
  /-- A date and time has an offset, for which there is no place. -/
  | offset
  /-- A whole number is too large to be saved. -/
  | tooLarge
  deriving DecidableEq, Repr

/-- The fault in words. -/
def CellFault.message : CellFault → String
  | .controlCharacter text => text ++ " cannot be used in worksheets."
  | .notAScalar listing => s!"Cannot convert {listing} to Excel"
  | .encoding f => f.message
  | .offset =>
    "Excel does not support timezones in datetimes. "
      ++ "The tzinfo in the datetime/time object must be set to None."
  | .tooLarge => "int too large to convert to float"

end BannedApi
