import BannedApi.Text.Printable

/-!
Quoted texts: how a text is shown inside the listing of a value. It stands between apostrophes, or
between quotation marks when it holds an apostrophe and no quotation mark; what cannot be shown as
itself is escaped.
-/
namespace BannedApi.Text

/-- The last `width` hexadecimal digits of `n`, from the highest. -/
def hexDigits : Nat → Nat → List Char
  | 0, _ => []
  | width + 1, n => hexDigits width (n / 16) ++ [Nat.digitChar (n % 16)]

/-- One character between quotes `q`. -/
def quoteChar (q c : Char) : List Char :=
  if c = q || c = '\\' then ['\\', c]
  else if c = '\n' then ['\\', 'n']
  else if c = '\r' then ['\\', 'r']
  else if c = '\t' then ['\\', 't']
  else if isPrintable c then [c]
  else if c.toNat < 0x100 then '\\' :: 'x' :: hexDigits 2 c.toNat
  else if c.toNat < 0x10000 then '\\' :: 'u' :: hexDigits 4 c.toNat
  else '\\' :: 'U' :: hexDigits 8 c.toNat

/-- The quote a text is put in. -/
def quoteMark (cs : List Char) : Char :=
  if cs.contains '\'' && !cs.contains '"' then '"' else '\''

/-- A text in quotes. -/
def quoted (s : String) : String :=
  let q := quoteMark s.toList
  String.ofList (q :: s.toList.flatMap (quoteChar q) ++ [q])

/-- A byte between quotes `q`: a printable ASCII character stands for itself. -/
def quoteByte (q : Char) (b : UInt8) : List Char :=
  let c := Char.ofNat b.toNat
  if b.toNat < 0x7F then quoteChar q c else '\\' :: 'x' :: hexDigits 2 b.toNat

/-- Bytes in quotes, with a letter before them. -/
def quotedBytes (data : List UInt8) : String :=
  let q := quoteMark (data.map fun b => Char.ofNat b.toNat)
  String.ofList ('b' :: q :: data.flatMap (quoteByte q) ++ [q])

/-- A text in quotes, cut to a number of characters. -/
def quotedShort (limit : Nat) (s : String) : String :=
  String.ofList ((quoted s).toList.take limit)

end BannedApi.Text
