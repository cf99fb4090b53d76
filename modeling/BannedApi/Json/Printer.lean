import BannedApi.Json.Fault
import BannedApi.Value.Kind

/-!
Writing JSON texts, on one line or with one field on a line. `Style` says how wide a level is indented
and whether characters outside ASCII are escaped.
-/
namespace BannedApi.Json

/-- How a JSON text is laid out. -/
structure Style where
  /-- Spaces a level is indented by; on one line when there is none. -/
  indent : Option Nat
  /-- Characters outside ASCII are escaped. -/
  ascii : Bool

/-- One line, all characters as they are. -/
def Style.compact : Style := ⟨none, false⟩

/-- Two spaces a level, all characters as they are. -/
def Style.pretty : Style := ⟨some 2, false⟩

/-- One line of ASCII characters. -/
def Style.plain : Style := ⟨none, true⟩

/-- Four hexadecimal digits after a backslash and a `u`. -/
def codeEscape (n : Nat) : List Char :=
  ['\\', 'u', Nat.digitChar (n / 4096 % 16), Nat.digitChar (n / 256 % 16),
    Nat.digitChar (n / 16 % 16), Nat.digitChar (n % 16)]

/-- One character of a string. -/
def escapeChar (ascii : Bool) (c : Char) : List Char :=
  if c = '"' then ['\\', '"']
  else if c = '\\' then ['\\', '\\']
  else if c = '\n' then ['\\', 'n']
  else if c = '\r' then ['\\', 'r']
  else if c = '\t' then ['\\', 't']
  else if c = '\x08' then ['\\', 'b']
  else if c = '\x0c' then ['\\', 'f']
  else if c.toNat < 0x20 then codeEscape c.toNat
  else if ascii && 0x7E < c.toNat then
    if c.toNat < 0x10000 then codeEscape c.toNat
    else
      let n := c.toNat - 0x10000
      codeEscape (0xD800 + n / 0x400) ++ codeEscape (0xDC00 + n % 0x400)
  else [c]

/-- A string between quotes. -/
def renderString (ascii : Bool) (s : String) : List Char :=
  '"' :: s.toList.flatMap (escapeChar ascii) ++ ['"']

/-- A number; the infinities and not a number have names, and a whole number must not be too long. -/
def renderNumber : Number → Except ValueFault String
  | .float .nan => .ok "NaN"
  | .float (.infinite n) => .ok (if n then "-Infinity" else "Infinity")
  | n => if n.isLong then .error .tooManyDigits else .ok n.text

/-- A scalar; moments and bytes have no JSON form. -/
def renderScalar (ascii : Bool) : Scalar → Except ValueFault (List Char)
  | .null => .ok "null".toList
  | .bool b => .ok (if b then "true" else "false").toList
  | .number n => (renderNumber n).map String.toList
  | .text s => .ok (renderString ascii s)
  | s => .error (.notWritable s.kind)

/-- The name a key is written with. -/
def keyName : Scalar → Except ValueFault String
  | .null => .ok "null"
  | .bool b => .ok (if b then "true" else "false")
  | .number n => renderNumber n
  | .text s => .ok s
  | s => .error (.keyNotWritable s.kind)

/-- What separates the parts of a list or mapping at a level: nothing but a space on one line, else a
line end and the indentation. -/
def Style.lineBreak (style : Style) (level : Nat) : List Char :=
  match style.indent with
  | none => []
  | some n => '\n' :: List.replicate (n * level) ' '

/-- Parts between brackets, each on a line of its own where the style says so. -/
def bracketed (style : Style) (level : Nat) (opening closing : Char) (parts : List (List Char)) :
    List Char :=
  match parts with
  | [] => [opening, closing]
  | p :: ps =>
    let comma := if style.indent.isNone then [',', ' '] else ',' :: style.lineBreak (level + 1)
    opening :: style.lineBreak (level + 1) ++ p ++ (ps.flatMap fun q => comma ++ q)
      ++ style.lineBreak level ++ [closing]

mutual

/-- A value at a level of nesting, with the labels of the values around it. Values that belong
together are written as a list; a set has no JSON form, nor has a value that holds itself. -/
def render (style : Style) (level : Nat) (around : List Nat) : Value → Except ValueFault (List Char)
  | .scalar s => renderScalar style.ascii s
  | .list xs => (renderItems style (level + 1) around xs).map (bracketed style level '[' ']')
  | .map es => (renderEntries style (level + 1) around es).map (bracketed style level '\x7b' '\x7d')
  | .tuple xs => (renderItems style (level + 1) around xs).map (bracketed style level '[' ']')
  | .set _ => .error (.notWritable .set)
  | .knot label v =>
    if around.contains label then .error .circular else render style level (label :: around) v
  | .unwritten => .error .circular

/-- The items of a list. -/
def renderItems (style : Style) (level : Nat) (around : List Nat) :
    List Value → Except ValueFault (List (List Char))
  | [] => .ok []
  | x :: xs =>
    match render style level around x with
    | .error f => .error f
    | .ok p => (renderItems style level around xs).map (p :: ·)

/-- The entries of a mapping. -/
def renderEntries (style : Style) (level : Nat) (around : List Nat) :
    List (Scalar × Value) → Except ValueFault (List (List Char))
  | [] => .ok []
  | (k, v) :: es =>
    match keyName k with
    | .error f => .error f
    | .ok name =>
      match render style level around v with
      | .error f => .error f
      | .ok p =>
        (renderEntries style level around es).map
          ((renderString style.ascii name ++ ':' :: ' ' :: p) :: ·)

end

/-- The text of a value. -/
def print (style : Style) (v : Value) : Except ValueFault String :=
  (render style 0 [] v).map String.ofList

end BannedApi.Json
