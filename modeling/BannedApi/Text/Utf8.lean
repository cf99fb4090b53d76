/-!
UTF-8: the characters of a sequence of bytes, or the first place where it is none.

A character starts with a lead byte, which says how many bytes are owed after it and in which range
the next of them lies; later ones lie between `80` and `BF`. A fault covers the lead byte and the
bytes after it that were still in range.
-/
namespace BannedApi.Text.Utf8

/-- Why a sequence of bytes is no UTF-8. -/
inductive Cause where
  | invalidStart
  | invalidContinuation
  | unexpectedEnd
  deriving DecidableEq, Repr

/-- A fault: its cause, its first byte and the positions it covers, `stop` excluded. -/
structure Fault where
  cause : Cause
  first : Nat
  start : Nat
  stop : Nat
  deriving DecidableEq, Repr

/-- A character under way: its lead byte and where that stands, the bits gathered, the number of
bytes owed and the range of the next one. -/
structure Partial where
  first : Nat
  start : Nat
  bits : Nat
  owed : Nat
  low : Nat
  high : Nat

/-- What a lead byte at position `pos` promises; `owed` is zero for a character of one byte. -/
def lead (pos b : Nat) : Option Partial :=
  if b < 0x80 then some ⟨b, pos, b, 0, 0x80, 0xBF⟩
  else if b < 0xC2 then none
  else if b < 0xE0 then some ⟨b, pos, b - 0xC0, 1, 0x80, 0xBF⟩
  else if b < 0xF0 then
    some ⟨b, pos, b - 0xE0, 2, if b = 0xE0 then 0xA0 else 0x80, if b = 0xED then 0x9F else 0xBF⟩
  else if b < 0xF5 then
    some ⟨b, pos, b - 0xF0, 3, if b = 0xF0 then 0x90 else 0x80, if b = 0xF4 then 0x8F else 0xBF⟩
  else none

/-- Decode from position `pos`, with a character under way or between characters. -/
def run : Option Partial → Nat → List UInt8 → Except Fault (List Char)
  | none, _, [] => .ok []
  | some p, pos, [] => .error ⟨.unexpectedEnd, p.first, p.start, pos⟩
  | none, pos, b :: bs =>
    match lead pos b.toNat with
    | none => .error ⟨.invalidStart, b.toNat, pos, pos + 1⟩
    | some p =>
      if p.owed = 0 then (run none (pos + 1) bs).map (Char.ofNat p.bits :: ·)
      else run (some p) (pos + 1) bs
  | some p, pos, b :: bs =>
    if p.low ≤ b.toNat && b.toNat ≤ p.high then
      let bits := p.bits * 64 + (b.toNat - 0x80)
      if p.owed = 1 then (run none (pos + 1) bs).map (Char.ofNat bits :: ·)
      else run (some { p with bits, owed := p.owed - 1, low := 0x80, high := 0xBF }) (pos + 1) bs
    else .error ⟨.invalidContinuation, p.first, p.start, pos⟩

/-- The characters of a sequence of bytes. -/
def decode (bytes : List UInt8) : Except Fault (List Char) := run none 0 bytes

/-- Two hexadecimal digits of a byte. -/
def hexByte (b : Nat) : String :=
  String.ofList [Nat.digitChar (b / 16 % 16), Nat.digitChar (b % 16)]

/-- The cause in words. -/
def Cause.message : Cause → String
  | .invalidStart => "invalid start byte"
  | .invalidContinuation => "invalid continuation byte"
  | .unexpectedEnd => "unexpected end of data"

/-- The fault in words: one byte is named, several are given by their positions. -/
def Fault.message (f : Fault) : String :=
  let place :=
    if f.stop = f.start + 1 then s!"byte 0x{hexByte f.first} in position {f.start}"
    else s!"bytes in position {f.start}-{f.stop - 1}"
  s!"'utf-8' codec can't decode {place}: {f.cause.message}"

end BannedApi.Text.Utf8
