/-!
Bytes written with sixty-four characters, four of them for three bytes. Characters outside the
alphabet are passed over. The last group may be short: it is then filled up with equals signs, and
what stands behind them does not count.
-/
namespace BannedApi.Text.Base64

/-- The six bits a character stands for. -/
def bits? (c : Char) : Option Nat :=
  if 'A' ≤ c && c ≤ 'Z' then some (c.toNat - 'A'.toNat)
  else if 'a' ≤ c && c ≤ 'z' then some (c.toNat - 'a'.toNat + 26)
  else if '0' ≤ c && c ≤ '9' then some (c.toNat - '0'.toNat + 52)
  else if c == '+' then some 62
  else if c == '/' then some 63
  else none

/-- A group under way: how many characters it has, the bits not yet given out, and the equals signs
seen in a row. -/
structure Group where
  count : Nat := 0
  left : Nat := 0
  fillers : Nat := 0

/-- The byte that a character completes, and the group behind it. -/
def Group.take (g : Group) (bits : Nat) : Option UInt8 × Group :=
  match g.count with
  | 0 => (none, ⟨1, bits, 0⟩)
  | 1 => (some (UInt8.ofNat (g.left * 4 + bits / 16)), ⟨2, bits % 16, 0⟩)
  | 2 => (some (UInt8.ofNat (g.left * 16 + bits / 4)), ⟨3, bits % 4, 0⟩)
  | _ => (some (UInt8.ofNat (g.left * 64 + bits)), ⟨0, 0, 0⟩)

/-- The bytes from a group under way on; none if the last group is neither complete nor filled up. -/
def decodeFrom (g : Group) : List Char → Option (List UInt8)
  | [] => if g.count = 0 then some [] else none
  | c :: cs =>
    if c == '=' then
      if 2 ≤ g.count && 4 ≤ g.count + (g.fillers + 1) then some []
      else decodeFrom (if 2 ≤ g.count then { g with fillers := g.fillers + 1 } else g) cs
    else
      match bits? c with
      | none => decodeFrom g cs
      | some bits =>
        let (byte, g) := g.take bits
        (decodeFrom g cs).map (byte.toList ++ ·)

/-- The bytes that a text writes. -/
def decode (s : String) : Option (List UInt8) := decodeFrom {} s.toList

end BannedApi.Text.Base64
