/-!
Capitals, as far as ASCII names can tell.

A name of ASCII letters can be spelled with a few characters outside ASCII, because their capital
form is written in ASCII letters. All other characters outside ASCII keep the text from being such
a name in either form, so they stay as they are.
-/
namespace BannedApi.Text

/-- The capital form of a character. -/
def capital (c : Char) : List Char :=
  match c.toNat with
  | 0xDF => ['S', 'S']
  | 0x131 => ['I']
  | 0x17F => ['S']
  | 0xFB00 => ['F', 'F']
  | 0xFB01 => ['F', 'I']
  | 0xFB02 => ['F', 'L']
  | 0xFB03 => ['F', 'F', 'I']
  | 0xFB04 => ['F', 'F', 'L']
  | 0xFB05 => ['S', 'T']
  | 0xFB06 => ['S', 'T']
  | _ => [c.toUpper]

/-- A text in capitals. -/
def upper (s : String) : String := String.ofList (s.toList.flatMap capital)

end BannedApi.Text
