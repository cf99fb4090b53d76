/-!
Line ends: a text may end its lines with a line feed, a carriage return, or both. Reading a text file
makes them all line feeds. In a message, other separators end a line as well.
-/
namespace BannedApi.Text

/-- Each line end becomes one line feed. -/
def unifyNewlines : List Char → List Char
  | [] => []
  | '\r' :: '\n' :: cs => '\n' :: unifyNewlines cs
  | '\r' :: cs => '\n' :: unifyNewlines cs
  | c :: cs => c :: unifyNewlines cs

/-- The character ends a line of a message. -/
def isLineEnd (c : Char) : Bool :=
  let n := c.toNat
  (10 ≤ n && n ≤ 13) || (28 ≤ n && n ≤ 30) || n == 0x85 || n == 0x2028 || n == 0x2029

/-- Characters, the last one first, without the line end that they start with. -/
def dropLineEnd : List Char → List Char
  | '\n' :: '\r' :: cs => cs
  | c :: cs => if isLineEnd c then cs else c :: cs
  | [] => []

/-- The last line of a message, without its line end. -/
def lastLine (s : String) : String :=
  String.ofList ((dropLineEnd s.toList.reverse).takeWhile (!isLineEnd ·)).reverse

end BannedApi.Text
