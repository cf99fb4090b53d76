/-!
Cutting a text at a separator: what stands before the first one, after the last one, before the
last one.
-/
namespace BannedApi.Text

/-- What stands before the first `c`; the whole text when there is none. -/
def before (c : Char) (cs : List Char) : List Char := cs.takeWhile (· != c)

/-- What stands after the last `c`; the whole text when there is none. -/
def afterLast (c : Char) (cs : List Char) : List Char := (cs.reverse.takeWhile (· != c)).reverse

/-- What stands before the last `c`; the whole text when there is none. -/
def beforeLast (c : Char) (cs : List Char) : List Char :=
  if cs.contains c then ((cs.reverse.dropWhile (· != c)).drop 1).reverse else cs

/-- The pieces between the separators: one more than there are separators. -/
def splitAt (c : Char) : List Char → List (List Char)
  | [] => [[]]
  | d :: ds =>
    if d = c then [] :: splitAt c ds
    else
      match splitAt c ds with
      | [] => [[d]]
      | piece :: pieces => (d :: piece) :: pieces

/-- `part` stands somewhere in the text. -/
def holds (part : List Char) : List Char → Bool
  | [] => part.isEmpty
  | c :: cs => part.isPrefixOf (c :: cs) || holds part cs

/-- Put each `c` of a text as `piece`. -/
def replace (c : Char) (piece : String) (s : String) : String :=
  String.ofList (s.toList.flatMap fun d => if d = c then piece.toList else [d])

end BannedApi.Text
