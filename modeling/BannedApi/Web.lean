import BannedApi.Number.Basic

/-!
The web a run sees: what each address answers.
-/
namespace BannedApi

/-- What an address answers. -/
inductive Reply where
  | response (status : Int) (reason text : String)
  | failure (message : String)
  deriving Repr

/-- A request for the document at an address. -/
structure Fetch where
  url : String
  timeout : Number
  deriving DecidableEq, Repr

/-- The answers by address. -/
structure Web where
  replies : List (String × Reply) := []
  deriving Repr

namespace Web

/-- The source is an address and no path. -/
def isUrl (source : String) : Bool :=
  "http://".toList.isPrefixOf source.toList || "https://".toList.isPrefixOf source.toList

/-- The answer of an address; one that is not known cannot be reached. -/
def reply (w : Web) (url : String) : Reply :=
  ((w.replies.find? (·.1 == url)).map (·.2)).getD (.failure "no route to host")

/-- The document at an address, or why there is none. -/
def get (w : Web) (url : String) : Except String String :=
  match w.reply url with
  | .failure message => .error message
  | .response status reason text =>
    if 400 ≤ status && status < 500 then
      .error s!"{status} Client Error: {reason} for url: {url}"
    else if 500 ≤ status && status < 600 then
      .error s!"{status} Server Error: {reason} for url: {url}"
    else .ok text

end Web

end BannedApi
