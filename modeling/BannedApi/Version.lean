/-!
The version of the program and the names it goes by.
-/
namespace BannedApi.Version

/-- The version. -/
def number : String := "0.1.0"

/-- The name given to servers that ban lists are fetched from. -/
def userAgent : String := "xplat-bans/" ++ number

/-- The name of the program with its version. -/
def fullName : String := "Xplat Bans v" ++ number

end BannedApi.Version
