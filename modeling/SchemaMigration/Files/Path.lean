import SchemaMigration.Text.Search

/-!
# Paths

A path is a text; its pieces stand between slashes. Empty pieces and single dots
lead nowhere, but at the end they ask for a directory.
-/

namespace SchemaMigration.Files

open Text

abbrev Path := String

namespace Path

/-- No file has a path with a zero character. -/
def hasNul (path : Path) : Bool := path.toList.contains '\x00'

def isAbsolute (path : Path) : Bool := path.toList.head? == some '/'

/-- A path inside a directory. An absolute one stays as it is. -/
def join (directory path : Path) : Path :=
  if isAbsolute path ∨ directory = "" then path
  else if directory.toList.getLast? = some '/' then directory ++ path
  else directory ++ "/" ++ path

def pieces (path : Path) : List String := (splitOn '/' path.toList).map String.ofList

/-- The name of the directory where absolute paths start. -/
def rootName : String := "/"

/-- What a path asks to enter, one after the other. -/
def steps (path : Path) : List String :=
  if isAbsolute path then rootName :: pieces path else pieces path

/-- Leads nowhere. -/
def isIdle (piece : String) : Bool := piece == "" || piece == "."

def components (path : Path) : List String := (pieces path).filter (!isIdle ·)

/-- The steps that lead somewhere. -/
def activeSteps (path : Path) : List String := (steps path).filter (!isIdle ·)

/-- Whether the spelling allows only a directory. -/
def asksDirectory (path : Path) : Bool := (pieces path).getLast?.any isIdle

/-- The last component, unless it is the parent directory. -/
def fileName? (path : Path) : Option String := (components path).getLast?.filter (· ≠ "..")

end Path

end SchemaMigration.Files
