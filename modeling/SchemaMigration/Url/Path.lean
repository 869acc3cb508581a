import SchemaMigration.Text.Search
import SchemaMigration.Url.Encode

/-!
# The path of a URL

Segments between slashes. Dot segments are resolved while the path is read: `.`
stays where it is and `..` goes back over the last segment, unless that looks like
a drive letter.
-/

namespace SchemaMigration.Url

open Text

/-- Tabs and line ends do not count in a URL. -/
def isDropped (c : Char) : Bool := c == '\t' || c == '\n' || c == '\r'

/-- One or two dots, each of which may be percent-encoded. -/
def isSingleDot (segment : List Char) : Bool :=
  [".", "%2e"].contains (String.ofList (segment.map Char.toLower))

def isDoubleDot (segment : List Char) : Bool :=
  ["..", ".%2e", "%2e.", "%2e%2e"].contains (String.ofList (segment.map Char.toLower))

/-- A backslash may follow the letter and its mark, and anything that. -/
def isDriveLetter : List Char → Bool
  | letter :: mark :: rest =>
    letter.isAlpha && (mark == ':' || mark == '|') && (rest == [] || rest.head? == some '\\')
  | _ => false

/-- Takes back the last finished segment. -/
def shorten : List (List Char) → List (List Char)
  | [] => []
  | last :: above => if isDriveLetter last then last :: above else above

/-- Resolves dot segments; `done` holds the finished segments, last one first. -/
def resolveSegments (done : List (List Char)) : List (List Char) → List (List Char)
  | [] => done.reverse
  | [last] =>
    if isDoubleDot last then ((shorten done).reverse ++ [[]])
    else if isSingleDot last then done.reverse ++ [[]]
    else done.reverse ++ [last]
  | segment :: rest =>
    if isDoubleDot segment then resolveSegments (shorten done) rest
    else if isSingleDot segment then resolveSegments done rest
    else resolveSegments (segment :: done) rest

/-- The path of a text without dropped characters; the slash at its start may be
missing. -/
def readPath (cs : List Char) : List Char :=
  let cs := match cs with
    | '/' :: rest => rest
    | cs => cs
  let segments := resolveSegments [] ((splitOn '/' cs).map (encode pathSet))
  segments.flatMap ('/' :: ·)

end SchemaMigration.Url
