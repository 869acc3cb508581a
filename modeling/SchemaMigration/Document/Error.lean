import SchemaMigration.Document.Basic
import SchemaMigration.Number.Shortest
import SchemaMigration.Text.Quoted

/-!
# Why a document does not fit

The causes for which a document is refused, and the wording of each.
-/

namespace SchemaMigration

open Number Text

/-- What stands where something else is wanted. -/
inductive Found
  | null
  | boolean (value : Bool)
  | integer (value : Int)
  | float (value : Double)
  | text (value : String)
  | sequence
  | mapping
  deriving DecidableEq, Repr

inductive DecodeError
  /-- The text is no document, or denotes a value that cannot be read. -/
  | malformed
  | invalidType (found : Found) (wanted : String)
  | invalidValue (found : Found) (wanted : String)
  | invalidLength (length : Nat) (wanted : String)
  | missingField (name : String)
  | duplicateField (name : String)
  | unknownField (name : String) (known : List String)
  | noVariant (type : String)
  | emptyOperation
  | secondOperation (kind extra : String)
  deriving DecidableEq, Repr

def Found.describe (format : Format) : Found → String
  | .null => "null"
  | .boolean b => "boolean `" ++ toString b ++ "`"
  | .integer n => "integer `" ++ intText n ++ "`"
  | .float x =>
    let shown := match format with
      | .json => x.scientificText
      | .toml => x.pointedText
    "floating point `" ++ shown ++ "`"
  | .text s => "string " ++ quoted s
  | .sequence => "sequence"
  | .mapping => "map"

/-- A list of names, each between back quotes. -/
def nameList (names : List String) : String :=
  ", ".intercalate (names.map fun n => "`" ++ n ++ "`")

/-- What was expected instead of an unknown field. -/
def expectedNames : List String → String
  | [] => "there are no fields"
  | [a] => "expected `" ++ a ++ "`"
  | [a, b] => "expected `" ++ a ++ "` or `" ++ b ++ "`"
  | names => "expected one of " ++ nameList names

def DecodeError.message (format : Format) : DecodeError → String
  | .malformed => "malformed"
  | .invalidType found wanted =>
    "invalid type: " ++ found.describe format ++ ", expected " ++ wanted
  | .invalidValue found wanted =>
    "invalid value: " ++ found.describe format ++ ", expected " ++ wanted
  | .invalidLength n wanted => "invalid length " ++ toString n ++ ", expected " ++ wanted
  | .missingField name => "missing field `" ++ name ++ "`"
  | .duplicateField name => "duplicate field `" ++ name ++ "`"
  | .unknownField name known => "unknown field `" ++ name ++ "`, " ++ expectedNames known
  | .noVariant type => "data did not match any variant of untagged enum " ++ type
  | .emptyOperation => "empty operation; expected a single operation key"
  | .secondOperation kind extra =>
    "operation '" ++ kind ++ "' has a second key '" ++ extra ++
      "'; write one operation per entry"

end SchemaMigration
