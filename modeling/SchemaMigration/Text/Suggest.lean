import SchemaMigration.Text.Case
import SchemaMigration.Text.EditDistance

/-! # Suggestions for misspelled names -/

namespace SchemaMigration.Text

/-- The greatest edit distance of a suggestion. -/
def suggestionDistance : Nat := 3

/-- The edit distance of two names without regard to case. -/
def nameDistance (a b : String) : Nat := editDistance (lowercase a).toList (lowercase b).toList

/-- The earliest of the nearest candidates, with its distance. -/
def nearest? (name : String) : List String → Option (String × Nat)
  | [] => none
  | c :: rest =>
    let distance := nameDistance name c
    match nearest? name rest with
    | some (other, d) => if d < distance then some (other, d) else some (c, distance)
    | none => some (c, distance)

/-- The candidate that was probably meant. -/
def suggest (name : String) (candidates : List String) : Option String :=
  ((nearest? name candidates).filter (·.2 ≤ suggestionDistance)).map (·.1)

end SchemaMigration.Text
