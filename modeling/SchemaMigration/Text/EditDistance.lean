/-!
# Edit distance

The least number of single-character insertions, deletions and substitutions
that turn one text into another. A row holds the distances from one suffix of
the first text to every suffix of the second, longest first.
-/

namespace SchemaMigration.Text

/-- The row for `c :: a`, from the row for `a`. -/
def nextRow (c : Char) : List Char → List Nat → List Nat
  | [], row => [row.headD 0 + 1]
  | d :: b, row =>
    let right := nextRow c b row.tail
    let best := min (min (row.headD 0) (right.headD 0) + 1)
      (row.tail.headD 0 + if c = d then 0 else 1)
    best :: right

/-- The distances from `[]`: one insertion for each character that is left. -/
def firstRow : List Char → List Nat
  | [] => [0]
  | d :: b => (d :: b).length :: firstRow b

def distanceRow (b : List Char) : List Char → List Nat
  | [] => firstRow b
  | c :: a => nextRow c b (distanceRow b a)

def editDistance (a b : List Char) : Nat := (distanceRow b a).headD 0

end SchemaMigration.Text
