import SchemaMigration.Dialect
import SchemaMigration.Sql.Value

/-!
# Statements with their values written in

What a dry run shows: the statement, with a literal in the place of every
placeholder that has a value.
-/

namespace SchemaMigration.Sql

open Text Number

/-- Writes values for the marks `?`, from left to right. Marks without a value
stay. -/
def fillMarks : List SqlValue → List Char → List Char
  | _, [] => []
  | [], cs => cs
  | p :: params, c :: rest =>
    if c = '?' then p.literal.toList ++ fillMarks params rest
    else c :: fillMarks (p :: params) rest

/-- Writes values for `$n`, `$(n+1)`, … one number after the other. The highest
number goes first, so that `$1` cannot take the start of `$10`. -/
def fillNumbered : Nat → List SqlValue → List Char → List Char
  | _, [], cs => cs
  | n, p :: params, cs =>
    replaceAll ('$' :: decimalDigits n) p.literal.toList (fillNumbered (n + 1) params cs)

def interpolate (dialect : Dialect) (sql : String) (params : List SqlValue) : String :=
  String.ofList <|
    match dialect with
    | .postgresql => fillNumbered 1 params sql.toList
    | .mysql | .sqlite => fillMarks params sql.toList

end SchemaMigration.Sql
