import SchemaMigration.Text.Search

/-! # Quoting in SQL -/

namespace SchemaMigration.Sql

open Text

/-- A string literal: apostrophes around it, those inside written twice. -/
def quoteLiteral (value : String) : String :=
  String.ofList ('\'' :: doubled '\'' value.toList ++ ['\''])

/-- An identifier between double quotes, those inside written twice. -/
def quoteIdentifier (name : String) : String :=
  String.ofList ('"' :: doubled '"' name.toList ++ ['"'])

end SchemaMigration.Sql
