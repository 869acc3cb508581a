import SchemaMigration.Column.Parse
import SchemaMigration.Error
import SchemaMigration.Sql.TypeTable
import SchemaMigration.Text.Suggest

/-!
# Columns in SQL

A column is its type followed by its modifiers in one fixed order, however they
were written.
-/

namespace SchemaMigration.Sql

open Text

def unknownType (name : String) (table : TypeTable) : MigrationError :=
  .unknownType name (suggest name (table.map (·.1)))

/-- The SQL type of a column. MySQL looks names up as written and keeps some types
with their arguments; PostgreSQL passes unknown types through in upper case; SQLite
looks names up in any case and drops arguments. -/
def columnType (dialect : Dialect) (c : ColumnDef) : Except MigrationError String :=
  let table := typeTable dialect
  match dialect with
  | .mysql =>
    if c.typeArgs.isSome ∧ lowercase c.typeName ∈ mysqlTypesWithArgs then .ok c.typeDef
    else
      match table.lookup c.typeName with
      | some form => .ok (form.render c.args)
      | none => .error (unknownType c.typeName table)
  | .postgresql =>
    match table.lookup c.typeName with
    | some form => .ok (form.render c.args)
    | none => .ok (uppercase c.typeDef)
  | .sqlite =>
    match table.find? fun entry => sameAscii entry.1 c.typeName with
    | some (_, form) => .ok (form.render [])
    | none => .error (unknownType c.typeName table)

/-- SQLite has no truth values; it takes 1 and 0. -/
def defaultLiteral (dialect : Dialect) (value : DefaultValue) : String :=
  match dialect, value with
  | .sqlite, .boolean true _ => "1"
  | .sqlite, .boolean false _ => "0"
  | _, value => value.sql

def primaryKey : String := "PRIMARY KEY"

/-- The type followed by the modifiers. A type that is a primary key already is not
declared one again. -/
def withModifiers (dialect : Dialect) (type : String) (m : Modifiers) : String :=
  let sql := type ++ (if m.notNullable then " NOT NULL" else "") ++
    (if m.unique then " UNIQUE" else "")
  let sql :=
    if m.primary && !occursIn primaryKey.toList sql.toList then sql ++ " " ++ primaryKey else sql
  match m.default with
  | some value => sql ++ " DEFAULT " ++ defaultLiteral dialect value
  | none => sql

/-- SQLite checks the values of an enumeration itself. -/
def enumCheck (dialect : Dialect) (name : String) (c : ColumnDef) : String :=
  match dialect, c.typeArgs with
  | .sqlite, some values =>
    if sameAscii c.typeName "enum" then " CHECK(" ++ name ++ " IN (" ++ values ++ "))" else ""
  | _, _ => ""

/-- Reads a definition; the error shows it as written. -/
def parseColumn (definition : String) : Except MigrationError ColumnDef :=
  (ColumnDef.parse definition).mapError (.invalidColumn definition)

/-- Everything that follows the name of a column. -/
def columnSql (dialect : Dialect) (name definition : String) : Except MigrationError String := do
  let c ← parseColumn definition
  let type ← columnType dialect c
  return withModifiers dialect type c.modifiers ++ enumCheck dialect name c

end SchemaMigration.Sql
