import SchemaMigration.Operation.Basic
import SchemaMigration.Sql.Column

/-!
# Operations in SQL

The one statement that an operation stands for in a dialect. What the dialect
cannot do is refused first, then missing fields are told, and column definitions
are read last.
-/

namespace SchemaMigration

open Text Sql

namespace Operation

/-- What the dialect cannot do at all. -/
def checkSupported (dialect : Dialect) (op : Operation) : Except MigrationError Unit :=
  match op, dialect with
  | .alterColumn _, .sqlite => .error (.unsupported op.kind dialect (some .alterColumn))
  | .addForeignKey _, .sqlite => .error (.unsupported op.kind dialect (some .addForeignKey))
  | .dropForeignKey _, .sqlite => .error (.unsupported op.kind dialect (some .dropForeignKey))
  | .unknown kind, _ => .error (.unsupported kind dialect none)
  | _, _ => .ok ()

/-- A text is missing where it is absent or blank. -/
def textMissing : Option String → Bool
  | some s => (trim s.toList).isEmpty
  | none => true

/-- The fields that the dialect needs, each with whether it is missing. -/
def requirements (dialect : Dialect) : Operation → List (String × Bool)
  | .createTable op => [("name", textMissing op.name), ("columns", op.columns.isEmpty)]
  | .dropTable op => [("name", textMissing op.name)]
  | .renameTable op => [("from", textMissing op.old), ("to", textMissing op.new)]
  | .addColumn op =>
    [("table", textMissing op.table), ("column", textMissing op.column),
      ("definition", textMissing op.definition)]
  | .dropColumn op => [("table", textMissing op.table), ("column", textMissing op.column)]
  | .renameColumn op =>
    [("table", textMissing op.table), ("from", textMissing op.old), ("to", textMissing op.new)] ++
      match dialect with
      | .mysql => [("definition", textMissing op.definition)]
      | .postgresql | .sqlite => []
  | .alterColumn op =>
    [("table", textMissing op.table), ("column", textMissing op.column),
      ("definition", textMissing op.definition)]
  | .addIndex op =>
    [("table", textMissing op.table), ("columns", op.columns.isEmpty),
      ("name", textMissing op.name)]
  | .dropIndex op =>
    (match dialect with
      | .mysql => [("table", textMissing op.table)]
      | .postgresql | .sqlite => []) ++ [("name", textMissing op.name)]
  | .addForeignKey op =>
    [("table", textMissing op.table), ("columns", op.columns.isEmpty),
      ("name", textMissing op.name),
      ("references.table", textMissing (op.references.bind (·.table))),
      ("references.columns", (op.references.elim [] (·.columns)).isEmpty)]
  | .dropForeignKey op => [("table", textMissing op.table), ("name", textMissing op.name)]
  | .raw op => [("sql", textMissing op.sql)]
  | .unknown _ => []

def missingFields (dialect : Dialect) (op : Operation) : List String :=
  ((op.requirements dialect).filter (·.2)).map (·.1)

def checkRequired (dialect : Dialect) (op : Operation) : Except MigrationError Unit :=
  match op.missingFields dialect with
  | [] => .ok ()
  | fields => .error (.missingFields op.kind fields)

end Operation

namespace Sql

def fieldText (value : Option String) : String := value.getD ""

/-- A name as the statement writes it. PostgreSQL quotes names, but not those of
tables and columns that are created or dropped. -/
def identifier : Dialect → String → String
  | .postgresql, name => quoteIdentifier name
  | .mysql, name | .sqlite, name => name

def identifierList (dialect : Dialect) (names : List String) : String :=
  ", ".intercalate (names.map (identifier dialect))

/-- The columns that hold the times of creation and of the last update. -/
def timestampColumns : Dialect → List String
  | .mysql => [
    "created_at TIMESTAMP DEFAULT CURRENT_TIMESTAMP",
    "updated_at TIMESTAMP DEFAULT CURRENT_TIMESTAMP ON UPDATE CURRENT_TIMESTAMP"]
  | .postgresql => [
    "created_at TIMESTAMPTZ DEFAULT CURRENT_TIMESTAMP",
    "updated_at TIMESTAMPTZ DEFAULT CURRENT_TIMESTAMP"]
  | .sqlite => [
    "created_at TEXT DEFAULT (datetime('now', 'localtime'))",
    "updated_at TEXT DEFAULT (datetime('now', 'localtime'))"]

/-- The columns of a new table, up to the first that cannot be written. -/
def columnList (dialect : Dialect) : Columns → Except MigrationError (List String)
  | [] => .ok []
  | (name, definition) :: rest => do
    let sql ← columnSql dialect name definition
    let columns ← columnList dialect rest
    return (name ++ " " ++ sql) :: columns

def createTable (dialect : Dialect) (op : CreateTable) : Except MigrationError String := do
  let columns ← columnList dialect op.columns
  let columns := columns ++ if op.timestamps then timestampColumns dialect else []
  return "CREATE TABLE IF NOT EXISTS " ++ fieldText op.name ++ " (" ++
    ", ".intercalate columns ++ ");"

def dropTable (op : DropTable) : String := "DROP TABLE IF EXISTS " ++ fieldText op.name ++ ";"

def renameTable (op : RenameTable) : String :=
  "ALTER TABLE " ++ fieldText op.old ++ " RENAME TO " ++ fieldText op.new ++ ";"

def addColumn (dialect : Dialect) (op : AddColumn) : Except MigrationError String := do
  let column := fieldText op.column
  let sql ← columnSql dialect column (fieldText op.definition)
  return "ALTER TABLE " ++ fieldText op.table ++ " ADD COLUMN " ++ column ++ " " ++ sql ++ ";"

def dropColumn (op : DropColumn) : String :=
  "ALTER TABLE " ++ fieldText op.table ++ " DROP COLUMN " ++ fieldText op.column ++ ";"

def renameColumn (dialect : Dialect) (op : RenameColumn) : Except MigrationError String :=
  let table := identifier dialect (fieldText op.table)
  let old := identifier dialect (fieldText op.old)
  let new := identifier dialect (fieldText op.new)
  match dialect with
  | .mysql => do
    let sql ← columnSql dialect (fieldText op.new) (fieldText op.definition)
    return "ALTER TABLE " ++ table ++ " CHANGE COLUMN " ++ old ++ " " ++ new ++ " " ++ sql ++ ";"
  | .postgresql | .sqlite =>
    .ok ("ALTER TABLE " ++ table ++ " RENAME COLUMN " ++ old ++ " TO " ++ new ++ ";")

/-- PostgreSQL changes only the type; SQLite cannot alter columns. -/
def alterColumn (dialect : Dialect) (op : AlterColumn) : Except MigrationError String :=
  let table := identifier dialect (fieldText op.table)
  let column := identifier dialect (fieldText op.column)
  match dialect with
  | .mysql => do
    let sql ← columnSql dialect (fieldText op.column) (fieldText op.definition)
    return "ALTER TABLE " ++ table ++ " MODIFY COLUMN " ++ column ++ " " ++ sql ++ ";"
  | .postgresql | .sqlite => do
    let c ← parseColumn (fieldText op.definition)
    let type ← columnType dialect c
    return "ALTER TABLE " ++ table ++ " ALTER COLUMN " ++ column ++ " TYPE " ++ type ++
      " USING " ++ column ++ "::" ++ type ++ ";"

def addIndex (dialect : Dialect) (op : AddIndex) : String :=
  "CREATE " ++ (if op.isUnique then "UNIQUE " else "") ++ "INDEX " ++
    identifier dialect (fieldText op.name) ++ " ON " ++ identifier dialect (fieldText op.table) ++
    " (" ++ identifierList dialect op.columns ++ ");"

def dropIndex (dialect : Dialect) (op : DropIndex) : String :=
  let name := identifier dialect (fieldText op.name)
  match dialect with
  | .mysql => "DROP INDEX " ++ name ++ " ON " ++ fieldText op.table ++ ";"
  | .postgresql | .sqlite => "DROP INDEX IF EXISTS " ++ name ++ ";"

/-- A clause for what happens to the rows that refer; an empty one is left out. -/
def referentialAction (clause : String) : Option String → String
  | some action => if action = "" then "" else clause ++ uppercase action
  | none => ""

def referentialActions (op : AddForeignKey) : String :=
  referentialAction " ON DELETE " op.onDelete ++ referentialAction " ON UPDATE " op.onUpdate

def addForeignKey (dialect : Dialect) (op : AddForeignKey) : String :=
  let target := op.references.getD {}
  "ALTER TABLE " ++ identifier dialect (fieldText op.table) ++ " ADD CONSTRAINT " ++
    identifier dialect (fieldText op.name) ++ " FOREIGN KEY (" ++
    identifierList dialect op.columns ++ ") REFERENCES " ++
    identifier dialect (fieldText target.table) ++
    (match dialect with
      | .postgresql => " "
      | .mysql | .sqlite => "") ++
    "(" ++ identifierList dialect target.columns ++ ")" ++ referentialActions op ++ ";"

def dropForeignKey (dialect : Dialect) (op : DropForeignKey) : String :=
  let clause := match dialect with
    | .postgresql => " DROP CONSTRAINT IF EXISTS "
    | .mysql | .sqlite => " DROP FOREIGN KEY "
  "ALTER TABLE " ++ identifier dialect (fieldText op.table) ++ clause ++
    identifier dialect (fieldText op.name) ++ ";"

/-- The statement of an operation whose fields are all there. -/
def write (dialect : Dialect) : Operation → Except MigrationError String
  | .createTable op => createTable dialect op
  | .dropTable op => .ok (dropTable op)
  | .renameTable op => .ok (renameTable op)
  | .addColumn op => addColumn dialect op
  | .dropColumn op => .ok (dropColumn op)
  | .renameColumn op => renameColumn dialect op
  | .alterColumn op => alterColumn dialect op
  | .addIndex op => .ok (addIndex dialect op)
  | .dropIndex op => .ok (dropIndex dialect op)
  | .addForeignKey op => .ok (addForeignKey dialect op)
  | .dropForeignKey op => .ok (dropForeignKey dialect op)
  | .raw op => .ok (fieldText op.sql)
  | .unknown kind => .error (.unsupported kind dialect none)

end Sql

namespace Operation

/-- The SQL of an operation: one statement. -/
def toSql (dialect : Dialect) (op : Operation) : Except MigrationError String := do
  op.checkSupported dialect
  op.checkRequired dialect
  Sql.write dialect op

/-- The statement of an operation together with the values bound to it. -/
def statement (dialect : Dialect) (op : Operation) : Except MigrationError Statement :=
  (op.toSql dialect).map fun sql => ⟨sql, op.params⟩

end Operation

end SchemaMigration
