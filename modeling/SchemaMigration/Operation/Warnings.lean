import SchemaMigration.Console.Event
import SchemaMigration.Sql.Statement

/-!
# Warnings

Modifiers outside the language are passed over, with a warning. Definitions are read
in order, up to the first one that cannot be written.
-/

namespace SchemaMigration

open Console

/-- One warning for each modifier that is passed over. -/
def columnWarnings (definition : String) : List Event :=
  match ColumnDef.parse definition with
  | .error _ => []
  | .ok c =>
    c.modifiers.unknown.map fun name => {
      level := .warn
      target := "lipgrate::column"
      message := "ignoring unknown column modifier"
      fields := [("modifier", .text name), ("definition", .text definition)] }

/-- The columns up to the first one that cannot be written, and that one. -/
def columnsRead (dialect : Dialect) : Columns → Columns
  | [] => []
  | (name, definition) :: rest =>
    match Sql.columnSql dialect name definition with
    | .ok _ => (name, definition) :: columnsRead dialect rest
    | .error _ => [(name, definition)]

namespace Operation

/-- The definitions that are read for the SQL once no field is missing. -/
def definitionsRead (dialect : Dialect) : Operation → List String
  | .createTable op => (columnsRead dialect op.columns).map (·.2)
  | .addColumn op => [Sql.fieldText op.definition]
  | .renameColumn op =>
    match dialect with
    | .mysql => [Sql.fieldText op.definition]
    | .postgresql | .sqlite => []
  | .alterColumn op => [Sql.fieldText op.definition]
  | _ => []

/-- The warnings of an operation that is written as SQL. -/
def warnings (dialect : Dialect) (op : Operation) : List Event :=
  match op.checkSupported dialect, op.checkRequired dialect with
  | .ok _, .ok _ => (op.definitionsRead dialect).flatMap columnWarnings
  | _, _ => []

end Operation

end SchemaMigration
