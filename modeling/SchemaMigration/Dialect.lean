import SchemaMigration.Text.Blank
import SchemaMigration.Text.Case

/-! # Database dialects -/

namespace SchemaMigration

/-- The SQL variant of the target database. -/
inductive Dialect
  | mysql
  | postgresql
  | sqlite
  deriving DecidableEq, Repr

namespace Dialect

/-- The canonical name, also that of the migrations directory. -/
def name : Dialect → String
  | .mysql => "mysql"
  | .postgresql => "postgresql"
  | .sqlite => "sqlite"

def displayName : Dialect → String
  | .mysql => "MySQL"
  | .postgresql => "PostgreSQL"
  | .sqlite => "SQLite"

def directory (d : Dialect) : String := d.name

/-- The placeholder of the parameter with the given number, counted from one. -/
def placeholder (d : Dialect) (index : Nat) : String :=
  match d with
  | .postgresql => "$" ++ toString index
  | .mysql | .sqlite => "?"

/-- The dialect that a lower-case client name stands for. -/
def ofClient? : String → Option Dialect
  | "mysql" | "mysql2" => some .mysql
  | "postgresql" | "postgres" | "pg" => some .postgresql
  | "sqlite" | "sqlite3" => some .sqlite
  | _ => none

/-- A client name without regard to case and surrounding space. -/
def normalizeClient (s : String) : String := Text.lowercase (Text.trimmed s)

end Dialect

end SchemaMigration
