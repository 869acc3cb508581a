import SchemaMigration.Dialect

/-!
# Type names

Each dialect has a table of the type names that it knows and of what they stand
for. Types of PostgreSQL outside its table are passed through; the other two
refuse them.
-/

namespace SchemaMigration.Sql

/-- How a type name is written in SQL. -/
inductive TypeForm
  | fixed (sql : String)
  /-- The name, its first argument if there is one, and a suffix. -/
  | sized (name suffix : String)
  /-- The name with its first argument or a default. -/
  | length (name default : String)
  /-- The name with precision and scale; 10 and 2 where they are not given. -/
  | exact (name : String)
  deriving DecidableEq, Repr

/-- The SQL of a type with its arguments, none of which is empty. -/
def TypeForm.render (args : List String) : TypeForm → String
  | .fixed sql => sql
  | .sized name suffix =>
    match args with
    | [] => name ++ suffix
    | n :: _ => name ++ "(" ++ n ++ ")" ++ suffix
  | .length name default => name ++ "(" ++ args.headD default ++ ")"
  | .exact name =>
    name ++ "(" ++ args.headD "10" ++ "," ++ args.tail.headD "2" ++ ")"

abbrev TypeTable := List (String × TypeForm)

def mysqlTypes : TypeTable := [
  ("increments", .fixed "INT AUTO_INCREMENT PRIMARY KEY"),
  ("integer", .fixed "INT"),
  ("bigInteger", .fixed "BIGINT"),
  ("mediumInteger", .fixed "MEDIUMINT"),
  ("smallInteger", .fixed "SMALLINT"),
  ("tinyInteger", .fixed "TINYINT"),
  ("decimal", .fixed "DECIMAL"),
  ("float", .fixed "FLOAT"),
  ("double", .fixed "DOUBLE"),
  ("real", .fixed "REAL"),
  ("bit", .fixed "BIT"),
  ("boolean", .fixed "TINYINT(1)"),
  ("serial", .fixed "BIGINT UNSIGNED NOT NULL AUTO_INCREMENT UNIQUE"),
  ("string", .fixed "VARCHAR(255)"),
  ("char", .fixed "CHAR"),
  ("text", .fixed "TEXT"),
  ("tinyText", .fixed "TINYTEXT"),
  ("mediumText", .fixed "MEDIUMTEXT"),
  ("longText", .fixed "LONGTEXT"),
  ("set", .fixed "SET"),
  ("date", .fixed "DATE"),
  ("time", .fixed "TIME"),
  ("datetime", .fixed "DATETIME"),
  ("timestamp", .fixed "TIMESTAMP"),
  ("year", .fixed "YEAR"),
  ("binary", .fixed "BINARY"),
  ("varbinary", .fixed "VARBINARY"),
  ("tinyBlob", .fixed "TINYBLOB"),
  ("blob", .fixed "BLOB"),
  ("mediumBlob", .fixed "MEDIUMBLOB"),
  ("longBlob", .fixed "LONGBLOB"),
  ("json", .fixed "JSON"),
  ("uuid", .fixed "CHAR(36)")]

/-- The types of MySQL that are kept as written when they have arguments, in lower
case. -/
def mysqlTypesWithArgs : List String := [
  "enum", "set", "char", "varchar", "decimal", "float", "double", "real", "bit", "binary",
  "varbinary"]

def postgresqlTypes : TypeTable := [
  ("increments", .fixed "SERIAL PRIMARY KEY"),
  ("string", .length "VARCHAR" "255"),
  ("binary", .fixed "BYTEA"),
  ("datetime", .fixed "TIMESTAMP"),
  ("smallint", .fixed "SMALLINT"),
  ("int2", .fixed "SMALLINT"),
  ("integer", .fixed "INTEGER"),
  ("int", .fixed "INTEGER"),
  ("int4", .fixed "INTEGER"),
  ("bigint", .fixed "BIGINT"),
  ("int8", .fixed "BIGINT"),
  ("decimal", .exact "DECIMAL"),
  ("numeric", .exact "NUMERIC"),
  ("real", .fixed "REAL"),
  ("float4", .fixed "REAL"),
  ("double", .fixed "DOUBLE PRECISION"),
  ("float8", .fixed "DOUBLE PRECISION"),
  ("smallserial", .fixed "SMALLSERIAL"),
  ("serial2", .fixed "SMALLSERIAL"),
  ("serial", .fixed "SERIAL"),
  ("serial4", .fixed "SERIAL"),
  ("bigserial", .fixed "BIGSERIAL"),
  ("serial8", .fixed "BIGSERIAL"),
  ("money", .fixed "MONEY"),
  ("varchar", .sized "VARCHAR" ""),
  ("char", .sized "CHAR" ""),
  ("text", .fixed "TEXT"),
  ("bytea", .fixed "BYTEA"),
  ("timestamp", .sized "TIMESTAMP" ""),
  ("timestamptz", .sized "TIMESTAMP" " WITH TIME ZONE"),
  ("date", .fixed "DATE"),
  ("time", .sized "TIME" ""),
  ("timetz", .sized "TIME" " WITH TIME ZONE"),
  ("interval", .fixed "INTERVAL"),
  ("boolean", .fixed "BOOLEAN"),
  ("bool", .fixed "BOOLEAN"),
  ("bit", .sized "BIT" ""),
  ("varbit", .sized "VARBIT" ""),
  ("tsvector", .fixed "TSVECTOR"),
  ("tsquery", .fixed "TSQUERY"),
  ("uuid", .fixed "UUID"),
  ("xml", .fixed "XML"),
  ("json", .fixed "JSON"),
  ("jsonb", .fixed "JSONB"),
  ("point", .fixed "POINT"),
  ("line", .fixed "LINE"),
  ("lseg", .fixed "LSEG"),
  ("box", .fixed "BOX"),
  ("path", .fixed "PATH"),
  ("polygon", .fixed "POLYGON"),
  ("circle", .fixed "CIRCLE"),
  ("cidr", .fixed "CIDR"),
  ("inet", .fixed "INET"),
  ("macaddr", .fixed "MACADDR"),
  ("macaddr8", .fixed "MACADDR8"),
  ("pg_lsn", .fixed "PG_LSN"),
  ("pg_snapshot", .fixed "PG_SNAPSHOT"),
  ("txid_snapshot", .fixed "TXID_SNAPSHOT")]

def sqliteTypes : TypeTable := [
  ("increments", .fixed "INTEGER PRIMARY KEY AUTOINCREMENT"),
  ("integer", .fixed "INTEGER"),
  ("int", .fixed "INTEGER"),
  ("bigint", .fixed "INTEGER"),
  ("smallint", .fixed "INTEGER"),
  ("tinyint", .fixed "INTEGER"),
  ("string", .fixed "TEXT"),
  ("text", .fixed "TEXT"),
  ("varchar", .fixed "TEXT"),
  ("char", .fixed "TEXT"),
  ("clob", .fixed "TEXT"),
  ("json", .fixed "TEXT"),
  ("uuid", .fixed "TEXT"),
  ("timestamp", .fixed "TEXT"),
  ("blob", .fixed "BLOB"),
  ("binary", .fixed "BLOB"),
  ("real", .fixed "REAL"),
  ("float", .fixed "REAL"),
  ("double", .fixed "REAL"),
  ("numeric", .fixed "NUMERIC"),
  ("decimal", .fixed "NUMERIC"),
  ("boolean", .fixed "NUMERIC"),
  ("date", .fixed "NUMERIC"),
  ("datetime", .fixed "NUMERIC"),
  ("enum", .fixed "TEXT")]

def typeTable : Dialect → TypeTable
  | .mysql => mysqlTypes
  | .postgresql => postgresqlTypes
  | .sqlite => sqliteTypes

end SchemaMigration.Sql
