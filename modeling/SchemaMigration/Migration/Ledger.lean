import SchemaMigration.Dialect
import SchemaMigration.Sql.Value

/-!
# The ledger

A table with one column that holds the ids of the applied migrations. These are the
statements that reach it.
-/

namespace SchemaMigration.Ledger

def table : String := "lipgrate_migrations"

def column : String := "migration"

def columnType : Dialect → String
  | .mysql | .postgresql => "VARCHAR(255)"
  | .sqlite => "TEXT"

def createSql (dialect : Dialect) : String :=
  "CREATE TABLE IF NOT EXISTS " ++ table ++ " (" ++ column ++ " " ++ columnType dialect ++
    " PRIMARY KEY)"

def selectSql : String := "SELECT " ++ column ++ " FROM " ++ table ++ " ORDER BY " ++ column ++ " ASC"

def insertSql (dialect : Dialect) : String :=
  "INSERT INTO " ++ table ++ " (" ++ column ++ ") VALUES (" ++ dialect.placeholder 1 ++ ")"

def deleteSql (dialect : Dialect) : String :=
  "DELETE FROM " ++ table ++ " WHERE " ++ column ++ " = " ++ dialect.placeholder 1

end SchemaMigration.Ledger
