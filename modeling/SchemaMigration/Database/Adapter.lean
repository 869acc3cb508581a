import SchemaMigration.Migration.Ledger
import SchemaMigration.Session
import SchemaMigration.Sql.Interpolate

/-!
# Adapters

An adapter is how a command reaches a database. All statements go through `query`:
those of transactions and of the ledger too.
-/

namespace SchemaMigration

open Console

structure QueryOptions where
  /-- Shows the statement and sends nothing. -/
  dryRun : Bool := false
  /-- Sends the statement over the acquired client. -/
  pinned : Bool := false
  deriving DecidableEq, Repr

/-- A result row: values by column name. -/
abbrev Row := List (String × SqlValue)

/-- What an adapter has of its own. How a transaction begins and ends, and how the ledger is made,
read and written, is the same for all adapters: a fixed statement that goes through `query`, as it is
below. An adapter with a `begin`, a `commit`, a `rollback` or a way to the ledger of its own is not
modelled. -/
structure Adapter (δ : Type) where
  dialect : Dialect
  /-- Whether a batch of migrations is one transaction. -/
  transactional : Bool
  /-- Acquires the client of pinned statements, unless there is one. -/
  getClient : Action δ Unit
  releaseClient : Action δ Unit
  query : String → List SqlValue → QueryOptions → Action δ (List Row)
  disconnect : Action δ Unit
  /-- Drops all tables and types. -/
  dropAll : QueryOptions → Action δ Unit

namespace Adapter

variable {δ : Type} (a : Adapter δ)

/-- Sends a statement whose rows do not matter. -/
def execute (sql : String) (params : List SqlValue) (options : QueryOptions) : Action δ Unit :=
  a.query sql params options >>= fun _ => pure ()

def pinned (options : QueryOptions) : QueryOptions := { options with pinned := true }

def begin (options : QueryOptions) : Action δ Unit := a.execute "BEGIN" [] (pinned options)

def commit (options : QueryOptions) : Action δ Unit := a.execute "COMMIT" [] (pinned options)

def rollback (options : QueryOptions) : Action δ Unit := a.execute "ROLLBACK" [] (pinned options)

def ensureLedger (options : QueryOptions) : Action δ Unit :=
  a.execute (Ledger.createSql a.dialect) [] options

/-- The ids in the rows of the ledger; a row without one does not count. -/
def idOfRow? (row : Row) : Option String :=
  match row.lookup Ledger.column with
  | some (.text id) => some id
  | _ => none

def readLedger (options : QueryOptions) : Action δ (List String) := do
  let rows ← a.query Ledger.selectSql [] options
  return rows.filterMap idOfRow?

def recordId (id : String) (options : QueryOptions) : Action δ Unit :=
  a.execute (Ledger.insertSql a.dialect) [.text id] options

def removeId (id : String) (options : QueryOptions) : Action δ Unit :=
  a.execute (Ledger.deleteSql a.dialect) [.text id] options

end Adapter

/-- What only PostgreSQL can do. -/
def cannotReset {δ : Type} (dialect : Dialect) : Action δ Unit :=
  throw (.unsupported "reset" dialect (some .reset))

/-- Drops every table and every enumeration of the public schema of PostgreSQL. -/
def dropAllSql : String := "
DO $do$ DECLARE
    r RECORD;
BEGIN
    FOR r IN (SELECT tablename FROM pg_tables WHERE schemaname = 'public') LOOP
        EXECUTE 'DROP TABLE IF EXISTS ' || quote_ident(r.tablename) || ' CASCADE';
    END LOOP;

    FOR r IN (
        SELECT t.typname
        FROM pg_type t
        JOIN pg_enum e ON t.oid = e.enumtypid
        JOIN pg_catalog.pg_namespace n ON n.oid = t.typnamespace
        WHERE n.nspname = 'public'
        GROUP BY t.typname
    ) LOOP
        EXECUTE 'DROP TYPE IF EXISTS ' || quote_ident(r.typname) || ' CASCADE';
    END LOOP;
END $do$;
"

/-- Shows a statement in the place of sending it. -/
def previewStatement {δ : Type} (dialect : Dialect) (sql : String) (params : List SqlValue) :
    Action δ (List Row) := do
  let statement := Sql.interpolate dialect (Text.trimmed sql) params
  Action.print (dryRun statement)
  Action.tell {
    level := .debug
    target := "lipgrate::adapter"
    message := "dry run"
    fields := [("dialect", .shown dialect.name), ("sql", .shown statement)] }
  return []

end SchemaMigration
