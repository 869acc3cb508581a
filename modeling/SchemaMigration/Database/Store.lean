import SchemaMigration.Database.Engine
import SchemaMigration.Migration.Catalog

/-!
# The store of SQLite

As much of SQLite as migrations can tell: the ledger, tables of one column that are
written and read back, and transactions. All other statements succeed without rows,
unless they name a table that is known to be absent.
-/

namespace SchemaMigration.Sqlite

open Text Number

/-- What a column makes of its values. -/
inductive Affinity
  | integer
  | text
  | real
  deriving DecidableEq, Repr

/-- A value as it comes back from a column. Of whole numbers the lowest 32 bits are
seen, and zero has no sign. -/
def Affinity.fetched : Affinity → SqlValue → SqlValue
  | .integer, .integer n => .integer (n.bmod (Nat.pow 2 32))
  | .real, .integer n => .float (Double.ofInt n)
  | .real, .float x => .float (if x.isZero then Double.zero false else x)
  | _, value => value

structure Contents where
  /-- The ids of the ledger, if its table is there. -/
  ledger : Option (List String) := none
  /-- The column `v` of the table `t` and its values, if it is there. -/
  column : Option (Affinity × List SqlValue) := none
  deriving DecidableEq, Repr

/-- The contents, and what they were when the open transaction began. -/
structure Store where
  contents : Contents := {}
  saved : Option Contents := none
  deriving DecidableEq, Repr

inductive Request
  | begin
  | commit
  | rollback
  | createLedger
  | readLedger
  | recordId
  | removeId
  | createTable (affinity : Affinity)
  | readTable
  | insertValue
  | block
  | other
  deriving DecidableEq, Repr

def dialects : List Dialect := [.mysql, .postgresql, .sqlite]

/-- The statement `CREATE TABLE t (v TYPE)`. -/
def createTableSql (type : String) : String := "CREATE TABLE t (v " ++ type ++ ")"

def columnTypes : List (String × Affinity) :=
  [("INTEGER", .integer), ("BIGINT", .integer), ("TEXT", .text), ("REAL", .real)]

/-- The column that a statement makes a table of. -/
def createdColumn? (sql : String) : Option Affinity :=
  (columnTypes.find? fun (type, _) => sql = createTableSql type).map (·.2)

def Request.ofSql (sql : String) : Request :=
  let sql := trimmed sql
  if sql = "BEGIN" then .begin
  else if sql = "COMMIT" then .commit
  else if sql = "ROLLBACK" then .rollback
  else if sql ∈ dialects.map Ledger.createSql then .createLedger
  else if sql = Ledger.selectSql then .readLedger
  else if sql ∈ dialects.map Ledger.insertSql then .recordId
  else if sql ∈ dialects.map Ledger.deleteSql then .removeId
  else if sql = "SELECT v FROM t" then .readTable
  else if sql = "INSERT INTO t (v) VALUES (?)" then .insertValue
  else if "DO ".toList.isPrefixOf sql.toList then .block
  else
    match createdColumn? sql with
    | some affinity => .createTable affinity
    | none => .other

def refusal (code : Nat) (reason : String) : String :=
  "error returned from database: (code: " ++ toString code ++ ") " ++ reason

def noTable (name : String) : String := refusal 1 ("no such table: " ++ name)

def idText : SqlValue → String
  | .text id => id
  | _ => ""

/-- Carries out what a statement asks for, with at most one parameter. -/
def Store.carryOut (request : Request) (value : SqlValue) (s : Store) :
    Except String (List Row) × Store :=
  let set (contents : Contents) : Except String (List Row) × Store :=
    (.ok [], { s with contents })
  match request with
  | .begin =>
    match s.saved with
    | some _ => (.error (refusal 1 "cannot start a transaction within a transaction"), s)
    | none => (.ok [], { s with saved := some s.contents })
  | .commit =>
    match s.saved with
    | some _ => (.ok [], { s with saved := none })
    | none => (.error (refusal 1 "cannot commit - no transaction is active"), s)
  | .rollback =>
    match s.saved with
    | some contents => (.ok [], ⟨contents, none⟩)
    | none => (.error (refusal 1 "cannot rollback - no transaction is active"), s)
  | .createLedger => set { s.contents with ledger := some (s.contents.ledger.getD []) }
  | .readLedger =>
    match s.contents.ledger with
    | some ids => (.ok ((Catalog.sortIds ids).map fun id => [(Ledger.column, .text id)]), s)
    | none => (.error (noTable Ledger.table), s)
  | .recordId =>
    match s.contents.ledger with
    | some ids =>
      if idText value ∈ ids then
        (.error (refusal 1555
          ("UNIQUE constraint failed: " ++ Ledger.table ++ "." ++ Ledger.column)), s)
      else set { s.contents with ledger := some (ids ++ [idText value]) }
    | none => (.error (noTable Ledger.table), s)
  | .removeId =>
    match s.contents.ledger with
    | some ids => set { s.contents with ledger := some (ids.filter (· ≠ idText value)) }
    | none => (.error (noTable Ledger.table), s)
  | .createTable affinity =>
    match s.contents.column with
    | some _ => (.error (refusal 1 "table t already exists"), s)
    | none => set { s.contents with column := some (affinity, []) }
  | .readTable =>
    match s.contents.column with
    | some (affinity, values) => (.ok (values.map fun v => [("v", affinity.fetched v)]), s)
    | none => (.error (noTable "t"), s)
  | .insertValue =>
    match s.contents.column with
    | some (affinity, values) => set { s.contents with column := some (affinity, values ++ [value]) }
    | none => (.error (noTable "t"), s)
  | .block => (.error (refusal 1 "near \"DO\": syntax error"), s)
  | .other => (.ok [], s)

/-- Carries a statement out; one that names an absent table is refused. -/
def Store.execute (absent : List String) (sql : String) (params : List SqlValue) (s : Store) :
    Except String (List Row) × Store :=
  match absent.find? fun name => occursIn name.toList sql.toList with
  | some name => (.error (noTable name), s)
  | none => s.carryOut (.ofSql sql) (params.headD .null)

def Store.close (s : Store) : Store := ⟨s.saved.getD s.contents, none⟩

end SchemaMigration.Sqlite
