import SchemaMigration.Database.Adapter
import SchemaMigration.Migration.Catalog

/-!
# Rehearsals

A database for trying runs out. It keeps the ledger and the statements that took
effect, knows transactions, and refuses whichever calls it is told to refuse. Every
call is written down, also one that is refused.
-/

namespace SchemaMigration

inductive Call
  | getClient
  | releaseClient
  | disconnect
  | query (sql : String) (params : List SqlValue) (options : QueryOptions)
  deriving DecidableEq, Repr

namespace Rehearsal

structure Store where
  ledger : List String := []
  /-- The statements that took effect, those of the ledger aside. -/
  work : List Statement := []
  deriving DecidableEq, Repr

/-- The store, what it was when the open transaction began, and the calls so far. -/
structure Book where
  store : Store := {}
  saved : Option Store := none
  calls : List Call := []
  deriving DecidableEq, Repr

structure Script where
  dialect : Dialect
  transactional : Bool
  /-- Whether a call is refused, by the calls before it. -/
  refuses : List Call → Call → Option MigrationError := fun _ _ => none
  /-- Rows that the ledger shows after its own. -/
  extraRows : List Row := []
  /-- Whether closing the connection gives an open transaction up. -/
  discards : Bool := false

def ledgerRows (store : Store) : List Row :=
  (Catalog.sortIds store.ledger).map fun id => [(Ledger.column, .text id)]

def firstId? : List SqlValue → Option String
  | .text id :: _ => some id
  | _ => none

def Book.restore (b : Book) : Book := { b with store := b.saved.getD b.store, saved := none }

def Book.execute (script : Script) (sql : String) (params : List SqlValue) (b : Book) :
    Except MigrationError (List Row) × Book :=
  if sql = "BEGIN" then (.ok [], { b with saved := some b.store })
  else if sql = "COMMIT" then (.ok [], { b with saved := none })
  else if sql = "ROLLBACK" then (.ok [], b.restore)
  else if sql = Ledger.createSql script.dialect then (.ok [], b)
  else if sql = Ledger.selectSql then (.ok (ledgerRows b.store ++ script.extraRows), b)
  else if sql = Ledger.insertSql script.dialect then
    match firstId? params with
    | some id =>
      if id ∈ b.store.ledger then (.error (.ofStatement sql "duplicate key"), b)
      else (.ok [], { b with store := { b.store with ledger := b.store.ledger ++ [id] } })
    | none => (.ok [], b)
  else if sql = Ledger.deleteSql script.dialect then
    match firstId? params with
    | some id =>
      (.ok [], { b with store := { b.store with ledger := b.store.ledger.filter (· ≠ id) } })
    | none => (.ok [], b)
  else if sql = dropAllSql then
    (.ok [], { b with store := { ledger := [], work := b.store.work ++ [⟨sql, params⟩] } })
  else (.ok [], { b with store := { b.store with work := b.store.work ++ [⟨sql, params⟩] } })

/-- Writes a call down, and refuses it if the script says so. -/
def note (script : Script) (call : Call) : Action Book Unit := do
  let b ← Action.database
  Action.setDatabase { b with calls := b.calls ++ [call] }
  match script.refuses b.calls call with
  | some e => throw e
  | none => return

/-- Closing the connection, which may be refused and is done all the same. -/
def close (script : Script) : Action Book Unit := do
  let b ← Action.database
  if script.discards then Action.setDatabase b.restore
  note script .disconnect

def query (script : Script) (sql : String) (params : List SqlValue) (options : QueryOptions) :
    Action Book (List Row) := do
  note script (.query sql params options)
  if options.dryRun then return []
  let (result, b) := (← Action.database).execute script sql params
  Action.setDatabase b
  Action.ofExcept result

def adapter (script : Script) : Adapter Book where
  dialect := script.dialect
  transactional := script.transactional
  getClient := note script .getClient
  releaseClient := note script .releaseClient
  query := query script
  disconnect := close script
  dropAll options :=
    match script.dialect with
    | .postgresql => query script dropAllSql [] options >>= fun _ => pure ()
    | .mysql | .sqlite => cannotReset script.dialect

end Rehearsal

end SchemaMigration
