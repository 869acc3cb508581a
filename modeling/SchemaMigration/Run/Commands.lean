import SchemaMigration.Run.Batch
import SchemaMigration.Run.Status

/-!
# The commands of a run

Migrate, roll back, report and reset. Whatever comes of a command, at its end the
client is released and the adapter disconnected.
-/

namespace SchemaMigration

open Console

inductive MigrateOutcome
  | upToDate
  | applied (ids : List String)
  deriving DecidableEq, Repr

inductive RollbackOutcome
  /-- The ledger is empty; this is no error. -/
  | nothingToRollback
  | rolledBack (id : String)
  deriving DecidableEq, Repr

namespace Runner

variable {δ : Type} (r : Runner δ)

/-- Reads the ledger over the client of the batch. Its table is made before the
transaction begins, since some databases commit when a table is made. -/
def readLedger : RunAction δ (List String) := do
  if r.transactional then RunAction.ofAction r.adapter.getClient
  RunAction.ofAction (r.adapter.ensureLedger r.batchOptions)
  RunAction.ofAction (r.adapter.readLedger r.batchOptions)

def migrateBody : RunAction δ MigrateOutcome := do
  r.checkDialect
  let all ← r.discover !r.dryRun
  r.announceDryRun
  r.enter .diffing
  let completed ← if r.dryRun then pure [] else r.readLedger
  let pending := all.filter (· ∉ completed)
  if pending = [] then
    RunAction.print (success "Database is up to date.")
    return .upToDate
  RunAction.print (info ("Found " ++ toString pending.length ++ " pending migrations."))
  let batch ← r.planBatch .up pending
  r.runBatch .up batch
  RunAction.print (success "All migrations completed successfully.")
  return .applied pending

def rollbackBody : RunAction δ RollbackOutcome := do
  r.checkDialect
  let all ← r.discover false
  r.announceDryRun
  r.enter .diffing
  let completed ← if r.dryRun then pure all else r.readLedger
  match (Catalog.sortIds completed).getLast? with
  | none =>
    RunAction.print (warning "There are no applied migrations to roll back.")
    return .nothingToRollback
  | some last =>
    let planned ← r.planMigration .down last
    r.runBatch .down [planned]
    return .rolledBack last

def statusBody : RunAction δ StatusReport := do
  r.checkDialect
  let all ← r.discover false
  r.enter .diffing
  RunAction.ofAction (r.adapter.ensureLedger {})
  let completed ← RunAction.ofAction (r.adapter.readLedger {})
  return .compare all completed

def resetBody : RunAction δ MigrateOutcome := do
  r.checkDialect
  RunAction.print (warning "ATTENTION: This will delete ALL data in your database.")
  RunAction.print (running "Dropping all tables...")
  RunAction.ofAction (r.adapter.dropAll r.options)
  RunAction.print (success "All tables dropped.")
  RunAction.print (running "Re-running all migrations...")
  let outcome ← r.migrateBody
  RunAction.print (success "Database reset and migrated successfully.")
  return outcome

/-- Runs an action whose failure is only told. -/
def tolerate (complaint : String) (a : Action δ Unit) : RunAction δ Unit := do
  match ← RunAction.outcome (RunAction.ofAction a) with
  | .ok _ => pure ()
  | .error e => RunAction.tell (event .warn complaint [("error", .shown e.message)])

def cleanup : RunAction δ Unit := do
  tolerate "failed to release client" r.adapter.releaseClient
  tolerate "failed to disconnect" r.adapter.disconnect

/-- Runs the body of a command and cleans up; the outcome is that of the body. -/
def command {α : Type} (body : RunAction δ α) : RunAction δ α := do
  let result ← RunAction.outcome body
  r.cleanup
  RunAction.ofExcept result

/-- Applies every pending migration. -/
def migrate : RunAction δ MigrateOutcome := r.command r.migrateBody

/-- Reverts the last migration that was applied. -/
def rollback : RunAction δ RollbackOutcome := r.command r.rollbackBody

/-- Tells which migrations are applied, and changes nothing. -/
def status : RunAction δ StatusReport := r.command r.statusBody

/-- Drops everything and applies all migrations. -/
def reset : RunAction δ MigrateOutcome := r.command r.resetBody

end Runner

namespace RunAction

/-- A whole run on a session: its outcome, its last state and the session after it. -/
def start {δ α : Type} (a : RunAction δ α) (s : Session δ) :
    Except MigrationError α × RunState × Session δ :=
  let (result, run) := a.run { session := s }
  (result, run.state, run.session)

end RunAction

end SchemaMigration
