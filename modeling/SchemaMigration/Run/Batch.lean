import SchemaMigration.Run.Plan

/-!
# Batches

A planned batch is carried out statement by statement, and after the statements of a
migration the ledger is written. Where the adapter can do so, all of it is one
transaction, which is given up at the first failure.
-/

namespace SchemaMigration.Runner

open Console

variable {δ : Type} (r : Runner δ)

def startLine : Direction → String → Output
  | .up, id => running ("Running migration: " ++ id)
  | .down, id => running ("Rolling back migration: " ++ id)

def finishLine : Direction → String → Output
  | .up, id => success ("Finished migration: " ++ id)
  | .down, id => success ("Finished rollback: " ++ id)

def sendSteps : List Step → RunAction δ Unit
  | [] => pure ()
  | s :: rest => do
    RunAction.print (step s.summary)
    RunAction.ofAction (r.adapter.execute s.statement.sql s.statement.params r.batchOptions)
    sendSteps rest

/-- Writes the ledger for one migration; a dry run leaves it alone. -/
def writeLedger (direction : Direction) (id : String) : RunAction δ Unit :=
  if r.dryRun then pure ()
  else
    RunAction.ofAction <|
      match direction with
      | .up => r.adapter.recordId id r.batchOptions
      | .down => r.adapter.removeId id r.batchOptions

/-- Carries the migrations out, counting them from `number`. -/
def applyAll (direction : Direction) (number : Nat) : List PlannedMigration → RunAction δ Unit
  | [] => pure ()
  | m :: rest => do
    r.enter (.applying number)
    RunAction.print (startLine direction m.id)
    r.sendSteps m.steps
    r.writeLedger direction m.id
    RunAction.print (finishLine direction m.id)
    applyAll direction (number + 1) rest

/-- Gives the transaction up. That it fails too is only told. -/
def abort : RunAction δ Unit := do
  if r.transactional then
    match ← RunAction.outcome (RunAction.ofAction (r.adapter.rollback r.batchOptions)) with
    | .ok _ => pure ()
    | .error e =>
      RunAction.tell (event .warn "transaction rollback failed" [("error", .shown e.message)])
  r.enter .rolledBack

def commit : RunAction δ Unit :=
  if r.transactional then
    do
      match ← RunAction.outcome (RunAction.ofAction (r.adapter.commit r.batchOptions)) with
      | .ok _ => pure ()
      | .error e =>
        r.abort
        throw e
  else pure ()

def runBatch (direction : Direction) (batch : List PlannedMigration) : RunAction δ Unit := do
  if !r.dryRun then RunAction.ofAction r.adapter.getClient
  if r.transactional then RunAction.ofAction (r.adapter.begin r.batchOptions)
  match ← RunAction.outcome (r.applyAll direction 0 batch) with
  | .ok _ =>
    r.commit
    r.enter .committed
  | .error e =>
    RunAction.tell (event .error "migration failed" [("error", .shown e.message)])
    r.abort
    throw e

end SchemaMigration.Runner
