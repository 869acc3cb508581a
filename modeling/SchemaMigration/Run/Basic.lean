import SchemaMigration.Database.Adapter
import SchemaMigration.Migration.Discovery

/-!
# Runs

A run carries migrations out through an adapter. It passes through the states
`discovering`, `diffing` and `applying n`, and ends in `committed` or `rolledBack`.
-/

namespace SchemaMigration

open Console

/-- Where a run is. One with nothing to do stops in `diffing`. -/
inductive RunState
  | idle
  | discovering
  | diffing
  /-- Carries out the migration with this number, counted from zero. -/
  | applying (number : Nat)
  | committed
  /-- The run failed, and its transaction, if there was one, was given up. -/
  | rolledBack
  deriving DecidableEq, Repr

def RunState.name : RunState → String
  | .idle => "Idle"
  | .discovering => "Discovering"
  | .diffing => "Diffing"
  | .applying n => "Applying(" ++ toString n ++ ")"
  | .committed => "Committed"
  | .rolledBack => "RolledBack"

/-- A session and the state of the run in it. -/
structure Run (δ : Type) where
  session : Session δ
  state : RunState := .idle

abbrev RunAction (δ : Type) := ExceptT MigrationError (StateM (Run δ))

/-- Which list of operations is carried out. -/
inductive Direction
  | up
  | down
  deriving DecidableEq, Repr

/-- What runs the migrations of a catalog. -/
structure Runner (δ : Type) where
  adapter : Adapter δ
  catalog : Catalog
  /-- Shows the statements and leaves the database alone. -/
  dryRun : Bool := false

namespace RunAction

variable {δ α : Type}

/-- An action of the session, as a part of the run. -/
def ofAction (a : Action δ α) : RunAction δ α := ExceptT.mk fun run =>
  let (result, session) := a.run run.session
  (result, { run with session })

def print (o : Output) : RunAction δ Unit := ofAction (Action.print o)

def tell (e : Event) : RunAction δ Unit := print (.event e)

def ofExcept (x : Except MigrationError α) : RunAction δ α := ofAction (Action.ofExcept x)

def files : RunAction δ Files.FileTree := ofAction Action.files

/-- The outcome of an action, as a value. -/
def outcome (a : RunAction δ α) : RunAction δ (Except MigrationError α) := ExceptT.mk do
  return .ok (← a.run)

end RunAction

namespace Runner

variable {δ : Type} (r : Runner δ)

def event (level : Level) (message : String) (fields : List (String × FieldValue)) : Event :=
  { level, target := "lipgrate::runner", message, fields }

def enter (state : RunState) : RunAction δ Unit := do
  RunAction.tell <| event .debug "run state" [
    ("state", .shown state.name), ("dialect", .shown r.adapter.dialect.name)]
  modify fun run => { run with state }

/-- Whether the batch is one transaction. -/
def transactional : Bool := r.adapter.transactional && !r.dryRun

def options : QueryOptions := { dryRun := r.dryRun }

/-- The options of the statements of a batch. -/
def batchOptions : QueryOptions := { dryRun := r.dryRun, pinned := r.transactional }

def checkDialect : RunAction δ Unit :=
  if r.catalog.dialect = r.adapter.dialect then pure ()
  else throw (.configuration (.dialectMismatch r.catalog.dialect r.adapter.dialect))

def announceDryRun : RunAction δ Unit :=
  if r.dryRun then
    RunAction.print (info "Dry Run Mode: No changes will be made to the database.")
  else pure ()

def discover (createMissing : Bool) : RunAction δ (List String) := do
  r.enter .discovering
  RunAction.ofAction (r.catalog.discoverFiles createMissing)

end Runner

end SchemaMigration
