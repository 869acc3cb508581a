import SchemaMigration.Operation.Describe
import SchemaMigration.Operation.Warnings
import SchemaMigration.Run.Basic

/-!
# Plans

Before the first statement is sent, every migration of a batch is loaded and each of
its operations written as SQL.
-/

namespace SchemaMigration

open Console

/-- A statement, and what it does in a few words. -/
structure Step where
  summary : Styled
  statement : Statement
  deriving DecidableEq, Repr

structure PlannedMigration where
  id : String
  steps : List Step
  deriving DecidableEq, Repr

def Migration.operations (m : Migration) : Direction → List Operation
  | .up => m.up
  | .down => m.down

namespace Runner

variable {δ : Type} (r : Runner δ)

def planStep (id : String) (op : Operation) : RunAction δ Step := do
  for w in op.warnings r.adapter.dialect do RunAction.tell w
  match op.statement r.adapter.dialect with
  | .ok statement => return ⟨op.describe, statement⟩
  | .error e =>
    RunAction.tell <| event .error "translation failed" [
      ("migration", .text id), ("operation", .text op.kind), ("error", .shown e.message)]
    throw e

def planSteps (id : String) : List Operation → RunAction δ (List Step)
  | [] => pure []
  | op :: rest => do
    let step ← r.planStep id op
    let steps ← planSteps id rest
    return step :: steps

/-- Loads one migration and writes its operations as SQL. -/
def planMigration (direction : Direction) (id : String) : RunAction δ PlannedMigration := do
  let m ← RunAction.ofExcept (r.catalog.load (← RunAction.files) id)
  let steps ← r.planSteps m.id (m.operations direction)
  return ⟨m.id, steps⟩

/-- Plans a batch, up to the first migration that cannot be planned. -/
def planBatch (direction : Direction) : List String → RunAction δ (List PlannedMigration)
  | [] => pure []
  | id :: rest => do
    let planned ← r.planMigration direction id
    let batch ← planBatch direction rest
    return planned :: batch

end Runner

end SchemaMigration
