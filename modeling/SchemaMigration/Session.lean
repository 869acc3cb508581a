import SchemaMigration.Console.Output
import SchemaMigration.Error
import SchemaMigration.Files.Tree

/-!
# Sessions

What a command works on: the files, what has been printed, and a database. An action
may fail with a migration error; what it did before it failed stays done.
-/

namespace SchemaMigration

open Console Files

/-- The state of a session with a database of type `δ`. -/
structure Session (δ : Type) where
  files : FileTree
  transcript : Transcript := []
  database : δ

abbrev Action (δ : Type) := ExceptT MigrationError (StateM (Session δ))

namespace Action

variable {δ α : Type}

def print (o : Output) : Action δ Unit :=
  modify fun s => { s with transcript := s.transcript ++ [o] }

def tell (e : Event) : Action δ Unit := print (.event e)

def files : Action δ FileTree := do return (← get).files

def setFiles (tree : FileTree) : Action δ Unit := modify fun s => { s with files := tree }

def database : Action δ δ := do return (← get).database

def setDatabase (d : δ) : Action δ Unit := modify fun s => { s with database := d }

/-- Fails where a computation without effects fails. -/
def ofExcept (x : Except MigrationError α) : Action δ α := ExceptT.mk (pure x)

/-- The outcome of an action, as a value. -/
def outcome (a : Action δ α) : Action δ (Except MigrationError α) := ExceptT.mk do
  return .ok (← a.run)

/-- Makes a directory and those above it. -/
def createDirectories (path : Path) : Action δ Unit := do
  let (error, tree) := (← files).createDirectories path
  setFiles tree
  match error with
  | some e => throw (.io e)
  | none => return

def writeFile (path : Path) (content : String) : Action δ Unit := do
  match (← files).write path content with
  | .ok tree => setFiles tree
  | .error e => throw (.io e)

end Action

end SchemaMigration
