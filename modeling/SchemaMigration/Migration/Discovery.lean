import SchemaMigration.Migration.Catalog
import SchemaMigration.Session

/-! # Discovery in a session -/

namespace SchemaMigration.Catalog

open Files

variable {δ : Type}

/-- Makes the directory of the migrations if it is missing. -/
def makeDirectory (c : Catalog) : Action δ Unit := do
  match c.missingDirectory (← Action.files) with
  | none => return
  | some directory =>
    Action.createDirectories directory
    Action.tell {
      level := .info
      target := "lipgrate::catalog"
      message := "created migration directory"
      fields := [("directory", .shown directory)] }

/-- All ids in ascending order. A missing directory may be made on the way; that it leads
to files then does not count. -/
def discoverFiles (c : Catalog) (createMissing : Bool) : Action δ (List String) := do
  let tree ← Action.files
  if createMissing then c.makeDirectory
  Action.ofExcept (c.discover tree)

end SchemaMigration.Catalog
