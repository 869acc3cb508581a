import SchemaMigration.Sql.Value

/-!
# Operations

One change of a schema in a form that no dialect owns. Fields may be absent; the
writing it as SQL tells which ones are missing.
-/

namespace SchemaMigration

/-- Names and definitions of columns, in order. -/
abbrev Columns := List (String × String)

structure CreateTable where
  name : Option String := none
  columns : Columns := []
  /-- Adds columns for the times of creation and of the last update. -/
  timestamps : Bool := false
  deriving DecidableEq, Repr

structure DropTable where
  name : Option String := none
  deriving DecidableEq, Repr

structure RenameTable where
  old : Option String := none
  new : Option String := none
  deriving DecidableEq, Repr

structure AddColumn where
  table : Option String := none
  column : Option String := none
  definition : Option String := none
  deriving DecidableEq, Repr

structure DropColumn where
  table : Option String := none
  column : Option String := none
  deriving DecidableEq, Repr

/-- Only MySQL needs the definition. -/
structure RenameColumn where
  table : Option String := none
  old : Option String := none
  new : Option String := none
  definition : Option String := none
  deriving DecidableEq, Repr

structure AlterColumn where
  table : Option String := none
  column : Option String := none
  definition : Option String := none
  deriving DecidableEq, Repr

structure AddIndex where
  table : Option String := none
  columns : List String := []
  name : Option String := none
  type : Option String := none
  deriving DecidableEq, Repr

def AddIndex.isUnique (op : AddIndex) : Bool :=
  op.type.any (Text.sameAscii · "unique")

structure DropIndex where
  table : Option String := none
  name : Option String := none
  deriving DecidableEq, Repr

/-- The other end of a foreign key. -/
structure References where
  table : Option String := none
  columns : List String := []
  deriving DecidableEq, Repr

structure AddForeignKey where
  table : Option String := none
  columns : List String := []
  references : Option References := none
  name : Option String := none
  onDelete : Option String := none
  onUpdate : Option String := none
  deriving DecidableEq, Repr

structure DropForeignKey where
  table : Option String := none
  name : Option String := none
  deriving DecidableEq, Repr

/-- A statement that is sent as it is. -/
structure Raw where
  sql : Option String := none
  params : List SqlValue := []
  deriving DecidableEq, Repr

inductive Operation
  | createTable (op : CreateTable)
  | dropTable (op : DropTable)
  | renameTable (op : RenameTable)
  | addColumn (op : AddColumn)
  | dropColumn (op : DropColumn)
  | renameColumn (op : RenameColumn)
  | alterColumn (op : AlterColumn)
  | addIndex (op : AddIndex)
  | dropIndex (op : DropIndex)
  | addForeignKey (op : AddForeignKey)
  | dropForeignKey (op : DropForeignKey)
  | raw (op : Raw)
  /-- A kind outside the vocabulary. -/
  | unknown (kind : String)
  deriving DecidableEq, Repr

namespace Operation

/-- The name of the operation in a migration file. -/
def kind : Operation → String
  | .createTable _ => "createTable"
  | .dropTable _ => "dropTable"
  | .renameTable _ => "renameTable"
  | .addColumn _ => "addColumn"
  | .dropColumn _ => "dropColumn"
  | .renameColumn _ => "renameColumn"
  | .alterColumn _ => "alterColumn"
  | .addIndex _ => "addIndex"
  | .dropIndex _ => "dropIndex"
  | .addForeignKey _ => "addForeignKey"
  | .dropForeignKey _ => "dropForeignKey"
  | .raw _ => "raw"
  | .unknown kind => kind

/-- The values bound to the statement; only raw statements have any. -/
def params : Operation → List SqlValue
  | .raw op => op.params
  | _ => []

end Operation

end SchemaMigration
