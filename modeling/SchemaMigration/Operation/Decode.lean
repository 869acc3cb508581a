import SchemaMigration.Document.Decode
import SchemaMigration.Operation.Basic

/-!
# Reading operations

An operation is a mapping with one entry, `kind: payload`. A payload is a record;
most of its fields may be absent or null.
-/

namespace SchemaMigration

open Number Document

/-- A number beyond 64 bits is rounded to a double. -/
def SqlValue.decode : Document → Decoded SqlValue
  | .null => .ok .null
  | .boolean b => .ok (.boolean b)
  | .integer n =>
    if n < Nat.pow 2 63 then .ok (.integer n) else .ok (.float (Double.ofNat n.toNat))
  | .float x => .ok (.float x)
  | .text s => .ok (.text s)
  | d => d.wrongType "null, a boolean, a number or a string"

/-- Reads the entries of a mapping of columns; a name may be repeated. -/
def Columns.decodeEntries : List (Option String × Document) → Decoded Columns
  | [] => .ok []
  | (none, _) :: _ => .error .malformed
  | (some name, d) :: rest => do
    let definition ← d.asString
    let columns ← decodeEntries rest
    return (name, definition) :: columns

def Columns.decode : Document → Decoded Columns
  | .mapping entries => decodeEntries entries
  | d => d.wrongType "a map of column names to column definitions"

/-! ## Fields -/

/-- A text that may be absent. -/
def Field.text {α : Type} (name : String) (set : Option String → α → α) : Field α :=
  .orNone name asString set

/-- A name or a list of names. -/
def Field.names {α : Type} (name : String) (set : List String → α → α) : Field α :=
  .orDefault name (asOneOrMany asString) set

/-! ## Payloads -/

section Payloads

variable (format : Format)

def tableOptionsShape : RecordShape Bool where
  name := "TableOptions"
  strict := false
  fields := [.orDefault "timestamps" asBool fun value _ => value]

def decodeTableOptions : Document → Decoded Bool :=
  tableOptionsShape.decode format false

def CreateTable.shape : RecordShape CreateTable where
  name := "CreateTable"
  strict := false
  fields := [
    .text "name" fun value op => { op with name := value },
    .orDefault "columns" Columns.decode fun value op => { op with columns := value },
    .orDefault "options" (decodeTableOptions format) fun value op =>
      { op with timestamps := value }]

def CreateTable.decode : Document → Decoded CreateTable :=
  (CreateTable.shape format).decode format {}

def DropTable.shape : RecordShape DropTable where
  name := "DropTable"
  strict := false
  fields := [.text "name" fun value op => { op with name := value }]

/-- The record form of a dropped table. -/
def DropTable.decodeRecord : Document → Decoded DropTable :=
  DropTable.shape.decode format {}

/-- A bare name or a record, which as a sequence has exactly one item. All misfits
are reported alike. -/
def DropTable.decode (d : Document) : Decoded DropTable :=
  if d.readable then
    let form : Decoded DropTable := match d with
      | .text name => .ok { name := some name }
      | .sequence [item] => decodeRecord format (.sequence [item])
      | .mapping entries => decodeRecord format (.mapping entries)
      | _ => .error .malformed
    form.mapError fun _ => .noVariant "DropTableForm"
  else .error .malformed

def RenameTable.shape : RecordShape RenameTable where
  name := "RenameTable"
  strict := false
  fields := [
    .text "from" fun value op => { op with old := value },
    .text "to" fun value op => { op with new := value }]

def RenameTable.decode : Document → Decoded RenameTable :=
  RenameTable.shape.decode format {}

def AddColumn.shape : RecordShape AddColumn where
  name := "AddColumn"
  strict := false
  fields := [
    .text "table" fun value op => { op with table := value },
    .text "column" fun value op => { op with column := value },
    .text "definition" fun value op => { op with definition := value }]

def AddColumn.decode : Document → Decoded AddColumn :=
  AddColumn.shape.decode format {}

def DropColumn.shape : RecordShape DropColumn where
  name := "DropColumn"
  strict := false
  fields := [
    .text "table" fun value op => { op with table := value },
    .text "column" fun value op => { op with column := value }]

def DropColumn.decode : Document → Decoded DropColumn :=
  DropColumn.shape.decode format {}

def RenameColumn.shape : RecordShape RenameColumn where
  name := "RenameColumn"
  strict := false
  fields := [
    .text "table" fun value op => { op with table := value },
    .text "from" fun value op => { op with old := value },
    .text "to" fun value op => { op with new := value },
    .text "definition" fun value op => { op with definition := value }]

def RenameColumn.decode : Document → Decoded RenameColumn :=
  RenameColumn.shape.decode format {}

def AlterColumn.shape : RecordShape AlterColumn where
  name := "AlterColumn"
  strict := false
  fields := [
    .text "table" fun value op => { op with table := value },
    .text "column" fun value op => { op with column := value },
    .text "definition" fun value op => { op with definition := value }]

def AlterColumn.decode : Document → Decoded AlterColumn :=
  AlterColumn.shape.decode format {}

def AddIndex.shape : RecordShape AddIndex where
  name := "AddIndex"
  strict := false
  fields := [
    .text "table" fun value op => { op with table := value },
    .names "columns" fun value op => { op with columns := value },
    .text "name" fun value op => { op with name := value },
    .text "type" fun value op => { op with type := value }]

def AddIndex.decode : Document → Decoded AddIndex :=
  AddIndex.shape.decode format {}

def DropIndex.shape : RecordShape DropIndex where
  name := "DropIndex"
  strict := false
  fields := [
    .text "table" fun value op => { op with table := value },
    .text "name" fun value op => { op with name := value }]

def DropIndex.decode : Document → Decoded DropIndex :=
  DropIndex.shape.decode format {}

def References.shape : RecordShape References where
  name := "References"
  strict := false
  fields := [
    .text "table" fun value op => { op with table := value },
    .names "columns" fun value op => { op with columns := value }]

def References.decode : Document → Decoded References :=
  References.shape.decode format {}

def AddForeignKey.shape : RecordShape AddForeignKey where
  name := "AddForeignKey"
  strict := false
  fields := [
    .text "table" fun value op => { op with table := value },
    .names "columns" fun value op => { op with columns := value },
    .orNone "references" (References.decode format) fun value op =>
      { op with references := value },
    .text "name" fun value op => { op with name := value },
    .text "onDelete" fun value op => { op with onDelete := value },
    .text "onUpdate" fun value op => { op with onUpdate := value }]

def AddForeignKey.decode : Document → Decoded AddForeignKey :=
  (AddForeignKey.shape format).decode format {}

def DropForeignKey.shape : RecordShape DropForeignKey where
  name := "DropForeignKey"
  strict := false
  fields := [
    .text "table" fun value op => { op with table := value },
    .text "name" fun value op => { op with name := value }]

def DropForeignKey.decode : Document → Decoded DropForeignKey :=
  DropForeignKey.shape.decode format {}

def Raw.shape : RecordShape Raw where
  name := "Raw"
  strict := false
  fields := [
    .text "sql" fun value op => { op with sql := value },
    .orDefault "params" (asList SqlValue.decode) fun value op => { op with params := value }]

def Raw.decode : Document → Decoded Raw :=
  Raw.shape.decode format {}

end Payloads

namespace Operation

/-- Reads the payload of an operation of the given kind. The payload of an unknown
kind is passed over. -/
def decodePayload (format : Format) (kind : String) (d : Document) : Decoded Operation :=
  match kind with
  | "createTable" => (CreateTable.decode format d).map .createTable
  | "dropTable" => (DropTable.decode format d).map .dropTable
  | "renameTable" => (RenameTable.decode format d).map .renameTable
  | "addColumn" => (AddColumn.decode format d).map .addColumn
  | "dropColumn" => (DropColumn.decode format d).map .dropColumn
  | "renameColumn" => (RenameColumn.decode format d).map .renameColumn
  | "alterColumn" => (AlterColumn.decode format d).map .alterColumn
  | "addIndex" => (AddIndex.decode format d).map .addIndex
  | "dropIndex" => (DropIndex.decode format d).map .dropIndex
  | "addForeignKey" => (AddForeignKey.decode format d).map .addForeignKey
  | "dropForeignKey" => (DropForeignKey.decode format d).map .dropForeignKey
  | "raw" => (Raw.decode format d).map .raw
  | kind => d.skip.map fun _ => .unknown kind

def decode (format : Format) : Document → Decoded Operation
  | .mapping [] => .error .emptyOperation
  | .mapping ((none, _) :: _) => .error .malformed
  | .mapping ((some kind, payload) :: rest) => do
    let op ← decodePayload format kind payload
    match rest with
    | [] => return op
    | (none, _) :: _ => .error .malformed
    | (some extra, _) :: _ => .error (.secondOperation kind extra)
  | d => d.wrongType "a map with a single operation key such as `createTable`"

end Operation

end SchemaMigration
