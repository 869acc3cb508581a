import SchemaMigration.Operation.Decode
import SchemaMigration.Proofs.Document.Object

/-!
# How operations are written

Every payload is an object with a fixed table of fields, and an operation is a mapping from
its kind to its payload. The tables name the fields on their own account, so that a field
which is read under another name, or not kept, shows in the proofs.
-/

namespace SchemaMigration

open Document RecordShape

/-! ## Fields -/

section Fields

variable {α β : Type} {name : String} {blank : α}

theorem RecordShape.Fit.text {set : Option String → α → α} {value : Option String}
    (hblank : set none blank = blank) :
    Fit blank (.text name set) (name, Optional IsText value) (set value) :=
  .orNone (fun s _ => roundTrips_text s) (by simp [asString, wrongType, found, bind, Except.bind])
    hblank

theorem RecordShape.Fit.names {set : List String → α → α} {value : List String}
    (hblank : set [] blank = blank) :
    Fit blank (.names name set) (name, Defaulted [] (OneOrMany IsText) value) (set value) := by
  refine .orDefault (roundTrips_oneOrMany ?_ fun s _ => roundTrips_text s) hblank
  rintro s - _ rfl
  trivial

end Fields

/-! ## Payloads -/

/-- A mapping from names to definitions, in the order of the columns. -/
def Columns.Written (columns : Columns) (d : Document) : Prop :=
  d = .mapping (columns.map fun (name, definition) => (some name, .text definition))

def TableOptions.Written (timestamps : Bool) : Document → Prop :=
  IsObject [("timestamps", Defaulted false IsBoolean timestamps)]

def CreateTable.Written (op : CreateTable) : Document → Prop :=
  IsObject [
    ("name", Optional IsText op.name),
    ("columns", Defaulted [] Columns.Written op.columns),
    ("options", Defaulted false TableOptions.Written op.timestamps)]

/-- A bare name will do where there is one. -/
def DropTable.Written (op : DropTable) (d : Document) : Prop :=
  (∃ name, op.name = some name ∧ IsText name d) ∨ IsObject [("name", Optional IsText op.name)] d

def RenameTable.Written (op : RenameTable) : Document → Prop :=
  IsObject [
    ("from", Optional IsText op.old),
    ("to", Optional IsText op.new)]

def AddColumn.Written (op : AddColumn) : Document → Prop :=
  IsObject [
    ("table", Optional IsText op.table),
    ("column", Optional IsText op.column),
    ("definition", Optional IsText op.definition)]

def DropColumn.Written (op : DropColumn) : Document → Prop :=
  IsObject [
    ("table", Optional IsText op.table),
    ("column", Optional IsText op.column)]

def RenameColumn.Written (op : RenameColumn) : Document → Prop :=
  IsObject [
    ("table", Optional IsText op.table),
    ("from", Optional IsText op.old),
    ("to", Optional IsText op.new),
    ("definition", Optional IsText op.definition)]

def AlterColumn.Written (op : AlterColumn) : Document → Prop :=
  IsObject [
    ("table", Optional IsText op.table),
    ("column", Optional IsText op.column),
    ("definition", Optional IsText op.definition)]

def AddIndex.Written (op : AddIndex) : Document → Prop :=
  IsObject [
    ("table", Optional IsText op.table),
    ("columns", Defaulted [] (OneOrMany IsText) op.columns),
    ("name", Optional IsText op.name),
    ("type", Optional IsText op.type)]

def DropIndex.Written (op : DropIndex) : Document → Prop :=
  IsObject [
    ("table", Optional IsText op.table),
    ("name", Optional IsText op.name)]

def References.Written (op : References) : Document → Prop :=
  IsObject [
    ("table", Optional IsText op.table),
    ("columns", Defaulted [] (OneOrMany IsText) op.columns)]

def AddForeignKey.Written (op : AddForeignKey) : Document → Prop :=
  IsObject [
    ("table", Optional IsText op.table),
    ("columns", Defaulted [] (OneOrMany IsText) op.columns),
    ("references", Optional References.Written op.references),
    ("name", Optional IsText op.name),
    ("onDelete", Optional IsText op.onDelete),
    ("onUpdate", Optional IsText op.onUpdate)]

def DropForeignKey.Written (op : DropForeignKey) : Document → Prop :=
  IsObject [
    ("table", Optional IsText op.table),
    ("name", Optional IsText op.name)]

def SqlValue.Written : SqlValue → Document → Prop
  | .null, d => d = .null
  | .boolean b, d => d = .boolean b
  | .integer n, d => d = .integer n
  | .float x, d => d = .float x
  | .text s, d => d = .text s

def Raw.Written (op : Raw) : Document → Prop :=
  IsObject [
    ("sql", Optional IsText op.sql),
    ("params", Defaulted [] (Items SqlValue.Written) op.params)]

/-! ## Reading them back -/

section Payloads

variable (format : Format)

theorem Columns.decodeEntries_map (columns : Columns) :
    decodeEntries (columns.map fun (name, definition) => (some name, .text definition)) =
      .ok columns := by
  induction columns with
  | nil => rfl
  | cons column rest ih =>
    rw [List.map_cons, decodeEntries, ih]
    rfl

theorem Columns.roundTrips (columns : Columns) :
    RoundTrips columns.Written Columns.decode columns where
  exists_written := ⟨_, rfl⟩
  reads := by
    rintro _ rfl
    exact decodeEntries_map columns

theorem TableOptions.roundTrips (timestamps : Bool) :
    RoundTrips (Written timestamps) (decodeTableOptions format) timestamps :=
  roundTrips_object (.cons (.orDefault (roundTrips_boolean timestamps) rfl) .nil)
    (by simp) (by simp) rfl

theorem CreateTable.roundTrips (op : CreateTable) :
    RoundTrips op.Written (CreateTable.decode format) op := by
  have hcolumns := Columns.roundTrips op.columns
  have hoptions := TableOptions.roundTrips format op.timestamps
  exact roundTrips_object
    (.cons (.text rfl) <| .cons (.orDefault hcolumns rfl) <| .cons (.orDefault hoptions rfl) .nil)
    (by simp) (by simp) rfl

theorem DropTable.roundTrips (op : DropTable) :
    RoundTrips op.Written (DropTable.decode format) op := by
  have hrecord : RoundTrips (IsObject [("name", Optional IsText op.name)])
      (decodeRecord format) op :=
    roundTrips_object (.cons (.text rfl) .nil) (by simp) (by simp) rfl
  refine ⟨hrecord.exists_written.imp fun d hd => .inr hd, ?_⟩
  rintro d (⟨name, hname, rfl⟩ | hd)
  · obtain ⟨_⟩ := op
    obtain rfl : _ = some name := hname
    rfl
  · have hreadable : d.readable := by
      refine hd.readable fun f hf value hvalue => ?_
      obtain rfl := List.mem_singleton.mp hf
      refine Optional.readable hvalue ?_
      rintro s _ rfl
      rfl
    have hread := hrecord.reads d hd
    obtain ⟨_, entries, -, -, rfl⟩ := hd
    unfold DropTable.decode
    rw [if_pos hreadable]
    simp only [hread]
    rfl

theorem RenameTable.roundTrips (op : RenameTable) :
    RoundTrips op.Written (RenameTable.decode format) op :=
  roundTrips_object (.cons (.text rfl) <| .cons (.text rfl) .nil) (by simp) (by simp) rfl

theorem AddColumn.roundTrips (op : AddColumn) :
    RoundTrips op.Written (AddColumn.decode format) op :=
  roundTrips_object (.cons (.text rfl) <| .cons (.text rfl) <| .cons (.text rfl) .nil)
    (by simp) (by simp) rfl

theorem DropColumn.roundTrips (op : DropColumn) :
    RoundTrips op.Written (DropColumn.decode format) op :=
  roundTrips_object (.cons (.text rfl) <| .cons (.text rfl) .nil) (by simp) (by simp) rfl

theorem RenameColumn.roundTrips (op : RenameColumn) :
    RoundTrips op.Written (RenameColumn.decode format) op :=
  roundTrips_object
    (.cons (.text rfl) <| .cons (.text rfl) <| .cons (.text rfl) <| .cons (.text rfl) .nil)
    (by simp) (by simp) rfl

theorem AlterColumn.roundTrips (op : AlterColumn) :
    RoundTrips op.Written (AlterColumn.decode format) op :=
  roundTrips_object (.cons (.text rfl) <| .cons (.text rfl) <| .cons (.text rfl) .nil)
    (by simp) (by simp) rfl

theorem AddIndex.roundTrips (op : AddIndex) :
    RoundTrips op.Written (AddIndex.decode format) op :=
  roundTrips_object
    (.cons (.text rfl) <| .cons (.names rfl) <| .cons (.text rfl) <| .cons (.text rfl) .nil)
    (by simp) (by simp) rfl

theorem DropIndex.roundTrips (op : DropIndex) :
    RoundTrips op.Written (DropIndex.decode format) op :=
  roundTrips_object (.cons (.text rfl) <| .cons (.text rfl) .nil) (by simp) (by simp) rfl

theorem References.roundTrips (op : References) :
    RoundTrips op.Written (References.decode format) op :=
  roundTrips_object (.cons (.text rfl) <| .cons (.names rfl) .nil) (by simp) (by simp) rfl

theorem AddForeignKey.roundTrips (op : AddForeignKey) :
    RoundTrips op.Written (AddForeignKey.decode format) op := by
  have hreferences (r : References) (_ : op.references = some r) := References.roundTrips format r
  have hnull (r : References) : References.decode format .null ≠ .ok r := by
    simp [References.decode, RecordShape.decode, wrongType, found, bind, Except.bind]
  exact roundTrips_object
    (.cons (.text rfl) <| .cons (.names rfl) <| .cons (.orNone hreferences hnull rfl) <|
      .cons (.text rfl) <| .cons (.text rfl) <| .cons (.text rfl) .nil)
    (by simp) (by simp) rfl

theorem DropForeignKey.roundTrips (op : DropForeignKey) :
    RoundTrips op.Written (DropForeignKey.decode format) op :=
  roundTrips_object (.cons (.text rfl) <| .cons (.text rfl) .nil) (by simp) (by simp) rfl

/-- Whether a value is one that a parameter can have: integers have 64 bits. -/
def SqlValue.Expressible : SqlValue → Prop
  | .integer n => -Nat.pow 2 63 ≤ n ∧ n < Nat.pow 2 63
  | _ => True

theorem SqlValue.roundTrips {value : SqlValue} (h : value.Expressible) :
    RoundTrips value.Written SqlValue.decode value := by
  cases value with
  | integer n =>
    have hfits : n < Nat.pow 2 63 := h.2
    refine ⟨⟨_, rfl⟩, ?_⟩
    rintro _ rfl
    rw [SqlValue.decode, if_pos hfits]
  | null | boolean | float | text =>
    refine ⟨⟨_, rfl⟩, ?_⟩
    rintro _ rfl
    rfl

theorem Raw.roundTrips {op : Raw} (h : ∀ value ∈ op.params, value.Expressible) :
    RoundTrips op.Written (Raw.decode format) op := by
  have hparams := roundTrips_items fun value hvalue => SqlValue.roundTrips (h value hvalue)
  exact roundTrips_object (.cons (.text rfl) <| .cons (.orDefault hparams rfl) .nil)
    (by simp) (by simp) rfl

end Payloads

/-! ## Operations -/

namespace Operation

def Tagged (kind : String) (payload : Document → Prop) (d : Document) : Prop :=
  ∃ value, payload value ∧ d = .mapping [(some kind, value)]

/-- The payload of an unknown kind is any value. -/
def Written : Operation → Document → Prop
  | .createTable op => Tagged "createTable" op.Written
  | .dropTable op => Tagged "dropTable" op.Written
  | .renameTable op => Tagged "renameTable" op.Written
  | .addColumn op => Tagged "addColumn" op.Written
  | .dropColumn op => Tagged "dropColumn" op.Written
  | .renameColumn op => Tagged "renameColumn" op.Written
  | .alterColumn op => Tagged "alterColumn" op.Written
  | .addIndex op => Tagged "addIndex" op.Written
  | .dropIndex op => Tagged "dropIndex" op.Written
  | .addForeignKey op => Tagged "addForeignKey" op.Written
  | .dropForeignKey op => Tagged "dropForeignKey" op.Written
  | .raw op => Tagged "raw" op.Written
  | .unknown kind => Tagged kind (·.intact)

def vocabulary : List String :=
  ["createTable", "dropTable", "renameTable", "addColumn", "dropColumn", "renameColumn",
    "alterColumn", "addIndex", "dropIndex", "addForeignKey", "dropForeignKey", "raw"]

/-- Whether an operation can stand in a migration at all. -/
def Expressible : Operation → Prop
  | .raw op => ∀ value ∈ op.params, value.Expressible
  | .unknown kind => kind ∉ vocabulary
  | _ => True

variable {format : Format}

theorem Written.isBare {op : Operation} {d : Document} (h : op.Written d) : d.IsBare := by
  cases op <;> obtain ⟨_, -, rfl⟩ := h <;> trivial

theorem decodePayload_unknown {kind : String} {d : Document} (hkind : kind ∉ vocabulary)
    (hd : d.intact) : decodePayload format kind d = .ok (.unknown kind) := by
  unfold decodePayload
  split
  case h_13 =>
    rw [Document.skip, if_pos hd]
    rfl
  all_goals exact absurd (by decide) hkind

theorem roundTrips_tagged {α : Type} {kind : String} {payload : Document → Prop}
    {read : Document → Decoded α} {a : α} {make : α → Operation} (h : RoundTrips payload read a)
    (hkind : ∀ d, decodePayload format kind d = (read d).map make) :
    RoundTrips (Tagged kind payload) (decode format) (make a) where
  exists_written := by
    obtain ⟨value, hvalue⟩ := h.exists_written
    exact ⟨_, value, hvalue, rfl⟩
  reads := by
    rintro _ ⟨value, hvalue, rfl⟩
    rw [decode, hkind, h.reads value hvalue]
    rfl

theorem roundTrips {op : Operation} (h : op.Expressible) :
    RoundTrips op.Written (decode format) op := by
  cases op with
  | createTable op => exact roundTrips_tagged (CreateTable.roundTrips format op) fun _ => rfl
  | dropTable op => exact roundTrips_tagged (DropTable.roundTrips format op) fun _ => rfl
  | renameTable op => exact roundTrips_tagged (RenameTable.roundTrips format op) fun _ => rfl
  | addColumn op => exact roundTrips_tagged (AddColumn.roundTrips format op) fun _ => rfl
  | dropColumn op => exact roundTrips_tagged (DropColumn.roundTrips format op) fun _ => rfl
  | renameColumn op => exact roundTrips_tagged (RenameColumn.roundTrips format op) fun _ => rfl
  | alterColumn op => exact roundTrips_tagged (AlterColumn.roundTrips format op) fun _ => rfl
  | addIndex op => exact roundTrips_tagged (AddIndex.roundTrips format op) fun _ => rfl
  | dropIndex op => exact roundTrips_tagged (DropIndex.roundTrips format op) fun _ => rfl
  | addForeignKey op => exact roundTrips_tagged (AddForeignKey.roundTrips format op) fun _ => rfl
  | dropForeignKey op => exact roundTrips_tagged (DropForeignKey.roundTrips format op) fun _ => rfl
  | raw op => exact roundTrips_tagged (Raw.roundTrips format h) fun _ => rfl
  | unknown kind =>
    refine ⟨⟨_, .null, rfl, rfl⟩, ?_⟩
    rintro _ ⟨value, hvalue, rfl⟩
    rw [decode, decodePayload_unknown h hvalue]
    rfl

end Operation

end SchemaMigration
