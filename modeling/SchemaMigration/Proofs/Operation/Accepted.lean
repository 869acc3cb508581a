import SchemaMigration.Proofs.Document.Record
import SchemaMigration.Proofs.Operation.Written

/-!
# Which entries are operations

An entry is an operation exactly if it is a mapping with one key. A key outside the vocabulary
takes any value; a key of the vocabulary takes the payload of its operation, which is a record
of the fields of its shape.
-/

namespace SchemaMigration

open Document

namespace Operation

/-- What a key and its value stand for. -/
inductive Reads (format : Format) : String → Document → Operation → Prop
  | createTable {d op} : CreateTable.decode format d = .ok op →
      Reads format "createTable" d (.createTable op)
  | dropTable {d op} : DropTable.decode format d = .ok op → Reads format "dropTable" d (.dropTable op)
  | renameTable {d op} : RenameTable.decode format d = .ok op →
      Reads format "renameTable" d (.renameTable op)
  | addColumn {d op} : AddColumn.decode format d = .ok op → Reads format "addColumn" d (.addColumn op)
  | dropColumn {d op} : DropColumn.decode format d = .ok op →
      Reads format "dropColumn" d (.dropColumn op)
  | renameColumn {d op} : RenameColumn.decode format d = .ok op →
      Reads format "renameColumn" d (.renameColumn op)
  | alterColumn {d op} : AlterColumn.decode format d = .ok op →
      Reads format "alterColumn" d (.alterColumn op)
  | addIndex {d op} : AddIndex.decode format d = .ok op → Reads format "addIndex" d (.addIndex op)
  | dropIndex {d op} : DropIndex.decode format d = .ok op → Reads format "dropIndex" d (.dropIndex op)
  | addForeignKey {d op} : AddForeignKey.decode format d = .ok op →
      Reads format "addForeignKey" d (.addForeignKey op)
  | dropForeignKey {d op} : DropForeignKey.decode format d = .ok op →
      Reads format "dropForeignKey" d (.dropForeignKey op)
  | raw {d op} : Raw.decode format d = .ok op → Reads format "raw" d (.raw op)
  /-- The value only has to be well-formed. -/
  | unknown {kind d} : kind ∉ vocabulary → d.intact = true → Reads format kind d (.unknown kind)

variable {format : Format} {kind : String} {payload d : Document} {op : Operation}

theorem Reads.decodePayload (h : Reads format kind payload op) :
    decodePayload format kind payload = .ok op := by
  cases h with
  | unknown hkind hintact => exact decodePayload_unknown hkind hintact
  | _ hpayload => exact map_eq_ok.mpr ⟨_, hpayload, rfl⟩

theorem reads_of_decodePayload (h : decodePayload format kind payload = .ok op) :
    Reads format kind payload op := by
  unfold Operation.decodePayload at h
  split at h
  -- The last branch takes what is outside the vocabulary.
  case h_13 =>
    obtain ⟨_, hskip, rfl⟩ := map_eq_ok.mp h
    refine .unknown ?_ ?_
    · simp only [vocabulary, List.mem_cons, List.not_mem_nil, or_false, not_or]
      tauto
    · unfold skip at hskip
      split at hskip
      · assumption
      · simp at hskip
  all_goals
    obtain ⟨_, hpayload, rfl⟩ := map_eq_ok.mp h
    constructor
    exact hpayload

/-- A mapping with one key, and with a value for it. -/
def IsEntry (format : Format) (op : Operation) (d : Document) : Prop :=
  ∃ kind payload, d = .mapping [(some kind, payload)] ∧ Reads format kind payload op

theorem decode_eq_ok_iff : decode format d = .ok op ↔ IsEntry format op d := by
  constructor
  · intro h
    unfold decode at h
    split at h
    · simp at h
    · simp at h
    · next kind payload rest =>
      obtain ⟨found, hpayload, h⟩ := bind_eq_ok.mp h
      cases rest with
      | nil =>
        obtain rfl : found = op := Except.ok.inj h
        exact ⟨kind, payload, rfl, reads_of_decodePayload hpayload⟩
      | cons extra rest =>
        obtain ⟨_ | key, value⟩ := extra
        · simp at h
        · simp at h
    · obtain ⟨_, -, h⟩ := bind_eq_ok.mp h
      simp at h
  · rintro ⟨kind, payload, rfl, hreads⟩
    exact bind_eq_ok.mpr ⟨op, hreads.decodePayload, rfl⟩

end Operation

/-! ## Payloads -/

@[simp] theorem Field.isPlain_text {α : Type} {name : String} (set : Option String → α → α) :
    (Field.text name set).IsPlain :=
  Field.isPlain_orNone set

@[simp] theorem Field.isPlain_names {α : Type} {name : String} (set : List String → α → α) :
    (Field.names name set).IsPlain :=
  Field.isPlain_orDefault set

/-- A dropped table is its bare name, or a record, which as a sequence has one item; and nothing in
the record is without a value, not even what no field asks for. -/
def DropTable.Takes (format : Format) (d : Document) : Prop :=
  d.readable = true ∧ ((∃ name, d = .text name) ∨
    DropTable.shape.Takes format d ∧ ∀ items, d = .sequence items → items.length = 1)

theorem DropTable.decode_ok_iff {format : Format} {d : Document} :
    (∃ op, DropTable.decode format d = .ok op) ↔ DropTable.Takes format d := by
  have hrecord (d : Document) : (∃ op, DropTable.decodeRecord format d = .ok op) ↔
      DropTable.shape.Takes format d :=
    RecordShape.decode_ok_iff (by simp [DropTable.shape])
  unfold DropTable.decode DropTable.Takes
  cases d.readable with
  | false => simp
  | true =>
    simp only [if_true, true_and, mapError_eq_ok]
    split
    · simp
    · simp [hrecord]
    · simp [hrecord]
    · next hnoText hnoItem hnoMapping =>
      refine iff_of_false (by simp) ?_
      rintro (⟨name, rfl⟩ | ⟨htakes, hone⟩)
      · exact hnoText name rfl
      · cases d with
        | mapping entries => exact hnoMapping entries rfl
        | sequence items =>
          obtain ⟨item, rfl⟩ := List.length_eq_one_iff.mp (hone items rfl)
          exact hnoItem item rfl
        | _ => exact htakes

namespace Operation

variable {format : Format} {kind : String} {d : Document}

/-- The values that an operation of the kind takes for its payload. -/
def TakesPayload (format : Format) : String → Document → Prop
  | "createTable" => (CreateTable.shape format).Takes format
  | "dropTable" => DropTable.Takes format
  | "renameTable" => RenameTable.shape.Takes format
  | "addColumn" => AddColumn.shape.Takes format
  | "dropColumn" => DropColumn.shape.Takes format
  | "renameColumn" => RenameColumn.shape.Takes format
  | "alterColumn" => AlterColumn.shape.Takes format
  | "addIndex" => AddIndex.shape.Takes format
  | "dropIndex" => DropIndex.shape.Takes format
  | "addForeignKey" => (AddForeignKey.shape format).Takes format
  | "dropForeignKey" => DropForeignKey.shape.Takes format
  | "raw" => Raw.shape.Takes format
  | _ => (·.intact = true)

theorem decodePayload_ok_iff : (∃ op, decodePayload format kind d = .ok op) ↔
    TakesPayload format kind d := by
  have hmap {α : Type} {x : Decoded α} {make : α → Operation} :
      (∃ op, x.map make = .ok op) ↔ ∃ a, x = .ok a := by
    simp [map_eq_ok]
  have hshape {α : Type} {shape : RecordShape α} {blank : α} {make : α → Operation}
      (hplain : ∀ f ∈ shape.fields, f.IsPlain) :
      (∃ op, (shape.decode format blank d).map make = .ok op) ↔ shape.Takes format d :=
    hmap.trans (RecordShape.decode_ok_iff hplain)
  unfold decodePayload TakesPayload
  split
  case h_2 => exact hmap.trans DropTable.decode_ok_iff
  case h_13 =>
    -- What is outside the vocabulary is passed over.
    rw [hmap]
    unfold skip
    cases hintact : d.intact <;> simp [hintact]
  all_goals
    refine hshape ?_
    simp [CreateTable.shape, RenameTable.shape, AddColumn.shape, DropColumn.shape, RenameColumn.shape,
      AlterColumn.shape, AddIndex.shape, DropIndex.shape, AddForeignKey.shape, DropForeignKey.shape,
      Raw.shape]

/-- Which values are taken for operations, told by the fields of their payloads. -/
theorem decode_ok_iff : (∃ op, decode format d = .ok op) ↔
    ∃ kind payload, d = .mapping [(some kind, payload)] ∧ TakesPayload format kind payload := by
  constructor
  · rintro ⟨op, h⟩
    obtain ⟨kind, payload, rfl, hreads⟩ := decode_eq_ok_iff.mp h
    exact ⟨kind, payload, rfl, decodePayload_ok_iff.mp ⟨op, hreads.decodePayload⟩⟩
  · rintro ⟨kind, payload, rfl, htakes⟩
    obtain ⟨op, hpayload⟩ := decodePayload_ok_iff.mpr htakes
    exact ⟨op, decode_eq_ok_iff.mpr ⟨kind, payload, rfl, reads_of_decodePayload hpayload⟩⟩

end Operation

end SchemaMigration
