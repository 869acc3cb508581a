import SchemaMigration.Migration.Basic
import SchemaMigration.Proofs.Operation.Written

/-!
# How migrations are written

Reading a migration file undoes writing it, whichever of the equal spellings was chosen: the
order of keys, what is left out, and lists of one in their short form.
-/

namespace SchemaMigration.Migration

open Document RecordShape

variable {m : Migration}

/-- Both directions as lists of operations. Only the way back may be left out. -/
def Written (m : Migration) : Document → Prop :=
  IsObject [
    ("up", Required (OneOrMany Operation.Written) m.up),
    ("down", Defaulted [] (OneOrMany Operation.Written) m.down)]

def Expressible (m : Migration) : Prop :=
  (∀ op ∈ m.up, op.Expressible) ∧ ∀ op ∈ m.down, op.Expressible

theorem roundTrips_operations (format : Format) {ops : List Operation}
    (h : ∀ op ∈ ops, op.Expressible) :
    RoundTrips (OneOrMany Operation.Written ops) (asOneOrMany (Operation.decode format)) ops :=
  roundTrips_oneOrMany (fun _ _ _ hd => hd.isBare) fun op hop => Operation.roundTrips (h op hop)

theorem roundTrips (format : Format) (h : m.Expressible) :
    RoundTrips m.Written (decode format m.id) m := by
  have hup := roundTrips_operations format h.1
  have hdown := roundTrips_operations format h.2
  exact roundTrips_object (.cons (.required hup) <| .cons (.orDefault hdown rfl) .nil)
    (by simp) (by simp) rfl

theorem parse_json {d : Document} {id source : String} (hread : Json.read source = (d, true))
    (hdecode : decode .json id d = .ok m) : parse .json id source = .ok m := by
  have hjson : Format.json.decode (decode .json id) source = .ok m := by
    unfold Format.decode Json.decode
    rw [hread]
    exact bind_eq_ok.mpr ⟨m, hdecode, rfl⟩
  unfold parse
  rw [hjson]
  rfl

/-- A migration can be written down, and each way of writing it gives the migration back, with
its operations and their columns in order. -/
theorem parse_undoes_writing (h : m.Expressible) :
    (∃ d, m.Written d) ∧ ∀ d, m.Written d →
      (∀ format, decode format m.id d = .ok m) ∧
        ∀ source, Json.read source = (d, true) → parse .json m.id source = .ok m := by
  refine ⟨(roundTrips .json h).exists_written, fun d hd => ?_⟩
  have hdecode (format : Format) : decode format m.id d = .ok m := (roundTrips format h).reads d hd
  exact ⟨hdecode, fun source hread => parse_json hread (hdecode .json)⟩

/-- Two columns of one name, lists of one, and a value of each kind. -/
def notes : Migration where
  id := "lipgrade_1.json"
  up := [
    .createTable {
      name := some "notes"
      columns := [("text", "string"), ("author", "integer"), ("text", "text")]
      timestamps := true },
    .addForeignKey {
      table := some "notes"
      columns := ["author"]
      references := some { table := some "users", columns := ["id"] } },
    .raw { params := [.null, .boolean true, .integer (-1), .float (.ofRatio false 3 2), .text "x"] },
    .unknown "vacuum"]
  down := [.dropTable { name := some "notes" }]

/-- The keys of `notes` stand in reverse. -/
def notesReversed : Document :=
  .mapping [
    (some "down", .mapping [(some "dropTable", .text "notes")]),
    (some "up", .sequence [
      .mapping [(some "createTable", .mapping [
        (some "options", .mapping [(some "timestamps", .boolean true)]),
        (some "columns", .mapping [
          (some "text", .text "string"), (some "author", .text "integer"),
          (some "text", .text "text")]),
        (some "name", .text "notes")])],
      .mapping [(some "addForeignKey", .mapping [
        (some "onDelete", .null),
        (some "references", .mapping [
          (some "columns", .text "id"), (some "table", .text "users")]),
        (some "columns", .sequence [.text "author"]),
        (some "table", .text "notes")])],
      .mapping [(some "raw", .mapping [
        (some "params", .sequence [
          .null, .boolean true, .integer (-1), .float (.ofRatio false 3 2), .text "x"])])],
      .mapping [(some "vacuum", .sequence [])]])]

def dropping : Migration where
  id := "lipgrade_2.json"
  up := [.dropTable { name := some "notes" }]

theorem parse_undoes_writing_notes :
    notes.Expressible ∧ notes.Written notesReversed ∧
      (∀ format, decode format notes.id notesReversed = .ok notes) ∧
      parse .json dropping.id "\x7b\"up\": \x7b\"dropTable\": \"notes\"\x7d\x7d" =
        .ok dropping := by
  have hnotes : notes.Expressible := by
    simp [Expressible, notes, Operation.Expressible, SqlValue.Expressible, Operation.vocabulary]
  have hdropping : dropping.Expressible := by
    simp [Expressible, dropping, Operation.Expressible]
  have hdown : OneOrMany Operation.Written [.dropTable { name := some "notes" }]
      (.mapping [(some "dropTable", .text "notes")]) :=
    .inr ⟨_, rfl, _, .inl ⟨_, rfl, rfl⟩, rfl⟩
  have hoptions : TableOptions.Written true (.mapping [(some "timestamps", .boolean true)]) :=
    ⟨_, _, .given rfl .nil, .refl _, rfl⟩
  have hreferences : References.Written { table := some "users", columns := ["id"] }
      (.mapping [(some "columns", .text "id"), (some "table", .text "users")]) :=
    ⟨_, _, .given ⟨_, rfl, rfl⟩ (.given (.inr ⟨_, rfl, rfl⟩) .nil), .swap _ _ _, rfl⟩
  have hwritten : notes.Written notesReversed := by
    refine ⟨_, _, .given (.inl ⟨_, rfl, .cons ?create <| .cons ?key <| .cons ?raw <|
      .cons ?vacuum .nil⟩) (.given hdown .nil), .swap _ _ _, rfl⟩
    case create =>
      exact ⟨_, ⟨_, _, .given ⟨_, rfl, rfl⟩ <| .given rfl <| .given hoptions .nil,
        List.reverse_perm _, rfl⟩, rfl⟩
    case key =>
      have hcolumns : Items IsText ["author"] (.sequence [.text "author"]) :=
        ⟨_, rfl, .cons rfl .nil⟩
      exact ⟨_, ⟨_, _, .given ⟨_, rfl, rfl⟩ <| .given (.inl hcolumns) <|
        .given ⟨_, rfl, hreferences⟩ <| .omitted (.inl rfl) <| .given (.inr rfl) <|
        .omitted (.inl rfl) .nil, List.reverse_perm _, rfl⟩, rfl⟩
    case raw =>
      exact ⟨_, ⟨_, _, .omitted (.inl rfl) <| .given ⟨_, rfl, .cons rfl <| .cons rfl <|
        .cons rfl <| .cons rfl <| .cons rfl .nil⟩ .nil, .refl _, rfl⟩, rfl⟩
    case vacuum => exact ⟨_, rfl, rfl⟩
  have hread : Json.read "\x7b\"up\": \x7b\"dropTable\": \"notes\"\x7d\x7d" =
      (.mapping [(some "up", .mapping [(some "dropTable", .text "notes")])], true) := by
    with_unfolding_all rfl
  obtain ⟨-, hback⟩ := parse_undoes_writing hnotes
  obtain ⟨-, hparsed⟩ := parse_undoes_writing hdropping
  refine ⟨hnotes, hwritten, (hback _ hwritten).1, (hparsed _ ?_).2 _ hread⟩
  exact ⟨_, _, .given hdown (.omitted rfl .nil), .refl _, rfl⟩

end SchemaMigration.Migration
