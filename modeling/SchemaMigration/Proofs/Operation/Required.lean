import SchemaMigration.Proofs.Fallible
import SchemaMigration.Proofs.Text.Blank
import SchemaMigration.Sql.Statement

/-!
# Fields that an operation must have

An operation that a dialect knows is refused for missing fields exactly when one of those it must
have is empty. All of them are told, in order, before any column definition is read.
-/

namespace SchemaMigration

open Text Sql

namespace Operation

/-! ## What is missing -/

/-- What a field of an operation holds. -/
inductive Content
  | text (value : Option String)
  | list (values : List String)

/-- A text is missing where it is absent or blank, a list where it is empty. -/
def Content.Missing : Content → Prop
  | .text none => True
  | .text (some s) => ∀ c ∈ s.toList, isBlank c = true
  | .list values => values = []

instance : DecidablePred Content.Missing
  | .text none => .isTrue trivial
  | .text (some s) => List.decidableBAll (fun c => isBlank c = true) s.toList
  | .list values => inferInstanceAs (Decidable (values = []))

@[simp] theorem missing_list (values : List String) : (Content.list values).Missing ↔ values = [] :=
  Iff.rfl

/-- The fields of an operation by name. What it refers to has fields of its own; they are empty
where there is no reference. -/
def contents : Operation → List (String × Content)
  | .createTable op => [("name", .text op.name), ("columns", .list (op.columns.map (·.1)))]
  | .dropTable op => [("name", .text op.name)]
  | .renameTable op => [("from", .text op.old), ("to", .text op.new)]
  | .addColumn op =>
    [("table", .text op.table), ("column", .text op.column), ("definition", .text op.definition)]
  | .dropColumn op => [("table", .text op.table), ("column", .text op.column)]
  | .renameColumn op =>
    [("table", .text op.table), ("from", .text op.old), ("to", .text op.new),
      ("definition", .text op.definition)]
  | .alterColumn op =>
    [("table", .text op.table), ("column", .text op.column), ("definition", .text op.definition)]
  | .addIndex op =>
    [("table", .text op.table), ("columns", .list op.columns), ("name", .text op.name),
      ("type", .text op.type)]
  | .dropIndex op => [("table", .text op.table), ("name", .text op.name)]
  | .addForeignKey op =>
    [("table", .text op.table), ("columns", .list op.columns), ("name", .text op.name),
      ("references.table", .text (op.references.bind (·.table))),
      ("references.columns", .list (op.references.elim [] (·.columns))),
      ("onDelete", .text op.onDelete), ("onUpdate", .text op.onUpdate)]
  | .dropForeignKey op => [("table", .text op.table), ("name", .text op.name)]
  | .raw op => [("sql", .text op.sql)]
  | .unknown _ => []

def Lacks (op : Operation) (field : String) : Prop :=
  ∃ entry ∈ op.contents, entry.1 = field ∧ entry.2.Missing

instance (op : Operation) : DecidablePred op.Lacks := fun field =>
  inferInstanceAs (Decidable (∃ entry ∈ op.contents, entry.1 = field ∧ entry.2.Missing))

/-- The fields that must be there, in the order in which they are told. -/
def required (dialect : Dialect) : Operation → List String
  | .createTable _ => ["name", "columns"]
  | .dropTable _ => ["name"]
  | .renameTable _ => ["from", "to"]
  | .addColumn _ => ["table", "column", "definition"]
  | .dropColumn _ => ["table", "column"]
  | .renameColumn _ => ["table", "from", "to"] ++ if dialect = .mysql then ["definition"] else []
  | .alterColumn _ => ["table", "column", "definition"]
  | .addIndex _ => ["table", "columns", "name"]
  | .dropIndex _ => (if dialect = .mysql then ["table"] else []) ++ ["name"]
  | .addForeignKey _ => ["table", "columns", "name", "references.table", "references.columns"]
  | .dropForeignKey _ => ["table", "name"]
  | .raw _ => ["sql"]
  | .unknown _ => []

/-- What a dialect can do. SQLite neither alters columns nor adds or drops foreign keys. -/
def Available (dialect : Dialect) : Operation → Prop
  | .alterColumn _ | .addForeignKey _ | .dropForeignKey _ => dialect ≠ .sqlite
  | .unknown _ => False
  | _ => True

/-- The column definitions that are read for the statement. -/
def definitions (dialect : Dialect) : Operation → List String
  | .createTable op => op.columns.map (·.2)
  | .addColumn op => [fieldText op.definition]
  | .renameColumn op => if dialect = .mysql then [fieldText op.definition] else []
  | .alterColumn op => [fieldText op.definition]
  | _ => []

/-- The definition cannot be read, or the dialect does not know its type. -/
def Misdefined (dialect : Dialect) (definition : String) (e : MigrationError) : Prop :=
  (∃ cause, ColumnDef.parse definition = .error cause ∧ e = .invalidColumn definition cause) ∨
    ∃ c, ColumnDef.parse definition = .ok c ∧ e = unknownType c.typeName (typeTable dialect)

variable {dialect : Dialect} {op : Operation} {e : MigrationError}

theorem textMissing_eq (value : Option String) :
    textMissing value = decide (Content.text value).Missing := by
  rw [Bool.eq_iff_iff, decide_eq_true_iff]
  cases value with
  | none => simp [textMissing, Content.Missing]
  | some s => simp [textMissing, Content.Missing, trim_eq_nil_iff]

theorem isEmpty_eq {α : Type} [DecidableEq α] (values : List α) :
    values.isEmpty = decide (values = []) := by
  rw [Bool.eq_iff_iff, decide_eq_true_iff, List.isEmpty_iff]

/-- What is asked of an operation are the fields it must have, each with whether it lacks it. -/
theorem requirements_eq (dialect : Dialect) (op : Operation) :
    op.requirements dialect =
      (op.required dialect).map fun field => (field, decide (op.Lacks field)) := by
  cases op <;> cases dialect <;>
    simp [requirements, required, Lacks, contents, textMissing_eq, isEmpty_eq]

theorem missingFields_eq (dialect : Dialect) (op : Operation) :
    op.missingFields dialect = (op.required dialect).filter (op.Lacks ·) := by
  unfold missingFields
  rw [requirements_eq, List.filter_map, List.map_map]
  exact List.map_id _

/-! ## What follows the check -/

theorem checkSupported_of_available (havailable : op.Available dialect) :
    op.checkSupported dialect = .ok () := by
  cases op <;> cases dialect <;> simp_all [Available, checkSupported]

theorem checkSupported_of_not_available (hunavailable : ¬op.Available dialect) :
    ∃ limitation, op.checkSupported dialect = .error (.unsupported op.kind dialect limitation) := by
  cases op <;> cases dialect <;> simp_all [Available, checkSupported, kind]

theorem columnType_error {c : ColumnDef} (hfailed : columnType dialect c = .error e) :
    e = unknownType c.typeName (typeTable dialect) := by
  unfold columnType at hfailed
  cases dialect with
  | mysql =>
    dsimp only at hfailed
    split at hfailed
    · cases hfailed
    · split at hfailed
      · cases hfailed
      · exact (Except.error.inj hfailed).symm
  | postgresql =>
    dsimp only at hfailed
    split at hfailed <;> cases hfailed
  | sqlite =>
    dsimp only at hfailed
    split at hfailed
    · cases hfailed
    · exact (Except.error.inj hfailed).symm

theorem misdefined_of_parseColumn {definition : String} (hfailed : parseColumn definition = .error e) :
    Misdefined dialect definition e := by
  obtain ⟨cause, hread, rfl⟩ := mapError_eq_error.mp hfailed
  exact .inl ⟨cause, hread, rfl⟩

theorem misdefined_of_columnType {definition : String} {c : ColumnDef}
    (hread : parseColumn definition = .ok c) (hfailed : columnType dialect c = .error e) :
    Misdefined dialect definition e :=
  .inr ⟨c, mapError_eq_ok.mp hread, columnType_error hfailed⟩

theorem misdefined_of_columnSql {name definition : String}
    (hfailed : columnSql dialect name definition = .error e) : Misdefined dialect definition e := by
  unfold columnSql at hfailed
  rcases bind_eq_error.mp hfailed with hfailed | ⟨c, hread, hfailed⟩
  · exact misdefined_of_parseColumn hfailed
  rcases bind_eq_error.mp hfailed with hfailed | ⟨type, -, hfailed⟩
  · exact misdefined_of_columnType hread hfailed
  · cases hfailed

theorem misdefined_of_columnList {columns : Columns} (hfailed : columnList dialect columns = .error e) :
    ∃ column ∈ columns, Misdefined dialect column.2 e := by
  induction columns with
  | nil => cases hfailed
  | cons column columns ih =>
    unfold columnList at hfailed
    rcases bind_eq_error.mp hfailed with hfailed | ⟨sql, -, hfailed⟩
    · exact ⟨column, List.mem_cons_self, misdefined_of_columnSql hfailed⟩
    rcases bind_eq_error.mp hfailed with hfailed | ⟨written, -, hfailed⟩
    · obtain ⟨other, hmem, hmisdefined⟩ := ih hfailed
      exact ⟨other, List.mem_cons_of_mem _ hmem, hmisdefined⟩
    · cases hfailed

theorem misdefined_of_alterColumn {op : AlterColumn} (hfailed : Sql.alterColumn dialect op = .error e) :
    Misdefined dialect (fieldText op.definition) e := by
  unfold Sql.alterColumn at hfailed
  cases dialect with
  | mysql =>
    rcases bind_eq_error.mp hfailed with hfailed | ⟨sql, -, hfailed⟩
    · exact misdefined_of_columnSql hfailed
    · cases hfailed
  | postgresql | sqlite =>
    rcases bind_eq_error.mp hfailed with hfailed | ⟨c, hread, hfailed⟩
    · exact misdefined_of_parseColumn hfailed
    rcases bind_eq_error.mp hfailed with hfailed | ⟨type, -, hfailed⟩
    · exact misdefined_of_columnType hread hfailed
    · cases hfailed

theorem misdefined_of_write (havailable : op.Available dialect) (hfailed : write dialect op = .error e) :
    ∃ definition ∈ op.definitions dialect, Misdefined dialect definition e := by
  cases op with
  | createTable op =>
    rcases bind_eq_error.mp hfailed with hfailed | ⟨columns, -, hfailed⟩
    · obtain ⟨column, hmem, hmisdefined⟩ := misdefined_of_columnList hfailed
      exact ⟨column.2, List.mem_map_of_mem hmem, hmisdefined⟩
    · cases hfailed
  | addColumn op =>
    rcases bind_eq_error.mp hfailed with hfailed | ⟨sql, -, hfailed⟩
    · exact ⟨_, List.mem_singleton_self _, misdefined_of_columnSql hfailed⟩
    · cases hfailed
  | renameColumn op =>
    cases dialect with
    | mysql =>
      rcases bind_eq_error.mp hfailed with hfailed | ⟨sql, -, hfailed⟩
      · exact ⟨_, List.mem_singleton_self _, misdefined_of_columnSql hfailed⟩
      · cases hfailed
    | postgresql | sqlite => cases hfailed
  | alterColumn op => exact ⟨_, List.mem_singleton_self _, misdefined_of_alterColumn hfailed⟩
  | unknown kind => cases havailable
  | dropTable | renameTable | dropColumn | addIndex | dropIndex | addForeignKey | dropForeignKey | raw =>
    cases hfailed

/-! ## Which error an operation ends with -/

theorem checkRequired_eq (dialect : Dialect) (op : Operation) : op.checkRequired dialect =
    if ∃ field ∈ op.required dialect, op.Lacks field then
      .error (.missingFields op.kind ((op.required dialect).filter (op.Lacks ·)))
    else .ok () := by
  unfold checkRequired
  rw [missingFields_eq]
  split
  · next hnothing =>
    rw [if_neg]
    simpa using hnothing
  · next fields hsome =>
    rw [if_pos]
    by_contra hnothing
    exact hsome (by simpa using hnothing)

theorem toSql_of_available (havailable : op.Available dialect) : op.toSql dialect =
    if ∃ field ∈ op.required dialect, op.Lacks field then
      .error (.missingFields op.kind ((op.required dialect).filter (op.Lacks ·)))
    else write dialect op := by
  unfold toSql
  rw [checkSupported_of_available havailable, checkRequired_eq]
  split <;> rfl

theorem toSql_of_not_available (hunavailable : ¬op.Available dialect) :
    ∃ limitation, op.toSql dialect = .error (.unsupported op.kind dialect limitation) := by
  obtain ⟨limitation, hrefused⟩ := checkSupported_of_not_available hunavailable
  unfold toSql
  rw [hrefused]
  exact ⟨limitation, rfl⟩

theorem toSql_eq_ok {sql : String} : op.toSql dialect = .ok sql ↔
    op.Available dialect ∧ (∀ field ∈ op.required dialect, ¬op.Lacks field) ∧
      write dialect op = .ok sql := by
  by_cases havailable : op.Available dialect
  · rw [toSql_of_available havailable]
    split
    · next hmissing =>
      obtain ⟨field, hmem, hlacks⟩ := hmissing
      exact iff_of_false nofun fun ⟨_, hcomplete, _⟩ => hcomplete field hmem hlacks
    · next hcomplete =>
      rw [and_iff_right havailable, and_iff_right (by simpa using hcomplete)]
  · obtain ⟨limitation, hrefused⟩ := toSql_of_not_available havailable
    simp [hrefused, havailable]

theorem not_misdefined_missingFields {definition kind : String} {fields : List String} :
    ¬Misdefined dialect definition (.missingFields kind fields) := by
  rintro (⟨cause, -, hsame⟩ | ⟨c, -, hsame⟩) <;> cases hsame

/-- Missing fields of an operation that the dialect knows are told, all of them and in order,
before anything else. Where none is missing, only a column definition can be at fault. An operation
that the dialect does not know is refused whatever its fields are. -/
theorem missing_fields_told (dialect : Dialect) (op : Operation) :
    (∀ kind fields, op.toSql dialect = .error (.missingFields kind fields) ↔
      op.Available dialect ∧ (∃ field ∈ op.required dialect, op.Lacks field) ∧ kind = op.kind ∧
        fields = (op.required dialect).filter (op.Lacks ·)) ∧
    (∀ e, op.Available dialect → (∀ field ∈ op.required dialect, ¬op.Lacks field) →
      op.toSql dialect = .error e →
        ∃ definition ∈ op.definitions dialect, Misdefined dialect definition e) ∧
    (¬op.Available dialect →
      ∃ limitation, op.toSql dialect = .error (.unsupported op.kind dialect limitation)) := by
  refine ⟨fun kind fields => ?_, fun e havailable hcomplete hfailed => ?_, toSql_of_not_available⟩
  · by_cases havailable : op.Available dialect
    · rw [toSql_of_available havailable]
      split
      · next hmissing =>
        simp only [Except.error.injEq, MigrationError.missingFields.injEq, havailable, hmissing, true_and]
        exact and_congr eq_comm eq_comm
      · next hcomplete =>
        simp only [hcomplete, false_and, and_false, iff_false]
        intro hfailed
        obtain ⟨definition, -, hmisdefined⟩ := misdefined_of_write havailable hfailed
        exact not_misdefined_missingFields hmisdefined
    · obtain ⟨limitation, hrefused⟩ := toSql_of_not_available havailable
      simp [hrefused, havailable]
  · rw [toSql_of_available havailable, if_neg (by simpa using hcomplete)] at hfailed
    exact misdefined_of_write havailable hfailed

def addedColumn (table column : String) : Operation :=
  .addColumn { table := some table, column := some column, definition := some "(" }

/-- The definition cannot be read, but that is told only where no field is missing. -/
theorem missing_fields_told_addedColumn :
    (addedColumn "\t" "").toSql .mysql = .error (.missingFields "addColumn" ["table", "column"]) ∧
    (∃ definition ∈ ["("], Misdefined .mysql definition (.invalidColumn "(" .missingType)) ∧
    ∃ limitation, (alterColumn {}).toSql .sqlite =
      .error (.unsupported "alterColumn" .sqlite limitation) :=
  ⟨((missing_fields_told .mysql (addedColumn "\t" "")).1 _ _).mpr ⟨trivial, by decide, rfl, by decide⟩,
    (missing_fields_told .mysql (addedColumn "t" "c")).2.1 _ trivial (by decide) (by decide +kernel),
    (missing_fields_told .sqlite (alterColumn {})).2.2 fun havailable => havailable rfl⟩

end Operation

end SchemaMigration
