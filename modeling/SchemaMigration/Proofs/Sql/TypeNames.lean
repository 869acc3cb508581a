import SchemaMigration.Proofs.Column.Plain
import SchemaMigration.Proofs.Sql.Column
import SchemaMigration.Proofs.Text.Suggest

/-!
# Type names

A dialect has SQL for the types that it knows and refuses every other one with a suggestion from
its table. What it suggests it knows.
-/

namespace SchemaMigration.Sql

open Text Column

variable {dialect : Dialect} {name : String} {c : ColumnDef}

def typeNames (dialect : Dialect) : List String := (typeTable dialect).map (·.1)

/-- The columns whose type a dialect has SQL for. -/
def Knows : Dialect → ColumnDef → Prop
  | .mysql, c => c.typeName ∈ typeNames .mysql ∨
      c.typeArgs.isSome ∧ lowercase c.typeName ∈ mysqlTypesWithArgs
  | .postgresql, _ => True
  | .sqlite, c => ∃ name ∈ typeNames .sqlite, sameAscii name c.typeName = true

/-! ## What is refused -/

theorem lookup_eq_none_iff_not_mem {table : TypeTable} :
    table.lookup name = none ↔ name ∉ table.map (·.1) := by
  simp only [List.lookup_eq_none_iff, List.mem_map, bne_iff_ne, ne_eq, not_exists, not_and,
    eq_comm (a := name)]

theorem mysql_spec (c : ColumnDef) :
    match columnType .mysql c with
    | .ok _ => Knows .mysql c
    | .error e => ¬Knows .mysql c ∧ e = unknownType c.typeName (typeTable .mysql) := by
  unfold columnType
  dsimp only
  by_cases hkept : c.typeArgs.isSome ∧ lowercase c.typeName ∈ mysqlTypesWithArgs
  · rw [if_pos hkept]
    exact .inr hkept
  · rw [if_neg hkept]
    cases hfound : (typeTable .mysql).lookup c.typeName with
    | some form =>
      refine .inl (Decidable.byContradiction fun habsent => ?_)
      rw [lookup_eq_none_iff_not_mem.mpr habsent] at hfound
      cases hfound
    | none => exact ⟨not_or.mpr ⟨lookup_eq_none_iff_not_mem.mp hfound, hkept⟩, rfl⟩

theorem sqlite_spec (c : ColumnDef) :
    match columnType .sqlite c with
    | .ok _ => Knows .sqlite c
    | .error e => ¬Knows .sqlite c ∧ e = unknownType c.typeName (typeTable .sqlite) := by
  unfold columnType
  dsimp only
  cases hfound : (typeTable .sqlite).find? fun entry => sameAscii entry.1 c.typeName with
  | some entry =>
    have hsame := List.find?_some hfound
    exact ⟨entry.1, List.mem_map_of_mem (List.mem_of_find?_eq_some hfound), hsame⟩
  | none =>
    refine ⟨?_, rfl⟩
    rintro ⟨name, hlisted, hsame⟩
    obtain ⟨entry, hmem, rfl⟩ := List.mem_map.mp hlisted
    exact List.find?_eq_none.mp hfound entry hmem hsame

theorem postgresql_ok (c : ColumnDef) : ∃ type, columnType .postgresql c = .ok type := by
  unfold columnType
  dsimp only
  split <;> exact ⟨_, rfl⟩

theorem columnType_spec (dialect : Dialect) (c : ColumnDef) :
    match columnType dialect c with
    | .ok _ => Knows dialect c
    | .error e => ¬Knows dialect c ∧ e = unknownType c.typeName (typeTable dialect) := by
  cases dialect with
  | mysql => exact mysql_spec c
  | postgresql =>
    obtain ⟨type, htyped⟩ := postgresql_ok c
    rw [htyped]
    trivial
  | sqlite => exact sqlite_spec c

theorem columnType_ok_iff : (∃ type, columnType dialect c = .ok type) ↔ Knows dialect c := by
  have hspec := columnType_spec dialect c
  cases htyped : columnType dialect c with
  | ok type =>
    rw [htyped] at hspec
    exact ⟨fun _ => hspec, fun _ => ⟨type, rfl⟩⟩
  | error e =>
    rw [htyped] at hspec
    exact iff_of_false (by simp) hspec.1

theorem columnType_error (hunknown : ¬Knows dialect c) :
    columnType dialect c = .error (unknownType c.typeName (typeTable dialect)) := by
  have hspec := columnType_spec dialect c
  cases htyped : columnType dialect c with
  | ok type =>
    rw [htyped] at hspec
    exact absurd hspec hunknown
  | error e =>
    rw [htyped] at hspec
    rw [hspec.2]

/-! ## What is suggested -/

theorem knows_of_mem (hmem : c.typeName ∈ typeNames dialect) : Knows dialect c := by
  cases dialect with
  | mysql => exact .inl hmem
  | postgresql => trivial
  | sqlite => exact ⟨c.typeName, hmem, beq_self_eq_true _⟩

theorem word_of_mem_typeNames (hmem : name ∈ typeNames dialect) :
    name.toList ≠ [] ∧ ∀ c ∈ name.toList, isWordChar c = true := by
  have hwords : ∀ name ∈ typeNames dialect,
      name.toList.isEmpty = false ∧ name.toList.all isWordChar = true := by
    cases dialect <;> decide
  obtain ⟨hnonempty, hword⟩ := hwords name hmem
  exact ⟨by simpa using hnonempty, List.all_eq_true.mp hword⟩

theorem parse_typeName (hmem : name ∈ typeNames dialect) :
    ∃ c, ColumnDef.parse name = .ok c ∧ c.typeName = name := by
  obtain ⟨hnonempty, hword⟩ := word_of_mem_typeNames hmem
  have hquiet := @isQuote_of_plainPhrase name none hnonempty hword (by simp)
  have htext : String.ofList (plainPhrase name none hnonempty hword (by simp)).text = name := by
    simp [plainPhrase, Segment.text, Segment.group]
  have hparsed := Phrase.parse_text _ hquiet
  rw [htext] at hparsed
  exact ⟨_, hparsed, String.ofList_toList⟩

theorem columnSql_typeName (column : String) (hmem : name ∈ typeNames dialect) :
    ∃ sql, columnSql dialect column name = .ok sql := by
  obtain ⟨c, hparsed, rfl⟩ := parse_typeName hmem
  obtain ⟨type, htyped⟩ := columnType_ok_iff.mpr (knows_of_mem hmem)
  rw [columnSql_of_parse hparsed, htyped]
  exact ⟨_, rfl⟩

/-- How a dialect answers a type that it does not know. -/
structure Refused (dialect : Dialect) (c : ColumnDef) (suggestion : Option String) : Prop where
  error : columnType dialect c = .error (.unknownType c.typeName suggestion)
  suggests : Suggests c.typeName (typeNames dialect) suggestion
  /-- A column of the suggested type is understood, however else it is written. -/
  understood (d : ColumnDef) : suggestion = some d.typeName → ∃ type, columnType dialect d = .ok type
  written (column name : String) : suggestion = some name → ∃ sql, columnSql dialect column name = .ok sql

theorem refused_of_not_knows (hunknown : ¬Knows dialect c) :
    ∃ suggestion, Refused dialect c suggestion := by
  have hsuggests := suggest_spec c.typeName (typeNames dialect)
  refine ⟨_, columnType_error hunknown, hsuggests, fun d hgiven => ?_, fun column name hgiven => ?_⟩
  · exact columnType_ok_iff.mpr (knows_of_mem (hsuggests.mem hgiven))
  · exact columnSql_typeName column (hsuggests.mem hgiven)

/-- A column is understood exactly if its type is known. Any other type is refused with the
earliest of the nearest names of the table, which is itself understood, unless every name is
too far off. -/
theorem unknown_type_suggestion :
    (∀ dialect c, (∃ type, columnType dialect c = .ok type) ↔ Knows dialect c) ∧
    (∀ dialect c, ¬Knows dialect c → ∃ suggestion, Refused dialect c suggestion) ∧
    ∀ name candidates, Suggests name candidates (suggest name candidates) :=
  ⟨fun _ _ => columnType_ok_iff, fun _ _ => refused_of_not_knows, suggest_spec⟩

def misspelled : ColumnDef where
  typeDef := "Strng"
  typeName := "Strng"
  typeArgs := none
  modifiers := {}

theorem unknown_type_suggestion_misspelled :
    ¬Knows .mysql misspelled ∧ ∃ suggestion, Refused .mysql misspelled suggestion ∧
      suggestion = some "string" := by
  obtain ⟨-, hrefused, -⟩ := unknown_type_suggestion
  have herror : columnType .mysql misspelled = .error (.unknownType "Strng" (some "string")) := by
    decide +kernel
  have hunknown : ¬Knows .mysql misspelled := by
    intro hknows
    obtain ⟨type, htype⟩ := columnType_ok_iff.mpr hknows
    cases herror.symm.trans htype
  obtain ⟨suggestion, h⟩ := hrefused _ _ hunknown
  refine ⟨hunknown, suggestion, h, ?_⟩
  exact (MigrationError.unknownType.inj (Except.error.inj (h.error.symm.trans herror))).2

end SchemaMigration.Sql
