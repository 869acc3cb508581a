import SchemaMigration.Proofs.Sql.Column
import SchemaMigration.Proofs.Sql.Quotes

/-!
# Primary keys that are kept

The words `PRIMARY KEY` declare a key where they stand outside all quotes and are not part of
other words. They are written behind the type unless the type contains their letters.
-/

namespace SchemaMigration.Sql

open Text Column

/-- The words stand outside every quoted stretch, with no further letters at them. -/
def Declares (cs : List Char) : Prop :=
  ∃ before after, cs = before ++ (primaryKey.toList ++ after) ∧ QuotesClose before ∧
    (∀ c ∈ before.getLast?, isWordChar c = false) ∧ ∀ c ∈ after.head?, isWordChar c = false

variable {xs ys : List Char}

theorem declares_iff_inits : Declares xs ↔ ∃ before ∈ xs.inits,
    primaryKey.toList <+: xs.drop before.length ∧ QuotesClose before ∧
      before.getLast?.any isWordChar = false ∧
      (xs.drop (before.length + primaryKey.toList.length)).head?.any isWordChar = false := by
  simp only [Option.any_eq_false]
  constructor
  · rintro ⟨before, after, rfl, hclosed, hfirst, hlast⟩
    refine ⟨before, (List.mem_inits _ _).mpr (List.prefix_append _ _), ?_, hclosed, ?_, ?_⟩
    · simp
    · simpa using hfirst
    · rw [List.drop_append, List.drop_append]
      simpa using hlast
  · rintro ⟨before, hmem, hwords, hclosed, hfirst, hlast⟩
    obtain ⟨rest, rfl⟩ := (List.mem_inits _ _).mp hmem
    rw [List.drop_left] at hwords
    obtain ⟨after, rfl⟩ := hwords
    refine ⟨before, after, rfl, hclosed, by simpa using hfirst, ?_⟩
    rw [List.drop_append, List.drop_append] at hlast
    simpa using hlast

instance (cs : List Char) : Decidable (Declares cs) := decidable_of_iff' _ declares_iff_inits

theorem Declares.infix (hdeclares : Declares xs) : primaryKey.toList <:+: xs := by
  obtain ⟨before, after, rfl, -⟩ := hdeclares
  exact ⟨before, after, List.append_assoc _ _ _⟩

theorem Declares.append (hdeclares : Declares xs) (hstops : ∀ c ∈ ys.head?, isWordChar c = false) :
    Declares (xs ++ ys) := by
  obtain ⟨before, after, rfl, hclosed, hfirst, hlast⟩ := hdeclares
  refine ⟨before, after ++ ys, by simp, hclosed, hfirst, ?_⟩
  cases after with
  | nil => exact hstops
  | cons c after => exact hlast

theorem Declares.behind (hdeclares : Declares ys) (hclosed : QuotesClose xs) :
    Declares (xs ++ ' ' :: ys) := by
  obtain ⟨before, after, rfl, hcloses, hfirst, hlast⟩ := hdeclares
  refine ⟨xs ++ ' ' :: before, after, by simp, ?_, ?_, hlast⟩
  · have hblank : QuotesClose (' ' :: before) := hcloses
    exact hclosed.append hblank
  · intro c hmem
    rw [List.getLast?_append_of_ne_nil _ (by simp)] at hmem
    cases before with
    | nil =>
      obtain rfl : ' ' = c := by simpa using hmem
      decide
    | cons d before => exact hfirst c (by simpa using hmem)

/-- The words have one blank in them, so they run across another only where each of them
stands on its side of it. -/
theorem declares_blank_iff (hclosed : QuotesClose xs)
    (hapart : ¬("PRIMARY".toList <:+ xs ∧ "KEY".toList <+: ys)) :
    Declares (xs ++ ' ' :: ys) ↔ Declares xs ∨ Declares ys := by
  constructor
  · rintro ⟨before, after, hsame, hcloses, hfirst, hlast⟩
    -- The words begin behind the blank, end before it, or run across it.
    rcases List.append_eq_append_iff.mp hsame with ⟨between, rfl, hthere⟩ | ⟨left, rfl, hthere⟩
    · right
      cases between with
      | nil => cases (List.cons.inj hthere).1
      | cons c between =>
        obtain ⟨rfl, rfl⟩ := List.cons.inj hthere
        refine ⟨between, after, rfl, ?_, ?_, hlast⟩
        · have hinside : openQuote none (' ' :: between) = none := by
            rw [← hclosed.openQuote_append]
            exact hcloses
          exact hinside
        · intro c hmem
          refine hfirst c ?_
          rw [← List.singleton_append, ← List.append_assoc]
          exact List.mem_getLast?_append_of_mem_getLast? hmem
    · rcases List.append_eq_append_iff.mp hthere with ⟨more, rfl, rfl⟩ | ⟨back, hwords, hbehind⟩
      · left
        refine ⟨before, more, rfl, hcloses, hfirst, ?_⟩
        intro c hmem
        refine hlast c ?_
        rw [List.head?_append_of_ne_nil _ (by rintro rfl; cases hmem)]
        exact hmem
      · cases back with
        | nil =>
          left
          refine ⟨before, [], by simp [hwords], hcloses, hfirst, by simp⟩
        | cons c back =>
          obtain ⟨rfl, rfl⟩ := List.cons.inj hbehind
          have hhalves : "PRIMARY".toList ++ ' ' :: "KEY".toList = left ++ ' ' :: back := hwords
          obtain ⟨rfl, -, rfl⟩ := (List.append_cons_inj_of_notMem (by decide) (by decide)).mp hhalves
          exact (hapart ⟨List.suffix_append _ _, List.prefix_append _ _⟩).elim
  · rintro (hbefore | hbehind)
    · exact hbefore.append (by simp; decide)
    · exact hbehind.behind hclosed

/-! ## The clauses of a column -/

variable {dialect : Dialect} {name definition sql base : String} {c : ColumnDef} {m : Modifiers}

theorem declares_clause_iff (hclosed : QuotesClose xs) (hapart : ¬"KEY".toList <+: ys)
    (hwithout : ¬primaryKey.toList <:+: ys) : Declares (xs ++ ' ' :: ys) ↔ Declares xs := by
  rw [declares_blank_iff hclosed fun hboth => hapart hboth.2]
  exact or_iff_left fun hdeclares => hwithout hdeclares.infix

theorem declares_flags (hclosed : QuotesClose base.toList) (m : Modifiers) :
    QuotesClose (base ++ flagClauses m).toList ∧
      (Declares (base ++ flagClauses m).toList ↔ Declares base.toList) := by
  unfold flagClauses
  rw [String.toList_append]
  have hflags : QuotesClose ((if m.notNullable then " NOT NULL" else "") ++
      (if m.unique then " UNIQUE" else "")).toList := by
    cases m.notNullable <;> cases m.unique <;> decide
  refine ⟨hclosed.append hflags, ?_⟩
  cases m.notNullable with
  | false =>
    cases m.unique with
    | false => simp
    | true => exact declares_clause_iff hclosed (by decide) (by decide)
  | true => cases m.unique <;> exact declares_clause_iff hclosed (by decide) (by decide)

theorem declares_keyed (hclosed : QuotesClose base.toList) (hprimary : m.primary = true) :
    QuotesClose (base ++ flagClauses m ++ keyClause base m).toList ∧
      (Declares (base ++ flagClauses m ++ keyClause base m).toList ↔
        ¬primaryKey.toList <:+: base.toList ∨ Declares base.toList) := by
  obtain ⟨hclosedFlags, hdeclaresFlags⟩ := declares_flags hclosed m
  generalize base ++ flagClauses m = flagged at hclosedFlags hdeclaresFlags ⊢
  unfold keyClause
  by_cases hcontained : primaryKey.toList <:+: base.toList
  · simp [hcontained, hclosedFlags, hdeclaresFlags]
  · have hwords : Declares primaryKey.toList := ⟨[], [], by simp, by decide, by simp, by simp⟩
    have hclosedWords : QuotesClose " PRIMARY KEY".toList := by decide
    simp only [hprimary, hcontained, not_false_eq_true, and_self, if_true, true_or, iff_true,
      String.toList_append]
    exact ⟨hclosedFlags.append hclosedWords, hwords.behind hclosedFlags⟩

theorem declares_default_iff (dialect : Dialect) (hclosed : QuotesClose base.toList) (m : Modifiers) :
    Declares (base ++ defaultClause dialect m).toList ↔
      Declares base.toList ∨ ∃ value ∈ m.default, Declares (literalOn dialect value).toList := by
  unfold defaultClause
  cases m.default with
  | none => simp
  | some value =>
    simp only [Option.mem_def, Option.some.injEq, exists_eq_left']
    generalize literalOn dialect value = literal
    have hchars : (base ++ (" DEFAULT " ++ literal)).toList =
        base.toList ++ ' ' :: ("DEFAULT".toList ++ ' ' :: literal.toList) := by simp
    have hapart : ¬"KEY".toList <+: "DEFAULT".toList ++ ' ' :: literal.toList := by
      simp [List.cons_prefix_cons]
    have hword : ¬Declares "DEFAULT".toList := fun hdeclares => absurd hdeclares.infix (by decide)
    rw [hchars, declares_blank_iff hclosed fun hboth => hapart hboth.2,
      declares_blank_iff (by decide) fun hboth => absurd hboth.1 (by decide), or_iff_right hword]

theorem declares_withModifiers_iff (dialect : Dialect) (hclosed : QuotesClose base.toList)
    (hprimary : m.primary = true) :
    Declares (withModifiers dialect base m).toList ↔ ¬primaryKey.toList <:+: base.toList ∨
      Declares base.toList ∨ ∃ value ∈ m.default, Declares (literalOn dialect value).toList := by
  obtain ⟨hclosedKeyed, hdeclaresKeyed⟩ := declares_keyed hclosed hprimary
  rw [withModifiers_eq, declares_default_iff dialect hclosedKeyed, hdeclaresKeyed, or_assoc]

/-! ## The whole column -/

theorem sqliteTypes_declare : ∀ entry ∈ sqliteTypes, ¬primaryKey.toList <:+: (entry.2.render []).toList ∨
    Declares (entry.2.render []).toList := by
  decide

theorem declares_sqlite {base : String} (htyped : columnType .sqlite c = .ok base) :
    ¬primaryKey.toList <:+: base.toList ∨ Declares base.toList := by
  unfold columnType at htyped
  dsimp only at htyped
  split at htyped
  · next entry form hfound =>
    obtain rfl := Except.ok.inj htyped
    exact sqliteTypes_declare _ (List.mem_of_find?_eq_some hfound)
  · cases htyped

theorem enumCheck_stops (dialect : Dialect) (name : String) (c : ColumnDef) :
    ∀ d ∈ (enumCheck dialect name c).toList.head?, isWordChar d = false := by
  unfold enumCheck
  split
  · split
    · intro d hfirst
      obtain rfl : ' ' = d := by simpa using hfirst
      decide
    · simp
  · simp

theorem enumCheck_of_ne {dialect : Dialect} (hother : dialect ≠ .sqlite) (name : String) (c : ColumnDef) :
    enumCheck dialect name c = "" := by
  cases dialect with
  | sqlite => exact absurd rfl hother
  | mysql => rfl
  | postgresql => rfl

/-- A bare `primary` on a type whose quotes close is declared in the SQL of the column exactly
where the SQL of the type has no such letters, or declares it itself, or a default does. -/
theorem primaryKey_declared_iff {gap rest : List Char} {segments : List Segment}
    (hparts : Parts definition.toList c gap rest segments) (hclosed : QuotesClose c.typeDef.toList)
    (hprimary : bare "primary" ∈ segments) (hwritten : columnSql dialect name definition = .ok sql) :
    ∃ base, columnType dialect c = .ok base ∧
      (Declares sql.toList ↔ ¬primaryKey.toList <:+: base.toList ∨ Declares base.toList ∨
        ∃ value ∈ c.modifiers.default, Declares (literalOn dialect value).toList) := by
  rw [columnSql_of_parse hparts.parseChars_eq, map_eq_ok] at hwritten
  obtain ⟨base, htyped, rfl⟩ := hwritten
  have hflag : c.modifiers.primary = true := by simp [hparts.summed, summary, hprimary]
  have hdeclared := declares_withModifiers_iff dialect
    (quotesClose_columnType hparts.type hclosed htyped) hflag
  refine ⟨base, htyped, ?_⟩
  rw [String.toList_append, ← hdeclared]
  by_cases hsqlite : dialect = .sqlite
  · subst hsqlite
    have hdeclares : Declares (withModifiers .sqlite base c.modifiers).toList := by
      rw [hdeclared, ← or_assoc]
      exact .inl (declares_sqlite htyped)
    exact iff_of_true (hdeclares.append (enumCheck_stops _ _ _)) hdeclares
  · simp [enumCheck_of_ne hsqlite]

theorem primaryKey_declared_iff_sized :
    columnSql .postgresql "c" "decimal(8, 3):primary:unique" = .ok "DECIMAL(8,3) UNIQUE PRIMARY KEY" ∧
      Declares "DECIMAL(8,3) UNIQUE PRIMARY KEY".toList := by
  have hwritten : columnSql .postgresql "c" "decimal(8, 3):primary:unique" =
      .ok "DECIMAL(8,3) UNIQUE PRIMARY KEY" := by decide +kernel
  have hread : parseChars "decimal(8, 3):primary:unique".toList = .ok {
      typeDef := "decimal(8, 3)"
      typeName := "decimal"
      typeArgs := some "8, 3"
      modifiers := { unique := true, primary := true } } := by decide +kernel
  obtain ⟨gap, rest, segments, hparts⟩ := exists_parts hread
  have hprimary : bare "primary" ∈ segments :=
    of_decide_eq_true (congrArg Modifiers.primary hparts.summed).symm
  obtain ⟨base, htyped, hdeclared⟩ := primaryKey_declared_iff hparts (by decide) hprimary hwritten
  obtain rfl : "DECIMAL(8,3)" = base := Except.ok.inj htyped
  exact ⟨hwritten, hdeclared.mpr (.inl (by decide))⟩

/-- The words in a quoted value or inside a longer name stand for the clause that is left out. -/
theorem primaryKey_lost :
    columnSql .mysql "c" "enum('PRIMARY KEY'):primary" = .ok "enum('PRIMARY KEY')" ∧
      QuotesClose "enum('PRIMARY KEY')".toList ∧ ¬Declares "enum('PRIMARY KEY')".toList ∧
      columnSql .postgresql "c" "my_primary key:primary" = .ok "MY_PRIMARY KEY" ∧
      ¬Declares "MY_PRIMARY KEY".toList := by
  refine ⟨?_, ?_, ?_, ?_, ?_⟩ <;> decide +kernel

end SchemaMigration.Sql
