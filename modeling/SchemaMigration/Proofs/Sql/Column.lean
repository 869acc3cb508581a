import SchemaMigration.Proofs.Column.Accepted
import SchemaMigration.Proofs.Text.Search
import SchemaMigration.Sql.Column

/-!
# The order of the modifiers

A column is its type followed by its clauses in one fixed order. They depend on which flags a
definition has and on its last default, not on where these stand in it.
-/

namespace SchemaMigration.Sql

open Text Column

/-! ## What is written for a column -/

def lastDefault? (segments : List Segment) : Option DefaultValue :=
  (segments.filterMap (·.default?)).getLast?.map fun value => .classify (String.ofList value)

/-- A truth value is 1 or 0 on SQLite. Any other literal is the same everywhere. -/
def literalOn (dialect : Dialect) (value : DefaultValue) : String :=
  match value with
  | .boolean b raw => if dialect = .sqlite then (if b then "1" else "0") else raw
  | value => value.sql

def checkedValues? (dialect : Dialect) (type : Segment) : Option (List Char) :=
  if dialect = .sqlite ∧ sameAscii (String.ofList type.name) "enum" = true then type.args else none

/-- The type of a column as it is in SQL, and behind it the clauses in their order. -/
def laidOut (dialect : Dialect) (name : String) (type : Segment) (segments : List Segment)
    (base : String) : String :=
  base ++
    (if bare "notNullable" ∈ segments then " NOT NULL" else "") ++
    (if bare "unique" ∈ segments then " UNIQUE" else "") ++
    (if bare "primary" ∈ segments ∧ ¬primaryKey.toList <:+: base.toList then " PRIMARY KEY" else "") ++
    (match lastDefault? segments with
    | some value => " DEFAULT " ++ literalOn dialect value
    | none => "") ++
    (match checkedValues? dialect type with
    | some values => " CHECK(" ++ name ++ " IN (" ++ String.ofList values ++ "))"
    | none => "")

/-- The column of a type without modifiers. -/
def typeAlone (type : Segment) : ColumnDef where
  typeDef := String.ofList type.text
  typeName := String.ofList type.name
  typeArgs := type.args.map String.ofList
  modifiers := {}

/-- The same flags and the same last default, whatever else there is. -/
structure SameMeaning (segments others : List Segment) : Prop where
  notNullable : bare "notNullable" ∈ segments ↔ bare "notNullable" ∈ others
  unique : bare "unique" ∈ segments ↔ bare "unique" ∈ others
  primary : bare "primary" ∈ segments ↔ bare "primary" ∈ others
  default : (segments.filterMap (·.default?)).getLast? = (others.filterMap (·.default?)).getLast?

/-! ## One column -/

variable {dialect : Dialect} {name definition : String} {c : ColumnDef}

theorem columnSql_of_parse (hparsed : ColumnDef.parse definition = .ok c) :
    columnSql dialect name definition = (columnType dialect c).map fun base =>
      withModifiers dialect base c.modifiers ++ enumCheck dialect name c := by
  have hread : parseColumn definition = .ok c := by
    unfold parseColumn
    rw [hparsed]
    rfl
  unfold columnSql
  rw [hread]
  cases htyped : columnType dialect c <;> simp [htyped, bind, Except.bind, Except.map, pure, Except.pure]

theorem columnType_withModifiers (dialect : Dialect) (c : ColumnDef) (m : Modifiers) :
    columnType dialect { c with modifiers := m } = columnType dialect c := by
  cases dialect <;> rfl

theorem defaultLiteral_eq (dialect : Dialect) (value : DefaultValue) :
    defaultLiteral dialect value = literalOn dialect value := by
  cases value with
  | boolean b raw => cases dialect <;> cases b <;> rfl
  | function raw => cases dialect <;> rfl
  | numeric raw => cases dialect <;> rfl
  | quoted raw => cases dialect <;> rfl
  | text raw => cases dialect <;> rfl

/-! ## The clauses of the modifiers -/

def flagClauses (m : Modifiers) : String :=
  (if m.notNullable then " NOT NULL" else "") ++ (if m.unique then " UNIQUE" else "")

/-- The words are left out wherever the type contains them. -/
def keyClause (base : String) (m : Modifiers) : String :=
  if m.primary = true ∧ ¬primaryKey.toList <:+: base.toList then " PRIMARY KEY" else ""

def defaultClause (dialect : Dialect) (m : Modifiers) : String :=
  match m.default with
  | some value => " DEFAULT " ++ literalOn dialect value
  | none => ""

theorem occursIn_flags (base : String) (m : Modifiers) :
    occursIn primaryKey.toList (base ++ flagClauses m).toList = true ↔
      primaryKey.toList <:+: base.toList := by
  rw [occursIn_iff, String.toList_append]
  unfold flagClauses
  apply infix_append_iff_left
  · cases m.notNullable <;> cases m.unique <;> decide
  · cases m.notNullable <;> cases m.unique <;> decide

theorem keyed_eq (base : String) (m : Modifiers) :
    (if (m.primary && !occursIn primaryKey.toList (base ++ flagClauses m).toList) = true
      then base ++ flagClauses m ++ " " ++ primaryKey else base ++ flagClauses m) =
      base ++ flagClauses m ++ keyClause base m := by
  have hoccurs := occursIn_flags base m
  generalize base ++ flagClauses m = flagged at hoccurs ⊢
  unfold keyClause
  by_cases hcontained : primaryKey.toList <:+: base.toList
  · simp [hcontained, hoccurs.mpr hcontained]
  · have habsent : occursIn primaryKey.toList flagged.toList = false := by
      simpa only [← Bool.not_eq_true] using hoccurs.not.mpr hcontained
    have hwords : " " ++ primaryKey = " PRIMARY KEY" := rfl
    cases m.primary <;> simp [hcontained, habsent, hwords, String.append_assoc]

theorem withModifiers_eq (dialect : Dialect) (base : String) (m : Modifiers) :
    withModifiers dialect base m =
      base ++ flagClauses m ++ keyClause base m ++ defaultClause dialect m := by
  rw [← keyed_eq, flagClauses, ← String.append_assoc]
  unfold withModifiers defaultClause
  dsimp only
  cases m.default with
  | none => simp
  | some value => simp [defaultLiteral_eq, String.append_assoc]

theorem enumCheck_eq (dialect : Dialect) (name : String) (type : Segment) (m : Modifiers) :
    enumCheck dialect name { typeAlone type with modifiers := m } =
      match checkedValues? dialect type with
      | some values => " CHECK(" ++ name ++ " IN (" ++ String.ofList values ++ "))"
      | none => "" := by
  obtain ⟨typeName, args⟩ := type
  unfold enumCheck checkedValues? typeAlone
  cases dialect <;> cases args <;> simp
  split <;> rfl

/-! ## Two written definitions -/

variable {w : Written}

theorem column_eq (w : Written) :
    w.column = { typeAlone w.type.toSegment with modifiers := summary w.segments } := rfl

theorem columnSql_written (dialect : Dialect) (name : String) (hgiven : w.modifiers ≠ [])
    (hascii : ∀ c ∈ w.separators, isAsciiBlank c = true) :
    columnSql dialect name w.text =
      (columnType dialect (typeAlone w.type.toSegment)).map
        (laidOut dialect name w.type.toSegment w.segments) := by
  obtain ⟨m, ms, hgiven⟩ := List.exists_cons_of_ne_nil hgiven
  have hparsed : ColumnDef.parse w.text = .ok w.column :=
    w.parseChars_eq hgiven ((w.separators_iff hgiven).mp hascii)
  rw [columnSql_of_parse hparsed, column_eq, columnType_withModifiers]
  congr
  funext base
  rw [withModifiers_eq, enumCheck_eq, laidOut]
  simp [flagClauses, keyClause, defaultClause, summary, lastDefault?, String.append_assoc]

theorem laidOut_congr (dialect : Dialect) (name : String) (type : Segment)
    {segments others : List Segment} (hsame : SameMeaning segments others) :
    laidOut dialect name type segments = laidOut dialect name type others := by
  funext base
  unfold laidOut lastDefault?
  simp only [hsame.notNullable, hsame.unique, hsame.primary, hsame.default]

/-- Definitions of one type with the same flags and the same last default come to the same
column, however their modifiers are ordered, repeated or mixed with unknown ones. -/
theorem column_ignores_order (dialect : Dialect) (name : String) (w₁ w₂ : Written)
    (htype : w₁.type.toSegment = w₂.type.toSegment)
    (hgiven₁ : w₁.modifiers ≠ []) (hgiven₂ : w₂.modifiers ≠ [])
    (hascii₁ : ∀ c ∈ w₁.separators, isAsciiBlank c = true)
    (hascii₂ : ∀ c ∈ w₂.separators, isAsciiBlank c = true)
    (hsame : SameMeaning w₁.segments w₂.segments) :
    columnSql dialect name w₁.text = columnSql dialect name w₂.text ∧
      columnSql dialect name w₁.text = (columnType dialect (typeAlone w₁.type.toSegment)).map
        (laidOut dialect name w₁.type.toSegment w₁.segments) := by
  have hfirst := columnSql_written dialect name hgiven₁ hascii₁
  have hsecond := columnSql_written dialect name hgiven₂ hascii₂
  rw [← htype, ← laidOut_congr dialect name w₁.type.toSegment hsame] at hsecond
  exact ⟨hfirst.trans hsecond.symm, hfirst⟩

def noBlanks : Blanks := ⟨[], isBlank_of_mem_nil⟩

/-- A modifier with no blanks around its colon. -/
def tight (name : String) (args : Option (List Char)) (hnonempty : name.toList ≠ [])
    (hword : ∀ c ∈ name.toList, isWordChar c = true) (hwellFormed : ∀ body ∈ args, WellFormed body) :
    WrittenModifier where
  before := noBlanks
  after := noBlanks
  phrase := ⟨⟨name.toList, args⟩, hnonempty, hword, hwellFormed⟩

/-- An enumeration of one value with the given modifiers. -/
def enumeration (modifiers : List WrittenModifier) : Written where
  lead := noBlanks
  type := {
    name := "Enum".toList
    args := some "'a'".toList
    nonempty := by simp
    word := List.all_eq_true.mp (by decide +kernel)
    wellFormed := by
      rintro _ ⟨⟩
      exact .quoted rfl (by decide : '\'' ∉ ['a']) .nil }
  modifiers := modifiers
  trail := noBlanks

def primaryFlag : WrittenModifier :=
  tight "primary" none (by simp) (List.all_eq_true.mp (by decide +kernel)) (by simp)

def unknownFlag : WrittenModifier :=
  tight "hidden" none (by simp) (List.all_eq_true.mp (by decide +kernel)) (by simp)

def defaultOf (value : Char) (hplain : isPlain value = true) : WrittenModifier :=
  tight "default" (some [value]) (by simp) (List.all_eq_true.mp (by decide +kernel)) fun body hgiven => by
    obtain rfl := Option.some.inj hgiven
    exact .plain hplain .nil

def inOrder : Written := enumeration [primaryFlag, defaultOf '1' rfl]

def shuffled : Written :=
  enumeration [defaultOf '2' rfl, unknownFlag, defaultOf '1' rfl, primaryFlag, primaryFlag]

theorem column_ignores_order_shuffled :
    inOrder.text = "Enum('a'):primary:default(1)" ∧
      shuffled.text = "Enum('a'):default(2):hidden:default(1):primary:primary" ∧
      columnSql .sqlite "c" shuffled.text = columnSql .sqlite "c" inOrder.text ∧
      columnSql .sqlite "c" shuffled.text = .ok "TEXT PRIMARY KEY DEFAULT 1 CHECK(c IN ('a'))" := by
  have hsame : SameMeaning shuffled.segments inOrder.segments := by
    constructor <;> decide
  have hequal := column_ignores_order .sqlite "c" shuffled inOrder rfl (by decide) (by decide)
    (List.all_eq_true.mp (by decide)) (List.all_eq_true.mp (by decide)) hsame
  refine ⟨by decide +kernel, by decide +kernel, hequal.1, ?_⟩
  rw [hequal.2]
  decide +kernel

end SchemaMigration.Sql
