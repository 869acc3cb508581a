import SchemaMigration.Proofs.Column.Default
import SchemaMigration.Proofs.Column.Parts
import SchemaMigration.Proofs.Sql.Column

/-!
# Default values as single tokens

A default that is no call is a number, a truth value or one quoted literal, except where it was
taken for a quoted literal because of its first and its last character alone.
-/

namespace SchemaMigration.Sql

open Text Column Number

/-! ## Tokens -/

/-- Every `q` stands beside its double. -/
def onlyDoubled (q : Char) : List Char → Bool
  | [] => true
  | [c] => c != q
  | c :: d :: rest => if c = q then d == q && onlyDoubled q rest else onlyDoubled q (d :: rest)

/-- A literal opens with its first character, closes with its last, and has its quote between
them only doubled. -/
def IsLiteral (cs : List Char) : Prop :=
  ∃ q inner, isQuote q = true ∧ cs = q :: (inner ++ [q]) ∧ onlyDoubled q inner = true

def IsTruth (dialect : Dialect) (cs : List Char) : Prop :=
  if dialect = .sqlite then cs = ['1'] ∨ cs = ['0']
  else sameAscii (String.ofList cs) "true" = true ∨ sameAscii (String.ofList cs) "false" = true

def IsToken (dialect : Dialect) (cs : List Char) : Prop :=
  IsNumeral cs ∨ IsTruth dialect cs ∨ IsLiteral cs

theorem onlyDoubled_doubled (q : Char) (cs : List Char) : onlyDoubled q (doubled q cs) = true := by
  induction cs with
  | nil => rfl
  | cons c cs ih =>
    unfold doubled
    split
    · simp [onlyDoubled, ih]
    · next hother =>
      cases hrest : doubled q cs with
      | nil => simp [onlyDoubled, hother]
      | cons d rest' =>
        rw [hrest] at ih
        simpa [onlyDoubled, hother] using ih

theorem isLiteral_quoteLiteral (value : String) : IsLiteral (quoteLiteral value).toList := by
  unfold quoteLiteral
  rw [String.toList_ofList]
  exact ⟨'\'', _, rfl, rfl, onlyDoubled_doubled _ _⟩

/-! ## What trimming leaves -/

theorem isBlank_of_isQuote {q : Char} (hquote : isQuote q = true) : isBlank q = false := by
  by_contra hblank
  rw [Bool.not_eq_false] at hblank
  rw [isQuote_of_isBlank hblank] at hquote
  cases hquote

theorem trim_quoted {q : Char} (hquote : isQuote q = true) (inner : List Char) :
    trim (q :: (inner ++ [q])) = q :: (inner ++ [q]) := by
  refine Trimmed.trim_eq ?_ (by simp)
  constructor
  · rintro c ⟨⟩
    exact isBlank_of_isQuote hquote
  · intro c hlast
    rw [← List.cons_append, List.getLast?_concat] at hlast
    obtain rfl := Option.some.inj hlast
    exact isBlank_of_isQuote hquote

theorem isBlank_toLower : ∀ n ∈ blankCodes, isBlank (Char.ofNat n).toLower = true := by
  decide

theorem isBlank_of_sameAscii {s word : String} (hsame : sameAscii s word = true)
    (hplain : word.toList.all (fun c => !isBlank c.toLower) = true) : ∀ c ∈ s.toList, isBlank c = false := by
  unfold sameAscii at hsame
  rw [beq_iff_eq] at hsame
  intro c hmem
  by_contra hblank
  rw [Bool.not_eq_false] at hblank
  have hlower : c.toLower ∈ word.toList.map Char.toLower := hsame ▸ List.mem_map_of_mem hmem
  obtain ⟨d, hinWord, hequal⟩ := List.mem_map.mp hlower
  have hstays := isBlank_toLower c.toNat (mem_blankCodes hblank)
  rw [Char.ofNat_toNat, ← hequal] at hstays
  have hnoBlank := List.all_eq_true.mp hplain d hinWord
  rw [hstays] at hnoBlank
  cases hnoBlank

theorem trim_of_sameAscii {s word : String} (hsame : sameAscii s word = true)
    (hplain : word.toList.all (fun c => !isBlank c.toLower) = true) (hnonempty : word.toList ≠ []) :
    trim s.toList = s.toList := by
  have hnoBlank := isBlank_of_sameAscii hsame hplain
  have htrimmed : Trimmed s.toList := by
    constructor
    · exact fun c hfirst => hnoBlank c (List.mem_of_head? hfirst)
    · exact fun c hlast => hnoBlank c (List.mem_of_getLast? hlast)
  apply htrimmed.trim_eq
  intro hnone
  unfold sameAscii at hsame
  rw [beq_iff_eq, hnone] at hsame
  exact hnonempty (List.map_eq_nil_iff.mp hsame.symm)

/-! ## The classes of defaults -/

theorem isQuote_iff {q : Char} : isQuote q = true ↔ q = '\'' ∨ q = '"' := by
  unfold isQuote
  rw [Bool.or_eq_true, beq_iff_eq, beq_iff_eq]

theorem exists_quoted {cs : List Char} (hquoted : DefaultValue.isQuoted cs = true) :
    ∃ q inner, isQuote q = true ∧ cs = q :: (inner ++ [q]) := by
  unfold DefaultValue.isQuoted at hquoted
  simp only [Bool.and_eq_true, Bool.or_eq_true, beq_iff_eq, decide_eq_true_eq] at hquoted
  obtain ⟨hlong, hends⟩ := hquoted
  have hbetween (q : Char) (hfirst : cs.head? = some q) (hlast : cs.getLast? = some q) :
      ∃ inner, cs = q :: (inner ++ [q]) := by
    obtain ⟨rest, rfl⟩ := List.head?_eq_some_iff.mp hfirst
    rcases List.eq_nil_or_concat rest with rfl | ⟨inner, c, rfl⟩
    · simp at hlong
    · rw [List.concat_eq_append] at hlast ⊢
      rw [← List.cons_append, List.getLast?_concat] at hlast
      obtain rfl := Option.some.inj hlast
      exact ⟨inner, rfl⟩
  rcases hends with ⟨hfirst, hlast⟩ | ⟨hfirst, hlast⟩
  · obtain ⟨inner, hsame⟩ := hbetween '\'' hfirst hlast
    exact ⟨'\'', inner, rfl, hsame⟩
  · obtain ⟨inner, hsame⟩ := hbetween '"' hfirst hlast
    exact ⟨'"', inner, rfl, hsame⟩

theorem isToken_quoted_iff (dialect : Dialect) {q : Char} {rest : List Char}
    (hquote : isQuote q = true) : IsToken dialect (q :: rest) ↔ IsLiteral (q :: rest) := by
  have hnoNumeral : ¬IsNumeral (q :: rest) := by
    intro hnumeral
    have hfirst := hnumeral.head q rfl
    rcases isQuote_iff.mp hquote with rfl | rfl <;> simp at hfirst
  have hnoTruth : ¬IsTruth dialect (q :: rest) := by
    unfold IsTruth sameAscii
    rcases isQuote_iff.mp hquote with rfl | rfl <;> split <;> simp
  unfold IsToken
  simp only [hnoNumeral, hnoTruth, false_or]

theorem isNumeral_of_isNumeric {cs : List Char} (hnumeric : DefaultValue.isNumeric cs = true) :
    IsNumeral (trim cs) := by
  obtain ⟨d, hread, -⟩ := DefaultValue.isNumeric_iff.mp hnumeric
  exact Decimal.isNumeral_of_read? hread

theorem isTruth_boolean (dialect : Dialect) {raw word : String} (b : Bool)
    (hisWord : word = "true" ∨ word = "false") (hsame : sameAscii raw word = true) :
    IsTruth dialect (trim (literalOn dialect (.boolean b raw)).toList) := by
  unfold literalOn IsTruth
  by_cases hsqlite : dialect = .sqlite
  · cases b <;> simp [hsqlite] <;> decide
  · have hwhole : trim raw.toList = raw.toList := by
      rcases hisWord with rfl | rfl <;> exact trim_of_sameAscii hsame (by decide) (by decide)
    simp only [hsqlite, if_false, hwhole, String.ofList_toList]
    rcases hisWord with rfl | rfl
    · exact .inl hsame
    · exact .inr hsame

theorem isToken_classify (dialect : Dialect) (raw : String)
    (hnoCall : ∀ text, .classify raw ≠ DefaultValue.function text) :
    IsToken dialect (trim (literalOn dialect (.classify raw)).toList) ↔
      ∀ text, .classify raw = DefaultValue.quoted text → IsLiteral text.toList := by
  unfold DefaultValue.classify at hnoCall ⊢
  dsimp only at hnoCall ⊢
  split at hnoCall
  · exact absurd rfl (hnoCall raw)
  next hnotCall =>
  rw [if_neg hnotCall]
  split
  · next hnumeric =>
    refine iff_of_true (.inl ?_) (by simp)
    exact isNumeral_of_isNumeric hnumeric
  split
  · next hsame =>
    refine iff_of_true (.inr (.inl ?_)) (by simp)
    exact isTruth_boolean dialect true (.inl rfl) hsame
  split
  · next hsame =>
    refine iff_of_true (.inr (.inl ?_)) (by simp)
    exact isTruth_boolean dialect false (.inr rfl) hsame
  split
  · next hquoted =>
    obtain ⟨q, inner, hquote, hsame⟩ := exists_quoted hquoted
    have hliteral : (literalOn dialect (.quoted raw)).toList = raw.toList := rfl
    simp only [DefaultValue.quoted.injEq, forall_eq']
    rw [hliteral, hsame, trim_quoted hquote, isToken_quoted_iff dialect hquote]
  · refine iff_of_true (.inr (.inr ?_)) (by simp)
    have hliteral : literalOn dialect (.text raw) = quoteLiteral raw := rfl
    obtain ⟨q, inner, hquote, hsame, hdoubled⟩ := isLiteral_quoteLiteral raw
    rw [hliteral, hsame, trim_quoted hquote]
    exact ⟨q, inner, hquote, rfl, hdoubled⟩

/-! ## The default of a column -/

variable {dialect : Dialect} {name definition sql : String} {c : ColumnDef} {value : DefaultValue}

theorem exists_classify (hparsed : ColumnDef.parse definition = .ok c)
    (hgiven : c.modifiers.default = some value) : ∃ raw, .classify raw = value := by
  obtain ⟨gap, rest, segments, hparts⟩ := exists_parts hparsed
  rw [hparts.summed] at hgiven
  obtain ⟨raw, -, hsame⟩ := Option.map_eq_some_iff.mp hgiven
  exact ⟨_, hsame⟩

theorem withModifiers_default (dialect : Dialect) (base : String) {m : Modifiers}
    (hgiven : m.default = some value) : withModifiers dialect base m =
      withModifiers dialect base { m with default := none } ++ " DEFAULT " ++ literalOn dialect value := by
  rw [withModifiers_eq, withModifiers_eq]
  simp [flagClauses, keyClause, defaultClause, hgiven, String.append_assoc]

/-- A default that is no call is written behind `DEFAULT` as one token, exactly unless it has a
quote at each end and is no literal all the same. -/
theorem default_token_iff (hparsed : ColumnDef.parse definition = .ok c)
    (hgiven : c.modifiers.default = some value) (hnoCall : ∀ raw, value ≠ .function raw)
    (hwritten : columnSql dialect name definition = .ok sql) :
    ∃ base, columnType dialect c = .ok base ∧
      sql = withModifiers dialect base { c.modifiers with default := none } ++ " DEFAULT " ++
        literalOn dialect value ++ enumCheck dialect name c ∧
      (IsToken dialect (trim (literalOn dialect value).toList) ↔
        ∀ raw, value = .quoted raw → IsLiteral raw.toList) := by
  rw [columnSql_of_parse hparsed, map_eq_ok] at hwritten
  obtain ⟨base, htyped, rfl⟩ := hwritten
  refine ⟨base, htyped, ?_, ?_⟩
  · rw [withModifiers_default dialect base hgiven]
  · obtain ⟨raw, rfl⟩ := exists_classify hparsed hgiven
    exact isToken_classify dialect raw hnoCall

theorem default_token_iff_doubled :
    columnSql .postgresql "c" "text:default('it''s')" = .ok "TEXT DEFAULT 'it''s'" ∧
      IsToken .postgresql "'it''s'".toList := by
  have hwritten : columnSql .postgresql "c" "text:default('it''s')" =
      .ok "TEXT DEFAULT 'it''s'" := by decide +kernel
  have hread : ColumnDef.parse "text:default('it''s')" = .ok {
      typeDef := "text"
      typeName := "text"
      typeArgs := none
      modifiers := { default := some (.quoted "'it''s'") } } := by decide +kernel
  obtain ⟨_, -, -, htoken⟩ := default_token_iff hread rfl (by simp) hwritten
  refine ⟨hwritten, htoken.mpr ?_⟩
  rintro raw hsame
  obtain rfl := DefaultValue.quoted.inj hsame
  exact ⟨'\'', "it''s".toList, rfl, rfl, rfl⟩

/-- An apostrophe that is not doubled ends the literal early. -/
theorem default_spliced :
    columnSql .mysql "c" "text:default('it's')" = .ok "TEXT DEFAULT 'it's'" ∧
      columnSql .postgresql "c" "text:default('it's')" = .ok "TEXT DEFAULT 'it's'" ∧
      columnSql .sqlite "c" "text:default('it's')" = .ok "TEXT DEFAULT 'it's'" ∧
      ∀ dialect, ¬IsToken dialect "'it's'".toList := by
  refine ⟨by decide +kernel, by decide +kernel, by decide +kernel, fun dialect htoken => ?_⟩
  have hchars : "'it's'".toList = '\'' :: ("it's".toList ++ ['\'']) := by decide
  rw [hchars, isToken_quoted_iff dialect (by decide)] at htoken
  obtain ⟨q, inner, -, hsame, hdoubled⟩ := htoken
  obtain ⟨rfl, hrest⟩ := List.cons.inj hsame
  obtain rfl := List.append_cancel_right hrest
  exact absurd hdoubled (by decide)

end SchemaMigration.Sql
