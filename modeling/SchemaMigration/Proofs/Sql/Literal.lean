import SchemaMigration.Proofs.Sql.Value
import SchemaMigration.Proofs.Text.Doubled

/-!
# Literals that end themselves

A string literal opens with an apostrophe and closes with the first one that stands alone. What is
written as one is read back as it was, and what follows it is left.
-/

namespace SchemaMigration

open Text Number

namespace Sql

variable {value : String} {rest text left : List Char}

/-- Reads a string literal, and what follows it. -/
def readLiteral? : List Char → Option (List Char × List Char)
  | [] => none
  | c :: cs => if c = '\'' then readDoubled? '\'' cs else none

theorem readLiteral?_append (value : String) (rest : List Char) :
    readLiteral? ((quoteLiteral value).toList ++ rest) =
      (readDoubled? '\'' ('\'' :: rest)).map (Prod.map (value.toList ++ ·) id) := by
  have hwritten : (quoteLiteral value).toList ++ rest =
      '\'' :: (doubled '\'' value.toList ++ '\'' :: rest) := by
    simp [quoteLiteral]
  rw [hwritten, readLiteral?, if_pos rfl, readDoubled?_append]

theorem readLiteral?_quoteLiteral (value : String) (rest : List Char) (hstops : rest.head? ≠ some '\'') :
    readLiteral? ((quoteLiteral value).toList ++ rest) = some (value.toList, rest) := by
  rw [readLiteral?_append, readDoubled?_closing hstops]
  simp

theorem not_cut_short (hread : readLiteral? ((quoteLiteral value).toList ++ rest) = some (text, left)) :
    value.toList <+: text ∧ left <:+ rest := by
  rw [readLiteral?_append, Option.map_eq_some_iff] at hread
  obtain ⟨⟨more, left⟩, hclosed, ⟨⟩⟩ := hread
  have hparts := eq_of_readDoubled? hclosed
  have hends : left <:+ '\'' :: rest := ⟨doubled '\'' more ++ ['\''], by simpa using hparts.symm⟩
  have hshorter := length_readDoubled? hclosed
  refine ⟨List.prefix_append _ _, ?_⟩
  rcases List.suffix_cons_iff.mp hends with hwhole | hinside
  · exact absurd hshorter (by simp [hwhole])
  · exact hinside

end Sql

namespace SqlValue

open Sql

/-- Reads the literal of a value that is no floating point number. -/
def ofLiteral? : List Char → Option SqlValue
  | [] => none
  | c :: cs =>
    if c = '\'' then (readLiteral? (c :: cs)).map fun read => .text (String.ofList read.1)
    else if c = 'N' then some .null
    else if c = 't' then some (.boolean true)
    else if c = 'f' then some (.boolean false)
    else if c = '-' then some (.integer (-natOfDigits 10 cs))
    else some (.integer (natOfDigits 10 (c :: cs)))

theorem ofLiteral?_intText (n : Int) : ofLiteral? (intText n).toList = some (.integer n) := by
  have hvalue := natOfDigits_decimalDigits n.natAbs
  unfold intText
  split
  · next hnegative =>
    have hmagnitude : -(n.natAbs : Int) = n := by omega
    have hchars : ("-" ++ String.ofList (decimalDigits n.natAbs)).toList =
        '-' :: decimalDigits n.natAbs := by
      rw [String.toList_append, String.toList_ofList]
      simp
    rw [hchars]
    unfold ofLiteral?
    dsimp only
    rw [if_neg (by decide), if_neg (by decide), if_neg (by decide), if_neg (by decide), if_pos rfl,
      hvalue, hmagnitude]
  · next hpositive =>
    have hmagnitude : (n.natAbs : Int) = n := by omega
    obtain ⟨d, ds, hdigits⟩ := List.exists_cons_of_ne_nil (decimalDigits_ne_nil n.natAbs)
    have hdigit : d.isDigit = true := isDigit_of_mem_decimalDigits (n := n.natAbs) (by simp [hdigits])
    have hother {c : Char} (hmark : c.isDigit = false) : d ≠ c := by
      rintro rfl
      rw [hdigit] at hmark
      cases hmark
    rw [hdigits] at hvalue
    rw [String.toList_ofList, hdigits]
    unfold ofLiteral?
    dsimp only
    rw [if_neg (hother (by decide)), if_neg (hother (by decide)), if_neg (hother (by decide)),
      if_neg (hother (by decide)), if_neg (hother (by decide)), hvalue, hmagnitude]

theorem ofLiteral?_literal {v : SqlValue} (hexact : ∀ x, v ≠ .float x) :
    ofLiteral? v.literal.toList = some v := by
  cases v with
  | null => decide
  | boolean b => cases b <;> decide
  | integer n => exact ofLiteral?_intText n
  | float x => exact absurd rfl (hexact x)
  | text s =>
    have hread := readLiteral?_quoteLiteral s [] (by simp)
    rw [List.append_nil] at hread
    have hopens : (quoteLiteral s).toList = '\'' :: (doubled '\'' s.toList ++ ['\'']) := by
      simp [quoteLiteral]
    rw [literal, hopens, ofLiteral?, if_pos rfl, ← hopens, hread]
    simp

end SqlValue

/-- A literal is read back whole, up to whatever follows that is no further apostrophe. Nothing in
its value can end it, and no two values share a literal, floating point numbers left aside. -/
theorem Sql.literals_delimit_themselves :
    (∀ (value : String) (rest : List Char), rest.head? ≠ some '\'' →
      readLiteral? ((quoteLiteral value).toList ++ rest) = some (value.toList, rest)) ∧
    (∀ (value : String) (rest text left : List Char),
      readLiteral? ((quoteLiteral value).toList ++ rest) = some (text, left) →
        value.toList <+: text ∧ left <:+ rest) ∧
    Function.Injective quoteLiteral ∧
    ∀ v w : SqlValue, (∀ x, v ≠ .float x) → (∀ x, w ≠ .float x) → v.literal = w.literal → v = w := by
  have hinjective : ∀ v w : SqlValue, (∀ x, v ≠ .float x) → (∀ x, w ≠ .float x) →
      v.literal = w.literal → v = w := by
    intro v w hexactV hexactW hsame
    have hread := SqlValue.ofLiteral?_literal hexactV
    rw [hsame, SqlValue.ofLiteral?_literal hexactW] at hread
    exact (Option.some.inj hread).symm
  refine ⟨readLiteral?_quoteLiteral, fun value rest text left hread => not_cut_short hread,
    fun value other hsame => ?_, hinjective⟩
  exact SqlValue.text.inj (hinjective (.text value) (.text other) (by simp) (by simp) hsame)

/-- Apostrophes at both ends of the value and right behind the literal. -/
theorem Sql.literals_delimit_themselves_quoted :
    readLiteral? ((quoteLiteral "'it''s'").toList ++ " OR 1".toList) =
        some ("'it''s'".toList, " OR 1".toList) ∧
      ("'it".toList <+: "'it's".toList ∧ " OR 1".toList <:+ "'s' OR 1".toList) ∧
      (SqlValue.integer 3).literal ≠ (SqlValue.text "3").literal := by
  obtain ⟨hwhole, hwithin, -, hinjective⟩ := literals_delimit_themselves
  refine ⟨hwhole "'it''s'" " OR 1".toList (by decide), ?_, fun hsame => ?_⟩
  · exact hwithin "'it" "'s' OR 1".toList "'it's".toList " OR 1".toList (by decide)
  · have hequal := hinjective (.integer 3) (.text "3") (by simp) (by simp) hsame
    cases hequal

end SchemaMigration
