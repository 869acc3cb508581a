import SchemaMigration.Proofs.Sql.Pieces
import SchemaMigration.Proofs.Text.Search

/-!
# The value of one number

One replacement reaches every place where the digits of its number follow a `$`. These are the
placeholders of that number, unless a `$` of the text stands there or a placeholder of another
number reads like it.
-/

namespace SchemaMigration.Sql

open Text Number

variable {params : List SqlValue} {cs : List Char} {number : Nat} {value : SqlValue}
variable {ps : List Piece}

/-! ## One number -/

/-- What is done for one number: every occurrence is replaced. -/
def writeOne (number : Nat) (value : SqlValue) (cs : List Char) : List Char :=
  replaceAll ('$' :: decimalDigits number) value.literal.toList cs

/-- The digits of the number follow a `$` that belongs to no placeholder. -/
def Stray (number : Nat) (ps : List Piece) (tail : List Char) : Prop :=
  ∃ before after, ps = before ++ .char '$' :: after ∧ decimalDigits number <+: textOf after ++ tail

/-- No other placeholder reads as the number together with what follows it. -/
def Apart (number : Nat) (ps : List Piece) (tail : List Char) : Prop :=
  ∀ before n v after, ps = before ++ .slot n v :: after → n ≠ number →
    ¬decimalDigits number <+: decimalDigits n ++ (textOf after ++ tail)

variable {tail : List Char}

theorem writeOne_occurrence (rest : List Char) :
    writeOne number value ('$' :: (decimalDigits number ++ rest)) =
      value.literal.toList ++ writeOne number value rest := by
  unfold writeOne
  rw [← List.cons_append, replaceAll_prefix (by simp)]

theorem writeOne_mark {rest : List Char} (hother : ¬decimalDigits number <+: rest) :
    writeOne number value ('$' :: rest) = '$' :: writeOne number value rest := by
  unfold writeOne
  rw [replaceAll_cons]
  simpa [List.cons_prefix_cons] using hother

theorem writeOne_append (habsent : '$' ∉ cs) (rest : List Char) :
    writeOne number value (cs ++ rest) = cs ++ writeOne number value rest := by
  unfold writeOne
  rw [replaceAll_append habsent]

theorem writeOne_char {c : Char} (hother : c ≠ '$') (rest : List Char) :
    writeOne number value (c :: rest) = c :: writeOne number value rest := by
  have habsent : '$' ∉ [c] := by simpa [eq_comm] using hother
  exact writeOne_append habsent rest

theorem mark_not_mem_decimalDigits (n : Nat) : '$' ∉ decimalDigits n :=
  fun hmem => absurd (isDigit_of_mem_decimalDigits hmem) (by decide)

/-- The placeholders of the number are replaced, and nothing else. -/
structure Replaces (number : Nat) (value : SqlValue) (ps : List Piece) (tail : List Char) : Prop where
  noStray : ¬Stray number ps tail
  text : writeOne number value (textOf ps ++ tail) =
    textOf (writtenFrom number ps) ++ writeOne number value tail

/-- The first stray `$` is replaced as well, and its digits. -/
def Strays (number : Nat) (value : SqlValue) (ps : List Piece) (tail : List Char) : Prop :=
  ∃ before after rest, ps = before ++ .char '$' :: after ∧
    decimalDigits number <+: textOf after ++ tail ∧
    writeOne number value (textOf ps ++ tail) =
      textOf (writtenFrom number before) ++ (value.literal.toList ++ rest)

section Step

variable {p : Piece} (hpasses : writeOne number value (textOf (p :: ps) ++ tail) =
  textOf (p.writtenFrom number) ++ writeOne number value (textOf ps ++ tail))
include hpasses

theorem Replaces.cons (hreplaces : Replaces number value ps tail)
    (hnotHere : p = .char '$' → ¬decimalDigits number <+: textOf ps ++ tail) :
    Replaces number value (p :: ps) tail := by
  constructor
  · rintro ⟨before, after, hsame, hdigits⟩
    rcases List.cons_eq_append_iff.mp hsame with ⟨rfl, hhere⟩ | ⟨before, rfl, hthere⟩
    · obtain ⟨rfl, rfl⟩ := List.cons.inj hhere
      exact hnotHere rfl hdigits
    · exact hreplaces.noStray ⟨before, after, hthere, hdigits⟩
  · rw [hpasses, hreplaces.text]
    simp

theorem Strays.cons (hstrays : Strays number value ps tail) : Strays number value (p :: ps) tail := by
  obtain ⟨before, after, rest, rfl, hdigits, htext⟩ := hstrays
  refine ⟨p :: before, after, rest, rfl, hdigits, ?_⟩
  rw [hpasses, htext]
  simp

end Step

theorem writeOne_cases (hknown : ∀ n v, .slot n v ∈ ps → n ≤ number ∧ (n = number → v = value))
    (hapart : Apart number ps tail) :
    Replaces number value ps tail ∨ Strays number value ps tail := by
  induction ps with
  | nil => exact .inl ⟨by simp [Stray], rfl⟩
  | cons p ps ih =>
    have hrest := ih (fun n v hmem => hknown n v (List.mem_cons_of_mem _ hmem))
      fun before n v after hsame => hapart (p :: before) n v after (by rw [hsame]; rfl)
    cases p with
    | char c =>
      by_cases hmark : c = '$'
      · subst hmark
        by_cases hhere : decimalDigits number <+: textOf ps ++ tail
        · obtain ⟨left, hwhole⟩ := id hhere
          refine .inr ⟨[], ps, writeOne number value left, rfl, hhere, ?_⟩
          rw [textOf_cons, List.append_assoc, ← hwhole]
          exact writeOne_occurrence left
        · have hpasses : writeOne number value ('$' :: (textOf ps ++ tail)) = _ := writeOne_mark hhere
          exact hrest.imp (.cons hpasses · fun _ => hhere) (.cons hpasses)
      · have hpasses : writeOne number value (c :: (textOf ps ++ tail)) = _ := writeOne_char hmark _
        exact hrest.imp (.cons hpasses · fun hsame => absurd (Piece.char.inj hsame) hmark) (.cons hpasses)
    | slot n v =>
      have hpasses : writeOne number value (textOf (.slot n v :: ps) ++ tail) =
          textOf ((Piece.slot n v).writtenFrom number) ++ writeOne number value (textOf ps ++ tail) := by
        obtain ⟨hleast, hsame⟩ := hknown n v List.mem_cons_self
        by_cases hhere : n = number
        · obtain rfl := hsame hhere
          subst hhere
          rw [Piece.writtenFrom_of_le le_rfl, textOf_chars, textOf_cons, List.append_assoc]
          exact writeOne_occurrence _
        · have hother := hapart [] n v ps rfl hhere
          rw [Piece.writtenFrom_of_lt (by omega), textOf_cons, List.append_assoc, Piece.text,
            List.cons_append, writeOne_mark hother, writeOne_append (mark_not_mem_decimalDigits n)]
          simp [Piece.text]
      exact hrest.imp (.cons hpasses · fun hsame => Piece.noConfusion hsame) (.cons hpasses)

/-! ## What stands behind a stray `$` -/

theorem Stray.next (hstray : Stray number ps []) (hpositive : 0 < number) :
    ∃ d, [.char '$', .char d] <:+: ps ∧ d.isDigit = true ∧ 0 < digitValue d ∧ digitValue d ≤ number := by
  obtain ⟨before, after, rfl, hdigits⟩ := hstray
  rw [List.append_nil] at hdigits
  obtain ⟨d, rest, hsame⟩ := List.exists_cons_of_ne_nil (decimalDigits_ne_nil number)
  have hfirst : d ∈ (decimalDigits number).head? := by rw [hsame]; rfl
  have hdigit := isDigit_of_mem_decimalDigits (List.mem_of_head? hfirst)
  have hstart : d ∈ (textOf after).head? := by
    obtain ⟨left, hwhole⟩ := hdigits
    rw [← hwhole, hsame]
    rfl
  have hother : d ≠ '$' := by
    rintro rfl
    exact absurd hdigit (by decide)
  obtain ⟨others, rfl⟩ := char_of_head?_textOf hstart hother
  exact ⟨d, ⟨before, others, by simp⟩, hdigit, digitValue_head_pos hpositive hfirst,
    digitValue_head_le hfirst⟩

theorem stray_of_next {d : Char} (hnext : [.char '$', .char d] <:+: ps) (hdigit : d.isDigit = true) :
    Stray (digitValue d) ps [] := by
  obtain ⟨before, after, rfl⟩ := hnext
  refine ⟨before, .char d :: after, by simp, ?_⟩
  simp [decimalDigits_digitValue hdigit, Piece.text, List.cons_prefix_cons]

end SchemaMigration.Sql
