import Mathlib.Tactic.FieldSimp
import SchemaMigration.Proofs.Number.Decimal
import SchemaMigration.Proofs.Number.Overflow
import SchemaMigration.Proofs.Text.Search

/-!
# What a numeral denotes

A numeral denotes the product of its sign, its mantissa and a power of ten. No other number is read
from it.
-/

namespace SchemaMigration.Number

open Text

variable {cs sign mantissa exponent rest : List Char} {m p q : ℚ} {e : Int}

inductive MantissaOf : List Char → ℚ → Prop
  | whole {w : List Char} (digits : IsDigits w) : MantissaOf w (natOfDigits 10 w)
  | pointed {w f : List Char} (digits : IsDigits w) (more : ∀ c ∈ f, c.isDigit = true) :
      MantissaOf (w ++ '.' :: f) (natOfDigits 10 w + natOfDigits 10 f / 10 ^ f.length)
  | fraction {f : List Char} (digits : IsDigits f) :
      MantissaOf ('.' :: f) (natOfDigits 10 f / 10 ^ f.length)

inductive ExponentOf : List Char → Int → Prop
  | none : ExponentOf [] 0
  | some {e : Char} {sign ds : List Char} (letter : e = 'e' ∨ e = 'E') (signed : IsSign sign)
      (digits : IsDigits ds) : ExponentOf (e :: (sign ++ ds))
        (if sign = ['-'] then -(natOfDigits 10 ds : Int) else natOfDigits 10 ds)

def Denotes (cs : List Char) (q : ℚ) : Prop :=
  ∃ sign mantissa exponent m e, cs = sign ++ (mantissa ++ exponent) ∧
    IsSign sign ∧ MantissaOf mantissa m ∧ ExponentOf exponent e ∧
    q = (if sign = ['-'] then -1 else 1) * (m * 10 ^ e)

theorem IsMantissa.exists_value (hisMantissa : IsMantissa cs) : ∃ m, MantissaOf cs m := by
  cases hisMantissa with
  | whole hdigits => exact ⟨_, .whole hdigits⟩
  | pointed hdigits hmore => exact ⟨_, .pointed hdigits hmore⟩
  | fraction hdigits => exact ⟨_, .fraction hdigits⟩

theorem IsExponent.exists_value (hisExponent : IsExponent cs) : ∃ e, ExponentOf cs e := by
  cases hisExponent with
  | none => exact ⟨_, .none⟩
  | some hletter hsigned hdigits => exact ⟨_, .some hletter hsigned hdigits⟩

theorem IsNumeral.exists_denotes (hisNumeral : IsNumeral cs) : ∃ q, Denotes cs q := by
  obtain ⟨sign, mantissa, exponent, hsame, hsigned, hisMantissa, hisExponent⟩ := hisNumeral
  obtain ⟨m, hmantissa⟩ := hisMantissa.exists_value
  obtain ⟨e, hexponent⟩ := hisExponent.exists_value
  exact ⟨_, _, _, _, m, e, hsame, hsigned, hmantissa, hexponent, rfl⟩

theorem MantissaOf.isMantissa (hmantissaOf : MantissaOf cs m) : IsMantissa cs := by
  cases hmantissaOf with
  | whole hdigits => exact .whole hdigits
  | pointed hdigits hmore => exact .pointed hdigits hmore
  | fraction hdigits => exact .fraction hdigits

theorem ExponentOf.head (hexponentOf : ExponentOf cs e) :
    ∀ c ∈ cs.head?, c.isDigit = false ∧ c ≠ '.' := by
  cases hexponentOf with
  | none => simp
  | some hletter hsigned hdigits =>
    rintro c ⟨⟩
    rcases hletter with rfl | rfl <;> decide

namespace Decimal

/-! ## The parts that are read -/

theorem splitSign_append (hsigned : IsSign sign) (hunsigned : ∀ c ∈ rest.head?, c ≠ '-' ∧ c ≠ '+') :
    splitSign (sign ++ rest) = (decide (sign = ['-']), rest) := by
  rcases hsigned with rfl | rfl | rfl
  · rw [List.nil_append]
    unfold splitSign
    split
    · exact absurd rfl (hunsigned _ rfl).1
    · exact absurd rfl (hunsigned _ rfl).2
    · rfl
  · rfl
  · rfl

theorem ne_sign {c : Char} (hknown : c.isDigit = true ∨ c = '.') : c ≠ '-' ∧ c ≠ '+' := by
  constructor <;> rintro rfl <;> simp at hknown

theorem readExponent?_of (hexponentOf : ExponentOf cs e) : readExponent? cs = some e := by
  cases hexponentOf with
  | none => rfl
  | @some letter sign ds hisLetter hsigned hdigits =>
    have hsplit : splitSign (sign ++ ds) = (decide (sign = ['-']), ds) :=
      splitSign_append hsigned fun c hfirst => ne_sign (.inl (hdigits.digits c (List.mem_of_head? hfirst)))
    unfold readExponent?
    dsimp only
    rw [if_pos hisLetter, hsplit]
    simp [hdigits.nonempty, List.all_eq_true.mpr hdigits.digits]

theorem splitFraction_of_ne (hends : ∀ c ∈ cs.head?, c.isDigit = false ∧ c ≠ '.') :
    splitFraction cs = ([], cs) := by
  unfold splitFraction
  split
  · exact absurd rfl (hends _ rfl).2
  · rfl

theorem splitFraction_of (hmantissaOf : MantissaOf mantissa m)
    (hends : ∀ c ∈ rest.head?, c.isDigit = false ∧ c ≠ '.') :
    ∃ whole behind fraction, (mantissa ++ rest).span Char.isDigit = (whole, behind) ∧
      splitFraction behind = (fraction, rest) ∧ ¬(whole = [] ∧ fraction = []) ∧
      m = natOfDigits 10 (whole ++ fraction) / 10 ^ fraction.length := by
  have hstops : ∀ c ∈ rest.head?, c.isDigit = false := fun c hfirst => (hends c hfirst).1
  have hpointed (f : List Char) (hmore : ∀ c ∈ f, c.isDigit = true) :
      splitFraction ('.' :: (f ++ rest)) = (f, rest) := span_eq_iff.mpr ⟨rfl, hmore, hstops⟩
  cases hmantissaOf with
  | whole hdigits =>
    refine ⟨mantissa, rest, [], span_eq_iff.mpr ⟨rfl, hdigits.digits, hstops⟩,
      splitFraction_of_ne hends, fun hnone => hdigits.nonempty hnone.1, by simp⟩
  | @pointed w f hdigits hmore =>
    refine ⟨w, '.' :: (f ++ rest), f, span_eq_iff.mpr ⟨by simp, hdigits.digits, by simp⟩,
      hpointed f hmore, fun hnone => hdigits.nonempty hnone.1, ?_⟩
    rw [natOfDigits_append]
    push_cast
    field_simp
  | @fraction f hdigits =>
    exact ⟨[], '.' :: (f ++ rest), f, span_eq_iff.mpr ⟨rfl, by simp, by simp⟩,
      hpointed f hdigits.digits, fun hnone => hdigits.nonempty hnone.2, rfl⟩

/-! ## Numerals -/

theorem read?_of_denotes (hdenotes : Denotes cs q) : ∃ d, read? cs = some d ∧ d.value = q := by
  obtain ⟨sign, mantissa, exponent, m, e, rfl, hsigned, hmantissaOf, hexponentOf, rfl⟩ := hdenotes
  have hunsigned : ∀ c ∈ (mantissa ++ exponent).head?, c ≠ '-' ∧ c ≠ '+' := by
    obtain ⟨d, more, rfl, hknown⟩ := hmantissaOf.isMantissa.head
    rintro c ⟨⟩
    exact ne_sign hknown
  obtain ⟨whole, behind, fraction, hbefore, hafter, hsome, rfl⟩ :=
    splitFraction_of hmantissaOf hexponentOf.head
  unfold read?
  rw [splitSign_append hsigned hunsigned]
  dsimp only
  rw [hbefore]
  dsimp only
  rw [hafter]
  dsimp only
  rw [if_neg hsome, readExponent?_of hexponentOf]
  refine ⟨_, rfl, ?_⟩
  unfold value
  simp only [decide_eq_true_eq]
  rw [zpow_sub₀ (by norm_num), zpow_natCast, div_mul_eq_mul_div, mul_div_assoc]

theorem denotes_value {d : Decimal} (hread : read? cs = some d) : Denotes cs d.value := by
  obtain ⟨q, hdenotes⟩ := (isNumeral_of_read? hread).exists_denotes
  obtain ⟨d', hread', rfl⟩ := read?_of_denotes hdenotes
  obtain rfl := Option.some.inj (hread.symm.trans hread')
  exact hdenotes

end Decimal

theorem denotes_iff : Denotes cs q ↔ ∃ d, Decimal.read? cs = some d ∧ d.value = q := by
  constructor
  · exact Decimal.read?_of_denotes
  · rintro ⟨d, hread, rfl⟩
    exact Decimal.denotes_value hread

theorem Denotes.unique (hfirst : Denotes cs p) (hsecond : Denotes cs q) : p = q := by
  obtain ⟨d, hread, rfl⟩ := denotes_iff.mp hfirst
  obtain ⟨d', hread', rfl⟩ := denotes_iff.mp hsecond
  obtain rfl := Option.some.inj (hread.symm.trans hread')
  rfl

end SchemaMigration.Number
