import SchemaMigration.Column.Default
import SchemaMigration.Proofs.Number.Value

/-!
# Numeric defaults

A default is taken for a number when it is one in decimal notation and its double is finite. What
else is read as a double has no digit in it.
-/

namespace SchemaMigration.DefaultValue

open Text Number

theorem not_isFinite_ofWord? (negative : Bool) (cs : List Char) :
    (Double.ofWord? negative cs).any Double.isFinite = false := by
  unfold Double.ofWord?
  dsimp only
  split
  · rfl
  split <;> rfl

theorem isNumberChar_of_mark {c : Char} (hknown : c.isDigit = true ∨ c ∈ ['.', '+', '-', 'e', 'E']) :
    isNumberChar c = true := by
  rcases hknown with hdigit | hmark
  · simp [isNumberChar, hdigit]
  · have hmarks : ['.', '+', '-', 'e', 'E'].all isNumberChar = true := by decide
    exact List.all_eq_true.mp hmarks c hmark

theorem isNumeric_iff {raw : List Char} : isNumeric raw = true ↔
    ∃ d, Decimal.read? (trim raw) = some d ∧ (Double.ofDecimal d).isFinite = true := by
  unfold isNumeric
  dsimp only
  rw [Bool.and_eq_true, Bool.and_eq_true, Bool.and_eq_true]
  unfold Double.read?
  constructor
  · rintro ⟨-, hfinite⟩
    split at hfinite
    · next d hread => exact ⟨d, hread, hfinite⟩
    · simp [not_isFinite_ofWord?] at hfinite
  · rintro ⟨d, hread, hfinite⟩
    have hnumeral := Decimal.isNumeral_of_read? hread
    obtain ⟨c, hmem, hdigit⟩ := hnumeral.exists_digit
    rw [hread]
    refine ⟨⟨⟨?_, List.any_eq_true.mpr ⟨c, hmem, hdigit⟩⟩, ?_⟩, hfinite⟩
    · simpa using List.ne_nil_of_mem hmem
    · exact List.all_eq_true.mpr fun c hmem => isNumberChar_of_mark (hnumeral.digit_or_mark c hmem)

/-- The bound lies half way between the greatest double and the power of two after it. -/
theorem isNumeric_iff_denotes {raw : List Char} : isNumeric raw = true ↔
    ∃ q, Denotes (trim raw) q ∧ |q| < 2 ^ 1024 - 2 ^ 970 := by
  have hscale (n : Nat) : ((2 ^ 54 - 1) * 2 ^ n : ℚ) = 2 ^ (54 + n) - 2 ^ n := by
    rw [sub_mul, one_mul, ← pow_add]
  have hbound : ((2 ^ 54 - 1) * 2 ^ 970 : ℚ) = 2 ^ 1024 - 2 ^ 970 := hscale 970
  rw [isNumeric_iff]
  constructor
  · rintro ⟨d, hread, hfinite⟩
    have hbelow := (Decimal.isFinite_ofDecimal_iff d).mp hfinite
    rw [hbound] at hbelow
    exact ⟨d.value, denotes_iff.mpr ⟨d, hread, rfl⟩, hbelow⟩
  · rintro ⟨q, hdenotes, hbelow⟩
    obtain ⟨d, hread, rfl⟩ := denotes_iff.mp hdenotes
    rw [← hbound] at hbelow
    exact ⟨d, hread, (Decimal.isFinite_ofDecimal_iff d).mpr hbelow⟩

theorem classify_of_not_isNumeric {raw : String} (hnoCall : '(' ∉ raw.toList)
    (hother : isNumeric raw.toList = false) :
    (∃ b, classify raw = .boolean b raw) ∨ classify raw = .quoted raw ∨ classify raw = .text raw := by
  unfold classify
  dsimp only
  rw [if_neg (by simpa using hnoCall), if_neg (by simp [hother])]
  split
  · exact .inl ⟨true, rfl⟩
  split
  · exact .inl ⟨false, rfl⟩
  split
  · exact .inr (.inl rfl)
  · exact .inr (.inr rfl)

theorem classify_of_isNumeric {raw : String} (hnoCall : '(' ∉ raw.toList)
    (hnumeric : isNumeric raw.toList = true) : classify raw = .numeric raw := by
  unfold classify
  dsimp only
  rw [if_neg (by simpa using hnoCall), if_pos hnumeric]

/-- A default that is no call is a number exactly if it denotes one that has a finite double. -/
theorem classify_eq_numeric_iff {raw : String} (hnoCall : '(' ∉ raw.toList) :
    (classify raw = .numeric raw ↔ ∃ q, Denotes (trim raw.toList) q ∧ |q| < 2 ^ 1024 - 2 ^ 970) ∧
      (∀ p q, Denotes (trim raw.toList) p → Denotes (trim raw.toList) q → p = q) ∧
      (classify raw ≠ .numeric raw →
        (∃ b, classify raw = .boolean b raw) ∨ classify raw = .quoted raw ∨ classify raw = .text raw) := by
  have hothers := classify_of_not_isNumeric hnoCall
  rw [← isNumeric_iff_denotes]
  refine ⟨⟨fun hsame => ?_, classify_of_isNumeric hnoCall⟩, fun p q => Denotes.unique, fun hdiffers => ?_⟩
  · by_contra hother
    rw [Bool.not_eq_true] at hother
    rcases hothers hother with ⟨b, hsame'⟩ | hsame' | hsame' <;> simp [hsame] at hsame'
  · refine hothers (Bool.eq_false_iff.mpr fun hnumeric => ?_)
    exact hdiffers (classify_of_isNumeric hnoCall hnumeric)

theorem classify_numeric_below_bound :
    classify " +17976931348623158079372e286 " = .numeric " +17976931348623158079372e286 " ∧
      classify "17976931348623158079373e286" = .text "17976931348623158079373e286" := by
  refine ⟨(classify_eq_numeric_iff (by decide)).1.mpr ?_, by decide +kernel⟩
  have hread : Decimal.read? (trim " +17976931348623158079372e286 ".toList) =
      some ⟨false, 17976931348623158079372, 286⟩ := by decide +kernel
  refine ⟨_, denotes_iff.mpr ⟨_, hread, rfl⟩, ?_⟩
  have hcast (d e n k : Nat) (hless : d * 10 ^ e + 2 ^ k < 2 ^ n) :
      |(⟨false, d, e⟩ : Decimal).value| < 2 ^ n - 2 ^ k := by
    rw [Decimal.abs_value, lt_sub_iff_add_lt, zpow_natCast]
    exact_mod_cast hless
  exact hcast 17976931348623158079372 286 1024 970 (by decide +kernel)

end SchemaMigration.DefaultValue
