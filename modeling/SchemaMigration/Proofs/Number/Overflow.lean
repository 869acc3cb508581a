import Mathlib.Algebra.Order.Field.Basic
import Mathlib.Algebra.Order.Field.Power
import Mathlib.Algebra.Order.Ring.Rat
import Mathlib.Data.Rat.Cast.Order
import Mathlib.Tactic.Linarith
import Mathlib.Tactic.NormNum
import Mathlib.Tactic.Positivity
import Mathlib.Tactic.Ring
import SchemaMigration.Number.Double
import SchemaMigration.Proofs.Number.Digits

/-!
# Where doubles overflow

The double nearest to a fraction is infinite from `2 ^ 1024 - 2 ^ 970` on. That is half way between
the greatest finite double, which has an odd significand, and the next power of two.
-/

namespace SchemaMigration.Number.Double

variable {num den : Nat} {negative : Bool}

/-! ## Rounding a fraction -/

theorem succ_le_divideToEven_iff {n : Nat} (hodd : n % 2 = 1) (hpositive : 0 < den) :
    n + 1 ≤ divideToEven num den ↔ (2 * n + 1) * den ≤ 2 * num := by
  have hparts := Nat.div_add_mod num den
  have hless := Nat.mod_lt num hpositive
  have hhalf : (2 * n + 1) * den = 2 * (den * n) + den := by ring
  unfold divideToEven
  dsimp only
  generalize num / den = q at hparts ⊢
  generalize num % den = r at hparts hless ⊢
  rw [hhalf]
  rcases Nat.lt_trichotomy n q with hbelow | rfl | habove
  · have hproduct : den * (n + 1) ≤ den * q := Nat.mul_le_mul_left den hbelow
    rw [Nat.mul_succ] at hproduct
    split <;> omega
  · split <;> omega
  · have hproduct : den * (q + 1) ≤ den * n := Nat.mul_le_mul_left den habove
    rw [Nat.mul_succ] at hproduct
    split <;> omega

theorem divideToEven_le {n : Nat} (hless : num < den * n) : divideToEven num den ≤ n := by
  have hquotient : num / den < n := Nat.div_lt_of_lt_mul hless
  unfold divideToEven
  dsimp only
  split <;> omega

theorem le_floorLog2_iff (hsome : num ≠ 0) (hpositive : 0 < den) (k : Nat) :
    (k : Int) ≤ floorLog2 num den ↔ den * 2 ^ k ≤ num := by
  have hlowNum := Nat.log2_self_le hsome
  have hhighNum : num < 2 ^ (num.log2 + 1) := Nat.lt_log2_self
  have hlowDen := Nat.log2_self_le (Nat.ne_of_gt hpositive)
  have hhighDen : den < 2 ^ (den.log2 + 1) := Nat.lt_log2_self
  unfold floorLog2
  dsimp only
  generalize num.log2 = a at hlowNum hhighNum ⊢
  generalize den.log2 = b at hlowDen hhighDen ⊢
  have habove : den * 2 ^ k ≤ num → b + k ≤ a := by
    intro hreached
    have hpower : 2 ^ (b + k) ≤ den * 2 ^ k := by
      rw [Nat.pow_add]
      exact Nat.mul_le_mul_right _ hlowDen
    have hexponents := (Nat.pow_lt_pow_iff_right (by decide)).mp (show 2 ^ (b + k) < 2 ^ (a + 1) by omega)
    omega
  have hbelow : b + k < a → den * 2 ^ k ≤ num := by
    intro hless
    have hpower : den * 2 ^ k ≤ 2 ^ (b + 1 + k) := by
      rw [Nat.pow_add]
      exact Nat.mul_le_mul_right _ hhighDen.le
    have hexponents : 2 ^ (b + 1 + k) ≤ 2 ^ a := Nat.pow_le_pow_right (by decide) (by omega)
    omega
  by_cases horder : b ≤ a
  · -- Between the two bounds the guess itself is compared.
    have hguess : (a : Int) - b = (a - b : Nat) := by omega
    rw [hguess]
    simp only [Int.natCast_nonneg, if_true, Int.toNat_natCast, Nat.pow_eq]
    rcases Nat.lt_trichotomy k (a - b) with hless | rfl | hmore
    · refine iff_of_true ?_ (hbelow (by omega))
      split <;> omega
    · split
      · next hreached => exact iff_of_true (by omega) hreached
      · next hmissed => exact iff_of_false (by omega) hmissed
    · refine iff_of_false ?_ fun hreached => ?_
      · split <;> omega
      · have horder := habove hreached
        omega
  · refine iff_of_false ?_ fun hreached => ?_
    · split <;> omega
    · have horder := habove hreached
      omega

/-! ## The greatest doubles -/

theorem isFinite_carried {exponent : Int} {significand : Nat} (hsome : num ≠ 0)
    (hplaced : max (floorLog2 num den - 52) minExponent = exponent)
    (hrounded : (if 0 ≤ exponent then divideToEven num (den * Nat.pow 2 exponent.toNat)
      else divideToEven (num * Nat.pow 2 (-exponent).toNat) den) = significand) :
    (ofRatio negative num den).isFinite = true ↔
      (if significand = Nat.pow 2 53 then exponent + 1 else exponent) ≤ maxExponent := by
  unfold ofRatio
  rw [if_neg hsome, hplaced]
  dsimp only
  rw [hrounded]
  by_cases hcarried : significand = Nat.pow 2 53
  · rw [if_pos hcarried, if_pos hcarried]
    split
    · next hbeyond => simpa [isFinite] using hbeyond
    · next hwithin => simpa [isFinite] using hwithin
  · rw [if_neg hcarried, if_neg hcarried]
    split
    · next hbeyond => simpa [isFinite] using hbeyond
    · next hwithin => simpa [isFinite] using hwithin

/-- The bound in units of `2 ^ 970`. The greatest double has an even number of them, two less than
the next power of two. -/
theorem isFinite_ofRatio_iff (hpositive : 0 < den) :
    (ofRatio negative num den).isFinite = true ↔ num < (2 ^ 54 - 1) * (den * 2 ^ 970) := by
  have hpower (n : Nat) : 0 < 2 ^ n := Nat.two_pow_pos n
  have hsome := Nat.mul_pos hpositive (hpower 970)
  have hdouble (n : Nat) : den * Nat.pow 2 (n + 1) = den * 2 ^ n * 2 := (Nat.mul_assoc den (2 ^ n) 2).symm
  have htwice := hdouble 970
  have hreaches (hnonzero : num ≠ 0) (n k : Nat) :
      ((n + k : Nat) : Int) ≤ floorLog2 num den ↔ den * 2 ^ n * 2 ^ k ≤ num := by
    rw [le_floorLog2_iff hnonzero hpositive, Nat.pow_add, Nat.mul_assoc]
  replace hreaches := fun hnonzero => hreaches hnonzero 970
  generalize den * 2 ^ 970 = unit at *
  by_cases hnothing : num = 0
  · exact iff_of_true (by simp [hnothing, ofRatio, zero, isFinite]) (by omega)
  have hlast := hreaches hnothing 53
  have hbeyond := hreaches hnothing 54
  generalize hplaced : max (floorLog2 num den - 52) minExponent = exponent
  generalize hrounded : (if 0 ≤ exponent then divideToEven num (den * Nat.pow 2 exponent.toNat)
      else divideToEven (num * Nat.pow 2 (-exponent).toNat) den) = significand
  rw [isFinite_carried hnothing hplaced hrounded]
  unfold minExponent at hplaced
  unfold maxExponent
  by_cases htop : exponent = 971
  · -- The significand decides whether the exponent stays.
    have hscale : exponent.toNat = 970 + 1 := by omega
    rw [if_pos (by omega), hscale, htwice] at hrounded
    have hmost : divideToEven num (unit * 2) ≤ 2 ^ 53 := divideToEven_le (by omega)
    have hcarried : 2 ^ 53 - 1 + 1 ≤ divideToEven num (unit * 2) ↔
        (2 * (2 ^ 53 - 1) + 1) * (unit * 2) ≤ 2 * num :=
      succ_le_divideToEven_iff (by decide) (by omega)
    rw [hrounded] at hcarried hmost
    rw [Nat.pow_eq]
    split <;> omega
  · split <;> omega

/-! ## Decimals -/

theorem lt_pow_size (n : Nat) : n < 10 ^ (decimalDigits n).length :=
  (Nat.length_toDigits_le_iff (by decide) (List.length_pos_iff.mpr (decimalDigits_ne_nil n))).mp le_rfl

theorem pow_size_le {n : Nat} (hsome : n ≠ 0) : 10 ^ ((decimalDigits n).length - 1) ≤ n := by
  by_contra hless
  have hsize := List.length_pos_iff.mpr (decimalDigits_ne_nil n)
  by_cases hsingle : (decimalDigits n).length = 1
  · simp [hsingle] at hless
    omega
  · have hshorter :=
      (Nat.length_toDigits_le_iff (b := 10) (by decide) (by omega)).mpr (Nat.lt_of_not_le hless)
    unfold decimalDigits at *
    omega

end SchemaMigration.Number.Double

namespace SchemaMigration.Number.Decimal

/-- The number itself. -/
def value (d : Decimal) : ℚ := (if d.negative then -1 else 1) * (d.digits * 10 ^ d.exponent)

theorem abs_value (d : Decimal) : |d.value| = d.digits * 10 ^ d.exponent := by
  have hmagnitude : (0 : ℚ) ≤ d.digits * 10 ^ d.exponent := by positivity
  unfold value
  rw [abs_mul, abs_of_nonneg hmagnitude]
  split <;> simp

theorem abs_value_lt (d : Decimal) : |d.value| < 10 ^ (d.exponent + (decimalDigits d.digits).length) := by
  have hless : (d.digits : ℚ) < 10 ^ (decimalDigits d.digits).length := by
    exact_mod_cast Double.lt_pow_size d.digits
  rw [abs_value, add_comm, zpow_add₀ (by norm_num), zpow_natCast]
  exact mul_lt_mul_of_pos_right hless (by positivity)

theorem le_abs_value {d : Decimal} (hsome : d.digits ≠ 0) :
    10 ^ (d.exponent + (decimalDigits d.digits).length - 1) ≤ |d.value| := by
  have hreached : (10 : ℚ) ^ ((decimalDigits d.digits).length - 1) ≤ d.digits := by
    exact_mod_cast Double.pow_size_le hsome
  have hsize := List.length_pos_iff.mpr (decimalDigits_ne_nil d.digits)
  have hparts : d.exponent + (decimalDigits d.digits).length - 1 =
      ((decimalDigits d.digits).length - 1 : Nat) + d.exponent := by omega
  rw [abs_value, hparts, zpow_add₀ (by norm_num), zpow_natCast]
  exact mul_le_mul_of_nonneg_right hreached (by positivity)

theorem bound_lt_pow_ten (n : Nat) : ((2 ^ 54 - 1) * 2 ^ (3 * n + 1) : ℚ) < 10 ^ (n + 19) := by
  have height : (8 : ℚ) ^ n ≤ 10 ^ n := pow_le_pow_left₀ (by norm_num) (by norm_num) n
  have hsome : (0 : ℚ) < 8 ^ n := by positivity
  have hscale : (2 : ℚ) ^ (3 * n + 1) = 2 * 8 ^ n := by
    rw [pow_add, pow_mul]
    norm_num
    ring
  rw [hscale, pow_add]
  norm_num
  linarith

theorem isFinite_ofRatio_iff_div {negative : Bool} {num den : Nat} (hpositive : 0 < den) :
    (Double.ofRatio negative num den).isFinite = true ↔ (num / den : ℚ) < (2 ^ 54 - 1) * 2 ^ 970 := by
  have hcast (n : Nat) : num < (2 ^ 54 - 1) * (den * 2 ^ n) ↔ (num / den : ℚ) < (2 ^ 54 - 1) * 2 ^ n := by
    have hsome : (0 : ℚ) < den := by exact_mod_cast hpositive
    rw [div_lt_iff₀ hsome, mul_assoc, mul_comm _ (den : ℚ), ← Nat.cast_lt (α := ℚ)]
    norm_num
  rw [Double.isFinite_ofRatio_iff hpositive, hcast]

theorem isFinite_ofDecimal_iff (d : Decimal) :
    (Double.ofDecimal d).isFinite = true ↔ |d.value| < (2 ^ 54 - 1) * 2 ^ 970 := by
  have hleast (n : Nat) : (1 : ℚ) ≤ (2 ^ 54 - 1) * 2 ^ n := by
    have hunit := one_le_pow₀ (show (1 : ℚ) ≤ 2 by norm_num) (n := n)
    norm_num
    linarith
  have hmost : ((2 ^ 54 - 1) * 2 ^ 970 : ℚ) < 10 ^ (342 : Nat) := bound_lt_pow_ten 323
  replace hleast := hleast 970
  have hratio (negative : Bool) (num den : Nat) := @isFinite_ofRatio_iff_div negative num den
  generalize ((2 ^ 54 - 1) * 2 ^ 970 : ℚ) = bound at *
  unfold Double.ofDecimal
  by_cases hnothing : d.digits = 0
  · rw [if_pos hnothing, abs_value, hnothing]
    exact iff_of_true rfl (by norm_num; linarith)
  have hupper := abs_value_lt d
  have hlower := le_abs_value hnothing
  rw [if_neg hnothing]
  dsimp only
  generalize (decimalDigits d.digits).length = size at *
  split
  · next hhuge =>
    -- The number of digits alone decides here and in the next case.
    refine iff_of_false (by simp [Double.isFinite]) (not_lt.mpr (hmost.le.trans (le_trans ?_ hlower)))
    rw [← zpow_natCast]
    exact zpow_le_zpow_right₀ (by norm_num) (by omega)
  split
  · next htiny =>
    refine iff_of_true rfl (hupper.trans_le (le_trans ?_ hleast))
    exact zpow_le_one_of_nonpos₀ (by norm_num) (by omega)
  rw [abs_value]
  split
  · next hwhole =>
    have hexponent : (10 : ℚ) ^ d.exponent = 10 ^ d.exponent.toNat := by
      rw [← zpow_natCast, Int.toNat_of_nonneg hwhole]
    rw [hratio _ _ _ Nat.one_pos, Nat.pow_eq, hexponent]
    push_cast
    rw [div_one]
  · next hbroken =>
    have hexponent : (10 : ℚ) ^ d.exponent = (10 ^ (-d.exponent).toNat)⁻¹ := by
      rw [← zpow_natCast, Int.toNat_of_nonneg (by omega), zpow_neg, inv_inv]
    rw [Nat.pow_eq, hratio _ _ _ (Nat.pow_pos (by decide)), hexponent, ← div_eq_mul_inv]
    push_cast
    rfl

end SchemaMigration.Number.Decimal
