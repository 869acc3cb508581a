import Mathlib.Algebra.Group.Nat.Defs
import SchemaMigration.Proofs.Number.Digits

/-!
# Numerals of a fixed width

With zeros in front numerals can be read back, written one behind the other, and compared as texts.
-/

namespace SchemaMigration.Number

variable {width more a b n : Nat}

theorem isDigit_of_mem_paddedDigits {c : Char} (hmem : c ∈ paddedDigits width n) : c.isDigit = true := by
  induction width generalizing n with
  | zero => simp [paddedDigits] at hmem
  | succ width ih =>
    rw [paddedDigits, List.mem_append, List.mem_singleton] at hmem
    rcases hmem with hinside | rfl
    · exact ih hinside
    · rw [Nat.isDigit_digitChar, decide_eq_true_eq]
      omega

theorem natOfDigits_paddedDigits (hfits : n < 10 ^ width) : natOfDigits 10 (paddedDigits width n) = n := by
  induction width generalizing n with
  | zero =>
    obtain rfl : n = 0 := by simpa using hfits
    rfl
  | succ width ih =>
    rw [Nat.pow_succ] at hfits
    rw [paddedDigits, natOfDigits_concat, ih (by omega), digitValue_digitChar (Nat.mod_lt n (by decide))]
    omega

theorem paddedDigits_append (hfits : b < 10 ^ more) :
    paddedDigits width a ++ paddedDigits more b = paddedDigits (width + more) (a * 10 ^ more + b) := by
  induction more generalizing b with
  | zero =>
    obtain rfl : b = 0 := by simpa using hfits
    simp [paddedDigits]
  | succ more ih =>
    rw [Nat.pow_succ] at hfits
    have hfront : (a * 10 ^ (more + 1) + b) / 10 = a * 10 ^ more + b / 10 := by
      rw [Nat.pow_succ, ← Nat.mul_assoc]
      omega
    have hlast : (a * 10 ^ (more + 1) + b) % 10 = b % 10 := by
      rw [Nat.pow_succ, ← Nat.mul_assoc]
      omega
    rw [← Nat.add_assoc, paddedDigits, paddedDigits, hfront, hlast, ← ih (by omega), List.append_assoc]

theorem digitChar_lt (hsmall : b < 10) (hless : a < b) : a.digitChar < b.digitChar := by
  have hvalues : (a.digitChar).toNat < (b.digitChar).toNat := by
    rw [Nat.toNat_digitChar_of_lt_ten hsmall, Nat.toNat_digitChar_of_lt_ten (by omega)]
    omega
  exact hvalues

theorem paddedDigits_lt (hfits : b < 10 ^ width) (hless : a < b) (xs ys : List Char) :
    paddedDigits width a ++ xs < paddedDigits width b ++ ys := by
  induction width generalizing a b xs ys with
  | zero =>
    rw [Nat.pow_zero] at hfits
    omega
  | succ width ih =>
    rw [Nat.pow_succ] at hfits
    simp only [paddedDigits, List.append_assoc, List.singleton_append]
    rcases Nat.lt_or_ge (a / 10) (b / 10) with hfront | hsame
    · exact ih (by omega) hfront _ _
    · have hequal : a / 10 = b / 10 := by omega
      rw [hequal]
      apply List.append_left_lt
      rw [List.cons_lt_cons_iff]
      left
      exact digitChar_lt (Nat.mod_lt b (by decide)) (by omega)

end SchemaMigration.Number
