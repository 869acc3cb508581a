import Mathlib.Data.List.Infix
import Mathlib.Tactic.Ring
import SchemaMigration.Number.Digits

/-! # Numerals and what they begin with -/

namespace SchemaMigration.Number

variable {k j n : Nat} {d : Char} {cs ds : List Char}

theorem isDigit_of_mem_decimalDigits (hmem : d ∈ decimalDigits n) : d.isDigit = true :=
  Nat.isDigit_of_mem_toDigits (by decide) (by decide) hmem

theorem decimalDigits_ne_nil (n : Nat) : decimalDigits n ≠ [] := Nat.toDigits_ne_nil

theorem isDigit_iff : d.isDigit = true ↔ '0' ≤ d ∧ d ≤ '9' := by
  unfold Char.isDigit
  rw [Bool.and_eq_true, decide_eq_true_eq, decide_eq_true_eq]
  rfl

theorem digitValue_of_isDigit (hdigit : d.isDigit = true) : digitValue d = d.toNat - '0'.toNat := by
  unfold digitValue
  rw [if_pos (isDigit_iff.mp hdigit)]

theorem digitValue_lt (hdigit : d.isDigit = true) : digitValue d < 10 := by
  have habove : d.toNat ≤ '9'.toNat := (isDigit_iff.mp hdigit).2
  rw [digitValue_of_isDigit hdigit]
  simp at habove ⊢
  omega

theorem decimalDigits_digitValue (hdigit : d.isDigit = true) :
    decimalDigits (digitValue d) = [d] := by
  have hbelow : '0'.toNat ≤ d.toNat := (isDigit_iff.mp hdigit).1
  have hsmall := digitValue_lt hdigit
  unfold decimalDigits
  rw [Nat.toDigits_of_lt_base hsmall, List.cons.injEq]
  refine ⟨Char.toNat_inj.mp ?_, rfl⟩
  rw [Nat.toNat_digitChar_of_lt_ten hsmall, digitValue_of_isDigit hdigit]
  simp at hbelow ⊢
  omega

theorem ofDigitChars_le_of_prefix (hstarts : cs <+: ds) :
    Nat.ofDigitChars 10 cs 0 ≤ Nat.ofDigitChars 10 ds 0 := by
  obtain ⟨rest, rfl⟩ := hstarts
  rw [Nat.ofDigitChars_append, Nat.ofDigitChars_eq_ofDigitChars_zero (l := rest)]
  have hscaled := Nat.le_mul_of_pos_left (Nat.ofDigitChars 10 cs 0)
    (Nat.pow_pos (n := rest.length) (by decide : 0 < 10))
  omega

theorem le_of_prefix (hstarts : decimalDigits k <+: decimalDigits j) : k ≤ j := by
  have hvalues := ofDigitChars_le_of_prefix hstarts
  simpa [decimalDigits] using hvalues

theorem le_of_prefix_concat (hdigit : d.isDigit = true)
    (hstarts : decimalDigits j ++ [d] <+: decimalDigits k) : 10 * j + digitValue d ≤ k := by
  have hvalues := ofDigitChars_le_of_prefix hstarts
  rw [Nat.ofDigitChars_append, Nat.ofDigitChars_cons, Nat.ofDigitChars_nil] at hvalues
  rw [digitValue_of_isDigit hdigit]
  simpa [decimalDigits] using hvalues

theorem digitValue_digitChar (hsmall : n < 10) : digitValue n.digitChar = n := by
  have hdigit : n.digitChar.isDigit = true := by
    refine isDigit_of_mem_decimalDigits (n := n) ?_
    simp [decimalDigits, Nat.toDigits_of_lt_base hsmall]
  rw [digitValue_of_isDigit hdigit, Nat.toNat_digitChar_of_lt_ten hsmall]
  simp

theorem natOfDigits_concat (base : Nat) (cs : List Char) (c : Char) :
    natOfDigits base (cs ++ [c]) = base * natOfDigits base cs + digitValue c := by
  unfold natOfDigits
  rw [List.foldl_append]
  rfl

theorem natOfDigits_append (base : Nat) (cs ds : List Char) :
    natOfDigits base (cs ++ ds) = natOfDigits base cs * base ^ ds.length + natOfDigits base ds := by
  induction ds using List.reverseRecOn with
  | nil => simp [natOfDigits]
  | append_singleton ds d ih =>
    rw [← List.append_assoc, natOfDigits_concat, natOfDigits_concat, ih, List.length_append,
      List.length_singleton, Nat.pow_succ]
    ring

theorem natOfDigits_decimalDigits (n : Nat) : natOfDigits 10 (decimalDigits n) = n := by
  induction n using Nat.strong_induction_on with
  | _ n ih =>
    unfold decimalDigits
    rw [Nat.toDigits_eq_if (by decide)]
    split
    · next hsmall =>
      have hvalue := digitValue_digitChar hsmall
      simp [natOfDigits, hvalue]
    · next hlarge =>
      have hbefore : natOfDigits 10 (Nat.toDigits 10 (n / 10)) = n / 10 := ih (n / 10) (by omega)
      rw [natOfDigits_concat, hbefore, digitValue_digitChar (Nat.mod_lt n (by decide))]
      omega

theorem digitValue_head_pos (hpositive : 0 < k) (hfirst : d ∈ (decimalDigits k).head?) :
    0 < digitValue d := by
  induction k using Nat.strong_induction_on with
  | _ k ih =>
    unfold decimalDigits at hfirst
    rw [Nat.toDigits_eq_if (by decide)] at hfirst
    split at hfirst
    · next hsmall =>
      obtain rfl : k.digitChar = d := by simpa using hfirst
      rwa [digitValue_digitChar hsmall]
    · next hlarge =>
      rw [List.head?_append_of_ne_nil _ Nat.toDigits_ne_nil] at hfirst
      exact ih (k / 10) (by omega) (by omega) hfirst

theorem digitValue_head_le (hfirst : d ∈ (decimalDigits k).head?) : digitValue d ≤ k := by
  have hdigit := isDigit_of_mem_decimalDigits (List.mem_of_head? hfirst)
  obtain ⟨rest, hsame⟩ := List.head?_eq_some_iff.mp hfirst
  refine le_of_prefix ?_
  rw [decimalDigits_digitValue hdigit, hsame]
  exact List.prefix_append [d] rest

theorem prefix_append_cases {xs ys zs : List Char} (hstarts : xs <+: ys ++ zs) :
    xs <+: ys ∨ ∃ d ∈ zs.head?, ys ++ [d] <+: xs := by
  cases zs with
  | nil => exact .inl (by simpa using hstarts)
  | cons d zs =>
    have hmore : ys ++ [d] <+: ys ++ d :: zs := by simp
    rcases List.prefix_or_prefix_of_prefix hstarts hmore with hshorter | hlonger
    · rcases List.prefix_concat_iff.mp hshorter with rfl | hshorter
      · exact .inr ⟨d, rfl, List.prefix_rfl⟩
      · exact .inl hshorter
    · exact .inr ⟨d, rfl, hlonger⟩

theorem not_prefix_of_less {number : Nat} {rest : List Char} (hless : n < number)
    (hnext : ∀ d ∈ rest.head?, d.isDigit = true → number < 10 * n + digitValue d) :
    ¬decimalDigits number <+: decimalDigits n ++ rest := by
  intro hstarts
  rcases prefix_append_cases hstarts with hshorter | ⟨d, hfirst, hlonger⟩
  · have hleast := le_of_prefix hshorter
    omega
  · have hdigit : d.isDigit = true := by
      refine isDigit_of_mem_decimalDigits (n := number) (hlonger.subset ?_)
      simp
    have hleast := le_of_prefix_concat hdigit hlonger
    have hbeyond := hnext d hfirst hdigit
    omega

end SchemaMigration.Number
