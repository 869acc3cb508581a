import SchemaMigration.Proofs.Number.Digits
import SchemaMigration.Sql.Value

/-!
# Where a literal begins and ends

A text may hold the mark of a numbered placeholder, but its literal begins and ends with an
apostrophe. No other literal holds the mark.
-/

namespace SchemaMigration

open Number

namespace Number

variable {c : Char}

theorem isDigit_or_minus_of_intText {n : Int} (hmem : c ∈ (intText n).toList) :
    c.isDigit = true ∨ c = '-' := by
  unfold intText at hmem
  split at hmem
  · simp only [String.toList_append, String.toList_ofList, List.mem_append] at hmem
    rcases hmem with hmem | hmem
    · right
      simpa using hmem
    · exact .inl (isDigit_of_mem_decimalDigits hmem)
  · rw [String.toList_ofList] at hmem
    exact .inl (isDigit_of_mem_decimalDigits hmem)

theorem intText_ne_nil (n : Int) : (intText n).toList ≠ [] := by
  unfold intText
  split
  · simp
  · simpa using decimalDigits_ne_nil n.natAbs

namespace Double

variable {digits : List Char} {exponent : Int}

theorem mem_positional (hmem : c ∈ (positional digits exponent).1 ++ (positional digits exponent).2) :
    c ∈ digits ∨ c = '0' := by
  unfold positional at hmem
  split at hmem
  · simp only [List.append_nil, List.mem_append, List.mem_replicate] at hmem
    exact hmem.imp_right And.right
  · dsimp only at hmem
    split at hmem
    · rw [List.splitAt_eq, List.take_append_drop] at hmem
      exact .inl hmem
    · simp only [List.mem_append, List.mem_cons, List.mem_replicate, List.not_mem_nil] at hmem
      tauto

theorem positional_ne_nil (exponent : Int) (hnonempty : digits ≠ []) :
    (positional digits exponent).1 ≠ [] := by
  unfold positional
  split
  · simp [hnonempty]
  · dsimp only
    split
    · next hshorter =>
      rw [List.splitAt_eq]
      simp [hnonempty]
      omega
    · simp

theorem signed_cases (negative : Bool) (text : String) :
    (signed negative text).toList = text.toList ∨ (signed negative text).toList = '-' :: text.toList := by
  cases negative <;> simp [signed]

theorem plainText_spec (x : Double) : x.plainText.toList ≠ [] ∧ '$' ∉ x.plainText.toList := by
  cases x with
  | notANumber => decide
  | infinite negative => cases negative <;> decide
  | finite negative m e =>
    unfold plainText
    dsimp only
    generalize shortest .up m e = s
    have hdigits : ∀ c ∈ (positional (decimalDigits s.digits) s.exponent).1 ++
        (positional (decimalDigits s.digits) s.exponent).2, c.isDigit = true := by
      intro c hmem
      rcases mem_positional hmem with hmem | rfl
      · exact isDigit_of_mem_decimalDigits hmem
      · decide
    have hsome := positional_ne_nil s.exponent (decimalDigits_ne_nil s.digits)
    generalize positional (decimalDigits s.digits) s.exponent = parts at hdigits hsome
    obtain ⟨whole, fraction⟩ := parts
    have hnoMark : '$' ∉ whole ++ fraction := fun hmem => absurd (hdigits '$' hmem) (by decide)
    simp only [List.mem_append, not_or] at hnoMark
    dsimp only at hsome ⊢
    rcases signed_cases negative (if fraction = [] then String.ofList whole
      else String.ofList whole ++ "." ++ String.ofList fraction) with hsame | hsame
    · rw [hsame]
      split <;> simp [hsome, hnoMark]
    · rw [hsame]
      split <;> simp [hnoMark]

end Double

end Number

namespace SqlValue

theorem literal_ends (v : SqlValue) : v.literal.toList ≠ [] ∧
    '$' ∉ v.literal.toList.head? ∧ '$' ∉ v.literal.toList.getLast? := by
  have hplain : ∀ cs : List Char, cs ≠ [] → '$' ∉ cs → cs ≠ [] ∧ '$' ∉ cs.head? ∧ '$' ∉ cs.getLast? :=
    fun cs hsome habsent => ⟨hsome, fun hfirst => habsent (List.mem_of_head? hfirst),
      fun hlast => habsent (List.mem_of_getLast? hlast)⟩
  cases v with
  | null => exact hplain _ (by decide) (by decide)
  | boolean b => cases b <;> exact hplain _ (by decide) (by decide)
  | integer n =>
    refine hplain _ (intText_ne_nil n) fun hmem => ?_
    rcases isDigit_or_minus_of_intText hmem with hdigit | hminus
    · exact absurd hdigit (by decide)
    · exact absurd hminus (by decide)
  | float x => exact hplain _ x.plainText_spec.1 x.plainText_spec.2
  | text s =>
    simp [literal, Sql.quoteLiteral, List.getLast?_cons]

end SqlValue

end SchemaMigration
