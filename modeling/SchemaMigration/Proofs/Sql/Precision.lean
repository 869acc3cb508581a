import SchemaMigration.Proofs.Column.Plain
import SchemaMigration.Sql.Column

/-!
# Precision and scale

`decimal` and `numeric` of PostgreSQL take a precision and a scale, with a default for each. Blank
arguments are dropped before their places are looked at, so a scale without a precision is taken for
the precision.
-/

namespace SchemaMigration

open Text

namespace Sql

open Column

variable {name upper : String} {args : Option (List Char)}

/-- The types of PostgreSQL with a precision and a scale. -/
def exactTypes : List (String × String) := [("decimal", "DECIMAL"), ("numeric", "NUMERIC")]

/-- What PostgreSQL is given for a definition. -/
def ResolvesTo (definition type : String) : Prop :=
  ∃ c, ColumnDef.parse definition = .ok c ∧ columnType .postgresql c = .ok type

theorem ResolvesTo.eq {definition type other : String} (hresolves : ResolvesTo definition type)
    (hresolves' : ResolvesTo definition other) : type = other := by
  obtain ⟨c, hparsed, htyped⟩ := hresolves
  obtain ⟨d, hparsed', htyped'⟩ := hresolves'
  obtain rfl := Except.ok.inj (hparsed.symm.trans hparsed')
  exact Except.ok.inj (htyped.symm.trans htyped')

theorem columnType_exact {c : ColumnDef} (hnamed : (c.typeName, upper) ∈ exactTypes) :
    columnType .postgresql c = .ok ((TypeForm.exact upper).render c.args) := by
  have hknown : (typeTable .postgresql).lookup c.typeName = some (.exact upper) := by
    simp only [exactTypes, List.mem_cons, Prod.mk.injEq, List.not_mem_nil, or_false] at hnamed
    rcases hnamed with ⟨hsame, rfl⟩ | ⟨hsame, rfl⟩ <;> rw [hsame] <;> decide
  simp only [columnType, hknown]

theorem parse_exact (hnamed : (name, upper) ∈ exactTypes)
    (hplain : ∀ body ∈ args, ∀ c ∈ body, isPlain c = true) :
    ∃ c, ColumnDef.parse (String.ofList (Segment.text ⟨name.toList, args⟩)) = .ok c ∧
      c.typeName = name ∧ c.typeArgs = args.map String.ofList := by
  have hword : name.toList ≠ [] ∧ ∀ c ∈ name.toList, isWordChar c = true := by
    simp only [exactTypes, List.mem_cons, Prod.mk.injEq, List.not_mem_nil, or_false] at hnamed
    rcases hnamed with ⟨rfl, -⟩ | ⟨rfl, -⟩ <;>
      exact ⟨by simp, List.all_eq_true.mp (by decide)⟩
  have hparsed := Phrase.parse_text _ (isQuote_of_plainPhrase hword.1 hword.2 hplain)
  exact ⟨_, hparsed, String.ofList_toList, rfl⟩

/-! ## Blank arguments -/

def Blank (given : String) : Prop := ∀ c ∈ given.toList, isBlank c = true

instance : DecidablePred Blank := fun given =>
  List.decidableBAll (fun c => isBlank c = true) given.toList

def trimmed (given : String) : String := String.ofList (trim given.toList)

/-- An argument, or the default for its place where it is blank. -/
def argument (default given : String) : String := if Blank given then default else trimmed given

/-- Neither a comma nor a mark that could hide one. -/
def Simple (given : String) : Prop := ∀ c ∈ given.toList, isPlain c = true ∧ c ≠ ','

instance : DecidablePred Simple := fun given =>
  List.decidableBAll (fun c => isPlain c = true ∧ c ≠ ',') given.toList

variable {p s : String} {c : ColumnDef}

/-- What is left of one argument: nothing where it is blank. -/
def kept (given : String) : List String := if Blank given then [] else [trimmed given]

theorem blank_empty : Blank "" := by decide

theorem kept_empty : kept "" = [] := if_pos blank_empty

theorem argument_empty (default : String) : argument default "" = default := if_pos blank_empty

theorem filter_trim_eq_kept (given : String) :
    (([given.toList].map trim).filter (· ≠ [])).map String.ofList = kept given := by
  unfold kept trimmed
  split
  · next hblank => simp [trim_eq_nil_iff.mpr hblank]
  · next hgiven =>
    have hsome := trim_eq_nil_iff.not.mpr hgiven
    simp [hsome]

theorem args_one (hgiven : c.typeArgs = some (String.ofList p.toList)) (hsimple : Simple p) :
    c.args = kept p := by
  simp only [ColumnDef.args, hgiven, String.toList_ofList, splitTopLevel_plain hsimple,
    filter_trim_eq_kept]

theorem args_two (hgiven : c.typeArgs = some (String.ofList (p.toList ++ ',' :: s.toList)))
    (hsimpleP : Simple p) (hsimpleS : Simple s) : c.args = kept p ++ kept s := by
  rw [← filter_trim_eq_kept, ← filter_trim_eq_kept, ← List.map_append, ← List.filter_append,
    ← List.map_append]
  simp only [ColumnDef.args, hgiven, String.toList_ofList, splitTopLevel_append rfl hsimpleP,
    splitTopLevel_plain hsimpleS, List.singleton_append]

theorem render_exact (upper p s : String) : (TypeForm.exact upper).render (kept p ++ kept s) =
    if Blank p ∧ ¬Blank s then upper ++ "(" ++ trimmed s ++ "," ++ "2" ++ ")"
    else upper ++ "(" ++ argument "10" p ++ "," ++ argument "2" s ++ ")" := by
  unfold kept argument
  by_cases hblankP : Blank p <;> by_cases hblankS : Blank s <;> simp [hblankP, hblankS, TypeForm.render]

theorem misplaced_ne (upper scale : String) :
    upper ++ "(" ++ scale ++ "," ++ "2" ++ ")" ≠ upper ++ "(" ++ "10" ++ "," ++ scale ++ ")" := by
  intro hsame
  have hlengths := congrArg (fun text : String => text.toList.length) hsame
  simp at hlengths

theorem resolvesTo_two (hnamed : (name, upper) ∈ exactTypes) (hsimpleP : Simple p) (hsimpleS : Simple s) :
    ResolvesTo (name ++ "(" ++ p ++ "," ++ s ++ ")")
      ((TypeForm.exact upper).render (kept p ++ kept s)) := by
  have hplain : ∀ body ∈ some (p.toList ++ ',' :: s.toList), ∀ c ∈ body, isPlain c = true := by
    rintro _ ⟨⟩
    refine List.forall_mem_append.mpr ⟨fun c hmem => (hsimpleP c hmem).1, ?_⟩
    exact List.forall_mem_cons.mpr ⟨rfl, fun c hmem => (hsimpleS c hmem).1⟩
  have htext : String.ofList (Segment.text ⟨name.toList, some (p.toList ++ ',' :: s.toList)⟩) =
      name ++ "(" ++ p ++ "," ++ s ++ ")" := by
    rw [← String.toList_inj]
    simp [Segment.text, Segment.group]
  obtain ⟨c, hparsed, rfl, hgiven⟩ := parse_exact hnamed hplain
  refine ⟨c, htext ▸ hparsed, ?_⟩
  rw [columnType_exact hnamed, args_two hgiven hsimpleP hsimpleS]

theorem resolvesTo_one (hnamed : (name, upper) ∈ exactTypes) (hsimple : Simple p) :
    ResolvesTo (name ++ "(" ++ p ++ ")") ((TypeForm.exact upper).render (kept p)) := by
  have hplain : ∀ body ∈ some p.toList, ∀ c ∈ body, isPlain c = true := by
    rintro _ ⟨⟩
    exact fun c hmem => (hsimple c hmem).1
  have htext : String.ofList (Segment.text ⟨name.toList, some p.toList⟩) = name ++ "(" ++ p ++ ")" := by
    rw [← String.toList_inj]
    simp [Segment.text, Segment.group]
  obtain ⟨c, hparsed, rfl, hgiven⟩ := parse_exact hnamed hplain
  refine ⟨c, htext ▸ hparsed, ?_⟩
  rw [columnType_exact hnamed, args_one hgiven hsimple]

theorem resolvesTo_none (hnamed : (name, upper) ∈ exactTypes) :
    ResolvesTo name ((TypeForm.exact upper).render []) := by
  have hplain : ∀ body ∈ (none : Option (List Char)), ∀ c ∈ body, isPlain c = true :=
    fun _ hmem => nomatch hmem
  have htext : String.ofList (Segment.text ⟨name.toList, none⟩) = name := by
    simp [Segment.text, Segment.group]
  obtain ⟨c, hparsed, rfl, hgiven⟩ := parse_exact hnamed hplain
  have hnone : c.args = [] := by simp [ColumnDef.args, hgiven]
  refine ⟨c, htext ▸ hparsed, ?_⟩
  rw [columnType_exact hnamed, hnone]

/-- Precision and scale are told by their places, each with its default, exactly unless a scale is
given without a precision; then it is taken for the precision. -/
theorem exact_by_place_iff (hnamed : (name, upper) ∈ exactTypes) (hsimpleP : Simple p)
    (hsimpleS : Simple s) :
    (ResolvesTo (name ++ "(" ++ p ++ "," ++ s ++ ")")
        (upper ++ "(" ++ argument "10" p ++ "," ++ argument "2" s ++ ")") ↔ (Blank p → Blank s)) ∧
    (Blank p → ¬Blank s → ResolvesTo (name ++ "(" ++ p ++ "," ++ s ++ ")")
        (upper ++ "(" ++ trimmed s ++ "," ++ "2" ++ ")")) ∧
    ResolvesTo (name ++ "(" ++ p ++ ")") (upper ++ "(" ++ argument "10" p ++ "," ++ "2" ++ ")") ∧
    ResolvesTo name (upper ++ "(" ++ "10" ++ "," ++ "2" ++ ")") := by
  have htwo := resolvesTo_two hnamed hsimpleP hsimpleS
  have hone := resolvesTo_one hnamed hsimpleP
  rw [render_exact] at htwo
  refine ⟨⟨fun hresolves hblankP => ?_, fun hplaced => ?_⟩, fun hblankP hgiven => ?_, ?_, ?_⟩
  · by_contra hgiven
    rw [if_pos ⟨hblankP, hgiven⟩] at htwo
    have hsame := htwo.eq hresolves
    rw [argument, argument, if_pos hblankP, if_neg hgiven] at hsame
    exact misplaced_ne upper (trimmed s) hsame
  · rw [if_neg fun hmisplaced => hmisplaced.2 (hplaced hmisplaced.1)] at htwo
    exact htwo
  · rw [if_pos ⟨hblankP, hgiven⟩] at htwo
    exact htwo
  · -- One argument is as good as two of which the second is blank.
    rw [← List.append_nil (kept p), ← kept_empty, render_exact,
      if_neg fun hmisplaced => hmisplaced.2 blank_empty, argument_empty] at hone
    exact hone
  · exact resolvesTo_none hnamed

theorem exact_by_place_iff_spaced :
    ResolvesTo ("numeric" ++ "(" ++ " 8 " ++ "," ++ "3" ++ ")") "NUMERIC(8,3)" ∧
    ResolvesTo ("decimal" ++ "(" ++ "\t" ++ "," ++ " 5" ++ ")") "DECIMAL(5,2)" := by
  have hplaced := exact_by_place_iff (by decide : ("numeric", "NUMERIC") ∈ exactTypes)
    (by decide : Simple " 8 ") (by decide : Simple "3")
  have hmisplaced := exact_by_place_iff (by decide : ("decimal", "DECIMAL") ∈ exactTypes)
    (by decide : Simple "\t") (by decide : Simple " 5")
  exact ⟨hplaced.1.mpr (by decide), hmisplaced.2.1 (by decide) (by decide)⟩

theorem scale_misplaced :
    ResolvesTo "decimal(,5)" "DECIMAL(5,2)" ∧ ¬ResolvesTo "decimal(,5)" "DECIMAL(10,5)" := by
  have htaken : ResolvesTo "decimal(,5)" "DECIMAL(5,2)" :=
    ⟨⟨"decimal(,5)", "decimal", some ",5", {}⟩, by decide +kernel, by decide +kernel⟩
  exact ⟨htaken, fun hclaimed => absurd (htaken.eq hclaimed) (by decide)⟩

end Sql

end SchemaMigration
