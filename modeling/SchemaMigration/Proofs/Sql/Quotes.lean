import SchemaMigration.Proofs.Column.Parts
import SchemaMigration.Sql.Column

/-!
# Open quotes

Which quote is open behind a text depends on its quotes only. Taking a type into SQL keeps
them in their order or leaves whole closed pieces out, so the SQL of a type whose quotes close
has quotes that close.
-/

namespace SchemaMigration.Sql

open Text Column

variable {cs ds : List Char} {quote : Option Char}

/-- The quote that is open behind a character. The other kind does not close it. -/
def afterChar (quote : Option Char) (c : Char) : Option Char :=
  if isQuote c then
    match quote with
    | none => some c
    | some q => if c = q then none else some q
  else quote

def openQuote (quote : Option Char) (cs : List Char) : Option Char := cs.foldl afterChar quote

def QuotesClose (cs : List Char) : Prop := openQuote none cs = none

instance (cs : List Char) : Decidable (QuotesClose cs) := by
  unfold QuotesClose
  infer_instance

theorem openQuote_append (quote : Option Char) (cs ds : List Char) :
    openQuote quote (cs ++ ds) = openQuote (openQuote quote cs) ds := List.foldl_append

theorem openQuote_filter (quote : Option Char) (cs : List Char) :
    openQuote quote (cs.filter isQuote) = openQuote quote cs := by
  unfold openQuote
  rw [List.foldl_filter]
  congr
  funext quote c
  unfold afterChar
  split <;> rfl

theorem QuotesClose.openQuote_append (hclosed : QuotesClose cs) (ds : List Char) :
    openQuote none (cs ++ ds) = openQuote none ds := by
  rw [Sql.openQuote_append, hclosed]

theorem QuotesClose.append (hclosed : QuotesClose cs) (hothers : QuotesClose ds) :
    QuotesClose (cs ++ ds) := by
  unfold QuotesClose
  rw [hclosed.openQuote_append, hothers]

theorem quotesClose_congr (hsame : cs.filter isQuote = ds.filter isQuote) :
    QuotesClose cs ↔ QuotesClose ds := by
  unfold QuotesClose
  rw [← openQuote_filter none cs, hsame, openQuote_filter]

/-! ## What keeps the quotes -/

theorem filter_dropWhile_isBlank (cs : List Char) :
    (cs.dropWhile isBlank).filter isQuote = cs.filter isQuote := by
  induction cs with
  | nil => rfl
  | cons c cs ih =>
    by_cases hblank : isBlank c = true
    · rw [List.dropWhile_cons_of_pos hblank, ih]
      simp [isQuote_of_isBlank hblank]
    · rw [List.dropWhile_cons_of_neg hblank]

theorem filter_trim (cs : List Char) : (trim cs).filter isQuote = cs.filter isQuote := by
  unfold trim trimEnd trimStart
  rw [List.filter_reverse, filter_dropWhile_isBlank, List.filter_reverse, List.reverse_reverse,
    filter_dropWhile_isBlank]

theorem isQuote_ofNat {n : Nat} (habove : 0x27 < n) : isQuote (Char.ofNat n) = false := by
  have hvalue : (Char.ofNat n).toNat = n ∨ (Char.ofNat n).toNat = 0 := by
    unfold Char.ofNat
    by_cases hvalid : n.isValidChar
    · rw [dif_pos hvalid]
      exact .inl rfl
    · rw [dif_neg hvalid]
      exact .inr rfl
  unfold isQuote
  rw [Bool.or_eq_false_iff, beq_eq_false_iff_ne, beq_eq_false_iff_ne]
  constructor <;> intro hsame <;> simp [hsame] at hvalue <;> omega

theorem upperCase_spec :
    (∀ n < 0x80, [(Char.ofNat n).toUpper].filter isQuote = [Char.ofNat n].filter isQuote) ∧
      (∀ entry ∈ upperExpansions, ∀ n ∈ entry.2, 0x27 < n) ∧
      ∀ run ∈ upperRuns, 0x27 < run.first + run.offset := by
  decide +kernel

theorem filter_upperChar (c : Char) : (upperChar c).filter isQuote = [c].filter isQuote := by
  obtain ⟨hasciiKept, hexpansions, hruns⟩ := upperCase_spec
  unfold upperChar
  split
  · next hascii =>
    have hsame := hasciiKept c.toNat hascii
    rwa [Char.ofNat_toNat] at hsame
  · next hbeyond =>
    have hnoQuote : isQuote c = false := by
      have habove := isQuote_ofNat (n := c.toNat) (by omega)
      rwa [Char.ofNat_toNat] at habove
    have hnothing : [c].filter isQuote = [] := by simp [hnoQuote]
    rw [hnothing, List.filter_eq_nil_iff]
    unfold mapCase
    split
    · next codes hfound =>
      obtain ⟨before, after, hentries, -⟩ := List.lookup_eq_some_iff.mp hfound
      intro d hmem
      obtain ⟨n, hlisted, rfl⟩ := List.mem_map.mp hmem
      simp [isQuote_ofNat (hexpansions (c.toNat, codes) (by simp [hentries]) n hlisted)]
    · split
      · next run hfound =>
        have habove := hruns run (List.mem_of_find?_eq_some hfound)
        have hcontained := List.find?_some hfound
        simp only [CaseRun.contains, Bool.and_eq_true, decide_eq_true_eq] at hcontained
        have hmapped : isQuote (Char.ofNat (c.toNat + run.offset).toNat) = false :=
          isQuote_ofNat (by omega)
        simp [hmapped]
      · simp [hnoQuote]

theorem filter_uppercase (s : String) :
    (uppercase s).toList.filter isQuote = s.toList.filter isQuote := by
  unfold uppercase
  rw [String.toList_ofList, List.filter_flatMap]
  simp only [filter_upperChar]
  induction s.toList with
  | nil => rfl
  | cons c cs ih => rw [List.flatMap_cons, ih, ← List.filter_append, List.singleton_append]

/-! ## The arguments of a type -/

/-- Separators stand outside the quotes: behind each of them no quote is open. -/
theorem splitFrom_closes (separator : Char) (depth : Nat) (hknown : ∀ q ∈ quote, isQuote q = true)
    (hclosed : openQuote quote cs = none) :
    ∃ first others, splitFrom separator quote depth cs = first :: others ∧
      openQuote quote first = none ∧ ∀ piece ∈ others, QuotesClose piece := by
  induction cs generalizing quote depth with
  | nil =>
    rw [splitFrom]
    exact ⟨[], [], rfl, hclosed, by simp⟩
  | cons c cs ih =>
    have hlater (next : Option Char) (depth : Nat) (hstep : afterChar quote c = next)
        (hknown : ∀ q ∈ next, isQuote q = true) :
        ∃ first others, consPiece c (splitFrom separator next depth cs) = first :: others ∧
          openQuote quote first = none ∧ ∀ piece ∈ others, QuotesClose piece := by
      subst hstep
      obtain ⟨first, others, hsplit, hcloses, hrest⟩ := ih depth hknown hclosed
      exact ⟨c :: first, others, by rw [hsplit, consPiece], hcloses, hrest⟩
    cases quote with
    | some q =>
      have hisQuoteQ := hknown q rfl
      rw [splitFrom]
      refine hlater _ _ ?_ ?_
      · unfold afterChar
        by_cases hsame : c = q
        · simp [hsame, hisQuoteQ]
        · simp [hsame]
      · split
        · simp
        · exact hknown
    | none =>
      rw [splitFrom]
      by_cases hopens : isQuote c = true
      · rw [if_pos hopens]
        exact hlater _ _ (by simp [afterChar, hopens]) (by simpa using hopens)
      · have hstays : afterChar none c = none := by simp [afterChar, hopens]
        rw [if_neg hopens]
        split
        · exact hlater _ _ hstays (by simp)
        · split
          · exact hlater _ _ hstays (by simp)
          · split
            · have hrest : openQuote none cs = none := by
                unfold openQuote at hclosed ⊢
                rwa [List.foldl_cons, hstays] at hclosed
              obtain ⟨first, others, hsplit, hcloses, hpieces⟩ := ih depth hknown hrest
              refine ⟨[], splitFrom separator none depth cs, rfl, rfl, ?_⟩
              rw [hsplit]
              exact List.forall_mem_cons.mpr ⟨hcloses, hpieces⟩
            · exact hlater _ _ hstays (by simp)

theorem quotesClose_args {c : ColumnDef}
    (htype : TypeParts c.typeDef.toList c.typeName.toList (c.typeArgs.map String.toList))
    (hclosed : QuotesClose c.typeDef.toList) : ∀ arg ∈ c.args, QuotesClose arg.toList := by
  obtain ⟨typeDef, typeName, typeArgs, modifiers⟩ := c
  dsimp only at htype hclosed
  unfold ColumnDef.args
  cases typeArgs with
  | none => simp
  | some args =>
    have hbody : QuotesClose args.toList := by
      generalize typeDef.toList = text at htype hclosed
      generalize typeName.toList = name at htype
      generalize hgiven : (some args).map String.toList = group at htype
      cases htype with
      | words s hnamed hgroup hgapped hblank hnonempty htrimmed hnests => cases hgiven
      | single s hnamed hgroup =>
        refine (quotesClose_congr ?_).mp hclosed
        have hplain : s.name.filter isQuote = [] := by
          rw [List.filter_eq_nil_iff]
          intro c hmem
          simp [isQuote_of_isWordChar (hnamed.word c hmem)]
        have hopening : isQuote '(' = false := by decide
        have hclosing : isQuote ')' = false := by decide
        unfold Segment.text Segment.group
        rw [← hgiven]
        simp [List.filter_append, hplain, hopening, hclosing]
    obtain ⟨first, others, hsplit, hcloses, hrest⟩ :=
      splitFrom_closes ',' 0 (by simp) hbody
    intro arg hmem
    simp only [List.mem_map, List.mem_filter] at hmem
    obtain ⟨_, ⟨⟨piece, hlisted, rfl⟩, -⟩, rfl⟩ := hmem
    rw [String.toList_ofList, quotesClose_congr (filter_trim piece)]
    rw [splitTopLevel, hsplit] at hlisted
    rcases List.mem_cons.mp hlisted with rfl | hmem
    · exact hcloses
    · exact hrest piece hmem

/-! ## The type in SQL -/

def TypeForm.texts : TypeForm → List String
  | .fixed sql => [sql]
  | .sized name suffix => [name, suffix]
  | .length name default => [name, default]
  | .exact name => [name]

theorem texts_close (dialect : Dialect) :
    ∀ entry ∈ typeTable dialect, ∀ text ∈ entry.2.texts, QuotesClose text.toList := by
  cases dialect <;> decide

theorem quotesClose_render {form : TypeForm} {args : List String}
    (htexts : ∀ text ∈ form.texts, QuotesClose text.toList)
    (hclosed : ∀ arg ∈ args, QuotesClose arg.toList) : QuotesClose (form.render args).toList := by
  have hopening : QuotesClose ['('] := by decide
  have hclosing : QuotesClose [')'] := by decide
  have hcomma : QuotesClose [','] := by decide
  have hgiven (others : List String) (default : String) (hplain : QuotesClose default.toList)
      (hclosed : ∀ arg ∈ others, QuotesClose arg.toList) : QuotesClose (others.headD default).toList := by
    cases others with
    | nil => exact hplain
    | cons arg others => exact hclosed arg List.mem_cons_self
  cases form with
  | fixed sql => exact htexts sql (by simp [TypeForm.texts])
  | sized name suffix =>
    have hnamed := htexts name (by simp [TypeForm.texts])
    have hended := htexts suffix (by simp [TypeForm.texts])
    cases args with
    | nil => simpa [TypeForm.render] using hnamed.append hended
    | cons n others =>
      have hsize := hclosed n List.mem_cons_self
      simpa [TypeForm.render] using
        hnamed.append (hopening.append (hsize.append (hclosing.append hended)))
  | length name default =>
    have hnamed := htexts name (by simp [TypeForm.texts])
    have hsize := hgiven args default (htexts default (by simp [TypeForm.texts])) hclosed
    simpa [TypeForm.render] using hnamed.append (hopening.append (hsize.append hclosing))
  | exact name =>
    have hnamed := htexts name (by simp [TypeForm.texts])
    have hprecision := hgiven args "10" (by decide) hclosed
    have hscale := hgiven args.tail "2" (by decide) fun arg hmem => hclosed arg (List.mem_of_mem_tail hmem)
    simpa [TypeForm.render] using
      hnamed.append (hopening.append (hprecision.append (hcomma.append (hscale.append hclosing))))

theorem quotesClose_columnType {dialect : Dialect} {c : ColumnDef} {base : String}
    (htype : TypeParts c.typeDef.toList c.typeName.toList (c.typeArgs.map String.toList))
    (hclosed : QuotesClose c.typeDef.toList) (htyped : columnType dialect c = .ok base) :
    QuotesClose base.toList := by
  have hargs := quotesClose_args htype hclosed
  have hlisted {form : TypeForm} (hfound : (typeTable dialect).lookup c.typeName = some form) :
      QuotesClose (form.render c.args).toList := by
    obtain ⟨before, after, hentries, -⟩ := List.lookup_eq_some_iff.mp hfound
    exact quotesClose_render (texts_close dialect (c.typeName, form) (by simp [hentries])) hargs
  unfold columnType at htyped
  cases dialect with
  | mysql =>
    dsimp only at htyped
    split at htyped
    · rwa [← Except.ok.inj htyped]
    · split at htyped
      · next hfound =>
        rw [← Except.ok.inj htyped]
        exact hlisted hfound
      · cases htyped
  | postgresql =>
    dsimp only at htyped
    split at htyped
    · next hfound =>
      rw [← Except.ok.inj htyped]
      exact hlisted hfound
    · rw [← Except.ok.inj htyped]
      exact (quotesClose_congr (filter_uppercase c.typeDef)).mpr hclosed
  | sqlite =>
    dsimp only at htyped
    split at htyped
    · next entry form hfound =>
      rw [← Except.ok.inj htyped]
      have htexts := texts_close .sqlite _ (List.mem_of_find?_eq_some hfound)
      exact quotesClose_render htexts (by simp)
    · cases htyped

end SchemaMigration.Sql
