import Mathlib.Data.List.Infix
import Mathlib.Data.List.TakeWhile
import SchemaMigration.Text.Search

/-! # What a search finds and what a replacement passes over -/

namespace SchemaMigration.Text

variable {pattern new cs rest : List Char} {c : Char}

/-! ## Cutting a text -/

theorem span_eq_iff {p : Char → Bool} {first : List Char} : cs.span p = (first, rest) ↔
    cs = first ++ rest ∧ (∀ c ∈ first, p c = true) ∧ ∀ c ∈ rest.head?, p c = false := by
  rw [List.span_eq_takeWhile_dropWhile, Prod.mk.injEq]
  constructor
  · rintro ⟨rfl, rfl⟩
    refine ⟨List.takeWhile_append_dropWhile.symm, fun c hmem => List.mem_takeWhile_imp hmem, ?_⟩
    intro c hfirst
    have hstops := List.head?_dropWhile_not p cs
    rw [Option.mem_def.mp hfirst] at hstops
    exact hstops
  · rintro ⟨rfl, hinside, houtside⟩
    rw [List.takeWhile_append_of_pos hinside, List.dropWhile_append_of_pos hinside]
    cases rest with
    | nil => simp
    | cons c rest => simp [houtside c rfl]

theorem splitFirst?_eq_some_iff {c : Char} {cs before after : List Char} :
    splitFirst? c cs = some (before, after) ↔ cs = before ++ c :: after ∧ c ∉ before := by
  induction cs generalizing before with
  | nil => simp [splitFirst?]
  | cons d rest ih =>
    unfold splitFirst?
    by_cases hd : d = c
    · rw [if_pos hd]
      constructor
      · intro h
        obtain ⟨rfl, rfl⟩ := Prod.mk.inj (Option.some.inj h)
        simp [hd]
      · rintro ⟨hcs, hbefore⟩
        cases before with
        | nil => simp_all
        | cons first before => simp_all
    · rw [if_neg hd]
      constructor
      · intro h
        obtain ⟨⟨start, stop⟩, hrest, heq⟩ := Option.map_eq_some_iff.mp h
        obtain ⟨rfl, rfl⟩ := Prod.mk.inj heq
        obtain ⟨rfl, hstart⟩ := ih.mp hrest
        exact ⟨rfl, List.not_mem_cons_of_ne_of_not_mem (Ne.symm hd) hstart⟩
      · rintro ⟨hcs, hbefore⟩
        cases before with
        | nil => exact absurd (List.cons.inj hcs).1 hd
        | cons first before =>
          obtain ⟨rfl, hrest⟩ := List.cons.inj hcs
          have hafter := ih.mpr ⟨hrest, fun hin => hbefore (List.mem_cons_of_mem d hin)⟩
          rw [hafter]
          rfl

theorem splitLast?_eq_some_iff {c : Char} {cs before after : List Char} :
    splitLast? c cs = some (before, after) ↔ cs = before ++ c :: after ∧ c ∉ after := by
  unfold splitLast?
  constructor
  · intro h
    obtain ⟨⟨stop, start⟩, hsplit, heq⟩ := Option.map_eq_some_iff.mp h
    obtain ⟨rfl, rfl⟩ := Prod.mk.inj heq
    obtain ⟨hcs, hstop⟩ := splitFirst?_eq_some_iff.mp hsplit
    refine ⟨?_, by simpa using hstop⟩
    rw [← List.reverse_reverse cs, hcs]
    simp
  · rintro ⟨rfl, hafter⟩
    have hsplit : splitFirst? c (before ++ c :: after).reverse =
        some (after.reverse, before.reverse) :=
      splitFirst?_eq_some_iff.mpr ⟨by simp, by simpa using hafter⟩
    rw [hsplit]
    simp

theorem splitFirst?_eq_none (habsent : c ∉ cs) : splitFirst? c cs = none := by
  cases hsplit : splitFirst? c cs with
  | none => rfl
  | some parts =>
    obtain ⟨rfl, -⟩ := splitFirst?_eq_some_iff.mp hsplit
    simp at habsent

theorem splitLast?_eq_none (habsent : c ∉ cs) : splitLast? c cs = none := by
  unfold splitLast?
  rw [splitFirst?_eq_none (by simpa using habsent)]
  rfl

/-! ## Pieces -/

theorem splitOn_eq_self {c : Char} {cs : List Char} (h : c ∉ cs) : splitOn c cs = [cs] := by
  induction cs with
  | nil => rfl
  | cons d rest ih =>
    rw [List.mem_cons, not_or] at h
    rw [splitOn, if_neg (Ne.symm h.1), ih h.2]

theorem splitOn_append (c : Char) (before after : List Char) :
    splitOn c (before ++ c :: after) = splitOn c before ++ splitOn c after := by
  induction before with
  | nil => simp [splitOn]
  | cons d rest ih =>
    rw [List.cons_append, splitOn, splitOn, ih]
    by_cases hd : d = c
    · simp [hd]
    · simp only [if_neg hd]
      obtain ⟨piece, pieces, hpieces⟩ := List.exists_cons_of_ne_nil (splitOn_ne_nil c rest)
      rw [hpieces, List.cons_append]
      rfl

theorem not_mem_of_mem_splitOn {c : Char} {cs piece : List Char} (h : piece ∈ splitOn c cs) :
    c ∉ piece := by
  induction cs generalizing piece with
  | nil =>
    obtain rfl : piece = [] := by simpa [splitOn] using h
    exact List.not_mem_nil
  | cons d rest ih =>
    obtain ⟨first, others, hpieces⟩ := List.exists_cons_of_ne_nil (splitOn_ne_nil c rest)
    rw [hpieces] at ih
    unfold splitOn at h
    split at h
    · rcases List.mem_cons.mp h with rfl | h
      · exact List.not_mem_nil
      · exact ih (hpieces ▸ h)
    · next hd =>
      rw [hpieces] at h
      rcases List.mem_cons.mp h with rfl | h
      · exact List.not_mem_cons_of_ne_of_not_mem (Ne.symm hd) (ih List.mem_cons_self)
      · exact ih (List.mem_cons_of_mem _ h)

theorem splitOn_append_of_not_mem {first piece : List Char} {pieces : List (List Char)}
    (habsent : c ∉ first) (hsplit : splitOn c cs = piece :: pieces) :
    splitOn c (first ++ cs) = (first ++ piece) :: pieces := by
  induction first with
  | nil => exact hsplit
  | cons d first ih =>
    obtain ⟨hdiffers, habsent⟩ := not_or.mp (List.mem_cons.not.mp habsent)
    rw [List.cons_append, splitOn, if_neg (Ne.symm hdiffers), ih habsent]
    rfl

theorem getLast?_splitOn_append {c : Char} {ending : List Char} (h : c ∉ ending) (cs : List Char) :
    ∃ start, (splitOn c (cs ++ ending)).getLast? = some (start ++ ending) := by
  induction cs with
  | nil => exact ⟨[], by rw [List.nil_append, splitOn_eq_self h]; rfl⟩
  | cons d rest ih =>
    obtain ⟨start, hlast⟩ := ih
    obtain ⟨piece, pieces, hpieces⟩ := List.exists_cons_of_ne_nil (splitOn_ne_nil c (rest ++ ending))
    rw [List.cons_append, splitOn, hpieces]
    rw [hpieces] at hlast
    split
    · exact ⟨start, by rw [List.getLast?_cons_cons, hlast]⟩
    cases pieces with
    | nil => exact ⟨d :: start, congrArg (some <| d :: ·) (Option.some.inj hlast)⟩
    | cons next later => exact ⟨start, by rw [List.getLast?_cons_cons] at hlast ⊢; exact hlast⟩

theorem length_splitOn (c : Char) (cs : List Char) : (splitOn c cs).length = cs.count c + 1 := by
  induction cs with
  | nil => rfl
  | cons d rest ih =>
    unfold splitOn
    split
    · next hsame => rw [List.length_cons, ih, hsame, List.count_cons_self]
    · next hdiffers =>
      rw [List.count_cons_of_ne hdiffers, ← ih]
      obtain ⟨piece, pieces, hsame⟩ := List.exists_cons_of_ne_nil (splitOn_ne_nil c rest)
      rw [hsame]
      rfl

theorem flatMap_splitOn (c : Char) (cs : List Char) : (splitOn c cs).flatMap (c :: ·) = c :: cs := by
  induction cs with
  | nil => rfl
  | cons d rest ih =>
    unfold splitOn
    split
    · next hsame => rw [List.flatMap_cons, ih, hsame]; rfl
    · obtain ⟨piece, pieces, hsame⟩ := List.exists_cons_of_ne_nil (splitOn_ne_nil c rest)
      rw [hsame] at ih ⊢
      simpa using ih

theorem flatMap_splitOn_concat (c : Char) (cs : List Char) :
    (splitOn c cs).flatMap (· ++ [c]) = cs ++ [c] := by
  induction cs with
  | nil => rfl
  | cons d rest ih =>
    unfold splitOn
    split
    · next hsame => rw [List.flatMap_cons, ih, hsame]; rfl
    · obtain ⟨piece, pieces, hsame⟩ := List.exists_cons_of_ne_nil (splitOn_ne_nil c rest)
      rw [hsame] at ih ⊢
      simpa using ih

/-! ## Occurrences -/

theorem occursIn_iff : occursIn pattern cs = true ↔ pattern <:+: cs := by
  induction cs with
  | nil => simp [occursIn]
  | cons c rest ih =>
    unfold occursIn
    rw [Bool.or_eq_true, List.isPrefixOf_iff_prefix, ih, List.infix_cons_iff]

theorem infix_append_iff_left {ys : List Char} (hinside : ¬pattern <:+: ys)
    (hacross : ∀ back ∈ pattern.tails, back <+: ys → back = []) :
    pattern <:+: cs ++ ys ↔ pattern <:+: cs := by
  constructor
  · intro hoccurs
    rcases List.infix_append_iff.mp hoccurs with hbefore | hbehind | ⟨front, back, hsame, hends, hstarts⟩
    · exact hbefore
    · exact (hinside hbehind).elim
    · have hnothing := hacross back ((List.mem_tails _ _).mpr ⟨front, hsame.symm⟩) hstarts
      rw [hsame, hnothing, List.append_nil]
      exact hends.isInfix
  · intro hbefore
    exact hbefore.trans (List.prefix_append cs ys).isInfix

theorem replaceFrom_skip (skipped rest : List Char) :
    replaceFrom pattern new skipped.length (skipped ++ rest) = replaceAll pattern new rest := by
  induction skipped with
  | nil => rfl
  | cons c skipped ih => simpa [replaceFrom] using ih

theorem replaceAll_prefix (hnonempty : pattern ≠ []) (rest : List Char) :
    replaceAll pattern new (pattern ++ rest) = new ++ replaceAll pattern new rest := by
  obtain ⟨c, others, rfl⟩ := List.exists_cons_of_ne_nil hnonempty
  have hhere : (c :: others).isPrefixOf (c :: (others ++ rest)) = true := by
    rw [List.isPrefixOf_iff_prefix]
    exact List.prefix_append _ _
  have hskipped : replaceFrom (c :: others) new others.length (others ++ rest) =
      replaceAll (c :: others) new rest := replaceFrom_skip others rest
  rw [List.cons_append, replaceAll, replaceFrom, if_pos hhere]
  simp [hskipped]

theorem replaceAll_cons (hother : ¬pattern <+: c :: rest) :
    replaceAll pattern new (c :: rest) = c :: replaceAll pattern new rest := by
  rw [← List.isPrefixOf_iff_prefix] at hother
  rw [replaceAll, replaceFrom, if_neg hother]
  rfl

theorem replaceAll_append {first : Char} (habsent : first ∉ cs) (rest : List Char) :
    replaceAll (first :: pattern) new (cs ++ rest) = cs ++ replaceAll (first :: pattern) new rest := by
  induction cs with
  | nil => rfl
  | cons c others ih =>
    obtain ⟨hdiffers, habsent⟩ := not_or.mp (List.mem_cons.not.mp habsent)
    have hother : ¬first :: pattern <+: c :: (others ++ rest) := by
      simp [List.cons_prefix_cons, hdiffers]
    rw [List.cons_append, replaceAll_cons hother, ih habsent]
    rfl

end SchemaMigration.Text
