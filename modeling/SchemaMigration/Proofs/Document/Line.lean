import SchemaMigration.Document.Toml.Reader
import SchemaMigration.Proofs.Number.Digits

/-!
# Reading within a line

Keys, numbers, dates and strings of one line are read without passing a line break.
-/

namespace SchemaMigration.Toml

open Number

variable {α β : Type} {cs rest : List Char}

/-- What is left of a text when a beginning without a line break is taken off. -/
def WithinLine (cs rest : List Char) : Prop := ∃ taken, '\n' ∉ taken ∧ cs = taken ++ rest

/-- If something is read, then within the line. -/
def ReadsLine (cs : List Char) (found : Option (α × List Char)) : Prop :=
  ∀ value rest, found = some (value, rest) → WithinLine cs rest

namespace WithinLine

theorem refl (cs : List Char) : WithinLine cs cs := ⟨[], List.not_mem_nil, rfl⟩

theorem trans {mid : List Char} (h : WithinLine cs mid) (h' : WithinLine mid rest) :
    WithinLine cs rest := by
  obtain ⟨taken, hline, rfl⟩ := h
  obtain ⟨more, hmore, rfl⟩ := h'
  exact ⟨taken ++ more, List.not_mem_append hline hmore, (List.append_assoc ..).symm⟩

theorem cons {c : Char} (hc : c ≠ '\n') (h : WithinLine cs rest) : WithinLine (c :: cs) rest := by
  obtain ⟨taken, hline, rfl⟩ := h
  exact ⟨c :: taken, List.not_mem_cons_of_ne_of_not_mem hc.symm hline, rfl⟩

theorem dropWhile {p : Char → Bool} (hp : p '\n' = false) (cs : List Char) :
    WithinLine cs (cs.dropWhile p) := by
  refine ⟨cs.takeWhile p, fun hmem => ?_, List.takeWhile_append_dropWhile.symm⟩
  simpa [hp] using List.all_eq_true.mp List.all_takeWhile _ hmem

theorem drop {n : Nat} (h : '\n' ∉ cs.take n) : WithinLine cs (cs.drop n) :=
  ⟨cs.take n, h, (List.take_append_drop n cs).symm⟩

theorem skipSpace (cs : List Char) : WithinLine cs (skipSpace cs) := dropWhile (by decide) cs

theorem skipComment (cs : List Char) : WithinLine cs (skipComment cs) := by
  unfold Toml.skipComment
  split
  · exact (dropWhile (by decide) _).cons (by decide)
  · exact refl cs

theorem mem (h : WithinLine cs rest) (hbreak : '\n' ∈ cs) : '\n' ∈ rest := by
  obtain ⟨taken, hline, rfl⟩ := h
  exact (List.mem_append.mp hbreak).resolve_left hline

theorem suffix (h : WithinLine cs rest) : rest <:+ cs := by
  obtain ⟨taken, -, rfl⟩ := h
  exact List.suffix_append taken rest

end WithinLine

namespace ReadsLine

theorem none : ReadsLine (α := α) cs none := nofun

theorem some {value : α} (h : WithinLine cs rest) : ReadsLine cs (some (value, rest)) := by
  intro _ _ hsame
  obtain ⟨-, rfl⟩ := Prod.mk.inj (Option.some.inj hsame)
  exact h

theorem pure {value : α} : ReadsLine cs (pure (value, cs)) := .some (.refl cs)

theorem bind {found : Option (α × List Char)} {f : α × List Char → Option (β × List Char)}
    (h : ReadsLine cs found) (hf : ∀ value mid, ReadsLine mid (f (value, mid))) :
    ReadsLine cs (found >>= f) := by
  intro value rest hsome
  obtain ⟨⟨first, mid⟩, hfound, hsome⟩ := Option.bind_eq_some_iff.mp hsome
  exact (h first mid hfound).trans (hf first mid value rest hsome)

theorem of_value {found : Option α} (h : WithinLine cs rest) {f : α → Option (β × List Char)}
    (hf : ∀ value, ReadsLine rest (f value)) : ReadsLine cs (found >>= f) := by
  intro value left hsome
  obtain ⟨first, -, hsome⟩ := Option.bind_eq_some_iff.mp hsome
  exact h.trans (hf first value left hsome)

theorem behind {mid : List Char} {found : Option (α × List Char)} (h : WithinLine cs mid)
    (hfound : ReadsLine mid found) : ReadsLine cs found :=
  fun value rest hsome => h.trans (hfound value rest hsome)

theorem ite {c : Prop} [Decidable c] {found other : Option (α × List Char)}
    (h : c → ReadsLine cs found) (h' : ¬c → ReadsLine cs other) :
    ReadsLine cs (if c then found else other) := by
  split
  · next hc => exact h hc
  · next hc => exact h' hc

end ReadsLine

/-! ## Dates and times -/

theorem readField_line {width low high : Nat} : ReadsLine cs (readField width low high cs) := by
  refine .ite (fun h => .some (.drop fun hmem => ?_)) fun _ => .none
  exact absurd (List.all_eq_true.mp h.2.1 _ hmem) (by decide)

theorem readMark_line {accepted : List Char} {written : Char} (h : '\n' ∉ accepted) :
    ReadsLine cs (readMark accepted written cs) := by
  unfold readMark
  split
  · refine .ite (fun hc => .some (.cons ?_ (.refl _))) fun _ => .none
    rintro rfl
    exact h (by simpa using hc)
  · exact .none

theorem readDate_line : ReadsLine cs (readDate cs) := by
  refine .bind readField_line fun _ _ => .bind (readMark_line (by decide)) fun _ _ => ?_
  refine .bind readField_line fun _ _ => .bind (readMark_line (by decide)) fun _ _ => ?_
  exact .bind readField_line fun _ _ => .pure

theorem readFractionOfSecond_line : ReadsLine cs (readFractionOfSecond cs) := by
  unfold readFractionOfSecond
  split
  · rw [List.span_eq_takeWhile_dropWhile]
    exact .ite (fun _ => .none) fun _ => .some (.cons (by decide) (.dropWhile (by decide) _))
  · exact .pure

theorem readTime_line : ReadsLine cs (readTime cs) := by
  refine .bind readField_line fun _ _ => .bind (readMark_line (by decide)) fun _ _ => ?_
  refine .bind readField_line fun _ _ => .bind (readMark_line (by decide)) fun _ _ => ?_
  exact .bind readField_line fun _ _ => .bind readFractionOfSecond_line fun _ _ => .pure

theorem readOffset_line : ReadsLine cs (readOffset cs) := by
  unfold readOffset
  split
  · next hmark => exact hmark ▸ readMark_line (by decide)
  · refine .bind ?_ fun _ _ => .bind readField_line fun _ _ => ?_
    · intro value rest hsome
      rcases Option.or_eq_some_iff.mp hsome with h | ⟨-, h⟩
      · exact readMark_line (by decide) value rest h
      · exact readMark_line (by decide) value rest h
    · exact .bind (readMark_line (by decide)) fun _ _ => .bind readField_line fun _ _ => .pure

theorem readTimeOfDate_line : ReadsLine cs (readTimeOfDate cs) := by
  refine .bind (readMark_line (by decide)) fun _ _ => .bind readTime_line fun _ mid => ?_
  dsimp only
  split
  · next hoffset => exact .some (readOffset_line _ _ hoffset)
  · exact .pure

theorem readDatetime_line : ReadsLine cs (readDatetime cs) := by
  unfold readDatetime
  split
  · next hdate =>
    refine .behind (readDate_line _ _ hdate) ?_
    split
    · next htime => exact .some (readTimeOfDate_line _ _ htime)
    · exact .pure
  · exact readTime_line

/-! ## Numbers -/

theorem readGrouped_line {isDigit : Char → Bool} (h : isDigit '\n' = false) :
    ReadsLine cs (readGrouped isDigit cs) := by
  have hdigit : ∀ c, isDigit c = true → c ≠ '\n' := by
    rintro c hc rfl
    simp [h] at hc
  fun_induction readGrouped isDigit cs with
  | case1 c rest hc ih =>
    refine .bind (.behind (.cons (by decide) (.cons (hdigit c hc) (.refl _))) ih) fun _ _ => .pure
  | case2 => exact .none
  | case3 => exact .none
  | case4 c rest _ _ hc ih =>
    exact .bind (.behind (.cons (hdigit c hc) (.refl _)) ih) fun _ _ => .pure
  | case5 => exact .pure
  | case6 => exact .pure

theorem readDigits_line {isDigit : Char → Bool} (h : isDigit '\n' = false) :
    ReadsLine cs (readDigits isDigit cs) := by
  unfold readDigits
  split
  · refine .ite (fun hc => ?_) fun _ => .none
    refine .bind (.behind (.cons ?_ (.refl _)) (readGrouped_line h)) fun _ _ => .pure
    rintro rfl
    simp [h] at hc
  · exact .none

theorem readWhole_line : ReadsLine cs (readWhole cs) := by
  unfold readWhole
  split
  · exact .some (.cons (by decide) (.refl _))
  · exact readDigits_line (by decide)

theorem readExponent_line : ReadsLine cs (readExponent cs) := by
  unfold readExponent
  split
  · refine .ite (fun hc => ?_) fun _ => .none
    refine .behind (.cons (by rintro rfl; simp at hc) (.refl _)) ?_
    refine .behind ?_ (.bind (readDigits_line (by decide)) fun _ _ => .pure)
    split
    · exact .cons (by decide) (.refl _)
    · exact .cons (by decide) (.refl _)
    · exact .refl _
  · exact .none

theorem readFractionOrExponent_line : ReadsLine cs (readFractionOrExponent cs) := by
  unfold readFractionOrExponent
  split
  · refine .bind (.behind (.cons (by decide) (.refl _)) (readDigits_line (by decide))) fun _ _ => ?_
    dsimp only
    split
    · exact .bind readExponent_line fun _ _ => .pure
    · exact .bind readExponent_line fun _ _ => .pure
    · exact .pure
  · exact readExponent_line

theorem readBased_line {base : Nat} {isDigit : Char → Bool} (h : isDigit '\n' = false) :
    ReadsLine cs (readBased base isDigit cs) :=
  .bind (readDigits_line h) fun _ _ => .of_value (.refl _) fun _ => .pure

theorem readSpecial_line (negative : Bool) : ReadsLine cs (readSpecial negative cs) := by
  unfold readSpecial
  split
  · exact .some ⟨['i', 'n', 'f'], by decide, rfl⟩
  · exact .some ⟨['n', 'a', 'n'], by decide, rfl⟩
  · exact .none

theorem splitSign_line (cs : List Char) : WithinLine cs (Decimal.splitSign cs).2 := by
  unfold Decimal.splitSign
  split
  · exact .cons (by decide) (.refl _)
  · exact .cons (by decide) (.refl _)
  · exact .refl _

theorem readDecimal_line : ReadsLine cs (readDecimal cs) := by
  unfold readDecimal
  refine .behind (splitSign_line cs) ?_
  dsimp only
  split
  · next hspecial => exact .some (readSpecial_line _ _ _ hspecial)
  · refine .bind readWhole_line fun _ _ => ?_
    dsimp only
    split
    all_goals first
      | exact .bind readFractionOrExponent_line fun _ _ => .of_value (.refl _) fun _ => .pure
      | exact .of_value (.refl _) fun _ => .pure

theorem readNumber_line : ReadsLine cs (readNumber cs) := by
  unfold readNumber
  split
  · next hdatetime => exact .some (readDatetime_line _ _ hdatetime)
  · split
    · exact .behind ⟨['0', 'x'], by decide, rfl⟩ (readBased_line (by decide))
    · exact .behind ⟨['0', 'o'], by decide, rfl⟩ (readBased_line (by decide))
    · exact .behind ⟨['0', 'b'], by decide, rfl⟩ (readBased_line (by decide))
    · exact readDecimal_line

/-! ## Strings of one line -/

theorem codePoint?_line {n : Nat} :
    ReadsLine cs ((codePoint? (cs.take n)).map (·, cs.drop n)) := by
  intro value rest hsome
  obtain ⟨c, hc, hsame⟩ := Option.map_eq_some_iff.mp hsome
  obtain ⟨-, rfl⟩ := Prod.mk.inj hsame
  refine .drop fun hmem => ?_
  unfold codePoint? at hc
  dsimp only at hc
  split at hc
  · next hdigits => exact absurd (List.all_eq_true.mp hdigits.1 _ hmem) (by decide)
  · cases hc

theorem readEscape_line : ReadsLine cs (readEscape cs) := by
  unfold readEscape
  split
  case h_8 => exact .behind (.cons (by decide) (.refl _)) (.ite (fun _ => codePoint?_line) fun _ => .none)
  case h_9 => exact .behind (.cons (by decide) (.refl _)) (.ite (fun _ => codePoint?_line) fun _ => .none)
  case h_10 => exact .none
  all_goals exact .some (.cons (by decide) (.refl _))

theorem readBasic_line (fuel : Nat) : ReadsLine cs (readBasic fuel cs) := by
  induction fuel generalizing cs with
  | zero => exact .none
  | succ fuel ih =>
    unfold readBasic
    split
    · exact .some (.cons (by decide) (.refl _))
    · refine .bind (.behind (.cons (by decide) (.refl _)) readEscape_line) fun _ _ => ?_
      exact .bind ih fun _ _ => .pure
    · refine .ite (fun hc => ?_) fun _ => .none
      refine .bind (.behind (.cons ?_ (.refl _)) ih) fun _ _ => .pure
      rintro rfl
      exact absurd hc (by decide)
    · exact .none

theorem readLiteral_line : ReadsLine cs (readLiteral cs) := by
  induction cs with
  | nil => exact .none
  | cons c rest ih =>
    unfold readLiteral
    refine .ite (fun hc => .some (.cons (by rw [hc]; decide) (.refl _))) fun _ => ?_
    refine .ite (fun hc => ?_) fun _ => .none
    refine .bind (.behind (.cons ?_ (.refl _)) ih) fun _ _ => .pure
    rintro rfl
    exact absurd hc (by decide)

/-! ## Keys -/

theorem readSimpleKey_line : ReadsLine cs (readSimpleKey cs) := by
  unfold readSimpleKey
  split
  · exact .behind (.cons (by decide) (.refl _)) (readBasic_line _)
  · exact .behind (.cons (by decide) (.refl _)) readLiteral_line
  · rw [List.span_eq_takeWhile_dropWhile]
    exact .ite (fun _ => .none) fun _ => .some (.dropWhile (by decide) _)

theorem readKeyParts_line (fuel : Nat) : ReadsLine cs (readKeyParts fuel cs) := by
  induction fuel generalizing cs with
  | zero => exact .none
  | succ fuel ih =>
    refine .bind (.behind (.skipSpace cs) readSimpleKey_line) fun _ mid => ?_
    refine .behind (.skipSpace mid) ?_
    dsimp only
    split
    · next hdot =>
      rw [hdot]
      exact .bind (.behind (.cons (by decide) (.refl _)) ih) fun _ _ => .pure
    · exact .pure

theorem readKey_line {path : List String} {key : String} (h : readKey cs = some (path, key, rest)) :
    WithinLine cs rest := by
  obtain ⟨⟨parts, mid⟩, hparts, h⟩ := Option.bind_eq_some_iff.mp h
  obtain ⟨last, -, h⟩ := Option.bind_eq_some_iff.mp h
  split at h
  · obtain ⟨-, -, rfl⟩ : parts.dropLast = path ∧ last = key ∧ mid = rest := by
      simpa [pure] using h
    exact readKeyParts_line _ _ _ hparts
  · cases h

end SchemaMigration.Toml
