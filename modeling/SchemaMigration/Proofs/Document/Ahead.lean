import SchemaMigration.Proofs.Document.Comments

/-!
# Values that run on

Strings of several lines and arrays are read past line breaks. Before a text in which none of them
can end, a value ends too, and the text is read line by line as it is read alone.
-/

namespace SchemaMigration.Toml

open Text

variable {α β : Type} {tail cs rest : List Char} {fuel depth : Nat}

/-- The line break before the tail is still to come. -/
def Ahead (tail cs : List Char) : Prop := ∃ before, cs = before ++ '\n' :: tail

/-- Nothing that was begun before the tail ends in it: neither a string of several lines nor an
array. -/
structure Closing (tail : List Char) : Prop where
  basic : ¬ ['"', '"', '"'] <:+: tail
  literal : ¬ ['\'', '\'', '\''] <:+: tail
  item : ∀ fuel depth, readArray fuel depth (skipLines tail.length tail) = none
  comma : (skipLines tail.length tail).head? ≠ some ','

/-- What is read leaves the line break before the tail to come. -/
def ReadsAhead (tail : List Char) (found : Option (α × List Char)) : Prop :=
  ∀ value rest, found = some (value, rest) → Ahead tail rest

namespace Ahead

theorem mem (h : Ahead tail cs) : '\n' ∈ cs := by
  obtain ⟨before, rfl⟩ := h
  simp

theorem cons {c : Char} (hc : c ≠ '\n') (h : Ahead tail (c :: cs)) : Ahead tail cs := by
  obtain ⟨_ | ⟨d, before⟩, hsame⟩ := h
  · exact absurd (List.cons.inj hsame).1 hc
  · exact ⟨before, (List.cons.inj hsame).2⟩

theorem within (h : Ahead tail cs) (hline : WithinLine cs rest) : Ahead tail rest := by
  obtain ⟨taken, hfree, rfl⟩ := hline
  induction taken with
  | nil => exact h
  | cons c taken ih =>
    rw [List.mem_cons, not_or] at hfree
    exact ih hfree.2 (h.cons (Ne.symm hfree.1))

theorem newline? (h : Ahead tail cs) (hnext : newline? cs = some rest) :
    Ahead tail rest ∨ rest = tail := by
  obtain ⟨ending, hending, rfl⟩ := newline?_eq_some hnext
  have hbreak : Ahead tail ('\n' :: rest) := by
    rcases hending with rfl | rfl
    · exact h
    · exact h.cons (by decide)
  obtain ⟨_ | ⟨d, before⟩, hsame⟩ := hbreak
  · exact .inr (List.cons.inj hsame).2
  · exact .inl ⟨before, (List.cons.inj hsame).2⟩

end Ahead

namespace ReadsAhead

theorem none : ReadsAhead (α := α) tail none := nofun

theorem some {value : α} (h : Ahead tail rest) : ReadsAhead tail (some (value, rest)) := by
  intro _ _ hsame
  obtain ⟨-, rfl⟩ := Prod.mk.inj (Option.some.inj hsame)
  exact h

theorem of_line {found : Option (α × List Char)} (h : Ahead tail cs) (hfound : ReadsLine cs found) :
    ReadsAhead tail found :=
  fun value rest hsome => h.within (hfound value rest hsome)

theorem bind {found : Option (α × List Char)} {f : α × List Char → Option (β × List Char)}
    (h : ReadsAhead tail found) (hf : ∀ value mid, Ahead tail mid → ReadsAhead tail (f (value, mid))) :
    ReadsAhead tail (found >>= f) := by
  intro value rest hsome
  obtain ⟨⟨first, mid⟩, hfound, hsome⟩ := Option.bind_eq_some_iff.mp hsome
  exact hf first mid (h first mid hfound) value rest hsome

theorem bind_key {f : List String × String × List Char → Option (β × List Char)} (h : Ahead tail cs)
    (hf : ∀ path key mid, Ahead tail mid → ReadsAhead tail (f (path, key, mid))) :
    ReadsAhead tail (readKey cs >>= f) := by
  intro value rest hsome
  obtain ⟨⟨path, key, mid⟩, hkey, hsome⟩ := Option.bind_eq_some_iff.mp hsome
  exact hf path key mid (h.within (readKey_line hkey)) value rest hsome

theorem map {found : Option (α × List Char)} {f : α → β} (h : ReadsAhead tail found) :
    ReadsAhead tail (found.map fun (value, rest) => (f value, rest)) := by
  intro value rest hsome
  obtain ⟨⟨first, mid⟩, hfound, hsame⟩ := Option.map_eq_some_iff.mp hsome
  obtain ⟨-, rfl⟩ := Prod.mk.inj hsame
  exact h first mid hfound

theorem ite {c : Prop} [Decidable c] {found other : Option (α × List Char)}
    (h : c → ReadsAhead tail found) (h' : ¬c → ReadsAhead tail other) :
    ReadsAhead tail (if c then found else other) := by
  split
  · next hc => exact h hc
  · next hc => exact h' hc

end ReadsAhead

/-! ## Line breaks in arrays -/

theorem length_newline? (h : newline? cs = some rest) : rest.length < cs.length := by
  obtain ⟨ending, -, rfl⟩ := newline?_eq_some h
  simp
  omega

theorem skipLines_succ (fuel : Nat) (cs : List Char) : skipLines (fuel + 1) cs =
    ((newline? (skipComment (skipSpace cs))).map (skipLines fuel)).getD
      (skipComment (skipSpace cs)) := by
  rw [skipLines]
  cases newline? (skipComment (skipSpace cs)) <;> rfl

theorem skip_length_le (cs : List Char) : (skipComment (skipSpace cs)).length ≤ cs.length :=
  ((WithinLine.skipSpace cs).trans (.skipComment _)).suffix.length_le

theorem skipLines_stable {more : Nat} (h : cs.length ≤ fuel) (h' : cs.length ≤ more) :
    skipLines fuel cs = skipLines more cs := by
  have hnil : ∀ fuel, skipLines fuel [] = [] := by
    rintro (_ | fuel)
    · rfl
    · rw [skipLines_succ]
      rfl
  induction fuel generalizing cs more with
  | zero =>
    obtain rfl := List.eq_nil_of_length_eq_zero (Nat.le_zero.mp h)
    rw [hnil, hnil]
  | succ fuel ih =>
    cases more with
    | zero =>
      obtain rfl := List.eq_nil_of_length_eq_zero (Nat.le_zero.mp h')
      rw [hnil, hnil]
    | succ more =>
      rw [skipLines_succ, skipLines_succ]
      cases hnext : newline? (skipComment (skipSpace cs)) with
      | none => rfl
      | some rest =>
        have hlength := length_newline? hnext
        have hshort := skip_length_le cs
        exact ih (by omega) (by omega)

theorem skipLines_ahead (hfuel : cs.length ≤ fuel) (h : Ahead tail cs) :
    Ahead tail (skipLines fuel cs) ∨ skipLines fuel cs = skipLines tail.length tail := by
  induction fuel generalizing cs with
  | zero =>
    obtain rfl := List.eq_nil_of_length_eq_zero (Nat.le_zero.mp hfuel)
    simpa using h.mem
  | succ fuel ih =>
    have hskipped := h.within ((WithinLine.skipSpace cs).trans (.skipComment _))
    rw [skipLines_succ]
    cases hnext : newline? (skipComment (skipSpace cs)) with
    | none => exact .inl hskipped
    | some rest =>
      have hlength := length_newline? hnext
      have hshort := skip_length_le cs
      show Ahead tail (skipLines fuel rest) ∨ skipLines fuel rest = _
      rcases hskipped.newline? hnext with hahead | rfl
      · exact ih (by omega) hahead
      · exact .inr (skipLines_stable (by omega) (Nat.le_refl _))

/-! ## Strings of several lines -/

theorem suffix_newline? (h : newline? cs = some rest) : rest <:+ cs := by
  obtain ⟨ending, -, rfl⟩ := newline?_eq_some h
  exact ⟨ending ++ ['\n'], by simp⟩

theorem skipBlankLines_suffix (fuel : Nat) (cs : List Char) : skipBlankLines fuel cs <:+ cs := by
  induction fuel generalizing cs with
  | zero => exact List.suffix_refl cs
  | succ fuel ih =>
    unfold skipBlankLines
    split
    · next hnext => exact (ih _).trans (suffix_newline? hnext)
    · split
      · split
        · exact (ih _).trans (List.suffix_cons ..)
        · exact List.suffix_refl _
      · exact List.suffix_refl _

theorem quotes_suffix {quote : Char} {kept : Nat}
    (h : kept + 3 ≤ (cs.takeWhile (· == quote)).length) :
    quote :: quote :: quote :: cs.drop (kept + 3) <:+ cs := by
  induction kept generalizing cs with
  | zero =>
    have hrun : List.replicate 3 quote <+: cs := by
      have htake : (cs.takeWhile (· == quote)).take 3 = List.replicate 3 quote := by
        refine List.eq_replicate_iff.mpr ⟨by simpa using h, fun c hc => ?_⟩
        simpa using List.all_eq_true.mp List.all_takeWhile c (List.mem_of_mem_take hc)
      exact htake ▸ (List.take_prefix ..).trans (List.takeWhile_prefix _)
    obtain ⟨rest, rfl⟩ := hrun
    exact List.suffix_refl _
  | succ kept ih =>
    cases cs with
    | nil => simp at h
    | cons c cs =>
      rw [List.takeWhile_cons] at h
      split at h
      · exact (ih (Nat.le_of_succ_le_succ h)).trans (List.suffix_cons ..)
      · simp at h

theorem readLines_suffix {escapes : Bool} {quote : Char} {text : List Char}
    (h : readLines escapes quote fuel cs = some (text, rest)) :
    quote :: quote :: quote :: rest <:+ cs := by
  induction fuel generalizing cs text rest with
  | zero => cases h
  | succ fuel ih =>
    unfold readLines at h
    split at h
    · next hnext =>
      obtain ⟨⟨more, left⟩, hread, h⟩ := Option.bind_eq_some_iff.mp h
      obtain ⟨-, rfl⟩ : '\n' :: more = text ∧ left = rest := by simpa [pure] using h
      exact (ih hread).trans (suffix_newline? hnext)
    split at h
    · cases h
    next c others _ =>
    split at h
    · dsimp only at h
      unfold quoteRun at h
      split at h
      · obtain ⟨⟨more, left⟩, hread, h⟩ := Option.bind_eq_some_iff.mp h
        obtain ⟨-, rfl⟩ := Prod.mk.inj (Option.some.inj h)
        exact (ih hread).trans (List.drop_suffix ..)
      · next hlong =>
        obtain ⟨-, rfl⟩ := Prod.mk.inj (Option.some.inj h)
        exact quotes_suffix (by omega)
    split at h
    · split at h
      · next hnext =>
        have hspace := (WithinLine.skipSpace others).suffix.trans (List.suffix_cons c others)
        exact ((ih h).trans (skipBlankLines_suffix ..)).trans ((suffix_newline? hnext).trans hspace)
      · obtain ⟨⟨e, mid⟩, hescape, h⟩ := Option.bind_eq_some_iff.mp h
        obtain ⟨⟨more, left⟩, hread, h⟩ := Option.bind_eq_some_iff.mp h
        obtain ⟨-, rfl⟩ : e :: more = text ∧ left = rest := by simpa [pure] using h
        exact ((ih hread).trans (readEscape_line _ _ hescape).suffix).trans (List.suffix_cons ..)
    split at h
    · obtain ⟨⟨more, left⟩, hread, h⟩ := Option.bind_eq_some_iff.mp h
      obtain ⟨-, rfl⟩ : c :: more = text ∧ left = rest := by simpa [pure] using h
      exact (ih hread).trans (List.suffix_cons ..)
    · cases h

theorem ahead_of_quotes {quote : Char} (hquote : quote ≠ '\n')
    (hnone : ¬ [quote, quote, quote] <:+: tail) (h : Ahead tail cs)
    (hsuffix : quote :: quote :: quote :: rest <:+ cs) : Ahead tail rest := by
  obtain ⟨before, rfl⟩ := h
  obtain ⟨taken, hsame⟩ := hsuffix
  rcases List.append_eq_append_iff.mp hsame with ⟨more, -, hmore⟩ | ⟨more, -, hmore⟩
  · have hahead : Ahead tail (quote :: quote :: quote :: rest) := ⟨more, hmore⟩
    exact ((hahead.cons hquote).cons hquote).cons hquote
  · cases more with
    | nil => exact absurd (List.cons.inj hmore).1.symm hquote
    | cons c more =>
      exact absurd ⟨more, rest, by simpa using (List.cons.inj hmore).2.symm⟩ hnone

theorem readLines_ahead {escapes : Bool} {quote : Char} (hquote : quote ≠ '\n')
    (hnone : ¬ [quote, quote, quote] <:+: tail) (h : Ahead tail cs) :
    ReadsAhead tail (readLines escapes quote fuel (dropFirstNewline cs)) := by
  intro text rest hsome
  have hsuffix := readLines_suffix hsome
  unfold dropFirstNewline at hsuffix
  cases hnext : newline? cs with
  | none =>
    rw [hnext] at hsuffix
    exact ahead_of_quotes hquote hnone h hsuffix
  | some left =>
    rw [hnext] at hsuffix
    rcases h.newline? hnext with hahead | rfl
    · exact ahead_of_quotes hquote hnone hahead hsuffix
    · obtain ⟨taken, hsame⟩ := hsuffix
      exact absurd ⟨taken, rest, by simpa using hsame⟩ hnone

theorem readString_ahead (htail : Closing tail) (h : Ahead tail cs) :
    ReadsAhead tail (readString cs) := by
  unfold readString
  split
  · exact readLines_ahead (by decide) htail.basic
      (((h.cons (by decide)).cons (by decide)).cons (by decide))
  · exact .of_line (h.cons (by decide)) (readBasic_line _)
  · exact readLines_ahead (by decide) htail.literal
      (((h.cons (by decide)).cons (by decide)).cons (by decide))
  · exact .of_line (h.cons (by decide)) readLiteral_line
  · exact .none

/-! ## Values -/

/-- All that is read with so much fuel stays before the tail. -/
structure StaysAhead (tail : List Char) (fuel : Nat) : Prop where
  value : ∀ depth cs, Ahead tail cs → ReadsAhead tail (readValue fuel depth cs)
  array : ∀ depth cs, Ahead tail cs → ReadsAhead tail (readArray fuel depth cs)
  inline : ∀ depth cs, Ahead tail cs → ReadsAhead tail (readInline fuel depth cs)
  pairs : ∀ depth cs, Ahead tail cs → ReadsAhead tail (readInlinePairs fuel depth cs)

section Step

variable (htail : Closing tail) (ih : StaysAhead tail fuel) (h : Ahead tail cs)

include htail ih in
theorem readArray_skipLines (h : Ahead tail cs) :
    ReadsAhead tail (readArray fuel depth (skipLines cs.length cs)) := by
  rcases skipLines_ahead (Nat.le_refl _) h with hahead | hpassed
  · exact ih.array depth _ hahead
  · rw [hpassed, htail.item]
    exact .none

include htail ih h in
theorem readValue_succ_ahead : ReadsAhead tail (readValue (fuel + 1) depth cs) := by
  unfold readValue
  split
  · exact .none
  next c rest =>
  refine .ite
    (fun _ => (readString_ahead htail h).map (f := fun s => Document.text (String.ofList s)))
    fun _ => ?_
  refine .ite (fun hc => .ite (fun _ => .none) fun _ => ?_) fun _ => ?_
  · exact (readArray_skipLines htail ih (h.cons (by rw [hc]; decide))).map
  refine .ite (fun hc => .ite (fun _ => .none) fun _ => ?_) fun _ => ?_
  · refine (ih.inline _ _ (h.cons (by rw [hc]; decide))).bind fun pairs mid hmid => ?_
    intro value left hsome
    obtain ⟨n, -, hsame⟩ := Option.bind_eq_some_iff.mp hsome
    obtain ⟨-, rfl⟩ := Prod.mk.inj (Option.some.inj hsame)
    exact hmid
  refine .ite (fun hc => .some ?_) fun _ => .ite (fun hc => .some ?_) fun _ => ?_
  · obtain ⟨more, rfl⟩ := List.isPrefixOf_iff_prefix.mp hc.2
    exact h.within ⟨[c] ++ "rue".toList, by simp [hc.1], by simp⟩
  · obtain ⟨more, rfl⟩ := List.isPrefixOf_iff_prefix.mp hc.2
    exact h.within ⟨[c] ++ "alse".toList, by simp [hc.1], by simp⟩
  · exact .of_line h readNumber_line

include htail ih h in
theorem readArray_succ_ahead : ReadsAhead tail (readArray (fuel + 1) depth cs) := by
  unfold readArray
  split
  · exact .some (h.cons (by decide))
  · refine (ih.value _ _ h).bind fun d mid hmid => ?_
    have hskipped := skipLines_ahead (Nat.le_refl _) hmid
    dsimp only
    split
    · next hcomma =>
      rw [hcomma] at hskipped
      rcases hskipped with hahead | hpassed
      · exact (readArray_skipLines htail ih (hahead.cons (by decide))).bind fun _ _ h => .some h
      · exact absurd (by rw [← hpassed]; rfl) htail.comma
    · next hbracket =>
      rw [hbracket] at hskipped
      rcases hskipped with hahead | hpassed
      · exact .some (hahead.cons (by decide))
      · have hitem := htail.item 1 0
        rw [← hpassed] at hitem
        simp [readArray] at hitem
    · exact .none

include ih h in
theorem readInline_succ_ahead : ReadsAhead tail (readInline (fuel + 1) depth cs) := by
  have hskipped := h.within (.skipSpace cs)
  unfold readInline
  split
  · next hbrace =>
    rw [hbrace] at hskipped
    exact .some (hskipped.cons (by decide))
  · exact ih.pairs _ _ hskipped

include ih h in
theorem readInlinePairs_succ_ahead : ReadsAhead tail (readInlinePairs (fuel + 1) depth cs) := by
  unfold readInlinePairs
  refine .bind_key h fun path key mid hmid => ?_
  dsimp only
  split
  · refine (ih.value _ _ ((hmid.cons (by decide)).within (.skipSpace _))).bind fun value mid hmid => ?_
    have hskipped := hmid.within (.skipSpace mid)
    dsimp only
    split
    · next hcomma =>
      rw [hcomma] at hskipped
      exact (ih.pairs _ _ (hskipped.cons (by decide))).bind fun _ _ h => .some h
    · next hbrace =>
      rw [hbrace] at hskipped
      exact .some (hskipped.cons (by decide))
    · exact .none
  · exact .none

end Step

theorem staysAhead (htail : Closing tail) (fuel : Nat) : StaysAhead tail fuel := by
  induction fuel with
  | zero =>
    refine ⟨fun _ _ _ => ?_, fun _ _ _ => ?_, fun _ _ _ => ?_, fun _ _ _ => ?_⟩
    · exact readValue.eq_1 .. ▸ .none
    · exact readArray.eq_1 .. ▸ .none
    · exact readInline.eq_1 .. ▸ .none
    · exact readInlinePairs.eq_1 .. ▸ .none
  | succ fuel ih =>
    exact ⟨fun _ _ => readValue_succ_ahead htail ih, fun _ _ => readArray_succ_ahead htail ih,
      fun _ _ => readInline_succ_ahead ih, fun _ _ => readInlinePairs_succ_ahead ih⟩

/-! ## Lines -/

theorem endOfLine?_ahead (h : Ahead tail cs) (hends : endOfLine? cs = some rest) :
    Ahead tail rest ∨ rest = tail := by
  obtain ⟨line, hline, rfl⟩ := commentLine_of_endOfLine? hends h.mem
  exact (h.within ⟨line, hline.oneLine, rfl⟩).newline? rfl

theorem readHeader_ahead (h : Ahead tail cs) : ReadsAhead tail (readHeader cs) := by
  unfold readHeader
  split
  · refine .bind_key ((h.cons (by decide)).cons (by decide)) fun _ _ _ hmid => ?_
    dsimp only
    split
    · exact .some ((hmid.cons (by decide)).cons (by decide))
    · exact .none
  · refine .bind_key (h.cons (by decide)) fun _ _ _ hmid => ?_
    dsimp only
    split
    · exact .some (hmid.cons (by decide))
    · exact .none
  · exact .none

theorem readPair_ahead (htail : Closing tail) (h : Ahead tail cs) : ReadsAhead tail (readPair cs) := by
  refine .bind_key h fun path key mid hmid => ?_
  dsimp only
  split
  · have hvalue := (hmid.cons (by decide)).within (.skipSpace _)
    exact ((staysAhead htail _).value _ _ hvalue).bind fun _ _ h => .some h
  · exact .none

theorem readLine_ahead {line : Line} (htail : Closing tail) (h : Ahead tail cs)
    (hread : readLine cs = some (line, rest)) : Ahead tail rest ∨ rest = tail := by
  have hends : ∀ mid, Ahead tail mid → ∀ found : Line,
      ((endOfLine? mid).map (found, ·)) = some (line, rest) → Ahead tail rest ∨ rest = tail := by
    intro mid hmid found hsome
    obtain ⟨left, hleft, hsame⟩ := Option.map_eq_some_iff.mp hsome
    obtain ⟨-, rfl⟩ := Prod.mk.inj hsame
    exact endOfLine?_ahead hmid hleft
  unfold readLine at hread
  split at hread
  · simpa using h.mem
  · exact hends _ h _ hread
  · exact hends _ h _ hread
  · exact hends _ h _ hread
  · obtain ⟨⟨header, mid⟩, hheader, hread⟩ := Option.bind_eq_some_iff.mp hread
    obtain ⟨left, hleft, hsame⟩ := Option.bind_eq_some_iff.mp hread
    obtain ⟨-, rfl⟩ := Prod.mk.inj (Option.some.inj hsame)
    exact endOfLine?_ahead (readHeader_ahead h _ _ hheader) hleft
  · obtain ⟨⟨pair, mid⟩, hpair, hread⟩ := Option.bind_eq_some_iff.mp hread
    obtain ⟨left, hleft, hsame⟩ := Option.bind_eq_some_iff.mp hread
    obtain ⟨-, rfl⟩ := Prod.mk.inj (Option.some.inj hsame)
    exact endOfLine?_ahead (readPair_ahead htail h _ _ hpair) hleft

/-- The lines before the tail are read by themselves. If they say nothing, they are comments. -/
theorem readAllLines_before {before : List Char} {lines : List Line} (htail : Closing tail)
    (h : readAllLines fuel (before ++ '\n' :: tail) = some lines) :
    ∃ first others more, lines = first ++ others ∧ readAllLines more tail = some others ∧
      ((∀ line ∈ first, line = .blank) → ∀ line ∈ splitOn '\n' before, IsCommentLine line) := by
  induction fuel generalizing before lines with
  | zero => cases h
  | succ fuel ih =>
    have hahead : Ahead tail (before ++ '\n' :: tail) := ⟨before, rfl⟩
    have hskipped := hahead.within (.skipSpace _)
    rw [readAllLines_succ (List.ne_nil_of_mem hskipped.mem)] at h
    obtain ⟨⟨line, rest⟩, hread, h⟩ := Option.bind_eq_some_iff.mp h
    obtain ⟨others, hothers, rfl⟩ := Option.map_eq_some_iff.mp h
    have hcomment : line = .blank → ∃ shown, IsCommentLine shown ∧
        before ++ '\n' :: tail = shown ++ '\n' :: rest := by
      rintro rfl
      exact commentLine_of_readLine hread hahead.mem
    rcases readLine_ahead htail hskipped hread with ⟨between, rfl⟩ | rfl
    · obtain ⟨first, others, more, rfl, hmore, hblank⟩ := ih hothers
      refine ⟨line :: first, others, more, rfl, hmore, fun hfirst => ?_⟩
      obtain ⟨hline, hfirst⟩ := List.forall_mem_cons.mp hfirst
      obtain ⟨shown, hshown, hsame⟩ := hcomment hline
      obtain rfl : before = shown ++ '\n' :: between :=
        List.append_cancel_right (hsame.trans (List.append_assoc shown ('\n' :: between) _).symm)
      rw [splitOn_append, splitOn_eq_self hshown.oneLine]
      exact List.forall_mem_cons.mpr ⟨hshown, hblank hfirst⟩
    · refine ⟨[line], others, fuel, rfl, hothers, fun hfirst => ?_⟩
      obtain ⟨shown, hshown, hsame⟩ := hcomment (hfirst line List.mem_cons_self)
      obtain rfl : before = shown := List.append_cancel_right hsame
      rw [splitOn_eq_self hshown.oneLine]
      exact List.forall_mem_singleton.mpr hshown

end SchemaMigration.Toml
