import SchemaMigration.Proofs.Sql.OneNumber

/-!
# Numbered placeholders

The values of `$1`, `$2`, … are written one number after the other, from the highest one down.
That is the same as writing them all at once as long as no `$` but that of a placeholder comes
to stand before a number that is still to be written.
-/

namespace SchemaMigration.Sql

open Text Number

/-! ## Where writing one number after the other goes wrong -/

/-- Behind `$` and the digits of `stem`, which is zero for none, the digit makes a number below
`limit`. -/
def Misread (limit stem : Nat) (d : Char) : Prop :=
  d.isDigit = true ∧ 0 < 10 * stem + digitValue d ∧ 10 * stem + digitValue d < limit

/-- No number that is still to be written can be read where there is no placeholder for it. -/
structure Undisturbed (params : List SqlValue) (sql : String) : Prop where
  text : ∀ d, [.char '$', .char d] <:+: pieces params sql.toList → ¬Misread (params.length + 1) 0 d
  /-- In a value that was written for a number, numbers below it are still to be written. -/
  values : ∀ number value, .slot number value ∈ pieces params sql.toList →
    ∀ d, ['$', d] <:+: value.literal.toList → ¬Misread number 0 d
  joints : ∀ p number value, [p, .slot number value] <:+: pieces params sql.toList →
    ∀ stem ∈ p.stem?, ∀ d ∈ value.literal.toList.head?, ¬Misread number stem d

/-- No placeholder has a `$` right behind it. -/
def Separate (params : List SqlValue) (sql : String) : Prop :=
  ∀ number value p, [.slot number value, p] <:+: pieces params sql.toList → p.stem? = none

variable {params : List SqlValue} {cs : List Char} {number least : Nat} {value : SqlValue}
variable {ps : List Piece} {tail : List Char}

/-! ## One number after the other -/

variable {sql : String}

theorem known_of_pieces {before : List SqlValue} {rest : List SqlValue}
    (hsplit : params = before ++ value :: rest) {n : Nat} {v : SqlValue}
    (hmem : .slot n v ∈ writtenFrom (before.length + 2) (pieces params cs)) :
    n ≤ before.length + 1 ∧ (n = before.length + 1 → v = value) := by
  obtain ⟨hinside, hbelow⟩ := slot_of_mem_writtenFrom hmem
  refine ⟨by omega, ?_⟩
  rintro rfl
  have hthere := (slot_of_mem_pieces hinside).2.2
  simpa [hsplit, eq_comm] using hthere

theorem Undisturbed.noStray (hundisturbed : Undisturbed params sql) (hpositive : 0 < number)
    (hinside : number ≤ params.length) :
    ¬Stray number (writtenFrom (number + 1) (pieces params sql.toList)) [] := by
  intro hstray
  obtain ⟨d, hnext, hdigit, hleast, hmost⟩ := hstray.next hpositive
  have hmisread (limit : Nat) (hbelow : number < limit) : Misread limit 0 d := ⟨hdigit, by omega, by omega⟩
  have hmarked : 0 ∈ (Piece.char '$').stem? := rfl
  rcases next_of_writtenFrom hmarked hnext with ⟨n, v, hmem, hlater, hinValue⟩ | ⟨y, hbetween, hfirst⟩
  · obtain ⟨both, hsub, hsame⟩ := List.infix_map_iff.mp hinValue
    obtain rfl : ['$', d] = both :=
      List.map_injective_iff.mpr (fun _ _ => Piece.char.inj) (by simpa using hsame)
    exact hundisturbed.values n v hmem d hsub (hmisread n (by omega))
  · rcases head?_writtenFrom hfirst with rfl | ⟨n, v, rfl, hlater, hstart⟩
    · exact hundisturbed.text d hbetween (hmisread _ (by omega))
    · exact hundisturbed.joints _ n v hbetween 0 hmarked d hstart (hmisread n (by omega))

theorem Undisturbed.apart (hundisturbed : Undisturbed params sql) :
    Apart number (writtenFrom (number + 1) (pieces params sql.toList)) [] := by
  intro before n v after hsame hother
  have hinWritten : .slot n v ∈ writtenFrom (number + 1) (pieces params sql.toList) := by simp [hsame]
  obtain ⟨hmem, hbelow⟩ := slot_of_mem_writtenFrom hinWritten
  have hpositive := (slot_of_mem_pieces hmem).1
  refine not_prefix_of_less (by omega) ?_
  intro d hfirst hdigit
  rw [List.append_nil] at hfirst
  have hnoMark : d ≠ '$' := by
    rintro rfl
    exact absurd hdigit (by decide)
  obtain ⟨others, rfl⟩ := char_of_head?_textOf hfirst hnoMark
  have hnext : [.slot n v, .char d] <:+: writtenFrom (number + 1) (pieces params sql.toList) :=
    ⟨before, others, by simp [hsame]⟩
  have hmarked : n ∈ (Piece.slot n v).stem? := rfl
  rcases next_of_writtenFrom hmarked hnext with ⟨m, w, -, -, hinValue⟩ | ⟨y, hbetween, hfirst⟩
  · have hslot : Piece.slot n v ∈ w.literal.toList.map .char := hinValue.subset List.mem_cons_self
    simp at hslot
  · rcases head?_writtenFrom hfirst with rfl | ⟨m, w, rfl, hlater, hstart⟩
    · rw [not_isDigit_behind_slot hbetween] at hdigit
      cases hdigit
    · have hfine := hundisturbed.joints _ m w hbetween n hmarked d hstart
      by_contra hsmall
      exact hfine ⟨hdigit, by omega, by omega⟩

theorem Undisturbed.fillNumbered_eq (hundisturbed : Undisturbed params sql) (rest before : List SqlValue)
    (hsplit : params = before ++ rest) : fillNumbered (before.length + 1) rest sql.toList =
      textOf (writtenFrom (before.length + 1) (pieces params sql.toList)) := by
  induction rest generalizing before with
  | nil =>
    have hbelow : ∀ n v, .slot n v ∈ pieces params sql.toList → n < before.length + 1 := by
      intro n v hmem
      have hmost := (slot_of_mem_pieces hmem).2.1
      rw [hsplit, List.append_nil] at hmost
      omega
    rw [writtenFrom_of_below hbelow, textOf_pieces]
    rfl
  | cons value rest ih =>
    have hlater := ih (before ++ [value]) (by simp [hsplit])
    rw [List.length_append, List.length_singleton] at hlater
    have hinside : before.length + 1 ≤ params.length := by simp [hsplit]
    have houtcome := writeOne_cases (fun n v => known_of_pieces hsplit) hundisturbed.apart
    have hnoStray := hundisturbed.noStray (Nat.succ_pos _) hinside
    rcases houtcome with hreplaces | ⟨start, after, left, hsame, hdigits, -⟩
    · have htext := hreplaces.text
      rw [List.append_nil, writtenFrom_writtenFrom] at htext
      rw [fillNumbered, hlater]
      simpa [writeOne, replaceAll, replaceFrom] using htext
    · exact (hnoStray ⟨start, after, hsame, hdigits⟩).elim

/-! ## What a stray `$` leaves behind -/

/-- The text has something else where a `$` that belongs to no placeholder should be. -/
def Diverges (out : List Char) (ps : List Piece) : Prop :=
  ∃ before after c rest, ps = before ++ .char '$' :: after ∧ out = textOf before ++ c :: rest ∧ c ≠ '$'

theorem Diverges.ne {out : List Char} (hdiverges : Diverges out ps) : out ≠ textOf ps := by
  obtain ⟨before, after, c, rest, rfl, rfl, hother⟩ := hdiverges
  intro hsame
  rw [textOf_append, List.append_cancel_left_eq] at hsame
  exact hother (List.cons.inj hsame).1

theorem Strays.diverges (hstrays : Strays number value ps tail) (more : List Piece) :
    Diverges (writeOne number value (textOf ps ++ tail)) (writtenFrom number (ps ++ more)) := by
  obtain ⟨before, after, rest, rfl, -, htext⟩ := hstrays
  obtain ⟨hsome, hfirst, -⟩ := value.literal_ends
  obtain ⟨c, others, hsame⟩ := List.exists_cons_of_ne_nil hsome
  refine ⟨writtenFrom number before, writtenFrom number (after ++ more), c, others ++ rest, ?_, ?_, ?_⟩
  · simp [Piece.writtenFrom]
  · rw [htext, hsame, List.cons_append]
  · rintro rfl
    exact hfirst (by rw [hsame]; rfl)

theorem Diverges.stays {out : List Char} (hdiverges : Diverges out ps)
    (hknown : ∀ n v, .slot n v ∈ ps → n ≤ number ∧ (n = number → v = value))
    (hapart : ∀ before after tail, ps = before ++ .char '$' :: after → Apart number before tail) :
    Diverges (writeOne number value out) (writtenFrom number ps) := by
  obtain ⟨before, after, c, rest, rfl, rfl, hother⟩ := hdiverges
  have houtcome := writeOne_cases
    (fun n v hmem => hknown n v (List.mem_append_left _ hmem)) (hapart before after (c :: rest) rfl)
  rcases houtcome with hreplaces | hstrays
  · refine ⟨writtenFrom number before, writtenFrom number after, c,
      writeOne number value rest, ?_, ?_, hother⟩
    · simp [Piece.writtenFrom]
    · rw [hreplaces.text, writeOne_char hother]
  · exact hstrays.diverges _

theorem Separate.next (hseparate : Separate params sql) {q : Piece}
    (hnext : [.slot number value, q] <:+: writtenFrom least (pieces params sql.toList)) :
    ∃ c, q = .char c ∧ c ≠ '$' ∧ c.isDigit = false := by
  have hmarked : number ∈ (Piece.slot number value).stem? := rfl
  rcases next_of_writtenFrom hmarked hnext with ⟨m, w, -, -, hinValue⟩ | ⟨y, hbetween, hfirst⟩
  · have hslot : Piece.slot number value ∈ w.literal.toList.map .char :=
      hinValue.subset List.mem_cons_self
    simp at hslot
  · have hfree := hseparate number value y hbetween
    cases y with
    | slot m w => cases hfree
    | char c =>
      obtain rfl : .char c = q := by simpa [Piece.writtenFrom] using hfirst
      refine ⟨c, rfl, ?_, not_isDigit_behind_slot hbetween⟩
      rintro rfl
      cases hfree

theorem Separate.apart (hseparate : Separate params sql) {before behind : List Piece}
    (hsame : writtenFrom (number + 1) (pieces params sql.toList) = before ++ behind)
    (hends : behind = [] ∧ tail = [] ∨ ∃ after, behind = .char '$' :: after) :
    Apart number before tail := by
  rintro start n v more rfl hother
  have hinWritten : .slot n v ∈ writtenFrom (number + 1) (pieces params sql.toList) := by simp [hsame]
  obtain ⟨-, hbelow⟩ := slot_of_mem_writtenFrom hinWritten
  refine not_prefix_of_less (by omega) ?_
  intro d hfirst hdigit
  have hnext (q : Piece) (others : List Piece) (hfollows : more ++ behind = q :: others) :
      ∃ c, q = .char c ∧ c ≠ '$' ∧ c.isDigit = false := by
    have hbetween : [.slot n v, q] <:+: writtenFrom (number + 1) (pieces params sql.toList) :=
      ⟨start, others, by simp [hsame, hfollows]⟩
    exact hseparate.next hbetween
  cases more with
  | nil =>
    rcases hends with ⟨-, rfl⟩ | ⟨after, rfl⟩
    · simp at hfirst
    · obtain ⟨c, hhere, hnoMark, -⟩ := hnext _ after rfl
      exact (hnoMark (Piece.char.inj hhere).symm).elim
  | cons p more =>
    obtain ⟨c, rfl, -, hnoDigit⟩ := hnext p _ rfl
    obtain rfl : c = d := by simpa [Piece.text] using hfirst
    rw [hnoDigit] at hdigit
    cases hdigit

/-- Either every number was written where its placeholders stand and nowhere else, or the text
has gone wrong. -/
theorem Separate.fillNumbered_cases (hseparate : Separate params sql) (rest before : List SqlValue)
    (hsplit : params = before ++ rest) :
    (fillNumbered (before.length + 1) rest sql.toList =
        textOf (writtenFrom (before.length + 1) (pieces params sql.toList)) ∧
      ∀ number, before.length < number → number ≤ params.length →
        ¬Stray number (writtenFrom (number + 1) (pieces params sql.toList)) []) ∨
    Diverges (fillNumbered (before.length + 1) rest sql.toList)
      (writtenFrom (before.length + 1) (pieces params sql.toList)) := by
  induction rest generalizing before with
  | nil =>
    have hmost : params.length = before.length := by simp [hsplit]
    have hbelow : ∀ n v, .slot n v ∈ pieces params sql.toList → n < before.length + 1 := by
      intro n v hmem
      have hinside := (slot_of_mem_pieces hmem).2.1
      omega
    refine .inl ⟨?_, fun number hlater hinside => by omega⟩
    rw [writtenFrom_of_below hbelow, textOf_pieces]
    rfl
  | cons value rest ih =>
    have hlater := ih (before ++ [value]) (by simp [hsplit])
    rw [List.length_append, List.length_singleton] at hlater
    have hstep : fillNumbered (before.length + 1) (value :: rest) sql.toList =
        writeOne (before.length + 1) value (fillNumbered (before.length + 2) rest sql.toList) := rfl
    have hknown : ∀ n v, .slot n v ∈ writtenFrom (before.length + 2) (pieces params sql.toList) → _ :=
      fun n v => known_of_pieces hsplit
    rw [hstep, ← writtenFrom_writtenFrom]
    rcases hlater with ⟨hwritten, hnoStray⟩ | hdiverges
    · rw [hwritten]
      have houtcome := writeOne_cases hknown (hseparate.apart (List.append_nil _).symm (.inl ⟨rfl, rfl⟩))
      rcases houtcome with hreplaces | hstrays
      · left
        refine ⟨?_, fun number hleast hinside => ?_⟩
        · simpa [writeOne, replaceAll, replaceFrom] using hreplaces.text
        · rcases Nat.lt_or_ge (before.length + 1) number with hnext | hhere
          · exact hnoStray number hnext hinside
          · obtain rfl : number = before.length + 1 := by omega
            exact hreplaces.noStray
      · have hdiverges := hstrays.diverges []
        rw [List.append_nil, List.append_nil] at hdiverges
        exact .inr hdiverges
    · refine .inr (hdiverges.stays hknown ?_)
      intro start after tail hsame
      exact hseparate.apart hsame (.inr ⟨after, rfl⟩)

theorem undisturbed_of_noStray (hseparate : Separate params sql)
    (hnoStray : ∀ number, 0 < number → number ≤ params.length →
      ¬Stray number (writtenFrom (number + 1) (pieces params sql.toList)) []) :
    Undisturbed params sql := by
  -- A digit that makes a number below the limit would make a stray `$` for that number.
  have hnever (d : Char) (limit : Nat) (hmost : limit ≤ params.length + 1) (hmisread : Misread limit 0 d)
      (hnext : [.char '$', .char d] <:+:
        writtenFrom (digitValue d + 1) (pieces params sql.toList)) : False := by
    obtain ⟨hdigit, hleast, hbelow⟩ := hmisread
    exact hnoStray (digitValue d) (by omega) (by omega) (stray_of_next hnext hdigit)
  constructor
  · intro d hnext hmisread
    refine hnever d _ le_rfl hmisread ?_
    simpa [writtenFrom, Piece.writtenFrom] using
      hnext.flatMap (Piece.writtenFrom (digitValue d + 1))
  · intro number value hmem d hinValue hmisread
    have hmost := (slot_of_mem_pieces hmem).2.1
    refine hnever d number (by omega) hmisread ?_
    have hhere : [Piece.slot number value] <:+: pieces params sql.toList :=
      (List.singleton_infix_iff _ _).mpr hmem
    have hwritten := hhere.flatMap (Piece.writtenFrom (digitValue d + 1))
    have hlater : digitValue d + 1 ≤ number := by
      have hbelow := hmisread.2.2
      omega
    rw [List.flatMap_singleton, Piece.writtenFrom_of_le hlater] at hwritten
    exact (hinValue.map Piece.char).trans hwritten
  · intro p number value hnext stem hmarked d hfirst hmisread
    cases p with
    | slot n v => cases hseparate n v _ hnext
    | char c =>
      obtain ⟨rfl, rfl⟩ : c = '$' ∧ stem = 0 := by simpa [Piece.stem?, eq_comm] using hmarked
      have hmem : .slot number value ∈ pieces params sql.toList := hnext.subset (by simp)
      have hmost := (slot_of_mem_pieces hmem).2.1
      refine hnever d number (by omega) hmisread ?_
      have hwritten := hnext.flatMap (Piece.writtenFrom (digitValue d + 1))
      have hlater : digitValue d + 1 ≤ number := by
        have hbelow := hmisread.2.2
        omega
      obtain ⟨others, hsame⟩ := List.head?_eq_some_iff.mp hfirst
      have hstart : [Piece.char '$', .char d] <+:
          [Piece.char '$', .slot number value].flatMap (Piece.writtenFrom (digitValue d + 1)) := by
        rw [List.flatMap_cons, List.flatMap_singleton, Piece.writtenFrom_of_le hlater, hsame]
        simp [Piece.writtenFrom, List.cons_prefix_cons]
      exact hstart.isInfix.trans hwritten

/-! ## Both ways of writing -/

/-- Numbered values are written as if all at once where nothing disturbs it, and, as long as no
placeholder has a `$` right behind it, only there. -/
theorem writes_as_if_at_once (params : List SqlValue) (sql : String) :
    (Undisturbed params sql → interpolate .postgresql sql params = fillAtOnce params sql) ∧
    (Separate params sql → interpolate .postgresql sql params = fillAtOnce params sql →
      Undisturbed params sql) := by
  have hpositive : ∀ n v, .slot n v ∈ pieces params sql.toList → 0 < n :=
    fun n v hmem => (slot_of_mem_pieces hmem).1
  have hatOnce := textOf_writtenFrom_one hpositive
  constructor
  · intro hundisturbed
    have hwritten := hundisturbed.fillNumbered_eq params [] rfl
    rw [List.length_nil, Nat.zero_add, hatOnce] at hwritten
    exact congrArg String.ofList hwritten
  · intro hseparate hsame
    have hfilled : fillNumbered 1 params sql.toList = textOf (writtenFrom 1 (pieces params sql.toList)) := by
      rw [hatOnce]
      exact String.ofList_injective hsame
    rcases hseparate.fillNumbered_cases params [] rfl with ⟨-, hnoStray⟩ | hdiverges
    · exact undisturbed_of_noStray hseparate hnoStray
    · exact (hdiverges.ne hfilled).elim

/-- A `$5` in the value of `$1` is passed over, for nothing below one is still to be written. -/
theorem writes_as_if_at_once_price :
    Undisturbed [.text "costs $5", .text "it's"] "VALUES ($1, $2)" ∧
      interpolate .postgresql "VALUES ($1, $2)" [.text "costs $5", .text "it's"] =
        fillAtOnce [.text "costs $5", .text "it's"] "VALUES ($1, $2)" ∧
      fillAtOnce [.text "costs $5", .text "it's"] "VALUES ($1, $2)" = "VALUES ('costs $5', 'it''s')" := by
  have hread : pieces [.text "costs $5", .text "it's"] "VALUES ($1, $2)".toList =
      "VALUES (".toList.map .char ++ .slot 1 (.text "costs $5") :: .char ',' :: .char ' ' ::
        .slot 2 (.text "it's") :: [.char ')'] := by decide +kernel
  have hnoMark : .char '$' ∉ pieces [.text "costs $5", .text "it's"] "VALUES ($1, $2)".toList := by
    rw [hread]
    decide +kernel
  have hslots : ∀ n v, .slot n v ∈ pieces [.text "costs $5", .text "it's"] "VALUES ($1, $2)".toList →
      n = 1 ∧ v = .text "costs $5" ∨ n = 2 ∧ v = .text "it's" := by
    intro n v hmem
    rw [hread] at hmem
    simpa using hmem
  have hundisturbed : Undisturbed [.text "costs $5", .text "it's"] "VALUES ($1, $2)" := by
    constructor
    · intro d hnext
      exact absurd (hnext.subset (by simp)) hnoMark
    · rintro number value hmem d hinValue ⟨-, hleast, hbelow⟩
      rcases hslots number value hmem with ⟨rfl, rfl⟩ | ⟨rfl, rfl⟩
      · omega
      · exact absurd (hinValue.subset List.mem_cons_self) (by decide)
    · intro p number value hnext stem hmarked d hfirst hmisread
      have hmem := hnext.subset (List.mem_cons_of_mem p List.mem_cons_self)
      have hquote : d = '\'' := by
        rcases hslots number value hmem with ⟨-, rfl⟩ | ⟨-, rfl⟩
        · exact (Option.some.inj hfirst).symm
        · exact (Option.some.inj hfirst).symm
      rw [hquote] at hmisread
      exact absurd hmisread.1 (by decide)
  exact ⟨hundisturbed, (writes_as_if_at_once _ _).1 hundisturbed, by decide +kernel⟩

/-- A number without a value loses its first digit to one that has a value, and a placeholder in
a value is taken for one of the statement. -/
theorem placeholders_clobbered :
    interpolate .postgresql "SELECT $10" [.integer 1] = "SELECT 10" ∧
      fillAtOnce [.integer 1] "SELECT $10" = "SELECT $10" ∧
      interpolate .postgresql "SELECT $1, $2" [.text "a", .text "$1"] = "SELECT 'a', ''a''" ∧
      fillAtOnce [.text "a", .text "$1"] "SELECT $1, $2" = "SELECT 'a', '$1'" := by
  refine ⟨?_, ?_, ?_, ?_⟩ <;> decide +kernel

end SchemaMigration.Sql
