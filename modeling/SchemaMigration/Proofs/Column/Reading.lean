import Mathlib.Data.List.TakeDrop
import SchemaMigration.Proofs.Column.Written

/-!
# Reading what was written

Each part of the reader is followed over the text it was written for: the name, the group,
one modifier, all modifiers, the type. Together they say when a written definition is read
as the column it stands for.
-/

namespace SchemaMigration.Column

open Text

/-! ## A name and its group -/

/-- What follows is neither part of a name nor a group. -/
def Stops (tail : List Char) : Prop := ∀ c ∈ tail.head?, isWordChar c = false ∧ c ≠ '('

theorem stops_nil : Stops [] := by simp [Stops]

/-- The name of a type or of a modifier. -/
structure IsName (cs : List Char) : Prop where
  nonempty : cs ≠ []
  word : ∀ c ∈ cs, isWordChar c = true

namespace Segment

variable {s : Segment} {tail : List Char}

theorem head?_group (hstops : ∀ c ∈ tail.head?, isWordChar c = false) :
    ∀ c ∈ (s.group ++ tail).head?, isWordChar c = false := by
  intro c hfirst
  rw [Segment.group] at hfirst
  split at hfirst
  · exact hstops c hfirst
  · obtain rfl : '(' = c := by simpa using hfirst
    decide

theorem trimmed_text (hnamed : IsName s.name) : Trimmed s.text := by
  constructor
  · intro c hfirst
    have hmem : c ∈ s.name := by
      obtain ⟨d, rest, h⟩ := List.exists_cons_of_ne_nil hnamed.nonempty
      simp_all [Segment.text]
    exact isBlank_of_isWordChar (hnamed.word c hmem)
  · intro c hlast
    rw [Segment.text, List.getLast?_append, Segment.group] at hlast
    split at hlast
    · have hmem : c ∈ s.name := List.mem_of_getLast? (by simpa using hlast)
      exact isBlank_of_isWordChar (hnamed.word c hmem)
    · next body _ =>
      rw [← List.cons_append, List.getLast?_concat, Option.some_or] at hlast
      obtain rfl := Option.some.inj hlast
      decide

end Segment

namespace Phrase

variable (p : Phrase) {tail : List Char}

theorem text_ne_nil : p.text ≠ [] := by simp [Segment.text, p.nonempty]

theorem head?_group (hstops : Stops tail) :
    ∀ c ∈ (p.group ++ tail).head?, isWordChar c = false :=
  Segment.head?_group fun c hfirst => (hstops c hfirst).1

theorem takeWhile_text (hstops : Stops tail) :
    (p.text ++ tail).takeWhile isWordChar = p.name := by
  rw [Segment.text, List.append_assoc, List.takeWhile_append_of_pos p.word]
  have hends := p.head?_group hstops
  cases h : p.group ++ tail with
  | nil => simp
  | cons c rest => simp [hends c (by simp [h])]

theorem dropWhile_text (hstops : Stops tail) :
    (p.text ++ tail).dropWhile isWordChar = p.group ++ tail := by
  rw [Segment.text, List.append_assoc, List.dropWhile_append_of_pos p.word]
  have hends := p.head?_group hstops
  cases h : p.group ++ tail with
  | nil => rfl
  | cons c rest => simp [hends c (by simp [h])]

theorem readGroup_absent (hnoArgs : p.args = none) (hstops : Stops tail) :
    readGroup (p.group ++ tail) = .absent := by
  rw [Segment.group, hnoArgs]
  cases tail with
  | nil => rfl
  | cons c rest =>
    have hother := (hstops c rfl).2
    unfold readGroup
    split
    · next hsame => exact absurd (List.cons.inj hsame).1 hother
    · rfl

theorem readGroup_closed {body : List Char} (tail : List Char)
    (hgiven : p.args = some body) :
    readGroup (p.group ++ tail) = .closed body tail := by
  simpa [Segment.group, hgiven] using (p.wellFormed body hgiven).readGroup_eq tail

theorem readType_text : readType p.text = .ok (p.name, p.args) := by
  have hname := p.takeWhile_text stops_nil
  have hgroup := p.dropWhile_text stops_nil
  rw [List.append_nil] at hname hgroup
  rw [List.append_nil] at hgroup
  rw [readType, List.span_eq_takeWhile_dropWhile, hname, hgroup]
  cases hgiven : p.args with
  | none =>
    have habsent := p.readGroup_absent hgiven stops_nil
    have hnoGroup : p.group = [] := by rw [Segment.group, hgiven]
    rw [List.append_nil, hnoGroup] at habsent
    simp [p.nonempty, habsent, hnoGroup]
  | some body =>
    have hclosed := p.readGroup_closed [] hgiven
    rw [List.append_nil] at hclosed
    simp [p.nonempty, hclosed]

theorem scan?_text (tail : List Char) :
    scan? true ':' none 0 (p.text ++ tail) =
      (scan? true ':' none 0 tail).map (prependFirst p.text) := by
  have hplain : ∀ c ∈ p.name, isPlain c = true ∧ c ≠ ':' := fun c hmem =>
    plain_of_isWordChar (p.word c hmem)
  rw [Segment.text, List.append_assoc, scan?_plainText hplain, Segment.group]
  cases hgiven : p.args with
  | none => simp
  | some body =>
    have hinner := p.wellFormed body hgiven
    simp only [List.cons_append, List.append_assoc, List.nil_append]
    rw [scan?_open (by simp), hinner.scan?_eq (Or.inl Nat.one_pos), scan?_close]
    simp only [map_prependFirst]
    simp

theorem trimmed_text : Trimmed p.text := Segment.trimmed_text ⟨p.nonempty, p.word⟩

end Phrase

/-! ## One modifier -/

theorem Blanks.dropWhile_of_not_ascii {b : Blanks}
    (hnotAscii : ¬∀ c ∈ b.val, isAsciiBlank c = true) (tail : List Char) :
    ∃ c rest, isBlank c = true ∧ (b.val ++ tail).dropWhile isAsciiBlank = c :: rest := by
  obtain ⟨cs, hblank⟩ := b
  dsimp only at hnotAscii ⊢
  induction cs with
  | nil => exact (hnotAscii (by simp)).elim
  | cons c rest ih =>
    by_cases hascii : isAsciiBlank c = true
    · simp only [List.cons_append, List.dropWhile_cons_of_pos hascii]
      refine ih (fun d hmem => hblank d (List.mem_cons_of_mem _ hmem)) fun hothers => hnotAscii ?_
      exact List.forall_mem_cons.mpr ⟨hascii, hothers⟩
    · exact ⟨c, rest ++ tail, hblank c List.mem_cons_self, by simp [hascii]⟩

theorem stops_blanks (b : Blanks) (tail : List Char) : Stops (b.val ++ ':' :: tail) := by
  intro c hfirst
  obtain ⟨cs, hblank⟩ := b
  cases cs with
  | nil =>
    obtain rfl : ':' = c := by simpa using hfirst
    decide
  | cons d rest =>
    obtain rfl : d = c := by simpa using hfirst
    have hisBlank := hblank d List.mem_cons_self
    refine ⟨isWordChar_of_isBlank hisBlank, ?_⟩
    rintro rfl
    exact absurd hisBlank (by decide)

namespace WrittenModifier

variable (m : WrittenModifier) {tail : List Char}

def IsAscii : Prop := ∀ c ∈ m.blanks, isAsciiBlank c = true

theorem stops_text (tail : List Char) : Stops (m.text ++ tail) := by
  rw [text, List.append_assoc, List.cons_append]
  exact stops_blanks m.before _

theorem readName?_text (hascii : m.IsAscii) (hstops : Stops tail) :
    readName? (m.text ++ tail) = some (m.phrase.name, m.phrase.group ++ tail) := by
  have hbefore : ∀ c ∈ m.before.val, isAsciiBlank c = true := fun c hmem =>
    hascii c (List.mem_append_left _ hmem)
  have hafter : ∀ c ∈ m.after.val, isAsciiBlank c = true := fun c hmem =>
    hascii c (List.mem_append_right _ hmem)
  have hname : (m.phrase.text ++ tail).dropWhile isAsciiBlank = m.phrase.text ++ tail := by
    obtain ⟨c, rest, h⟩ := List.exists_cons_of_ne_nil m.phrase.text_ne_nil
    have hnoBlank := m.phrase.trimmed_text.head c (by simp [h])
    have hnoAscii : ¬isAsciiBlank c = true := fun hblank => by
      simp [isBlank_of_isAsciiBlank hblank] at hnoBlank
    rw [h, List.cons_append, List.dropWhile_cons_of_neg hnoAscii]
  have hcolon : (m.text ++ tail).dropWhile isAsciiBlank =
      ':' :: (m.after.val ++ (m.phrase.text ++ tail)) := by
    rw [text, List.append_assoc, List.dropWhile_append_of_pos hbefore, List.cons_append,
      List.append_assoc, List.dropWhile_cons_of_neg (by decide)]
  rw [readName?, hcolon]
  simp only [List.dropWhile_append_of_pos hafter, hname, m.phrase.takeWhile_text hstops,
    m.phrase.dropWhile_text hstops, m.phrase.nonempty, if_false]

theorem readName?_of_not_isAscii (hnotAscii : ¬m.IsAscii) : readName? (m.text ++ tail) = none := by
  rw [readName?, text, List.append_assoc, List.cons_append, List.append_assoc]
  by_cases hbefore : ∀ c ∈ m.before.val, isAsciiBlank c = true
  · have hafter : ¬∀ c ∈ m.after.val, isAsciiBlank c = true := fun hafter =>
      hnotAscii fun c hmem => (List.mem_append.mp hmem).elim (hbefore c) (hafter c)
    obtain ⟨c, rest, hblank, hskipped⟩ := Blanks.dropWhile_of_not_ascii hafter (m.phrase.text ++ tail)
    rw [List.dropWhile_append_of_pos hbefore, List.dropWhile_cons_of_neg (by decide)]
    simp [hskipped, isWordChar_of_isBlank hblank]
  · obtain ⟨c, rest, hblank, hskipped⟩ := Blanks.dropWhile_of_not_ascii hbefore
      (':' :: (m.after.val ++ (m.phrase.text ++ tail)))
    rw [hskipped]
    split
    · next hsame =>
      obtain rfl := (List.cons.inj hsame).1
      exact absurd hblank (by decide)
    · rfl

end WrittenModifier

/-! ## All modifiers -/

theorem stops_modifiersText (ms : List WrittenModifier) : Stops (modifiersText ms) := by
  cases ms with
  | nil => exact stops_nil
  | cons m ms => exact m.stops_text _

theorem readSegments_of_none {cs : List Char} (hnone : readName? cs = none) :
    readSegments cs = .ok ([], cs) := by
  rw [readSegments]
  split
  · rfl
  · next hfound => simp [hnone] at hfound

theorem WrittenModifier.readSegments_text (m : WrittenModifier) {tail : List Char}
    (hascii : m.IsAscii) (hstops : Stops tail) :
    readSegments (m.text ++ tail) = do
      let (segments, rest) ← readSegments tail
      return (m.phrase.toSegment :: segments, rest) := by
  have hnamed := m.readName?_text hascii hstops
  rw [readSegments]
  split
  · next hnone => simp [hnamed] at hnone
  · next name afterName hfound =>
    obtain ⟨rfl, rfl⟩ := Prod.mk.inj (Option.some.inj (hnamed.symm.trans hfound))
    cases hgiven : m.phrase.args with
    | none =>
      have habsent := m.phrase.readGroup_absent hgiven hstops
      have hnoGroup : m.phrase.group = [] := by rw [Segment.group, hgiven]
      have hsegment : m.phrase.toSegment = ⟨m.phrase.name, none⟩ := by rw [← hgiven]
      split
      · next hgroup => simp [habsent] at hgroup
      · rw [hnoGroup, List.nil_append, hsegment]
      · next hgroup => simp [habsent] at hgroup
    | some body =>
      have hclosed := m.phrase.readGroup_closed tail hgiven
      have hsegment : m.phrase.toSegment = ⟨m.phrase.name, some body⟩ := by rw [← hgiven]
      split
      · next hgroup => simp [hclosed] at hgroup
      · next hgroup => simp [hclosed] at hgroup
      · next hgroup =>
        obtain ⟨rfl, rfl⟩ := Group.closed.inj (hclosed.symm.trans hgroup)
        rw [hsegment]

theorem readSegments_modifiersText {ms : List WrittenModifier} (hascii : ∀ m ∈ ms, m.IsAscii) :
    readSegments (modifiersText ms) = .ok (ms.map (·.phrase.toSegment), []) := by
  induction ms with
  | nil => exact readSegments_of_none rfl
  | cons m ms ih =>
    rw [modifiersText_cons, m.readSegments_text (hascii m List.mem_cons_self) (stops_modifiersText ms),
      ih fun n hmem => hascii n (List.mem_cons_of_mem _ hmem)]
    rfl

theorem readSegments_of_not_isAscii {ms : List WrittenModifier}
    (hnotAscii : ¬∀ m ∈ ms, m.IsAscii) :
    ∃ segments rest, readSegments (modifiersText ms) = .ok (segments, rest) ∧
      rest.dropWhile isAsciiBlank ≠ [] := by
  induction ms with
  | nil => simp at hnotAscii
  | cons m ms ih =>
    by_cases hascii : m.IsAscii
    · obtain ⟨segments, rest, hread, hleft⟩ := ih (by simpa [hascii] using hnotAscii)
      refine ⟨m.phrase.toSegment :: segments, rest, ?_, hleft⟩
      rw [modifiersText_cons, m.readSegments_text hascii (stops_modifiersText ms), hread]
      rfl
    · refine ⟨[], modifiersText (m :: ms), readSegments_of_none ?_, ?_⟩
      · exact m.readName?_of_not_isAscii hascii
      · intro hnone
        have hcolon : ':' ∈ modifiersText (m :: ms) := by
          simp [modifiersText_cons, WrittenModifier.text]
        exact absurd (List.dropWhile_eq_nil_iff.mp hnone ':' hcolon) (by decide)

end SchemaMigration.Column
