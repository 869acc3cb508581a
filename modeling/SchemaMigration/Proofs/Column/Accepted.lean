import SchemaMigration.Proofs.Column.Reading
import SchemaMigration.Proofs.Fallible

/-!
# Which definitions are read as they are written

With modifiers a written definition is always read as the column it stands for, as long as
the blanks between them are ASCII. Without modifiers nothing ends the type, the search for a
colon finds none, and it is repeated without regard to quotes: a colon in an argument text is
then taken for the end of the type when the parentheses before it balance.
-/

namespace SchemaMigration.Column

open Text

theorem parseChars_eq_ok {definition : List Char} {column : ColumnDef} :
    parseChars definition = .ok column ↔ ∃ segments rest name args,
      readSegments (splitType (trim definition)).2 = .ok (segments, rest) ∧
      rest.dropWhile isAsciiBlank = [] ∧
      readType (trim (splitType (trim definition)).1) = .ok (name, args) ∧
      column = {
        typeDef := String.ofList (trim (splitType (trim definition)).1)
        typeName := String.ofList name
        typeArgs := args.map String.ofList
        modifiers := modifiersOf segments } := by
  constructor
  · intro hparsed
    rw [parseChars] at hparsed
    obtain ⟨⟨segments, rest⟩, hread, hparsed⟩ := bind_eq_ok.mp hparsed
    by_cases hleft : rest.dropWhile isAsciiBlank = []
    · simp only [hleft, ne_eq, not_true_eq_false, if_false] at hparsed
      obtain ⟨⟨name, args⟩, htyped, hparsed⟩ := bind_eq_ok.mp hparsed
      exact ⟨segments, rest, name, args, hread, hleft, htyped, (Except.ok.inj hparsed).symm⟩
    · simp [hleft, throw, throwThe, MonadExceptOf.throw, bind, Except.bind] at hparsed
  · rintro ⟨segments, rest, name, args, hread, hleft, htyped, rfl⟩
    rw [parseChars]
    simp only [hread, hleft, htyped, bind, Except.bind]
    rfl

/-! ## The type and what follows it -/

namespace Phrase

variable (p : Phrase)

theorem splitType_before (b : Blanks) (rest : List Char) :
    splitType (p.text ++ (b.val ++ ':' :: rest)) = (p.text ++ b.val, ':' :: rest) := by
  have hplain : ∀ c ∈ b.val, isPlain c = true ∧ c ≠ ':' := fun c hmem =>
    plain_of_isBlank (b.property c hmem)
  have hfound : scan? true ':' none 0 (p.text ++ (b.val ++ ':' :: rest)) =
      some (p.text ++ b.val, rest) := by
    rw [p.scan?_text, scan?_plainText hplain, scan?_target (by decide)]
    simp [prependFirst]
  rw [splitType, findTopLevel?, hfound, Option.some_or]

theorem findTopLevel?_text : findTopLevel? ':' p.text = scan? false ':' none 0 p.text := by
  have hnothing := p.scan?_text []
  rw [List.append_nil] at hnothing
  rw [findTopLevel?, hnothing]
  rfl

theorem splitType_text (hhidden : ¬Exposed ':' p.text) : splitType p.text = (p.text, []) := by
  rw [exposed_iff, Option.not_isSome_iff_eq_none] at hhidden
  rw [splitType, p.findTopLevel?_text, hhidden]

theorem length_splitType (hexposed : Exposed ':' p.text) :
    (splitType p.text).1.length < p.text.length := by
  obtain ⟨⟨before, after⟩, hfound⟩ := Option.isSome_iff_exists.mp (exposed_iff.mp hexposed)
  rw [splitType, p.findTopLevel?_text, hfound, eq_of_scan? hfound]
  simp

end Phrase

/-! ## The whole definition -/

def WrittenModifier.joined (m : WrittenModifier) : WrittenModifier :=
  { m with before := ⟨[], by simp⟩ }

namespace Written

variable (w : Written)

theorem trimmed_core : Trimmed w.core := by
  constructor
  · intro c hfirst
    refine w.type.trimmed_text.head c ?_
    obtain ⟨d, rest, h⟩ := List.exists_cons_of_ne_nil w.type.text_ne_nil
    simpa [core, h] using hfirst
  · rw [core]
    induction w.modifiers using List.reverseRecOn with
    | nil => simpa [modifiersText] using w.type.trimmed_text.last
    | append_singleton ms m _ =>
      intro c hlast
      refine m.phrase.trimmed_text.last c ?_
      have hends : w.type.text ++ modifiersText (ms ++ [m]) =
          w.type.text ++ modifiersText ms ++ (m.before.val ++ ':' :: m.after.val) ++
            m.phrase.text := by
        simp [modifiersText, WrittenModifier.text]
      rwa [hends, List.getLast?_append_of_ne_nil _ m.phrase.text_ne_nil] at hlast

theorem trim_text : trim w.text.toList = w.core := by
  rw [text, String.toList_ofList]
  refine trim_padded w.lead.property w.trail.property ?_ w.trimmed_core
  simp [core, w.type.text_ne_nil]

theorem splitType_core {m : WrittenModifier} {ms : List WrittenModifier}
    (hgiven : w.modifiers = m :: ms) :
    splitType w.core = (w.type.text ++ m.before.val, modifiersText (m.joined :: ms)) := by
  rw [core, hgiven, modifiersText_cons, WrittenModifier.text, List.append_assoc, List.cons_append,
    w.type.splitType_before]
  rfl

theorem separators_iff {m : WrittenModifier} {ms : List WrittenModifier}
    (hgiven : w.modifiers = m :: ms) :
    (∀ c ∈ w.separators, isAsciiBlank c = true) ↔ ∀ n ∈ m.joined :: ms, n.IsAscii := by
  have hfirst : m.joined.blanks = m.after.val := rfl
  have hseparators : w.separators = m.after.val ++ ms.flatMap (·.blanks) := by
    rw [Written.separators, hgiven]
  simp only [hseparators, List.mem_append, List.mem_flatMap, List.forall_mem_cons,
    WrittenModifier.IsAscii, hfirst]
  constructor
  · intro hascii
    exact ⟨fun c hmem => hascii c (.inl hmem), fun n hinMs c hmem => hascii c (.inr ⟨n, hinMs, hmem⟩)⟩
  · rintro ⟨hofFirst, hofOthers⟩ c (hmem | ⟨n, hinMs, hmem⟩)
    · exact hofFirst c hmem
    · exact hofOthers n hinMs c hmem

theorem parseChars_eq {m : WrittenModifier} {ms : List WrittenModifier}
    (hgiven : w.modifiers = m :: ms) (hascii : ∀ n ∈ m.joined :: ms, n.IsAscii) :
    parseChars w.text.toList = .ok w.column := by
  have htyped : trim (w.type.text ++ m.before.val) = w.type.text :=
    w.type.trimmed_text.trim_append w.type.text_ne_nil m.before.property
  rw [parseChars_eq_ok, w.trim_text, w.splitType_core hgiven, htyped]
  refine ⟨w.segments, [], w.type.name, w.type.args, ?_, rfl, w.type.readType_text, ?_⟩
  · rw [readSegments_modifiersText hascii, segments, hgiven]
    rfl
  · rw [column, modifiersOf_eq]

theorem parseChars_ne {m : WrittenModifier} {ms : List WrittenModifier}
    (hgiven : w.modifiers = m :: ms) (hnotAscii : ¬∀ n ∈ m.joined :: ms, n.IsAscii)
    (column : ColumnDef) : parseChars w.text.toList ≠ .ok column := by
  intro hparsed
  obtain ⟨segments, rest, name, args, hread, hdone, -⟩ := parseChars_eq_ok.mp hparsed
  rw [w.trim_text, w.splitType_core hgiven] at hread
  obtain ⟨_, left, hstuck, hsome⟩ := readSegments_of_not_isAscii hnotAscii
  obtain ⟨-, rfl⟩ := Prod.mk.inj (Except.ok.inj (hstuck.symm.trans hread))
  exact hsome hdone

/-- A type alone is read as it is written exactly when it has no exposed colon. -/
theorem parseChars_type (hnoModifiers : w.modifiers = []) :
    parseChars w.text.toList = .ok w.column ↔ ¬Exposed ':' w.type.text := by
  have hcore : w.core = w.type.text := by simp [core, hnoModifiers, modifiersText]
  rw [parseChars_eq_ok, w.trim_text, hcore]
  constructor
  · rintro ⟨segments, rest, name, args, -, -, -, hsame⟩ hexposed
    have htypeDef : w.type.text = trim (splitType w.type.text).1 :=
      String.ofList_injective (congrArg ColumnDef.typeDef hsame)
    have hshorter := w.type.length_splitType hexposed
    have htrimmed := length_trim_le (splitType w.type.text).1
    rw [← htypeDef] at htrimmed
    omega
  · intro hhidden
    have htyped := w.type.trimmed_text.trim_eq w.type.text_ne_nil
    rw [w.type.splitType_text hhidden, htyped]
    refine ⟨[], [], w.type.name, w.type.args, readSegments_of_none rfl, rfl,
      w.type.readType_text, ?_⟩
    rw [column, segments, hnoModifiers, modifiersOf_eq]
    rfl

/-- A written definition is read as the column it stands for exactly when the blanks between
its modifiers are ASCII and, if it has none, its type has no exposed colon. -/
theorem parse_eq_column_iff : ColumnDef.parse w.text = .ok w.column ↔
    (∀ c ∈ w.separators, isAsciiBlank c = true) ∧
      (w.modifiers = [] → ¬Exposed ':' w.type.text) := by
  rw [ColumnDef.parse]
  cases hgiven : w.modifiers with
  | nil => simp [w.parseChars_type hgiven, separators, hgiven]
  | cons m ms =>
    rw [w.separators_iff hgiven]
    simp only [reduceCtorEq, false_imp_iff, and_true]
    constructor
    · intro hparsed
      by_contra hnotAscii
      exact w.parseChars_ne hgiven hnotAscii w.column hparsed
    · exact w.parseChars_eq hgiven

/-- A quoted parenthesis exposes the quoted colon that follows it. -/
def quotedColon : Written where
  lead := ⟨[], by simp⟩
  type := {
    name := ['e', 'n', 'u', 'm']
    args := some ['\'', ')', '\'', ',', '\'', ':', '\'']
    nonempty := by simp
    word := by simp [isWordChar, isAlphanumeric]
    wellFormed := by
      rintro _ ⟨⟩
      have hcolon : WellFormed ('\'' :: ([':'] ++ '\'' :: [])) := .quoted rfl (by decide) .nil
      have hparenthesis : WellFormed ('\'' :: ([')'] ++ '\'' :: ',' :: '\'' :: ([':'] ++ ['\'']))) :=
        .quoted rfl (by decide) (.plain rfl hcolon)
      exact hparenthesis }
  modifiers := []
  trail := ⟨[], by simp⟩

theorem quotedColon_unread : quotedColon.text = "enum(')',':')" ∧
    ColumnDef.parse quotedColon.text = .error (.trailing ":')") := by
  constructor
  · decide +kernel
  · decide +kernel

end Written

end SchemaMigration.Column
