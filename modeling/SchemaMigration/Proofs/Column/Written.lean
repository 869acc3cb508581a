import SchemaMigration.Proofs.Column.Scan

/-!
# Definitions as they are written

A definition is a type and its modifiers, each a name with or without an argument text,
and the blanks between them. What it stands for is said here without reading it back.
-/

namespace SchemaMigration.Column

open Text

/-! ## The text -/

def Blanks : Type := { cs : List Char // ∀ c ∈ cs, isBlank c = true }

/-- A name and, where there is one, a well-formed argument text. -/
structure Phrase extends Segment where
  nonempty : name ≠ []
  word : ∀ c ∈ name, isWordChar c = true
  wellFormed : ∀ body ∈ args, WellFormed body

def Segment.group (s : Segment) : List Char :=
  match s.args with
  | none => []
  | some body => '(' :: (body ++ [')'])

def Segment.text (s : Segment) : List Char := s.name ++ s.group

/-- A modifier, with the blanks before and after its colon. -/
structure WrittenModifier where
  before : Blanks
  after : Blanks
  phrase : Phrase

def WrittenModifier.text (m : WrittenModifier) : List Char :=
  m.before.val ++ ':' :: (m.after.val ++ m.phrase.text)

def WrittenModifier.blanks (m : WrittenModifier) : List Char := m.before.val ++ m.after.val

def modifiersText (ms : List WrittenModifier) : List Char := ms.flatMap (·.text)

theorem modifiersText_cons (m : WrittenModifier) (ms : List WrittenModifier) :
    modifiersText (m :: ms) = m.text ++ modifiersText ms := rfl

structure Written where
  lead : Blanks
  type : Phrase
  modifiers : List WrittenModifier
  trail : Blanks

namespace Written

/-- The definition without the blanks at its ends. -/
def core (w : Written) : List Char := w.type.text ++ modifiersText w.modifiers

def text (w : Written) : String := String.ofList (w.lead.val ++ (w.core ++ w.trail.val))

def segments (w : Written) : List Segment := w.modifiers.map (·.phrase.toSegment)

/-- The blanks around the colons, but for those before the first: they end the type. -/
def separators (w : Written) : List Char :=
  match w.modifiers with
  | [] => []
  | first :: others => first.after.val ++ others.flatMap (·.blanks)

end Written

/-! ## What it stands for -/

def bare (name : String) : Segment := ⟨name.toList, none⟩

namespace Segment

def default? (s : Segment) : Option (List Char) :=
  if s.name = "default".toList then s.args else none

def Recognised (s : Segment) : Prop :=
  s = bare "notNullable" ∨ s = bare "unique" ∨ s = bare "primary" ∨ s.default?.isSome = true

instance (s : Segment) : Decidable s.Recognised := by
  unfold Recognised
  infer_instance

end Segment

/-- The flags that are given, the last default, and the names of all others in order. -/
def summary (segments : List Segment) : Modifiers where
  notNullable := bare "notNullable" ∈ segments
  unique := bare "unique" ∈ segments
  primary := bare "primary" ∈ segments
  default := (segments.filterMap (·.default?)).getLast?.map fun value =>
    .classify (String.ofList value)
  unknown := (segments.filter fun s => ¬s.Recognised).map fun s => String.ofList s.name

/-- The column a definition stands for. -/
def Written.column (w : Written) : ColumnDef where
  typeDef := String.ofList w.type.text
  typeName := String.ofList w.type.name
  typeArgs := w.type.args.map String.ofList
  modifiers := summary w.segments

/-! ## The fold over the modifiers -/

@[simp] theorem bare_inj {a b : String} : bare a = bare b ↔ a = b := by
  simp [bare, String.toList_inj]

theorem eq_bare {s : Segment} {name : String} (hnamed : String.ofList s.name = name)
    (hnoArgs : s.args = none) : s = bare name := by
  obtain ⟨chars, args⟩ := s
  subst hnamed
  simp_all [bare]

theorem ne_bare {s : Segment} {name : String}
    (hother : String.ofList s.name = name → s.args = none → False) : bare name ≠ s := by
  rintro rfl
  exact hother (by simp [bare]) rfl

@[simp] theorem default?_bare (name : String) : (bare name).default? = none := by
  unfold Segment.default?
  split <;> rfl

theorem default?_of_ne {s : Segment}
    (hother : ∀ value, String.ofList s.name = "default" → s.args = some value → False) :
    s.default? = none := by
  unfold Segment.default?
  split
  · next hnamed =>
    cases h : s.args with
    | none => rfl
    | some value => exact (hother value (by simp [hnamed]) h).elim
  · rfl

theorem summary_concat (segments : List Segment) (s : Segment) :
    summary (segments ++ [s]) = applySegment (summary segments) s := by
  unfold applySegment
  split
  · next hnamed hnoArgs =>
    rw [eq_bare hnamed hnoArgs]
    simp [summary, Segment.Recognised]
  · next hnamed hnoArgs =>
    rw [eq_bare hnamed hnoArgs]
    simp [summary, Segment.Recognised]
  · next hnamed hnoArgs =>
    rw [eq_bare hnamed hnoArgs]
    simp [summary, Segment.Recognised]
  · next value hnamed hgiven =>
    have hisDefault : s.default? = some value := by simp [Segment.default?, ← hnamed, hgiven]
    have hnoFlag (name : String) : bare name ≠ s := ne_bare fun _ hnoArgs => by simp [hgiven] at hnoArgs
    simp [summary, Segment.Recognised, hisDefault, hnoFlag]
  · next hnotNotNullable hnotUnique hnotPrimary hnotDefault =>
    have hnoDefault : s.default? = none := default?_of_ne hnotDefault
    have hunknown : ¬s.Recognised := by
      simp [Segment.Recognised, hnoDefault, (ne_bare hnotNotNullable).symm, (ne_bare hnotUnique).symm,
        (ne_bare hnotPrimary).symm]
    simp [summary, hnoDefault, hunknown, ne_bare hnotNotNullable, ne_bare hnotUnique,
      ne_bare hnotPrimary]

theorem modifiersOf_eq (segments : List Segment) : modifiersOf segments = summary segments := by
  induction segments using List.reverseRecOn with
  | nil => rfl
  | append_singleton segments s ih =>
    rw [summary_concat, ← ih, modifiersOf, modifiersOf, List.foldl_append]
    rfl

end SchemaMigration.Column
