import SchemaMigration.Proofs.Column.Accepted

/-!
# Types with plain arguments

A type whose arguments have neither quotes nor parentheses in them is read as it is written, and its
arguments are what stands between the commas.
-/

namespace SchemaMigration

open Text

namespace Column

variable {target separator : Char} {depth : Nat} {cs text : List Char}

/-! ## Texts without quotes -/

theorem scan?_of_noQuotes (hnoQuotes : ∀ c ∈ cs, isQuote c = false) :
    scan? true target none depth cs = scan? false target none depth cs := by
  induction cs generalizing depth with
  | nil => rfl
  | cons c cs ih =>
    obtain ⟨hnoQuote, hnoQuotes⟩ := List.forall_mem_cons.mp hnoQuotes
    rw [scan?.eq_def, scan?.eq_def false]
    cases depth <;> simp [hnoQuote, ih hnoQuotes]

theorem Phrase.not_exposed (p : Phrase) (hnoQuotes : ∀ c ∈ p.text, isQuote c = false) :
    ¬Exposed ':' p.text := by
  have hpassed := p.scan?_text []
  rw [List.append_nil, scan?_of_noQuotes hnoQuotes] at hpassed
  rw [exposed_iff, hpassed]
  exact Bool.false_ne_true

theorem wellFormed_of_plain (hplain : ∀ c ∈ text, isPlain c = true) : WellFormed text := by
  induction text with
  | nil => exact .nil
  | cons c text ih =>
    obtain ⟨hfirst, hothers⟩ := List.forall_mem_cons.mp hplain
    exact .plain hfirst (ih hothers)

/-! ## The pieces of a plain text -/

theorem splitFrom_plain {c : Char} (hplain : isPlain c = true) (hother : c ≠ separator)
    (rest : List Char) : splitFrom separator none depth (c :: rest) =
      consPiece c (splitFrom separator none depth rest) := by
  obtain ⟨hnoQuote, hnotOpen, hnotClose⟩ := isPlain_iff.mp hplain
  rw [splitFrom.eq_def]
  simp [hnoQuote, hnotOpen, hnotClose, hother]

theorem splitTopLevel_plain (hplain : ∀ c ∈ text, isPlain c = true ∧ c ≠ separator) :
    splitTopLevel separator text = [text] := by
  unfold splitTopLevel
  induction text with
  | nil => rfl
  | cons c text ih =>
    obtain ⟨⟨hplainC, hother⟩, hplain⟩ := List.forall_mem_cons.mp hplain
    rw [splitFrom_plain hplainC hother, ih hplain]
    rfl

theorem splitTopLevel_append (hisPlain : Column.isPlain separator = true)
    (hplain : ∀ c ∈ text, Column.isPlain c = true ∧ c ≠ separator) (rest : List Char) :
    splitTopLevel separator (text ++ separator :: rest) = text :: splitTopLevel separator rest := by
  unfold splitTopLevel
  induction text with
  | nil =>
    obtain ⟨hnoQuote, hnotOpen, hnotClose⟩ := isPlain_iff.mp hisPlain
    rw [List.nil_append, splitFrom.eq_def]
    simp [hnoQuote, hnotOpen, hnotClose]
  | cons c text ih =>
    obtain ⟨⟨hplainC, hother⟩, hplain⟩ := List.forall_mem_cons.mp hplain
    rw [List.cons_append, splitFrom_plain hplainC hother, ih hplain]
    rfl

/-! ## A type with plain arguments -/

/-- A type and nothing else. -/
def Phrase.alone (p : Phrase) : Written :=
  ⟨⟨[], isBlank_of_mem_nil⟩, p, [], ⟨[], isBlank_of_mem_nil⟩⟩

theorem Phrase.parse_text (p : Phrase) (hnoQuotes : ∀ c ∈ p.text, isQuote c = false) :
    ColumnDef.parse (String.ofList p.text) = .ok p.alone.column := by
  have htext : p.alone.text = String.ofList p.text := by
    simp [Written.text, Written.core, Phrase.alone, modifiersText]
  rw [← htext]
  exact (p.alone.parseChars_type rfl).mpr (p.not_exposed hnoQuotes)

def plainPhrase (name : String) (args : Option (List Char)) (hnonempty : name.toList ≠ [])
    (hword : ∀ c ∈ name.toList, isWordChar c = true)
    (hplain : ∀ body ∈ args, ∀ c ∈ body, isPlain c = true) : Phrase :=
  ⟨⟨name.toList, args⟩, hnonempty, hword, fun body hgiven => wellFormed_of_plain (hplain body hgiven)⟩

theorem isQuote_of_plainPhrase {name : String} {args : Option (List Char)}
    (hnonempty : name.toList ≠ []) (hword : ∀ c ∈ name.toList, isWordChar c = true)
    (hplain : ∀ body ∈ args, ∀ c ∈ body, isPlain c = true) :
    ∀ c ∈ (plainPhrase name args hnonempty hword hplain).text, isQuote c = false := by
  have hquiet : ∀ body ∈ args, ∀ c ∈ body, isQuote c = false := fun body hgiven c hmem =>
    (isPlain_iff.mp (hplain body hgiven c hmem)).1
  refine List.forall_mem_append.mpr ⟨fun c hmem => isQuote_of_isWordChar (hword c hmem), ?_⟩
  cases args with
  | none => exact List.forall_mem_nil _
  | some body =>
    refine List.forall_mem_cons.mpr ⟨rfl, List.forall_mem_append.mpr ⟨hquiet body rfl, ?_⟩⟩
    exact List.forall_mem_singleton.mpr rfl

end Column

end SchemaMigration
