import SchemaMigration.Column.Parse
import SchemaMigration.Proofs.Text.Blank

/-!
# What a search passes over

An argument text is well formed when its quotes close and its parentheses nest outside
the quotes. The search that knows quotes passes over such a text as a whole. The one that
counts parentheses only does not: it stops at any target before which they balance.
-/

namespace SchemaMigration.Column

open Text

/-- Neither a quote nor a parenthesis. -/
def isPlain (c : Char) : Bool := !isQuote c && c != '(' && c != ')'

/-- Outside quotes the parentheses nest and close, and every quote closes. -/
inductive WellFormed : List Char → Prop
  | nil : WellFormed []
  | plain {c : Char} {rest : List Char} (isPlain : isPlain c = true) (wellFormed : WellFormed rest) :
      WellFormed (c :: rest)
  | quoted {q : Char} {body rest : List Char} (isQuote : isQuote q = true) (open_ : q ∉ body)
      (wellFormed : WellFormed rest) : WellFormed (q :: (body ++ q :: rest))
  | group {body rest : List Char} (inner : WellFormed body) (wellFormed : WellFormed rest) :
      WellFormed ('(' :: (body ++ ')' :: rest))

theorem isPlain_iff {c : Char} :
    isPlain c = true ↔ isQuote c = false ∧ c ≠ '(' ∧ c ≠ ')' := by
  simp [isPlain, and_assoc]

theorem plain_of_marks {p : Char → Bool} {c : Char}
    (hmarks : ['\'', '"', '(', ')', ':'].all (fun d => !p d) = true) (h : p c = true) :
    isPlain c = true ∧ c ≠ ':' := by
  have hdiffers : ∀ d ∈ ['\'', '"', '(', ')', ':'], c ≠ d := by
    rintro d hmem rfl
    have hfails := List.all_eq_true.mp hmarks c hmem
    simp [h] at hfails
  simp only [List.forall_mem_cons] at hdiffers
  simp [isPlain, isQuote, hdiffers]

theorem plain_of_isWordChar {c : Char} (h : isWordChar c = true) : isPlain c = true ∧ c ≠ ':' :=
  plain_of_marks (by decide) h

theorem plain_of_isBlank {c : Char} (h : isBlank c = true) : isPlain c = true ∧ c ≠ ':' :=
  plain_of_marks (by decide) h

theorem isQuote_of_isWordChar {c : Char} (h : isWordChar c = true) : isQuote c = false :=
  (isPlain_iff.mp (plain_of_isWordChar h).1).1

theorem isQuote_of_isBlank {c : Char} (h : isBlank c = true) : isQuote c = false :=
  (isPlain_iff.mp (plain_of_isBlank h).1).1

/-! ## The search that knows quotes -/

def prependFirst (text : List Char) (parts : List Char × List Char) : List Char × List Char :=
  (text ++ parts.1, parts.2)

@[simp] theorem prependFirst_nil : prependFirst [] = id := rfl

theorem consFirst_eq (c : Char) : consFirst c = prependFirst [c] := rfl

theorem map_prependFirst (text more : List Char) (found : Option (List Char × List Char)) :
    (found.map (prependFirst more)).map (prependFirst text) =
      found.map (prependFirst (text ++ more)) := by
  cases found <;> simp [prependFirst]

variable {target : Char} {depth : Nat}

theorem scan?_plain {quotes : Bool} {c : Char} (hplain : isPlain c = true)
    (hother : ¬(c = target ∧ depth = 0)) (rest : List Char) :
    scan? quotes target none depth (c :: rest) =
      (scan? quotes target none depth rest).map (prependFirst [c]) := by
  obtain ⟨hnoQuote, hnotOpen, hnotClose⟩ := isPlain_iff.mp hplain
  rw [scan?.eq_def]
  simp [hnoQuote, hother, hnotOpen, hnotClose, consFirst_eq]

theorem scan?_quote {q : Char} (hisQuote : isQuote q = true) (rest : List Char) :
    scan? true target none depth (q :: rest) =
      (scan? true target (some q) depth rest).map (prependFirst [q]) := by
  rw [scan?.eq_def]
  simp [hisQuote, consFirst_eq]

theorem scan?_open (hother : ¬('(' = target ∧ depth = 0)) (rest : List Char) :
    scan? true target none depth ('(' :: rest) =
      (scan? true target none (depth + 1) rest).map (prependFirst ['(']) := by
  have hnoQuote : isQuote '(' = false := by decide
  rw [scan?.eq_def]
  simp [hnoQuote, hother, consFirst_eq]

theorem scan?_close (rest : List Char) :
    scan? true target none (depth + 1) (')' :: rest) =
      (scan? true target none depth rest).map (prependFirst [')']) := by
  have hnoQuote : isQuote ')' = false := by decide
  rw [scan?.eq_def]
  simp [hnoQuote, consFirst_eq]

theorem scan?_target (hnoQuote : isQuote target = false) (rest : List Char) :
    scan? true target none 0 (target :: rest) = some ([], rest) := by
  rw [scan?.eq_def]
  simp [hnoQuote]

theorem scan?_plainText {quotes : Bool} {text : List Char}
    (hplain : ∀ c ∈ text, isPlain c = true ∧ c ≠ target) (tail : List Char) :
    scan? quotes target none depth (text ++ tail) =
      (scan? quotes target none depth tail).map (prependFirst text) := by
  induction text with
  | nil => simp
  | cons c rest ih =>
    obtain ⟨hplainC, hother⟩ := hplain c List.mem_cons_self
    rw [List.cons_append, scan?_plain hplainC (by simp [hother]),
      ih fun d hd => hplain d (List.mem_cons_of_mem _ hd), map_prependFirst]
    rfl

theorem scan?_inQuote {q : Char} {body : List Char} (hinside : q ∉ body) (tail : List Char) :
    scan? true target (some q) depth (body ++ q :: tail) =
      (scan? true target none depth tail).map (prependFirst (body ++ [q])) := by
  induction body with
  | nil =>
    simp only [List.nil_append, scan?, if_true]
    cases scan? true target none depth tail <;> rfl
  | cons c rest ih =>
    obtain ⟨hother, hinside⟩ := not_or.mp (List.mem_cons.not.mp hinside)
    rw [List.cons_append, scan?, if_neg (Ne.symm hother), ih hinside, consFirst_eq, map_prependFirst]
    rfl

theorem WellFormed.scan?_eq {text : List Char} (hwellFormed : WellFormed text)
    (hpasses : 0 < depth ∨ target = ')') (tail : List Char) :
    scan? true target none depth (text ++ tail) =
      (scan? true target none depth tail).map (prependFirst text) := by
  induction hwellFormed generalizing depth tail with
  | nil => simp
  | @plain c rest hplain _ ih =>
    have hother : ¬(c = target ∧ depth = 0) := by
      rintro ⟨rfl, rfl⟩
      exact (isPlain_iff.mp hplain).2.2 (hpasses.resolve_left (Nat.lt_irrefl 0))
    rw [List.cons_append, scan?_plain hplain hother, ih hpasses, map_prependFirst]
    rfl
  | @quoted q body rest hisQuote hinside _ ih =>
    rw [List.cons_append, List.append_assoc, List.cons_append, scan?_quote hisQuote,
      scan?_inQuote hinside, ih hpasses, map_prependFirst, map_prependFirst]
    simp
  | @group body rest _ _ ihBody ihRest =>
    have hother : ¬('(' = target ∧ depth = 0) := by
      rintro ⟨rfl, rfl⟩
      exact absurd (hpasses.resolve_left (Nat.lt_irrefl 0)) (by decide)
    rw [List.cons_append, List.append_assoc, List.cons_append, scan?_open hother,
      ihBody (Or.inl (Nat.succ_pos depth)), scan?_close, ihRest hpasses]
    simp only [map_prependFirst]
    simp

theorem WellFormed.readGroup_eq {body : List Char} (hwellFormed : WellFormed body)
    (tail : List Char) : readGroup ('(' :: (body ++ ')' :: tail)) = .closed body tail := by
  have hfound : findTopLevel? ')' (body ++ ')' :: tail) = some (body, tail) := by
    rw [findTopLevel?, hwellFormed.scan?_eq (Or.inr rfl), scan?_target (by decide)]
    simp [prependFirst]
  rw [readGroup, hfound]

/-! ## The search that counts parentheses only -/

theorem balancedFrom_of_scan? {cs before after : List Char}
    (h : scan? false target none depth cs = some (before, after)) : balancedFrom depth before := by
  induction cs generalizing depth before with
  | nil => simp [scan?] at h
  | cons c rest ih =>
    simp only [scan?, Bool.false_eq_true, false_and, if_false] at h
    split at h
    · next hhere =>
      obtain ⟨rfl, rfl⟩ := Prod.mk.inj (Option.some.inj h)
      simp [balancedFrom, hhere.2]
    · split at h
      · next hopens =>
        obtain ⟨⟨b, a⟩, hfound, ⟨⟩⟩ := Option.map_eq_some_iff.mp h
        simpa [balancedFrom, hopens] using ih hfound
      · next hnotOpen =>
        split at h
        · next hcloses =>
          cases depth with
          | zero => simp at h
          | succ depth =>
            obtain ⟨⟨b, a⟩, hfound, ⟨⟩⟩ := Option.map_eq_some_iff.mp h
            simpa [balancedFrom, hcloses] using ih hfound
        · next hnotClose =>
          obtain ⟨⟨b, a⟩, hfound, ⟨⟩⟩ := Option.map_eq_some_iff.mp h
          simpa [balancedFrom, hnotOpen, hnotClose] using ih hfound

theorem isSome_scan? {before : List Char} (hbalanced : balancedFrom depth before = true)
    (after : List Char) : (scan? false target none depth (before ++ target :: after)).isSome := by
  induction before generalizing depth with
  | nil =>
    have htop : depth = 0 := by simpa [balancedFrom] using hbalanced
    simp [scan?, htop]
  | cons c rest ih =>
    rw [List.cons_append, scan?.eq_def]
    simp only [Bool.false_eq_true, false_and, if_false]
    split
    · rfl
    · simp only [balancedFrom] at hbalanced
      split
      · next hopens => simpa using ih (by simpa [hopens] using hbalanced)
      · next hnotOpen =>
        split
        · next hcloses =>
          cases depth with
          | zero => simp [hcloses] at hbalanced
          | succ depth => simpa using ih (by simpa [hcloses] using hbalanced)
        · next hnotClose => simpa using ih (by simpa [hnotOpen, hnotClose] using hbalanced)

/-- Whether a target stands where the parentheses before it balance, quoted ones counted too. -/
def Exposed (target : Char) (cs : List Char) : Prop :=
  ∃ before after, cs = before ++ target :: after ∧ balanced before = true

theorem exposed_iff {cs : List Char} :
    Exposed target cs ↔ (scan? false target none 0 cs).isSome = true := by
  constructor
  · rintro ⟨before, after, rfl, hbalanced⟩
    exact isSome_scan? hbalanced after
  · intro hfound
    obtain ⟨⟨before, after⟩, hfound⟩ := Option.isSome_iff_exists.mp hfound
    exact ⟨before, after, eq_of_scan? hfound, balancedFrom_of_scan? hfound⟩

end SchemaMigration.Column
