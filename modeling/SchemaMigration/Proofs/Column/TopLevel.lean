import SchemaMigration.Proofs.Column.Scan

/-!
# What a search finds

A text is closed when every quote in it closes and the parentheses outside the quotes nest.
The search finds the first target behind a closed text. It heeds quotes, and where it finds
nothing that way it counts parentheses only.
-/

namespace SchemaMigration.Column

variable {cs rest before after : List Char} {c target : Char} {depth : Nat} {quotes : Bool}
variable {quote : Option Char}

/-! ## Parentheses that nest -/

/-- Behind `depth` open parentheses: none is closed that is not open, and at the end all
are closed. -/
structure Nests (depth : Nat) (cs : List Char) : Prop where
  opened : ∀ p, p <+: cs → p.count ')' ≤ depth + p.count '('
  closed : cs.count ')' = depth + cs.count '('

theorem nests_iff : Nests depth cs ↔
    (∀ p, p <+: cs → p.count ')' ≤ depth + p.count '(') ∧ cs.count ')' = depth + cs.count '(' :=
  ⟨fun h => ⟨h.opened, h.closed⟩, fun h => ⟨h.1, h.2⟩⟩

theorem nests_nil : Nests depth [] ↔ depth = 0 := by
  simp [nests_iff, eq_comm]

theorem forall_prefix_cons {P : List Char → Prop} :
    (∀ p, p <+: c :: cs → P p) ↔ P [] ∧ ∀ p, p <+: cs → P (c :: p) := by
  constructor
  · intro h
    exact ⟨h [] List.nil_prefix, fun p hp => h (c :: p) (List.cons_prefix_cons.mpr ⟨rfl, hp⟩)⟩
  · rintro ⟨hnil, hcons⟩ p hp
    rcases List.prefix_cons_iff.mp hp with rfl | ⟨t, rfl, ht⟩
    · exact hnil
    · exact hcons t ht

theorem nests_open : Nests depth ('(' :: cs) ↔ Nests (depth + 1) cs := by
  rw [nests_iff, nests_iff, forall_prefix_cons]
  have hshift : ∀ n m : Nat, n ≤ depth + (m + 1) ↔ n ≤ depth + 1 + m := by omega
  have hshiftEq : ∀ n m : Nat, n = depth + (m + 1) ↔ n = depth + 1 + m := by omega
  simp [hshift, hshiftEq]

theorem nests_close : Nests (depth + 1) (')' :: cs) ↔ Nests depth cs := by
  rw [nests_iff, nests_iff, forall_prefix_cons]
  have hshift : ∀ n m : Nat, n + 1 ≤ depth + 1 + m ↔ n ≤ depth + m := by omega
  have hshiftEq : ∀ n m : Nat, n + 1 = depth + 1 + m ↔ n = depth + m := by omega
  simp only [List.count_cons_self, List.count_nil, Nat.zero_le, true_and,
    List.count_cons_of_ne (by decide : ')' ≠ '('), hshift, hshiftEq]

theorem not_nests_close : ¬Nests 0 (')' :: cs) := by
  intro hnests
  have hfirst := hnests.opened [')'] (by simp)
  simp at hfirst

theorem nests_other (hnotOpen : c ≠ '(') (hnotClose : c ≠ ')') :
    Nests depth (c :: cs) ↔ Nests depth cs := by
  rw [nests_iff, nests_iff, forall_prefix_cons]
  simp [List.count_cons_of_ne, hnotOpen, hnotClose]

theorem balancedFrom_iff : balancedFrom depth cs = true ↔ Nests depth cs := by
  induction cs generalizing depth with
  | nil => simp [balancedFrom, nests_nil]
  | cons c rest ih =>
    rw [balancedFrom.eq_def]
    dsimp only
    split
    · next hopens => rw [hopens, nests_open, ih]
    · next hnotOpen =>
      split
      · next hcloses =>
        subst hcloses
        cases depth with
        | zero => simp [not_nests_close]
        | succ depth => rw [nests_close]; exact ih
      · next hnotClose => rw [nests_other hnotOpen hnotClose, ih]

/-! ## Closed texts -/

/-- What stands outside the quotes, where quotes are heeded and all of them close. `quote`
is the one that is open at the start. -/
def outside? (quotes : Bool) : Option Char → List Char → Option (List Char)
  | none, [] => some []
  | some _, [] => none
  | some q, c :: rest => outside? quotes (if c = q then none else some q) rest
  | none, c :: rest =>
    if quotes ∧ isQuote c then outside? quotes (some c) rest
    else (outside? quotes none rest).map (c :: ·)

/-- The parentheses outside the quotes nest, behind an open quote and open parentheses. -/
def ClosedFrom (quotes : Bool) (quote : Option Char) (depth : Nat) (cs : List Char) : Prop :=
  ∃ outside, outside? quotes quote cs = some outside ∧ Nests depth outside

/-- Every quote closes, and the parentheses outside the quotes nest. -/
abbrev Closed (quotes : Bool) (cs : List Char) : Prop := ClosedFrom quotes none 0 cs

theorem closedFrom_nil : ClosedFrom quotes quote depth [] ↔ quote = none ∧ depth = 0 := by
  cases quote with
  | none => simp [ClosedFrom, outside?, nests_nil]
  | some q => simp [ClosedFrom, outside?]

theorem closedFrom_inQuote {q : Char} : ClosedFrom quotes (some q) depth (c :: cs) ↔
    ClosedFrom quotes (if c = q then none else some q) depth cs := by
  simp only [ClosedFrom, outside?]

theorem closedFrom_quote (hopens : quotes = true ∧ isQuote c = true) :
    ClosedFrom quotes none depth (c :: cs) ↔ ClosedFrom quotes (some c) depth cs := by
  simp only [ClosedFrom, outside?, if_pos hopens]

theorem closedFrom_cons (hnoQuote : ¬(quotes = true ∧ isQuote c = true)) :
    ClosedFrom quotes none depth (c :: cs) ↔
      ∃ outside, outside? quotes none cs = some outside ∧ Nests depth (c :: outside) := by
  simp only [ClosedFrom, outside?, if_neg hnoQuote, Option.map_eq_some_iff]
  constructor
  · rintro ⟨_, ⟨outside, hfound, rfl⟩, hnests⟩
    exact ⟨outside, hfound, hnests⟩
  · rintro ⟨outside, hfound, hnests⟩
    exact ⟨c :: outside, ⟨outside, hfound, rfl⟩, hnests⟩

theorem closedFrom_open :
    ClosedFrom quotes none depth ('(' :: cs) ↔ ClosedFrom quotes none (depth + 1) cs := by
  rw [closedFrom_cons (by simp [isQuote])]
  simp only [nests_open]
  rfl

theorem closedFrom_close :
    ClosedFrom quotes none (depth + 1) (')' :: cs) ↔ ClosedFrom quotes none depth cs := by
  rw [closedFrom_cons (by simp [isQuote])]
  simp only [nests_close]
  rfl

theorem not_closedFrom_close : ¬ClosedFrom quotes none 0 (')' :: cs) := by
  rw [closedFrom_cons (by simp [isQuote])]
  rintro ⟨outside, -, hnests⟩
  exact not_nests_close hnests

theorem closedFrom_other (hnoQuote : ¬(quotes = true ∧ isQuote c = true)) (hnotOpen : c ≠ '(')
    (hnotClose : c ≠ ')') :
    ClosedFrom quotes none depth (c :: cs) ↔ ClosedFrom quotes none depth cs := by
  rw [closedFrom_cons hnoQuote]
  simp only [nests_other hnotOpen hnotClose]
  rfl

/-! ## The first target -/

/-- The text is closed, and so is none that ends before an earlier target. -/
structure FirstFrom (quotes : Bool) (target : Char) (quote : Option Char) (depth : Nat)
    (before : List Char) : Prop where
  closed : ClosedFrom quotes quote depth before
  earliest : ∀ p q, before = p ++ target :: q → ¬ClosedFrom quotes quote depth p

abbrev First (quotes : Bool) (target : Char) (before : List Char) : Prop :=
  FirstFrom quotes target none 0 before

/-- A character that is not the target is passed over. What it does to the open quote and
the open parentheses is what it does to closed texts. -/
theorem firstFrom_cons_iff {quote' : Option Char} {depth' : Nat}
    (hstep : ∀ t, ClosedFrom quotes quote depth (c :: t) ↔ ClosedFrom quotes quote' depth' t)
    (hpasses : ¬(c = target ∧ ClosedFrom quotes quote depth [])) :
    (c :: rest = before ++ target :: after ∧ FirstFrom quotes target quote depth before) ↔
      ∃ b, before = c :: b ∧ rest = b ++ target :: after ∧ FirstFrom quotes target quote' depth' b := by
  constructor
  · rintro ⟨hsame, hfirst⟩
    rcases List.cons_eq_append_iff.mp hsame with ⟨rfl, hhere⟩ | ⟨b, rfl, hthere⟩
    · exact (hpasses ⟨(List.cons.inj hhere).1.symm, hfirst.closed⟩).elim
    · refine ⟨b, rfl, hthere, (hstep b).mp hfirst.closed, ?_⟩
      rintro p q rfl hclosed
      exact hfirst.earliest (c :: p) q rfl ((hstep p).mpr hclosed)
  · rintro ⟨b, rfl, rfl, hfirst⟩
    refine ⟨rfl, (hstep b).mpr hfirst.closed, ?_⟩
    intro p q hsame hclosed
    rcases List.cons_eq_append_iff.mp hsame with ⟨rfl, hhere⟩ | ⟨p, rfl, hthere⟩
    · exact hpasses ⟨(List.cons.inj hhere).1.symm, hclosed⟩
    · exact hfirst.earliest p q hthere ((hstep p).mp hclosed)

theorem map_consFirst_eq_some_iff {found : Option (List Char × List Char)} :
    found.map (consFirst c) = some (before, after) ↔ ∃ b, before = c :: b ∧ found = some (b, after) := by
  rw [Option.map_eq_some_iff]
  constructor
  · rintro ⟨⟨b, a⟩, rfl, hsame⟩
    obtain ⟨rfl, rfl⟩ := Prod.mk.inj hsame
    exact ⟨b, rfl, rfl⟩
  · rintro ⟨b, rfl, rfl⟩
    exact ⟨(b, after), rfl, rfl⟩

theorem scan?_eq_some_iff (hnoQuote : isQuote target = false) :
    scan? quotes target quote depth cs = some (before, after) ↔
      cs = before ++ target :: after ∧ FirstFrom quotes target quote depth before := by
  induction cs generalizing quote depth before with
  | nil => simp [scan?]
  | cons c rest ih =>
    cases quote with
    | some q =>
      rw [scan?, map_consFirst_eq_some_iff, firstFrom_cons_iff fun _ => closedFrom_inQuote]
      · simp only [ih]
      · simp [closedFrom_nil]
    | none =>
      rw [scan?.eq_def]
      dsimp only
      split
      · next hopens =>
        rw [map_consFirst_eq_some_iff, firstFrom_cons_iff fun _ => closedFrom_quote hopens]
        · simp only [ih]
        · rintro ⟨rfl, -⟩
          simp [hnoQuote] at hopens
      next hnoQuoteHere =>
      split
      · next hhere =>
        obtain ⟨rfl, rfl⟩ := hhere
        have hclosedNil : ClosedFrom quotes none 0 [] := closedFrom_nil.mpr ⟨rfl, rfl⟩
        constructor
        · intro hfound
          obtain ⟨rfl, rfl⟩ := Prod.mk.inj (Option.some.inj hfound)
          exact ⟨rfl, hclosedNil, fun p q hsame => by simp at hsame⟩
        · rintro ⟨hsame, hfirst⟩
          rcases List.cons_eq_append_iff.mp hsame with ⟨rfl, hthere⟩ | ⟨b, rfl, -⟩
          · rw [(List.cons.inj hthere).2]
          · exact (hfirst.earliest [] b rfl hclosedNil).elim
      next hnotHere =>
      have hpasses : ¬(c = target ∧ ClosedFrom quotes none depth []) := by
        simpa [closedFrom_nil] using hnotHere
      split
      · next hopens =>
        subst hopens
        rw [map_consFirst_eq_some_iff, firstFrom_cons_iff (fun _ => closedFrom_open) hpasses]
        simp only [ih]
      next hnotOpen =>
      split
      · next hcloses =>
        subst hcloses
        cases depth with
        | zero =>
          simp only [reduceCtorEq, false_iff]
          rintro ⟨hsame, hfirst⟩
          rcases List.cons_eq_append_iff.mp hsame with ⟨rfl, hthere⟩ | ⟨b, rfl, -⟩
          · exact hpasses ⟨(List.cons.inj hthere).1.symm, hfirst.closed⟩
          · exact not_closedFrom_close hfirst.closed
        | succ depth =>
          rw [map_consFirst_eq_some_iff, firstFrom_cons_iff (fun _ => closedFrom_close) hpasses]
          simp only [ih]
      · next hnotClose =>
        have hstep : ∀ t, ClosedFrom quotes none depth (c :: t) ↔ ClosedFrom quotes none depth t :=
          fun _ => closedFrom_other hnoQuoteHere hnotOpen hnotClose
        rw [map_consFirst_eq_some_iff, firstFrom_cons_iff hstep hpasses]
        simp only [ih]

theorem exists_first (target : Char) (hclosed : Closed quotes before) (after : List Char) :
    ∃ b a, before ++ target :: after = b ++ target :: a ∧ First quotes target b := by
  induction hsize : before.length using Nat.strong_induction_on generalizing before after with
  | _ n ih =>
    by_cases hearliest : ∀ p q, before = p ++ target :: q → ¬Closed quotes p
    · exact ⟨before, after, rfl, hclosed, hearliest⟩
    · push Not at hearliest
      obtain ⟨p, q, rfl, hclosedP⟩ := hearliest
      have hshorter : p.length < n := by
        rw [← hsize, List.length_append, List.length_cons]
        omega
      obtain ⟨b, a, hthere, hfirst⟩ := ih p.length hshorter hclosedP (q ++ target :: after) rfl
      exact ⟨b, a, by rw [List.append_assoc, List.cons_append, hthere], hfirst⟩

theorem scan?_eq_none_iff (hnoQuote : isQuote target = false) :
    scan? quotes target none 0 cs = none ↔
      ∀ p q, cs = p ++ target :: q → ¬Closed quotes p := by
  constructor
  · rintro hnothing p q rfl hclosed
    obtain ⟨b, a, hsame, hfirst⟩ := exists_first target hclosed q
    have hfound := (scan?_eq_some_iff hnoQuote).mpr ⟨hsame, hfirst⟩
    rw [hnothing] at hfound
    cases hfound
  · intro hnever
    by_contra hfound
    obtain ⟨⟨b, a⟩, hfound⟩ := Option.ne_none_iff_exists'.mp hfound
    obtain ⟨hsame, hfirst⟩ := (scan?_eq_some_iff hnoQuote).mp hfound
    exact hnever b a hsame hfirst.closed

/-! ## The search -/

/-- The target between the two texts is the first behind a closed text when quotes are
heeded. If then there is none, it is the first when they are not. -/
def CutAt (target : Char) (before after : List Char) : Prop :=
  First true target before ∨
    (∀ p q, before ++ target :: after = p ++ target :: q → ¬Closed true p) ∧
      First false target before

theorem findTopLevel?_eq_some_iff (hnoQuote : isQuote target = false) :
    findTopLevel? target cs = some (before, after) ↔
      cs = before ++ target :: after ∧ CutAt target before after := by
  rw [findTopLevel?, Option.or_eq_some_iff, scan?_eq_some_iff hnoQuote, scan?_eq_none_iff hnoQuote,
    scan?_eq_some_iff hnoQuote, CutAt]
  constructor
  · rintro (⟨rfl, hfirst⟩ | ⟨hnever, rfl, hfirst⟩)
    · exact ⟨rfl, .inl hfirst⟩
    · exact ⟨rfl, .inr ⟨hnever, hfirst⟩⟩
  · rintro ⟨rfl, hfirst | ⟨hnever, hfirst⟩⟩
    · exact .inl ⟨rfl, hfirst⟩
    · exact .inr ⟨hnever, rfl, hfirst⟩

theorem findTopLevel?_eq_none_iff (hnoQuote : isQuote target = false) :
    findTopLevel? target cs = none ↔
      ∀ p q, cs = p ++ target :: q → ¬Closed true p ∧ ¬Closed false p := by
  rw [findTopLevel?, Option.or_eq_none_iff, scan?_eq_none_iff hnoQuote, scan?_eq_none_iff hnoQuote]
  constructor
  · rintro ⟨hheeding, hcounting⟩ p q hsame
    exact ⟨hheeding p q hsame, hcounting p q hsame⟩
  · intro hnever
    exact ⟨fun p q hsame => (hnever p q hsame).1, fun p q hsame => (hnever p q hsame).2⟩

end SchemaMigration.Column
