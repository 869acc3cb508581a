import SchemaMigration.Proofs.Column.TopLevel

/-!
# Pieces between separators

A text is cut where a separator stands outside quotes and behind parentheses that are all closed. The
pieces are those between the cuts, and a piece read for itself has no cut in it. An apostrophe that
stays open hides the separators behind it. A closing parenthesis that closes nothing does not count.
-/

namespace SchemaMigration.Column

variable {separator : Char} {cs before after piece : List Char} {pieces xs ys : List (List Char)}
variable {depth : Nat} {state : Option Char × Nat}

/-! ## Behind a text -/

/-- Behind `depth` open parentheses: at the end all are closed. -/
structure Settles (depth : Nat) (cs : List Char) : Prop where
  whole : depth + cs.count '(' ≤ cs.count ')'
  tails : ∀ tail, tail <:+ cs → tail.count '(' ≤ tail.count ')'

/-- The same, behind an open quote and open parentheses. -/
def SettledFrom (state : Option Char × Nat) (cs : List Char) : Prop :=
  ∃ outside, outside? true state.1 cs = some outside ∧ Settles state.2 outside

/-- At the end of the text no quote is open, and every parenthesis that was opened outside the quotes
is closed. -/
abbrev Settled (cs : List Char) : Prop := SettledFrom (none, 0) cs

theorem settles_iff : Settles depth cs ↔
    depth + cs.count '(' ≤ cs.count ')' ∧ ∀ tail, tail <:+ cs → tail.count '(' ≤ tail.count ')' :=
  ⟨fun h => ⟨h.whole, h.tails⟩, fun h => ⟨h.1, h.2⟩⟩

theorem forall_suffix_cons {P : List Char → Prop} {c : Char} :
    (∀ tail, tail <:+ c :: cs → P tail) ↔ P (c :: cs) ∧ ∀ tail, tail <:+ cs → P tail := by
  simp only [List.suffix_cons_iff, forall_eq_or_imp]

theorem settles_nil : Settles depth [] ↔ depth = 0 := by
  simp [settles_iff]

theorem settles_open : Settles depth ('(' :: cs) ↔ Settles (depth + 1) cs := by
  rw [settles_iff, settles_iff, forall_suffix_cons]
  simp only [List.count_cons_self, List.count_cons_of_ne (by decide : '(' ≠ ')')]
  constructor
  · rintro ⟨hwhole, -, htails⟩
    exact ⟨by omega, htails⟩
  · rintro ⟨hwhole, htails⟩
    exact ⟨by omega, by omega, htails⟩

theorem settles_close : Settles depth (')' :: cs) ↔ Settles (depth - 1) cs := by
  rw [settles_iff, settles_iff, forall_suffix_cons]
  simp only [List.count_cons_self, List.count_cons_of_ne (by decide : ')' ≠ '(')]
  constructor
  · rintro ⟨hwhole, -, htails⟩
    have hall := htails cs List.suffix_rfl
    exact ⟨by omega, htails⟩
  · rintro ⟨hwhole, htails⟩
    exact ⟨by omega, by omega, htails⟩

theorem settles_other {c : Char} (hnotOpen : c ≠ '(') (hnotClose : c ≠ ')') :
    Settles depth (c :: cs) ↔ Settles depth cs := by
  rw [settles_iff, settles_iff, forall_suffix_cons]
  simp only [List.count_cons_of_ne hnotOpen, List.count_cons_of_ne hnotClose]
  constructor
  · rintro ⟨hwhole, -, htails⟩
    exact ⟨hwhole, htails⟩
  · rintro ⟨hwhole, htails⟩
    exact ⟨hwhole, by omega, htails⟩

/-- The open quote and the open parentheses behind one more character. -/
def advance : Option Char × Nat → Char → Option Char × Nat
  | (some q, depth), c => (if c = q then none else some q, depth)
  | (none, depth), c =>
    if isQuote c then (some c, depth)
    else if c = '(' then (none, depth + 1)
    else if c = ')' then (none, depth - 1)
    else (none, depth)

theorem advance_plain {c : Char} (hplain : isPlain c = true) : advance (none, depth) c = (none, depth) := by
  obtain ⟨hnoQuote, hnotOpen, hnotClose⟩ := isPlain_iff.mp hplain
  simp [advance, hnoQuote, hnotOpen, hnotClose]

theorem settledFrom_nil : SettledFrom state [] ↔ state = (none, 0) := by
  obtain ⟨quote, depth⟩ := state
  cases quote with
  | none => simp [SettledFrom, outside?, settles_nil]
  | some q => simp [SettledFrom, outside?]

theorem settledFrom_cons (c : Char) : SettledFrom state (c :: cs) ↔ SettledFrom (advance state c) cs := by
  obtain ⟨quote, depth⟩ := state
  cases quote with
  | some q => simp only [SettledFrom, outside?, advance]
  | none =>
    unfold advance
    dsimp only
    by_cases hopens : isQuote c = true
    · simp only [SettledFrom, outside?, hopens, and_self, if_true]
    · have houtside : SettledFrom (none, depth) (c :: cs) ↔
          ∃ outside, outside? true none cs = some outside ∧ Settles depth (c :: outside) := by
        simp [SettledFrom, outside?, hopens]
      rw [houtside, if_neg hopens]
      split
      · next hsame => simp only [hsame, settles_open, SettledFrom]
      next hnotOpen =>
      split
      · next hsame => simp only [hsame, settles_close, SettledFrom]
      · next hnotClose => simp only [settles_other hnotOpen hnotClose, SettledFrom]

theorem settledFrom_append : SettledFrom state (cs ++ before) ↔
    SettledFrom (cs.foldl advance state) before := by
  induction cs generalizing state with
  | nil => rfl
  | cons c cs ih => rw [List.cons_append, settledFrom_cons, ih, List.foldl_cons]

theorem settledFrom_iff : SettledFrom state cs ↔ cs.foldl advance state = (none, 0) := by
  have hwhole : SettledFrom state (cs ++ []) ↔ SettledFrom (cs.foldl advance state) [] :=
    settledFrom_append
  rwa [List.append_nil, settledFrom_nil] at hwhole

theorem settled_append_iff (hplain : isPlain separator = true) (hsettled : Settled before) :
    Settled (before ++ separator :: cs) ↔ Settled cs := by
  unfold Settled at hsettled ⊢
  rw [settledFrom_iff] at hsettled
  rw [settledFrom_append, hsettled, settledFrom_cons, advance_plain hplain]

/-! ## The pieces -/

/-- The pieces of what follows, in the state that is reached. -/
def piecesFrom (separator : Char) (state : Option Char × Nat) (cs : List Char) : List (List Char) :=
  splitFrom separator state.1 state.2 cs

theorem splitTopLevel_eq (separator : Char) (cs : List Char) :
    splitTopLevel separator cs = piecesFrom separator (none, 0) cs := rfl

theorem piecesFrom_nil : piecesFrom separator state [] = [[]] := by
  unfold piecesFrom splitFrom
  rfl

theorem piecesFrom_cut (hplain : isPlain separator = true) (cs : List Char) :
    piecesFrom separator (none, 0) (separator :: cs) = [] :: piecesFrom separator (none, 0) cs := by
  obtain ⟨hnoQuote, hnotOpen, hnotClose⟩ := isPlain_iff.mp hplain
  unfold piecesFrom
  rw [splitFrom.eq_def]
  simp [hnoQuote, hnotOpen, hnotClose]

theorem piecesFrom_cons {c : Char} (hpasses : ¬(state = (none, 0) ∧ c = separator)) (cs : List Char) :
    piecesFrom separator state (c :: cs) = consPiece c (piecesFrom separator (advance state c) cs) := by
  obtain ⟨quote, depth⟩ := state
  unfold piecesFrom advance
  cases quote with
  | some q => rw [splitFrom]
  | none =>
    rw [splitFrom]
    dsimp only
    split
    · rfl
    split
    · rfl
    split
    · rfl
    · rw [if_neg fun hhere => hpasses ⟨by rw [hhere.2], hhere.1⟩]

theorem piecesFrom_ne_nil (hplain : isPlain separator = true) (state : Option Char × Nat) (cs : List Char) :
    piecesFrom separator state cs ≠ [] := by
  induction cs generalizing state with
  | nil => simp [piecesFrom_nil]
  | cons c cs ih =>
    by_cases hhere : state = (none, 0) ∧ c = separator
    · obtain ⟨rfl, rfl⟩ := hhere
      simp [piecesFrom_cut hplain]
    · obtain ⟨piece, pieces, hsplit⟩ := List.exists_cons_of_ne_nil (ih (advance state c))
      simp [piecesFrom_cons hhere, hsplit, consPiece]

theorem intercalate_consPiece (c : Char) (hsome : pieces ≠ []) :
    [separator].intercalate (consPiece c pieces) = c :: [separator].intercalate pieces := by
  obtain ⟨piece, others, rfl⟩ := List.exists_cons_of_ne_nil hsome
  cases others with
  | nil => simp [consPiece]
  | cons other others => simp [consPiece, List.intercalate_cons_cons]

theorem intercalate_cons (piece : List Char) (hsome : pieces ≠ []) :
    [separator].intercalate (piece :: pieces) = piece ++ separator :: [separator].intercalate pieces := by
  obtain ⟨other, others, rfl⟩ := List.exists_cons_of_ne_nil hsome
  rw [List.intercalate_cons_cons, List.append_assoc, List.singleton_append]

theorem intercalate_piecesFrom (hplain : isPlain separator = true) :
    [separator].intercalate (piecesFrom separator state cs) = cs := by
  induction cs generalizing state with
  | nil => simp [piecesFrom_nil]
  | cons c cs ih =>
    by_cases hhere : state = (none, 0) ∧ c = separator
    · obtain ⟨rfl, rfl⟩ := hhere
      rw [piecesFrom_cut hplain, intercalate_cons _ (piecesFrom_ne_nil hplain _ _), ih, List.nil_append]
    · rw [piecesFrom_cons hhere, intercalate_consPiece c (piecesFrom_ne_nil hplain _ _), ih]

theorem piecesFrom_append (hplain : isPlain separator = true) (hsettled : SettledFrom state before) :
    piecesFrom separator state (before ++ separator :: after) =
      piecesFrom separator state before ++ piecesFrom separator (none, 0) after := by
  induction before generalizing state with
  | nil =>
    obtain rfl := settledFrom_nil.mp hsettled
    rw [List.nil_append, piecesFrom_cut hplain, piecesFrom_nil, List.singleton_append]
  | cons c before ih =>
    rw [settledFrom_cons] at hsettled
    rw [List.cons_append]
    by_cases hhere : state = (none, 0) ∧ c = separator
    · obtain ⟨rfl, rfl⟩ := hhere
      rw [advance_plain hplain] at hsettled
      rw [piecesFrom_cut hplain, piecesFrom_cut hplain, ih hsettled, List.cons_append]
    · obtain ⟨piece, pieces, hsplit⟩ :=
        List.exists_cons_of_ne_nil (piecesFrom_ne_nil hplain (advance state c) before)
      rw [piecesFrom_cons hhere, piecesFrom_cons hhere, ih hsettled, hsplit]
      rfl

theorem settledFrom_of_cut (hplain : isPlain separator = true)
    (hsplit : piecesFrom separator state cs = xs ++ ys) (hsomeX : xs ≠ []) (hsomeY : ys ≠ []) :
    SettledFrom state ([separator].intercalate xs) := by
  induction cs generalizing state xs with
  | nil =>
    have hlengths := congrArg List.length hsplit
    have hpositiveX := List.length_pos_iff.mpr hsomeX
    have hpositiveY := List.length_pos_iff.mpr hsomeY
    simp [piecesFrom_nil] at hlengths
    omega
  | cons c cs ih =>
    obtain ⟨x, xs, rfl⟩ := List.exists_cons_of_ne_nil hsomeX
    by_cases hhere : state = (none, 0) ∧ c = separator
    · obtain ⟨rfl, rfl⟩ := hhere
      rw [piecesFrom_cut hplain, List.cons_append] at hsplit
      obtain ⟨rfl, hbehind⟩ := List.cons.inj hsplit
      by_cases hlast : xs = []
      · simp [hlast, settledFrom_nil]
      · rw [intercalate_cons _ hlast, List.nil_append, settledFrom_cons, advance_plain hplain]
        exact ih hbehind hlast
    · obtain ⟨piece, pieces, hrest⟩ :=
        List.exists_cons_of_ne_nil (piecesFrom_ne_nil hplain (advance state c) cs)
      rw [piecesFrom_cons hhere, hrest, consPiece, List.cons_append] at hsplit
      obtain ⟨rfl, rfl⟩ := List.cons.inj hsplit
      have hjoined : [separator].intercalate ((c :: piece) :: xs) =
          c :: [separator].intercalate (piece :: xs) := intercalate_consPiece c (List.cons_ne_nil piece xs)
      rw [hjoined, settledFrom_cons]
      exact ih (by rw [hrest, List.cons_append]) (by simp)

/-- A piece is read as in its place when it is read for itself. -/
theorem splitTopLevel_of_piecesFrom (hplain : isPlain separator = true)
    (hsplit : piecesFrom separator state cs = piece :: pieces) :
    piecesFrom separator state piece = [piece] ∧
      ∀ other ∈ pieces, splitTopLevel separator other = [other] := by
  induction cs generalizing state piece pieces with
  | nil =>
    rw [piecesFrom_nil] at hsplit
    obtain ⟨rfl, rfl⟩ := List.cons.inj hsplit
    exact ⟨piecesFrom_nil, by simp⟩
  | cons c cs ih =>
    obtain ⟨first, others, hrest⟩ :=
      List.exists_cons_of_ne_nil (piecesFrom_ne_nil hplain (advance state c) cs)
    by_cases hhere : state = (none, 0) ∧ c = separator
    · obtain ⟨rfl, rfl⟩ := hhere
      rw [advance_plain hplain] at hrest
      rw [piecesFrom_cut hplain, hrest] at hsplit
      obtain ⟨rfl, rfl⟩ := List.cons.inj hsplit
      rw [List.forall_mem_cons]
      exact ⟨piecesFrom_nil, ih hrest⟩
    · rw [piecesFrom_cons hhere, hrest] at hsplit
      obtain ⟨rfl, rfl⟩ := List.cons.inj hsplit
      obtain ⟨halone, hothers⟩ := ih hrest
      rw [piecesFrom_cons hhere, halone]
      exact ⟨rfl, hothers⟩

theorem splitTopLevel_piece (hplain : isPlain separator = true)
    (hmem : piece ∈ splitTopLevel separator cs) : splitTopLevel separator piece = [piece] := by
  obtain ⟨first, others, hsplit⟩ := List.exists_cons_of_ne_nil (piecesFrom_ne_nil hplain (none, 0) cs)
  obtain ⟨halone, hrest⟩ := splitTopLevel_of_piecesFrom hplain hsplit
  rw [splitTopLevel_eq, hsplit] at hmem
  rcases List.mem_cons.mp hmem with rfl | hbehind
  · exact halone
  · exact hrest piece hbehind

theorem piecesFrom_uncut
    (huncut : ∀ before after, cs = before ++ separator :: after → ¬SettledFrom state before) :
    piecesFrom separator state cs = [cs] := by
  induction cs generalizing state with
  | nil => exact piecesFrom_nil
  | cons c cs ih =>
    have hpasses : ¬(state = (none, 0) ∧ c = separator) := by
      rintro ⟨rfl, rfl⟩
      exact huncut [] cs rfl (settledFrom_nil.mpr rfl)
    rw [piecesFrom_cons hpasses, ih]
    · rfl
    · rintro before after rfl hsettled
      exact huncut (c :: before) after rfl ((settledFrom_cons c).mpr hsettled)

/-! ## The decomposition -/

/-- Between two of the pieces, what is before and what is after. -/
def IsCut (separator : Char) (pieces : List (List Char)) (before after : List Char) : Prop :=
  ∃ xs ys, xs ≠ [] ∧ ys ≠ [] ∧ pieces = xs ++ ys ∧
    [separator].intercalate xs = before ∧ [separator].intercalate ys = after

/-- The pieces make up the text, and the cuts between them are its separators outside quotes and
parentheses. -/
structure Decomposes (separator : Char) (cs : List Char) (pieces : List (List Char)) : Prop where
  nonempty : pieces ≠ []
  joined : [separator].intercalate pieces = cs
  cuts : ∀ before after, cs = before ++ separator :: after →
    (IsCut separator pieces before after ↔ Settled before)

theorem decomposes_splitTopLevel (hplain : isPlain separator = true) (cs : List Char) :
    Decomposes separator cs (splitTopLevel separator cs) := by
  rw [splitTopLevel_eq]
  refine ⟨piecesFrom_ne_nil hplain _ _, intercalate_piecesFrom hplain, ?_⟩
  rintro before after rfl
  constructor
  · rintro ⟨xs, ys, hsomeX, hsomeY, hsplit, rfl, -⟩
    exact settledFrom_of_cut hplain hsplit hsomeX hsomeY
  · intro hsettled
    exact ⟨_, _, piecesFrom_ne_nil hplain _ _, piecesFrom_ne_nil hplain _ _,
      piecesFrom_append hplain hsettled, intercalate_piecesFrom hplain, intercalate_piecesFrom hplain⟩

theorem not_isCut_singleton : ¬IsCut separator [piece] before after := by
  rintro ⟨xs, ys, hsomeX, hsomeY, hparts, -⟩
  have hlengths := congrArg List.length hparts
  have hpositiveX := List.length_pos_iff.mpr hsomeX
  have hpositiveY := List.length_pos_iff.mpr hsomeY
  simp at hlengths
  omega

theorem isCut_cons_iff (hsome : pieces ≠ []) : IsCut separator (piece :: pieces) before after ↔
    (before = piece ∧ after = [separator].intercalate pieces) ∨
      ∃ b, before = piece ++ separator :: b ∧ IsCut separator pieces b after := by
  constructor
  · rintro ⟨_ | ⟨x, xs⟩, ys, hsomeX, hsomeY, hparts, rfl, rfl⟩
    · exact absurd rfl hsomeX
    obtain ⟨rfl, rfl⟩ := List.cons.inj hparts
    by_cases hlast : xs = []
    · subst hlast
      exact .inl ⟨by simp, rfl⟩
    · exact .inr ⟨_, intercalate_cons _ hlast, xs, ys, hlast, hsomeY, rfl, rfl, rfl⟩
  · rintro (⟨rfl, rfl⟩ | ⟨b, rfl, xs, ys, hsomeX, hsomeY, rfl, rfl, rfl⟩)
    · exact ⟨[before], pieces, by simp, hsome, rfl, by simp, rfl⟩
    · exact ⟨piece :: xs, ys, by simp, hsomeY, rfl, intercalate_cons _ hsomeX, rfl⟩

theorem Decomposes.eq_splitTopLevel (hplain : isPlain separator = true)
    (hdecomposes : Decomposes separator cs pieces) : pieces = splitTopLevel separator cs := by
  induction pieces generalizing cs with
  | nil => exact absurd rfl hdecomposes.nonempty
  | cons piece pieces ih =>
    -- Behind the first piece the text goes on as one of its own, with the cuts that are left.
    obtain ⟨-, rfl, hcuts⟩ := hdecomposes
    by_cases hlast : pieces = []
    · subst hlast
      rw [List.intercalate_singleton] at hcuts ⊢
      rw [splitTopLevel_eq, piecesFrom_uncut]
      intro before after hparts hsettled
      exact not_isCut_singleton ((hcuts before after hparts).mpr hsettled)
    rw [intercalate_cons _ hlast] at hcuts ⊢
    have hsettled : Settled piece :=
      (hcuts _ _ rfl).mp ((isCut_cons_iff hlast).mpr (.inl ⟨rfl, rfl⟩))
    have halone : splitTopLevel separator piece = [piece] := by
      rw [splitTopLevel_eq]
      apply piecesFrom_uncut
      intro before after hparts hsettled
      have hshorter : before.length < piece.length := by simp [hparts]
      have hcut := (hcuts before (after ++ separator :: [separator].intercalate pieces)
        (by simp [hparts])).mpr hsettled
      rcases (isCut_cons_iff hlast).mp hcut with ⟨rfl, -⟩ | ⟨b, rfl, -⟩
      · exact absurd hshorter (Nat.lt_irrefl _)
      · rw [List.length_append] at hshorter
        omega
    have hothers : Decomposes separator ([separator].intercalate pieces) pieces := by
      refine ⟨hlast, rfl, fun before after hparts => ?_⟩
      rw [← settled_append_iff hplain hsettled,
        ← hcuts (piece ++ separator :: before) after (by simp [hparts]),
        isCut_cons_iff hlast]
      simp
    have hsplit : splitTopLevel separator (piece ++ separator :: [separator].intercalate pieces) =
        splitTopLevel separator piece ++ splitTopLevel separator ([separator].intercalate pieces) :=
      piecesFrom_append hplain hsettled
    rw [hsplit, halone, ← ih hothers, List.singleton_append]

/-- The pieces are the one decomposition of the text at its separators outside quotes and
parentheses, and each of them is left whole when it is split again. -/
theorem decomposes_iff (separator : Char) (hplain : isPlain separator = true) (cs : List Char) :
    (∀ pieces, Decomposes separator cs pieces ↔ pieces = splitTopLevel separator cs) ∧
      ∀ piece ∈ splitTopLevel separator cs, splitTopLevel separator piece = [piece] := by
  refine ⟨fun pieces => ⟨fun hdecomposes => hdecomposes.eq_splitTopLevel hplain, ?_⟩,
    fun piece hmem => splitTopLevel_piece hplain hmem⟩
  rintro rfl
  exact decomposes_splitTopLevel hplain cs

/-- A closing parenthesis that closes nothing, separators within quotes and parentheses, and a quote
that stays open. -/
theorem decomposes_iff_unclosed : isPlain ',' = true ∧
    Decomposes ',' "a),'b,c',(d,e),f'g,h".toList
      ["a)".toList, "'b,c'".toList, "(d,e)".toList, "f'g,h".toList] ∧
    splitTopLevel ',' "f'g,h".toList = ["f'g,h".toList] := by
  obtain ⟨hunique, hwhole⟩ := decomposes_iff ',' (by decide) "a),'b,c',(d,e),f'g,h".toList
  exact ⟨by decide, (hunique _).mpr (by decide), hwhole _ (by decide)⟩

end SchemaMigration.Column
