import SchemaMigration.Proofs.Document.Line
import SchemaMigration.Proofs.Text.Search

/-!
# Comments in TOML

Blank lines and comments in front of a text change nothing in what it says, and no text is read
whose first line is a comment with a control character.
-/

namespace SchemaMigration.Toml

open Text

/-- The line has nothing but spaces and a comment. A carriage return may stand at its end. -/
def IsCommentLine (line : List Char) : Prop :=
  ∃ space comment ending, line = space ++ (comment ++ ending) ∧ (∀ c ∈ space, isSpace c = true) ∧
    (comment = [] ∨ ∃ said, comment = '#' :: said ∧ ∀ c ∈ said, isContent c = true) ∧
    (ending = [] ∨ ending = ['\r'])

/-- Behind a `#`, the text reads as comments and blank lines. -/
def IsComment (text : List Char) : Prop := ∀ line ∈ splitOn '\n' ('#' :: text), IsCommentLine line

variable {cs line rest text : List Char} {lines : List Line} {fuel : Nat}

/-! ## One line -/

theorem isContent_of_isDigit {c : Char} (hdigit : c.isDigit = true) : isContent c = true := by
  have hleast : '0'.toNat ≤ c.toNat := (Number.isDigit_iff.mp hdigit).1
  have hmost : c.toNat ≤ '9'.toNat := (Number.isDigit_iff.mp hdigit).2
  simp [isContent] at hleast hmost ⊢
  omega

theorem readAllLines_nil (hnothing : skipSpace cs = []) (fuel : Nat) :
    readAllLines (fuel + 1) cs = some [] := by
  unfold readAllLines
  rw [hnothing]

theorem readAllLines_succ (hsomething : skipSpace cs ≠ []) (fuel : Nat) :
    readAllLines (fuel + 1) cs =
      (readLine (skipSpace cs)).bind fun read => (readAllLines fuel read.2).map (read.1 :: ·) := by
  rw [readAllLines]
  split
  · contradiction
  · cases readLine (skipSpace cs) with
    | none => rfl
    | some read => cases h : readAllLines fuel read.2 <;> simp [h]

theorem skipSpace_of_head {c : Char} (h : cs.head? = some c) (hc : isSpace c = false) :
    skipSpace cs = cs := by
  obtain ⟨others, rfl⟩ := List.head?_eq_some_iff.mp h
  exact List.dropWhile_cons_of_neg (by simp [hc])

theorem skipSpace_append {space : List Char} (h : ∀ c ∈ space, isSpace c = true) (rest : List Char) :
    skipSpace (space ++ rest) = skipSpace rest := List.dropWhile_append_of_pos h

theorem newline?_ending {ending : List Char} (h : ending = [] ∨ ending = ['\r']) (rest : List Char) :
    newline? (ending ++ '\n' :: rest) = some rest := by
  rcases h with rfl | rfl <;> rfl

theorem newline?_eq_some (h : newline? cs = some rest) :
    ∃ ending, (ending = [] ∨ ending = ['\r']) ∧ cs = ending ++ '\n' :: rest := by
  unfold newline? at h
  split at h
  · obtain rfl := Option.some.inj h
    exact ⟨[], .inl rfl, rfl⟩
  · obtain rfl := Option.some.inj h
    exact ⟨['\r'], .inr rfl, rfl⟩
  · cases h

theorem head?_ending {ending : List Char} (h : ending = [] ∨ ending = ['\r']) (rest : List Char) :
    ∃ c, (ending ++ '\n' :: rest).head? = some c ∧ (c = '\r' ∨ c = '\n') := by
  rcases h with rfl | rfl
  · exact ⟨'\n', rfl, .inr rfl⟩
  · exact ⟨'\r', rfl, .inl rfl⟩

theorem readLine_commentLine (hcomment' : IsCommentLine line) (rest : List Char) :
    readLine (skipSpace (line ++ '\n' :: rest)) = some (.blank, rest) := by
  obtain ⟨space, comment, ending, rfl, hspace, hcomment, hending⟩ := hcomment'
  rw [List.append_assoc, skipSpace_append hspace, List.append_assoc]
  obtain ⟨c, hhead, hc⟩ := head?_ending hending rest
  have hstop : isSpace c = false ∧ isContent c = false := by
    rcases hc with rfl | rfl <;> decide
  have hbreak := newline?_ending hending rest
  obtain ⟨more, hmore⟩ := List.head?_eq_some_iff.mp hhead
  rw [hmore] at hbreak ⊢
  have hpassed : ∀ start, skipComment (skipSpace start) = c :: more → endOfLine? start = some rest := by
    intro start hstart
    unfold endOfLine?
    rw [hstart]
    exact hbreak
  rcases hcomment with rfl | ⟨said, rfl, hsaid⟩
  · have hspace : skipSpace (c :: more) = c :: more := skipSpace_of_head rfl hstop.1
    have hends := hpassed (c :: more) (by rcases hc with rfl | rfl <;> rw [hspace] <;> rfl)
    rw [List.nil_append, hspace]
    rcases hc with rfl | rfl
    all_goals
      unfold readLine
      rw [hends]
      rfl
  · have hends := hpassed ('#' :: (said ++ c :: more)) (by
      show (said ++ c :: more).dropWhile isContent = c :: more
      rw [List.dropWhile_append_of_pos hsaid]
      exact List.dropWhile_cons_of_neg (by simp [hstop.2]))
    show readLine ('#' :: (said ++ c :: more)) = _
    unfold readLine
    rw [hends]
    rfl

theorem readAllLines_commentLine (hcomment : IsCommentLine line) (fuel : Nat) (rest : List Char) :
    readAllLines (fuel + 1) (line ++ '\n' :: rest) = (readAllLines fuel rest).map (Line.blank :: ·) := by
  have hpassed := readLine_commentLine hcomment rest
  have hsomething : skipSpace (line ++ '\n' :: rest) ≠ [] :=
    List.ne_nil_of_mem ((WithinLine.skipSpace _).mem (by simp))
  rw [readAllLines_succ hsomething, hpassed]
  rfl

theorem IsCommentLine.oneLine (h : IsCommentLine line) : '\n' ∉ line := by
  obtain ⟨space, comment, ending, rfl, hspace, hcomment, hending⟩ := h
  refine List.not_mem_append (fun hmem => absurd (hspace _ hmem) (by decide)) (List.not_mem_append ?_ ?_)
  · rcases hcomment with rfl | ⟨said, rfl, hsaid⟩
    · exact List.not_mem_nil
    · refine List.not_mem_cons_of_ne_of_not_mem (by decide) fun hmem => ?_
      exact absurd (hsaid _ hmem) (by decide)
  · rcases hending with rfl | rfl <;> decide

theorem skipComment_eq (cs : List Char) : ∃ comment, cs = comment ++ skipComment cs ∧
    (comment = [] ∨ ∃ said, comment = '#' :: said ∧ ∀ c ∈ said, isContent c = true) := by
  unfold skipComment
  split
  · next said =>
    refine ⟨'#' :: said.takeWhile isContent, ?_, .inr ⟨_, rfl, ?_⟩⟩
    · rw [List.cons_append, List.takeWhile_append_dropWhile]
    · exact List.all_eq_true.mp List.all_takeWhile
  · exact ⟨[], rfl, .inl rfl⟩

theorem commentLine_of_endOfLine? (h : endOfLine? cs = some rest) (hbreak : '\n' ∈ cs) :
    ∃ line, IsCommentLine line ∧ cs = line ++ '\n' :: rest := by
  obtain ⟨comment, hcomment, hsaid⟩ := skipComment_eq (skipSpace cs)
  have hcs : cs = cs.takeWhile isSpace ++ (comment ++ skipComment (skipSpace cs)) := by
    rw [← hcomment]
    exact List.takeWhile_append_dropWhile.symm
  have hleft := (WithinLine.skipComment _).mem ((WithinLine.skipSpace cs).mem hbreak)
  unfold endOfLine? at h
  split at h
  · next hnone => simp [hnone] at hleft
  · obtain ⟨ending, hending, hnext⟩ := newline?_eq_some h
    rw [hnext] at hcs
    refine ⟨cs.takeWhile isSpace ++ (comment ++ ending), ⟨cs.takeWhile isSpace, comment, ending, rfl,
      List.all_eq_true.mp List.all_takeWhile, hsaid, hending⟩, ?_⟩
    rw [List.append_assoc, List.append_assoc]
    exact hcs

theorem commentLine_of_readLine (h : readLine (skipSpace cs) = some (.blank, rest))
    (hbreak : '\n' ∈ cs) : ∃ line, IsCommentLine line ∧ cs = line ++ '\n' :: rest := by
  have hleft := (WithinLine.skipSpace cs).mem hbreak
  have hends : endOfLine? (skipSpace cs) = some rest := by
    generalize skipSpace cs = start at h hleft
    unfold readLine at h
    split at h
    · simp at hleft
    · simpa using h
    · simpa using h
    · simpa using h
    · obtain ⟨_, -, h⟩ := Option.bind_eq_some_iff.mp h
      obtain ⟨_, -, h⟩ := Option.bind_eq_some_iff.mp h
      simp [pure] at h
    · obtain ⟨_, -, h⟩ := Option.bind_eq_some_iff.mp h
      obtain ⟨_, -, h⟩ := Option.bind_eq_some_iff.mp h
      simp [pure] at h
  obtain ⟨line, ⟨space, comment, ending, rfl, hspace, hrest⟩, hline⟩ :=
    commentLine_of_endOfLine? hends hleft
  refine ⟨_, ⟨cs.takeWhile isSpace ++ space, comment, ending, rfl, ?_, hrest⟩, ?_⟩
  · exact List.forall_mem_append.mpr ⟨List.all_eq_true.mp List.all_takeWhile, hspace⟩
  · rw [List.append_assoc _ space, List.append_assoc, ← hline]
    exact List.takeWhile_append_dropWhile.symm

/-! ## Many lines -/

theorem readAllLines_mono (h : readAllLines fuel cs = some lines) (more : Nat) :
    readAllLines (fuel + more) cs = some lines := by
  induction fuel generalizing cs lines with
  | zero => cases h
  | succ fuel ih =>
    rw [Nat.add_right_comm]
    by_cases hnothing : skipSpace cs = []
    · rw [readAllLines_nil hnothing] at h ⊢
      exact h
    · rw [readAllLines_succ hnothing] at h ⊢
      obtain ⟨⟨line, rest⟩, hread, h⟩ := Option.bind_eq_some_iff.mp h
      obtain ⟨others, hfollowing, rfl⟩ := Option.map_eq_some_iff.mp h
      rw [hread, Option.bind_some, ih hfollowing]
      rfl

theorem splitSections_blanks (n : Nat) (lines : List Line) :
    splitSections (List.replicate n .blank ++ lines) = splitSections lines := by
  induction n with
  | zero => rfl
  | succ n ih => exact ih

theorem readAllLines_comments {texts : List (List Char)} (hcomments : ∀ line ∈ texts, IsCommentLine line)
    (fuel : Nat) (rest : List Char) :
    readAllLines (fuel + texts.length) (texts.flatMap (· ++ ['\n']) ++ rest) =
      (readAllLines fuel rest).map (List.replicate texts.length .blank ++ ·) := by
  induction texts with
  | nil => exact Option.map_id'.symm
  | cons line texts ih =>
    obtain ⟨hhere, hcomments⟩ := List.forall_mem_cons.mp hcomments
    rw [List.flatMap_cons, List.append_assoc, List.append_assoc, List.singleton_append,
      List.length_cons, ← Nat.add_assoc, readAllLines_commentLine hhere, ih hcomments, Option.map_map]
    rfl

/-! ## Whole texts -/

theorem read_eq {source : String} (hnoMark : source.toList.head? ≠ some '\uFEFF') :
    read source = (readAllLines (source.toList.length + 1) source.toList).bind fun lines =>
      (assemble (splitSections lines).1 (splitSections lines).2).map (·.document) := by
  unfold read
  simp only [if_neg hnoMark]
  cases readAllLines (source.toList.length + 1) source.toList with
  | none => rfl
  | some lines => cases h : assemble (splitSections lines).1 (splitSections lines).2 <;> simp [h]

theorem readAllLines_behind (hcomment : IsComment text) (rest : List Char) :
    readAllLines (('#' :: text ++ '\n' :: rest).length + 1) ('#' :: text ++ '\n' :: rest) =
      (readAllLines (text.length - text.count '\n' + rest.length + 2) rest).map
        (List.replicate (text.count '\n' + 1) .blank ++ ·) := by
  have hwhole : (splitOn '\n' ('#' :: text)).flatMap (· ++ ['\n']) ++ rest =
      '#' :: text ++ '\n' :: rest := by
    rw [flatMap_splitOn_concat]
    simp
  have hnumber : (splitOn '\n' ('#' :: text)).length = text.count '\n' + 1 := by
    rw [length_splitOn]
    simp
  have hfewer : text.count '\n' ≤ text.length := List.count_le_length
  have hfuel : ('#' :: text ++ '\n' :: rest).length + 1 =
      text.length - text.count '\n' + rest.length + 2 + (splitOn '\n' ('#' :: text)).length := by
    simp only [hnumber, List.length_append, List.length_cons]
    omega
  have hpassed := readAllLines_comments hcomment (text.length - text.count '\n' + rest.length + 2) rest
  rwa [hwhole, ← hfuel, hnumber] at hpassed

/-- A text behind a comment says what it says alone. -/
theorem read_behind_comment {d : Document} (hcomment : IsComment text)
    (hnoMark : rest.head? ≠ some '\uFEFF') (hsaid : read (String.ofList rest) = some d) :
    read (String.ofList ('#' :: text ++ '\n' :: rest)) = some d := by
  obtain ⟨extra, hfuel⟩ : ∃ extra, text.length - text.count '\n' + rest.length + 2 =
      rest.length + 1 + extra :=
    Nat.exists_eq_add_of_le (by omega)
  rw [read_eq (by simpa using hnoMark), String.toList_ofList] at hsaid
  obtain ⟨lines, halone, hsaid⟩ := Option.bind_eq_some_iff.mp hsaid
  rw [read_eq (by simp), String.toList_ofList, readAllLines_behind hcomment, hfuel,
    readAllLines_mono halone extra, Option.map_some, Option.bind_some, splitSections_blanks]
  exact hsaid

theorem commentLine_of_read {d : Document} (hline : '\n' ∉ text)
    (h : read (String.ofList ('#' :: text ++ '\n' :: rest)) = some d) : IsCommentLine ('#' :: text) := by
  rw [read_eq (by simp), String.toList_ofList, readAllLines_succ (by exact List.cons_ne_nil _ _)] at h
  obtain ⟨lines, hlines, -⟩ := Option.bind_eq_some_iff.mp h
  obtain ⟨⟨line, left⟩, hread, -⟩ := Option.bind_eq_some_iff.mp hlines
  have hblank : line = .blank := by
    obtain ⟨_, -, hsame⟩ := Option.map_eq_some_iff.mp hread
    exact (Prod.mk.inj hsame).1.symm
  subst hblank
  obtain ⟨shown, hshown, hsame⟩ := commentLine_of_readLine hread (by simp)
  have hfirst : '\n' ∉ '#' :: text := List.not_mem_cons_of_ne_of_not_mem (by decide) hline
  have hsplit := congrArg (splitOn '\n') hsame
  rw [splitOn_append, splitOn_append, splitOn_eq_self hfirst, splitOn_eq_self hshown.oneLine] at hsplit
  rwa [(List.cons.inj hsplit).1]

theorem isCommentLine_mark_iff : IsCommentLine ('#' :: text) ↔ ∃ said ending, text = said ++ ending ∧
    (∀ c ∈ said, isContent c = true) ∧ (ending = [] ∨ ending = ['\r']) := by
  constructor
  · rintro ⟨space, comment, ending, hsame, hspace, hcomment, hending⟩
    cases space with
    | cons c space =>
      obtain ⟨rfl, -⟩ := List.cons.inj hsame
      exact absurd (hspace '#' List.mem_cons_self) (by decide)
    | nil =>
      rcases hcomment with rfl | ⟨said, rfl, hsaid⟩
      · rcases hending with rfl | rfl <;> simp at hsame
      · exact ⟨said, ending, (List.cons.inj hsame).2, hsaid, hending⟩
  · rintro ⟨said, ending, rfl, hsaid, hending⟩
    exact ⟨[], '#' :: said, ending, rfl, nofun, .inr ⟨said, rfl, hsaid⟩, hending⟩

theorem isComment_iff (hline : '\n' ∉ text) (hreturn : text.getLast? ≠ some '\r') :
    IsComment text ↔ ∀ c ∈ text, isContent c = true := by
  have hfirst : '\n' ∉ '#' :: text := List.not_mem_cons_of_ne_of_not_mem (by decide) hline
  unfold IsComment
  rw [splitOn_eq_self hfirst, List.forall_mem_singleton, isCommentLine_mark_iff]
  constructor
  · rintro ⟨said, ending, rfl, hsaid, rfl | rfl⟩
    · rwa [List.append_nil]
    · simp at hreturn
  · intro hcontent
    exact ⟨text, [], (List.append_nil text).symm, hcontent, .inl rfl⟩

theorem isComment_append {intro : List Char} (hcontent : ∀ c ∈ intro, isContent c = true) :
    IsComment (intro ++ text) ↔ IsComment text := by
  have hline : '\n' ∉ '#' :: intro := by
    refine List.not_mem_cons_of_ne_of_not_mem (by decide) fun hmem => ?_
    exact absurd (hcontent _ hmem) (by decide)
  obtain ⟨piece, pieces, hsplit⟩ := List.exists_cons_of_ne_nil (splitOn_ne_nil '\n' text)
  have hbefore : splitOn '\n' ('#' :: text) = ('#' :: piece) :: pieces :=
    splitOn_append_of_not_mem (show '\n' ∉ ['#'] by decide) hsplit
  have hafter : splitOn '\n' ('#' :: (intro ++ text)) = ('#' :: (intro ++ piece)) :: pieces :=
    splitOn_append_of_not_mem hline hsplit
  unfold IsComment
  rw [hbefore, hafter, List.forall_mem_cons, List.forall_mem_cons, isCommentLine_mark_iff,
    isCommentLine_mark_iff]
  refine and_congr_left fun _ => ⟨?_, ?_⟩
  · rintro ⟨said, ending, hsame, hsaid, hending⟩
    rcases List.append_eq_append_iff.mp hsame with ⟨more, rfl, rfl⟩ | ⟨more, rfl, hmore⟩
    · exact ⟨more, ending, rfl, fun c hc => hsaid c (List.mem_append_right _ hc), hending⟩
    · -- The carriage return stands behind what is in front.
      rcases hending with rfl | rfl
      · obtain ⟨rfl, rfl⟩ := List.append_eq_nil_iff.mp hmore.symm
        exact ⟨[], [], rfl, nofun, .inl rfl⟩
      · cases more with
        | nil => exact ⟨[], ['\r'], hmore.symm, nofun, .inr rfl⟩
        | cons c more =>
          obtain ⟨rfl, -⟩ := List.cons.inj hmore
          exact absurd (hcontent '\r' (by simp)) (by decide)
  · rintro ⟨said, ending, rfl, hsaid, hending⟩
    refine ⟨intro ++ said, ending, (List.append_assoc ..).symm, ?_, hending⟩
    exact List.forall_mem_append.mpr ⟨hcontent, hsaid⟩

end SchemaMigration.Toml
