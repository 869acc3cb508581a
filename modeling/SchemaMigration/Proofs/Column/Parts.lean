import SchemaMigration.Proofs.Column.Accepted
import SchemaMigration.Proofs.Column.TopLevel
import SchemaMigration.Proofs.Text.Search

/-!
# The parts of a definition

What is read as a column is its type, blanks, and modifiers that fill the rest of the text:
nothing is dropped and nothing is made up. Conversely a text of such parts is read as the
column they stand for.
-/

namespace SchemaMigration.Column

open Text

variable {cs name rest body type : List Char} {segments : List Segment}

/-- Modifiers that stand one after the other, up to the end of the text. -/
inductive Fills : List Segment → List Char → Prop
  | nil : Fills [] []
  | cons {before after rest : List Char} {s : Segment} {segments : List Segment}
      (blankBefore : ∀ c ∈ before, isAsciiBlank c = true)
      (blankAfter : ∀ c ∈ after, isAsciiBlank c = true) (named : IsName s.name)
      (group : ∀ body ∈ s.args, CutAt ')' body rest) (fills : Fills segments rest) :
      Fills (s :: segments) (before ++ ':' :: (after ++ (s.text ++ rest)))

/-- A type text, with the name and the arguments it is read as. -/
inductive TypeParts : List Char → List Char → Option (List Char) → Prop
  | single (s : Segment) (named : IsName s.name) (group : ∀ body ∈ s.args, CutAt ')' body []) :
      TypeParts s.text s.name s.args
  /-- More words follow; then the whole text is the name. -/
  | words (s : Segment) {gap more : List Char} (named : IsName s.name)
      (group : ∀ body ∈ s.args, CutAt ')' body (gap ++ more)) (gapped : gap ≠ [])
      (blank : ∀ c ∈ gap, isBlank c = true) (nonempty : more ≠ []) (trimmed : Trimmed more)
      (nests : Nests 0 (s.text ++ (gap ++ more))) :
      TypeParts (s.text ++ (gap ++ more)) (s.text ++ (gap ++ more)) none

/-- The type ends at the first colon, if there is one. -/
def TypeEnds (type : List Char) : List Char → Prop
  | [] => ∀ p q, type = p ++ ':' :: q → ¬Closed true p ∧ ¬Closed false p
  | c :: rest => c = ':' ∧ CutAt ':' type rest

/-- The trimmed text is the type of the column, blanks, and modifiers with nothing between
them or after them. Their fold is what the column says of them. -/
structure Parts (text : List Char) (column : ColumnDef) (gap rest : List Char)
    (segments : List Segment) : Prop where
  whole : trim text = column.typeDef.toList ++ (gap ++ rest)
  blank : ∀ c ∈ gap, isBlank c = true
  typeEnds : TypeEnds (column.typeDef.toList ++ gap) rest
  type : TypeParts column.typeDef.toList column.typeName.toList
    (column.typeArgs.map String.toList)
  modifiers : Fills segments rest
  folded : column.modifiers = segments.foldl applySegment {}
  summed : column.modifiers = summary segments

/-! ## Names and groups -/

theorem takeWhile_dropWhile_blank (cs : List Char) : ∃ blanks, (∀ c ∈ blanks, isAsciiBlank c = true) ∧
    cs = blanks ++ cs.dropWhile isAsciiBlank :=
  ⟨cs.takeWhile isAsciiBlank, fun _ hmem => List.mem_takeWhile_imp hmem,
    List.takeWhile_append_dropWhile.symm⟩

theorem IsName.isAsciiBlank_head (hnamed : IsName name) (rest : List Char) :
    ∀ c ∈ (name ++ rest).head?, ¬isAsciiBlank c = true := by
  obtain ⟨d, others, rfl⟩ := List.exists_cons_of_ne_nil hnamed.nonempty
  rintro c hfirst hblank
  obtain rfl : d = c := by simpa using hfirst
  have hword := isBlank_of_isWordChar (hnamed.word d List.mem_cons_self)
  rw [isBlank_of_isAsciiBlank hblank] at hword
  cases hword

theorem readName?_eq_some_iff : readName? cs = some (name, rest) ↔
    IsName name ∧ (∀ c ∈ rest.head?, isWordChar c = false) ∧
      ∃ before after, (∀ c ∈ before, isAsciiBlank c = true) ∧ (∀ c ∈ after, isAsciiBlank c = true) ∧
        cs = before ++ ':' :: (after ++ (name ++ rest)) := by
  constructor
  · intro hfound
    rw [readName?] at hfound
    split at hfound
    swap
    · cases hfound
    next tail hcolon =>
    dsimp only at hfound
    split at hfound
    · cases hfound
    next hnonempty =>
    obtain ⟨hnamed, hleft⟩ := Prod.mk.inj (Option.some.inj hfound)
    have hspanned : (tail.dropWhile isAsciiBlank).span isWordChar = (name, rest) := by
      rw [List.span_eq_takeWhile_dropWhile, hnamed, hleft]
    obtain ⟨htext, hword, hstops⟩ := span_eq_iff.mp hspanned
    obtain ⟨before, hblankBefore, hfirst⟩ := takeWhile_dropWhile_blank cs
    obtain ⟨after, hblankAfter, hsecond⟩ := takeWhile_dropWhile_blank tail
    rw [htext] at hsecond
    rw [hcolon, hsecond] at hfirst
    exact ⟨⟨hnamed ▸ hnonempty, hword⟩, hstops, before, after, hblankBefore, hblankAfter, hfirst⟩
  · rintro ⟨hnamed, hstops, before, after, hblankBefore, hblankAfter, rfl⟩
    have hspanned := span_eq_iff.mpr ⟨rfl, hnamed.word, hstops⟩
    rw [List.span_eq_takeWhile_dropWhile, Prod.mk.injEq] at hspanned
    have hstart : (name ++ rest).dropWhile isAsciiBlank = name ++ rest := by
      have hnoBlank := hnamed.isAsciiBlank_head rest
      cases h : name ++ rest with
      | nil => rfl
      | cons c others => exact List.dropWhile_cons_of_neg (hnoBlank c (by rw [h]; rfl))
    rw [readName?, List.dropWhile_append_of_pos hblankBefore, List.dropWhile_cons_of_neg (by decide)]
    simp only [List.dropWhile_append_of_pos hblankAfter, hstart, hspanned, hnamed.nonempty, if_false]

theorem readGroup_eq_absent (hother : ∀ c ∈ cs.head?, c ≠ '(') : readGroup cs = .absent := by
  unfold readGroup
  split
  · exact absurd rfl (hother '(' rfl)
  · rfl

theorem readGroup_eq_closed_iff : readGroup cs = .closed body rest ↔
    cs = '(' :: (body ++ ')' :: rest) ∧ CutAt ')' body rest := by
  constructor
  · intro hclosed
    unfold readGroup at hclosed
    split at hclosed
    · split at hclosed
      · next hfound =>
        obtain ⟨rfl, rfl⟩ := Group.closed.inj hclosed
        obtain ⟨rfl, hcut⟩ := (findTopLevel?_eq_some_iff (by decide)).mp hfound
        exact ⟨rfl, hcut⟩
      · cases hclosed
    · cases hclosed
  · rintro ⟨rfl, hcut⟩
    rw [readGroup, (findTopLevel?_eq_some_iff (by decide)).mpr ⟨rfl, hcut⟩]

/-! ## The modifiers -/

theorem readSegments_eq (cs : List Char) : readSegments cs =
    match readName? cs with
    | none => .ok ([], cs)
    | some (name, afterName) =>
      match readGroup afterName with
      | .unclosed => .error (.unbalanced (String.ofList afterName))
      | .absent => do
        let (segments, rest) ← readSegments afterName
        return (⟨name, none⟩ :: segments, rest)
      | .closed body afterGroup => do
        let (segments, rest) ← readSegments afterGroup
        return (⟨name, some body⟩ :: segments, rest) := by
  rw [readSegments]
  split
  · next hnone => rw [hnone]
  · next name afterName hnamed =>
    rw [hnamed]
    dsimp only
    split
    · next hunclosed => rw [hunclosed]
    · next habsent => rw [habsent]
    · next hclosed => rw [hclosed]

theorem getLast?_of_suffix {tail : List Char} (hsuffix : tail <:+ cs) {c : Char}
    (hlast : c ∈ tail.getLast?) : c ∈ cs.getLast? := by
  obtain ⟨front, rfl⟩ := hsuffix
  exact List.mem_getLast?_append_of_mem_getLast? hlast

theorem fills_of_readSegments (hread : readSegments cs = .ok (segments, rest))
    (hleft : rest.dropWhile isAsciiBlank = []) (hlast : ∀ c ∈ cs.getLast?, isBlank c = false) :
    Fills segments cs := by
  induction cs using readSegments.induct generalizing segments with
  | case1 cs hnone =>
    rw [readSegments_of_none hnone] at hread
    obtain ⟨rfl, rfl⟩ := Prod.mk.inj (Except.ok.inj hread)
    rcases List.eq_nil_or_concat cs with rfl | ⟨front, c, rfl⟩
    · exact .nil
    · have hblank := List.dropWhile_eq_nil_iff.mp hleft c (by simp)
      have hnoBlank := hlast c (by simp)
      rw [isBlank_of_isAsciiBlank hblank] at hnoBlank
      cases hnoBlank
  | case2 cs name afterName hnamed hunclosed =>
    rw [readSegments_eq, hnamed] at hread
    simp [hunclosed] at hread
  | case3 cs name afterName hnamed habsent ih =>
    rw [readSegments_eq, hnamed] at hread
    simp only [habsent] at hread
    obtain ⟨⟨others, rest'⟩, hreadOthers, hread⟩ := bind_eq_ok.mp hread
    obtain ⟨rfl, rfl⟩ := Prod.mk.inj (Except.ok.inj hread)
    obtain ⟨hisName, -, before, after, hblankBefore, hblankAfter, rfl⟩ := readName?_eq_some_iff.mp hnamed
    have hfills := ih hreadOthers fun c hmem => hlast c <|
      getLast?_of_suffix ⟨before ++ ':' :: (after ++ name), by simp⟩ hmem
    have htext : (Segment.mk name none).text ++ afterName = name ++ afterName := by
      simp [Segment.text, Segment.group]
    rw [← htext]
    exact .cons hblankBefore hblankAfter hisName (by simp) hfills
  | case4 cs name afterName hnamed body afterGroup hclosed ih =>
    rw [readSegments_eq, hnamed] at hread
    simp only [hclosed] at hread
    obtain ⟨⟨others, rest'⟩, hreadOthers, hread⟩ := bind_eq_ok.mp hread
    obtain ⟨rfl, rfl⟩ := Prod.mk.inj (Except.ok.inj hread)
    obtain ⟨hisName, -, before, after, hblankBefore, hblankAfter, rfl⟩ := readName?_eq_some_iff.mp hnamed
    obtain ⟨rfl, hcut⟩ := readGroup_eq_closed_iff.mp hclosed
    have hfills := ih hreadOthers fun c hmem => hlast c <|
      getLast?_of_suffix ⟨before ++ ':' :: (after ++ (name ++ '(' :: (body ++ [')']))), by simp⟩ hmem
    have htext : (Segment.mk name (some body)).text ++ afterGroup =
        name ++ '(' :: (body ++ ')' :: afterGroup) := by
      simp [Segment.text, Segment.group]
    rw [← htext]
    exact .cons hblankBefore hblankAfter hisName (by simpa using hcut) hfills

theorem Fills.stops (hfills : Fills segments cs) : Stops cs := by
  cases hfills with
  | nil => exact stops_nil
  | @cons before after rest s segments hblankBefore hblankAfter hnamed hgroup hfills =>
    exact stops_blanks ⟨before, fun c hmem => isBlank_of_isAsciiBlank (hblankBefore c hmem)⟩ _

theorem Fills.readSegments_eq (hfills : Fills segments cs) : readSegments cs = .ok (segments, []) := by
  induction hfills with
  | nil => exact readSegments_of_none rfl
  | @cons before after rest s segments hblankBefore hblankAfter hnamed hgroup hfills ih =>
    obtain ⟨name, args⟩ := s
    have hstops : ∀ c ∈ rest.head?, isWordChar c = false := fun c hfirst => (hfills.stops c hfirst).1
    have hread : readName? (before ++ ':' :: (after ++ ((Segment.mk name args).text ++ rest))) =
        some (name, (Segment.mk name args).group ++ rest) := by
      rw [Segment.text, List.append_assoc]
      exact readName?_eq_some_iff.mpr
        ⟨hnamed, Segment.head?_group hstops, before, after, hblankBefore, hblankAfter, rfl⟩
    rw [Column.readSegments_eq, hread]
    cases args with
    | none =>
      have habsent : readGroup ((Segment.mk name none).group ++ rest) = .absent :=
        readGroup_eq_absent fun c hfirst => (hfills.stops c hfirst).2
      have hnoGroup : (Segment.mk name none).group ++ rest = rest := rfl
      simp only [habsent]
      rw [hnoGroup, ih]
      rfl
    | some body =>
      have hclosed : readGroup ((Segment.mk name (some body)).group ++ rest) = .closed body rest :=
        readGroup_eq_closed_iff.mpr ⟨by simp [Segment.group], hgroup body rfl⟩
      simp only [hclosed]
      rw [ih]
      rfl

/-! ## The type -/

theorem splitType_eq_iff {text : List Char} :
    splitType text = (type, rest) ↔ text = type ++ rest ∧ TypeEnds type rest := by
  rw [splitType]
  cases hfound : findTopLevel? ':' text with
  | none =>
    have hnever := (findTopLevel?_eq_none_iff (by decide)).mp hfound
    constructor
    · intro hsame
      obtain ⟨rfl, rfl⟩ := Prod.mk.inj hsame
      exact ⟨(List.append_nil _).symm, hnever⟩
    · rintro ⟨rfl, hends⟩
      cases rest with
      | nil => rw [List.append_nil]
      | cons c rest =>
        obtain ⟨rfl, hcut⟩ := hends
        rw [(findTopLevel?_eq_some_iff (by decide)).mpr ⟨rfl, hcut⟩] at hfound
        cases hfound
  | some parts =>
    obtain ⟨before, after⟩ := parts
    obtain ⟨rfl, hcut⟩ := (findTopLevel?_eq_some_iff (by decide)).mp hfound
    constructor
    · intro hsame
      obtain ⟨rfl, rfl⟩ := Prod.mk.inj hsame
      exact ⟨rfl, rfl, hcut⟩
    · rintro ⟨hsame, hends⟩
      cases rest with
      | nil =>
        rw [List.append_nil] at hsame
        rw [(findTopLevel?_eq_none_iff (by decide)).mpr (hsame ▸ hends)] at hfound
        cases hfound
      | cons c rest =>
        obtain ⟨rfl, hcut'⟩ := hends
        rw [(findTopLevel?_eq_some_iff (by decide)).mpr ⟨hsame, hcut'⟩] at hfound
        obtain ⟨rfl, rfl⟩ := Prod.mk.inj (Option.some.inj hfound)
        rfl

theorem exists_gap {c : Char} (hblank : isBlank c = true)
    (hlast : ∀ d ∈ (c :: cs).getLast?, isBlank d = false) :
    ∃ gap more, c :: cs = gap ++ more ∧ gap ≠ [] ∧ (∀ d ∈ gap, isBlank d = true) ∧ more ≠ [] ∧
      Trimmed more := by
  obtain ⟨hwhole, hblanks, hstops⟩ :=
    span_eq_iff.mp (List.span_eq_takeWhile_dropWhile (p := isBlank) (l := c :: cs))
  have hnonempty : (c :: cs).dropWhile isBlank ≠ [] := by
    intro hnone
    obtain ⟨front, d, hsame⟩ := (List.eq_nil_or_concat (c :: cs)).resolve_left (by simp)
    have hdBlank := List.dropWhile_eq_nil_iff.mp hnone d (by simp [hsame])
    rw [hlast d (by simp [hsame])] at hdBlank
    cases hdBlank
  refine ⟨_, _, hwhole, ?_, hblanks, hnonempty, hstops, ?_⟩
  · simp [hblank]
  · exact fun d hmem => hlast d (getLast?_of_suffix ⟨_, hwhole.symm⟩ hmem)

/-- The name of a type and its group, and what follows them. -/
structure Heads (s : Segment) (tail : List Char) : Prop where
  named : IsName s.name
  group : ∀ body ∈ s.args, CutAt ')' body tail
  stops : ∀ c ∈ (s.group ++ tail).head?, isWordChar c = false
  noGroup : s.args = none → ∀ c ∈ tail.head?, c ≠ '('

theorem Heads.readType_eq {s : Segment} {tail : List Char} (hheads : Heads s tail) :
    readType (s.text ++ tail) =
      match tail with
      | [] => .ok (s.name, s.args)
      | c :: rest =>
        if isBlank c ∧ balanced (s.text ++ tail) then .ok (s.text ++ tail, none)
        else .error (.unexpected (String.ofList (c :: rest)) (String.ofList (s.text ++ tail))) := by
  obtain ⟨name, args⟩ := s
  obtain ⟨hnamed, hgroup, hstops, hnoGroup⟩ := hheads
  have hspanned : ((Segment.mk name args).text ++ tail).span isWordChar =
      (name, (Segment.mk name args).group ++ tail) := by
    rw [Segment.text, List.append_assoc]
    exact span_eq_iff.mpr ⟨rfl, hnamed.word, hstops⟩
  rw [readType, hspanned]
  dsimp only
  rw [if_neg hnamed.nonempty]
  cases args with
  | none =>
    have habsent : readGroup tail = .absent := readGroup_eq_absent (hnoGroup rfl)
    have hnothing : (Segment.mk name none).group ++ tail = tail := rfl
    rw [hnothing, habsent]
    cases tail <;> rfl
  | some body =>
    have hclosed : readGroup ((Segment.mk name (some body)).group ++ tail) = .closed body tail :=
      readGroup_eq_closed_iff.mpr ⟨by simp [Segment.group], hgroup body rfl⟩
    rw [hclosed]
    cases tail <;> rfl

theorem exists_heads {column : List Char × Option (List Char)} (hread : readType type = .ok column) :
    ∃ s tail, type = Segment.text s ++ tail ∧ Heads s tail := by
  rcases hspanned : type.span isWordChar with ⟨name, after⟩
  obtain ⟨rfl, hword, hstops⟩ := span_eq_iff.mp hspanned
  rw [readType, hspanned] at hread
  dsimp only at hread
  split at hread
  · cases hread
  next hnonempty =>
  cases hgroup : readGroup after with
  | unclosed => simp [hgroup] at hread
  | absent =>
    refine ⟨⟨name, none⟩, after, by simp [Segment.text, Segment.group], ⟨hnonempty, hword⟩, by simp,
      hstops, ?_⟩
    rintro - c hfirst rfl
    obtain ⟨others, rfl⟩ : ∃ others, after = '(' :: others := by
      cases after with
      | nil => cases hfirst
      | cons d others => exact ⟨others, by rw [Option.some.inj hfirst]⟩
    rw [readGroup] at hgroup
    split at hgroup <;> cases hgroup
  | closed body tail =>
    obtain ⟨rfl, hcut⟩ := readGroup_eq_closed_iff.mp hgroup
    refine ⟨⟨name, some body⟩, tail, by simp [Segment.text, Segment.group], ⟨hnonempty, hword⟩,
      by simpa using hcut, ?_, by simp⟩
    simpa [Segment.group] using hstops

theorem readType_eq_ok_iff {args : Option (List Char)} (htrimmed : Trimmed type) :
    readType type = .ok (name, args) ↔ TypeParts type name args := by
  constructor
  · intro hread
    obtain ⟨s, tail, rfl, hheads⟩ := exists_heads hread
    rw [hheads.readType_eq] at hread
    cases tail with
    | nil =>
      obtain ⟨rfl, rfl⟩ := Prod.mk.inj (Except.ok.inj hread)
      rw [List.append_nil]
      exact .single s hheads.named hheads.group
    | cons c rest =>
      dsimp only at hread
      split at hread
      · next haccepted =>
        obtain ⟨rfl, rfl⟩ := Prod.mk.inj (Except.ok.inj hread)
        have hlast : ∀ d ∈ (c :: rest).getLast?, isBlank d = false := fun d hmem =>
          htrimmed.last d (getLast?_of_suffix (List.suffix_append _ _) hmem)
        have hnests := balancedFrom_iff.mp haccepted.2
        obtain ⟨gap, more, hsame, hgapped, hblank, hnonempty, htrimmedMore⟩ := exists_gap haccepted.1 hlast
        have hgroup := hheads.group
        rw [hsame] at hnests hgroup ⊢
        exact .words s hheads.named hgroup hgapped hblank hnonempty htrimmedMore hnests
      · cases hread
  · intro hparts
    cases hparts with
    | single s hnamed hgroup =>
      have hheads : Heads s [] := ⟨hnamed, hgroup, Segment.head?_group (by simp), by simp⟩
      have hread := hheads.readType_eq
      rwa [List.append_nil] at hread
    | @words s gap more hnamed hgroup hgapped hblank hnonempty htrimmedMore hnests =>
      obtain ⟨c, others, rfl⟩ := List.exists_cons_of_ne_nil hgapped
      have hfirst := hblank c List.mem_cons_self
      have hheads : Heads s (c :: others ++ more) := by
        refine ⟨hnamed, hgroup, Segment.head?_group ?_, ?_⟩
        · rintro d ⟨⟩
          exact isWordChar_of_isBlank hfirst
        · rintro - d ⟨⟩ rfl
          exact absurd hfirst (by decide)
      have haccepted : balanced (s.text ++ (c :: others ++ more)) = true := balancedFrom_iff.mpr hnests
      rw [hheads.readType_eq]
      exact if_pos ⟨hfirst, haccepted⟩

namespace TypeParts

variable {args : Option (List Char)}

theorem nonempty (hparts : TypeParts type name args) : type ≠ [] := by
  cases hparts with
  | single s hnamed hgroup => simp [Segment.text, hnamed.nonempty]
  | words s hnamed hgroup hgapped hblank hnonempty htrimmed hnests => simp [hnonempty]

theorem trimmed (hparts : TypeParts type name args) : Trimmed type := by
  cases hparts with
  | single s hnamed hgroup => exact Segment.trimmed_text hnamed
  | @words s gap more hnamed hgroup hgapped hblank hnonempty htrimmed hnests =>
    constructor
    · intro c hfirst
      refine (Segment.trimmed_text hnamed).head c ?_
      have hsome : s.text ≠ [] := by simp [Segment.text, hnamed.nonempty]
      rwa [List.head?_append_of_ne_nil _ hsome] at hfirst
    · intro c hlast
      refine htrimmed.last c ?_
      rwa [← List.append_assoc, List.getLast?_append_of_ne_nil _ hnonempty] at hlast

end TypeParts

/-! ## The whole definition -/

theorem exists_trail (hfirst : ∀ c ∈ cs.head?, isBlank c = false) :
    ∃ trail, cs = trim cs ++ trail ∧ ∀ c ∈ trail, isBlank c = true := by
  have hstart : trimStart cs = cs := by
    rw [trimStart]
    cases cs with
    | nil => rfl
    | cons c rest => exact List.dropWhile_cons_of_neg (by simp [hfirst c rfl])
  refine ⟨cs.rtakeWhile isBlank, ?_, fun c hmem => List.mem_rtakeWhile_imp hmem⟩
  rw [trim, hstart, trimEnd_eq, List.rdropWhile_append_rtakeWhile]

theorem exists_parts {text : List Char} {column : ColumnDef} (hread : parseChars text = .ok column) :
    ∃ gap rest segments, Parts text column gap rest segments := by
  obtain ⟨segments, left, name, args, hmodifiers, hblankLeft, htyped, rfl⟩ := parseChars_eq_ok.mp hread
  have htrimmedText := trimmed_trim text
  generalize hsplit : splitType (trim text) = cut at hmodifiers htyped ⊢
  obtain ⟨type, rest⟩ := cut
  obtain ⟨hwhole, hends⟩ := splitType_eq_iff.mp hsplit
  dsimp only at hmodifiers htyped ⊢
  have hparts := (readType_eq_ok_iff (trimmed_trim type)).mp htyped
  have hfirst : ∀ c ∈ type.head?, isBlank c = false := by
    intro c hfirst
    refine htrimmedText.head c ?_
    have hsome : type ≠ [] := by
      rintro rfl
      cases hfirst
    rwa [hwhole, List.head?_append_of_ne_nil _ hsome]
  obtain ⟨gap, htypeText, hblank⟩ := exists_trail hfirst
  have hlast : ∀ c ∈ rest.getLast?, isBlank c = false := fun c hmem =>
    htrimmedText.last c (getLast?_of_suffix ⟨type, hwhole.symm⟩ hmem)
  have hfills := fills_of_readSegments hmodifiers hblankLeft hlast
  refine ⟨gap, rest, segments, ?_, hblank, ?_, ?_, hfills, rfl, modifiersOf_eq segments⟩
  · rw [String.toList_ofList, ← List.append_assoc, ← htypeText, hwhole]
  · rwa [String.toList_ofList, ← htypeText]
  · cases args <;> simpa using hparts

theorem Parts.parseChars_eq {text gap : List Char} {column : ColumnDef}
    (hparts : Parts text column gap rest segments) : parseChars text = .ok column := by
  have hsplit : splitType (trim text) = (column.typeDef.toList ++ gap, rest) :=
    splitType_eq_iff.mpr ⟨by rw [hparts.whole, List.append_assoc], hparts.typeEnds⟩
  have htype : trim (column.typeDef.toList ++ gap) = column.typeDef.toList :=
    hparts.type.trimmed.trim_append hparts.type.nonempty hparts.blank
  have htyped := (readType_eq_ok_iff hparts.type.trimmed).mpr hparts.type
  rw [parseChars_eq_ok, hsplit]
  dsimp only
  rw [htype]
  refine ⟨segments, [], _, _, hparts.modifiers.readSegments_eq, rfl, htyped, ?_⟩
  have hfolded := hparts.folded
  obtain ⟨typeDef, typeName, typeArgs, modifiers⟩ := column
  dsimp only at hfolded
  cases typeArgs <;> simp [hfolded, modifiersOf]

/-- A text is read as a column exactly when it consists of the parts of that column. -/
theorem parse_eq_ok_iff {text : String} {column : ColumnDef} : ColumnDef.parse text = .ok column ↔
    ∃ gap rest segments, Parts text.toList column gap rest segments := by
  constructor
  · exact exists_parts
  · rintro ⟨gap, rest, segments, hparts⟩
    exact hparts.parseChars_eq

end SchemaMigration.Column
