import SchemaMigration.Proofs.Text.Search
import SchemaMigration.Proofs.Url.Decoding
import SchemaMigration.Url.Basic

/-!
# What the path of a URL keeps of a text

A dot segment disappears from a path and never comes back, so a path stands for fewer bytes than a
text that has one. Without dot segments it has all segments of the text, encoded.
-/

namespace SchemaMigration.Url

open Text

def IsDots (segment : List Char) : Prop := isSingleDot segment = true ∨ isDoubleDot segment = true

instance : DecidablePred IsDots := fun segment =>
  inferInstanceAs (Decidable (isSingleDot segment = true ∨ isDoubleDot segment = true))

/-- The bytes that segments stand for, with the slashes before them. -/
def size : List (List Char) → Nat
  | [] => 0
  | segment :: rest => (decoded segment).length + 1 + size rest

variable {cs : List Char} {segment : List Char} {done segments : List (List Char)}

theorem ofList_eq_iff {s : String} : String.ofList cs = s ↔ cs = s.toList := by
  rw [← String.toList_inj, String.toList_ofList]

/-! ## Segments -/

theorem splitOn_flatMap (hnonempty : segments ≠ []) (hnoSlash : ∀ segment ∈ segments, '/' ∉ segment) :
    splitOn '/' ((segments.flatMap ('/' :: ·)).drop 1) = segments := by
  induction segments with
  | nil => contradiction
  | cons segment rest ih =>
    obtain ⟨hhere, hnoSlash⟩ := List.forall_mem_cons.mp hnoSlash
    cases rest with
    | nil => simpa using splitOn_eq_self hhere
    | cons next rest =>
      have hothers := ih (List.cons_ne_nil next rest) hnoSlash
      rw [List.flatMap_cons, List.flatMap_cons] at *
      simp only [List.cons_append, List.drop_succ_cons, List.drop_zero] at *
      rw [splitOn_append, splitOn_eq_self hhere, hothers]
      rfl

theorem decoded_flatMap (segments : List (List Char)) :
    decoded (segments.flatMap ('/' :: ·)) = segments.flatMap fun segment => 0x2F :: decoded segment := by
  induction segments with
  | nil => rfl
  | cons segment rest ih =>
    rw [List.flatMap_cons, List.flatMap_cons, ← ih, List.cons_append, decoded_slash, List.cons_append]
    cases rest with
    | nil => simp [decoded_nil]
    | cons next rest => rw [List.flatMap_cons, List.cons_append, decoded_append_slash, decoded_slash]

theorem length_decoded_flatMap (segments : List (List Char)) :
    (decoded (segments.flatMap ('/' :: ·))).length = size segments := by
  rw [decoded_flatMap]
  induction segments with
  | nil => rfl
  | cons segment segments ih =>
    rw [List.flatMap_cons, List.length_append, ih, List.length_cons]
    rfl

/-! ## Dot segments -/

theorem toLower_cases (c : Char) :
    c.toLower = c ∨ 65 ≤ c.toNat ∧ c.toLower.toNat = c.toNat + 32 := by
  unfold Char.toLower
  split
  · next hcapital =>
    have hleast : 65 ≤ c.val.toNat := UInt32.le_iff_toNat_le.mp hcapital.1
    have hmost : c.val.toNat ≤ 90 := UInt32.le_iff_toNat_le.mp hcapital.2
    have hshift : ('a'.val - 'A'.val).toNat = 32 := by decide
    right
    simp only [Char.toNat, UInt32.toNat_add]
    omega
  · exact .inl rfl

theorem eq_of_toLower {c d : Char} (hsame : c.toLower = d) (hother : d.toNat < 97) : c = d := by
  subst hsame
  rcases toLower_cases c with hsame | ⟨hleast, hhigher⟩
  · exact hsame.symm
  · omega

theorem eq_of_toLower_e {c : Char} (hsame : c.toLower = 'e') : c = 'e' ∨ c = 'E' := by
  rcases toLower_cases c with hlower | ⟨-, hhigher⟩
  · exact .inl (hlower.symm.trans hsame)
  · refine .inr (Char.toNat_inj.mp ?_)
    rw [hsame] at hhigher
    simp at hhigher ⊢
    omega

/-- The spellings of a dot. -/
def dots : List (List Char) := [['.'], ['%', '2', 'e']]

theorem isSingleDot_iff : isSingleDot segment = true ↔ segment.map Char.toLower ∈ dots := by
  simp [isSingleDot, dots, ofList_eq_iff]

theorem isDoubleDot_iff : isDoubleDot segment = true ↔
    ∃ first ∈ dots, ∃ second ∈ dots, segment.map Char.toLower = first ++ second := by
  simp [isDoubleDot, dots, ofList_eq_iff, or_assoc]

theorem decoded_dot {first more : List Char} (hdot : first ∈ dots)
    (hspelled : segment.map Char.toLower = first ++ more) :
    ∃ rest, rest.map Char.toLower = more ∧ decoded segment = 0x2E :: decoded rest := by
  rcases List.mem_pair.mp hdot with rfl | rfl
  · obtain ⟨a, rest, rfl, hpoint, hothers⟩ := List.map_eq_cons_iff.mp hspelled
    obtain rfl := eq_of_toLower hpoint (by decide)
    exact ⟨rest, hothers, decoded_cons_of_ne (by decide) rest⟩
  · obtain ⟨a, others, rfl, hpercent, hspelled⟩ := List.map_eq_cons_iff.mp hspelled
    obtain ⟨b, others, rfl, htwo, hspelled⟩ := List.map_eq_cons_iff.mp hspelled
    obtain ⟨e, rest, rfl, hletter, hothers⟩ := List.map_eq_cons_iff.mp hspelled
    obtain rfl := eq_of_toLower hpercent (by decide)
    obtain rfl := eq_of_toLower htwo (by decide)
    refine ⟨rest, hothers, ?_⟩
    rcases eq_of_toLower_e hletter with rfl | rfl
    · exact decoded_escape rfl rfl
    · exact decoded_escape rfl rfl

theorem IsDots.decoded_eq (h : IsDots segment) :
    decoded segment = utf8 ['.'] ∨ decoded segment = utf8 ['.', '.'] := by
  rcases h with hsingle | hdouble
  · obtain ⟨rest, hnone, hsame⟩ := decoded_dot (isSingleDot_iff.mp hsingle) (List.append_nil _).symm
    obtain rfl := List.map_eq_nil_iff.mp hnone
    exact .inl hsame
  · obtain ⟨first, hdot, second, hdot', hspelled⟩ := isDoubleDot_iff.mp hdouble
    obtain ⟨rest, hothers, hsame⟩ := decoded_dot hdot hspelled
    obtain ⟨rest', hnone, hsame'⟩ := decoded_dot hdot' (hothers.trans (List.append_nil _).symm)
    obtain rfl := List.map_eq_nil_iff.mp hnone
    rw [hsame'] at hsame
    exact .inr hsame

theorem isDots_encode_iff (hplain : ¬HasEscape segment) :
    IsDots (encode pathSet segment) ↔ segment = ['.'] ∨ segment = ['.', '.'] := by
  constructor
  · intro h
    have hspelled := h.decoded_eq
    rw [decoded_encode pathSet_sparesEscapes, decoded_eq_utf8_iff.mpr hplain] at hspelled
    exact hspelled.imp utf8_inj utf8_inj
  · rintro (rfl | rfl)
    · decide +kernel
    · decide +kernel

theorem size_cons (segment : List Char) (rest : List (List Char)) :
    size (segment :: rest) = (decoded segment).length + 1 + size rest := rfl

theorem size_append (segments others : List (List Char)) :
    size (segments ++ others) = size segments + size others := by
  induction segments with
  | nil => simp [size]
  | cons segment segments ih =>
    rw [List.cons_append, size_cons, size_cons, ih]
    omega

theorem size_reverse (segments : List (List Char)) : size segments.reverse = size segments := by
  induction segments with
  | nil => rfl
  | cons segment segments ih =>
    rw [List.reverse_cons, size_append, ih, size_cons, size_cons, size]
    omega

theorem size_shorten_le (done : List (List Char)) : size (shorten done) ≤ size done := by
  cases done with
  | nil => exact le_rfl
  | cons last above =>
    rw [shorten, size_cons]
    split
    · rw [size_cons]
    · omega

theorem resolveSegments_of_noDots (hnoDots : ∀ segment ∈ segments, ¬IsDots segment)
    (hnonempty : segments ≠ []) : resolveSegments done segments = done.reverse ++ segments := by
  fun_induction resolveSegments done segments with
  | case1 => contradiction
  | case2 done last hdouble => exact absurd (.inr hdouble) (hnoDots last List.mem_cons_self)
  | case3 done last _ hsingle => exact absurd (.inl hsingle) (hnoDots last List.mem_cons_self)
  | case4 => rfl
  | case5 done segment rest _ hdouble => exact absurd (.inr hdouble) (hnoDots segment List.mem_cons_self)
  | case6 done segment rest _ _ hsingle => exact absurd (.inl hsingle) (hnoDots segment List.mem_cons_self)
  | case7 done segment rest hmore _ _ ih =>
    rw [ih (fun other hmem => hnoDots other (List.mem_cons_of_mem _ hmem)) (by simpa using hmore)]
    simp

theorem mem_of_mem_shorten (hmem : segment ∈ shorten done) : segment ∈ done := by
  cases done with
  | nil => exact hmem
  | cons last above =>
    rw [shorten] at hmem
    split at hmem
    · exact hmem
    · exact List.mem_cons_of_mem last hmem

theorem mem_resolveSegments (hmem : segment ∈ resolveSegments done segments) :
    segment ∈ done ∨ segment = [] ∨ segment ∈ segments ∧ ¬IsDots segment := by
  fun_induction resolveSegments done segments with
  | case1 done => exact .inl (List.mem_reverse.mp hmem)
  | case2 done last hdouble =>
    rcases List.mem_append.mp hmem with hbefore | hhere
    · exact .inl (mem_of_mem_shorten (List.mem_reverse.mp hbefore))
    · exact .inr (.inl (List.mem_singleton.mp hhere))
  | case3 done last _ hsingle =>
    rcases List.mem_append.mp hmem with hbefore | hhere
    · exact .inl (List.mem_reverse.mp hbefore)
    · exact .inr (.inl (List.mem_singleton.mp hhere))
  | case4 done last hdouble hsingle =>
    rcases List.mem_append.mp hmem with hbefore | hhere
    · exact .inl (List.mem_reverse.mp hbefore)
    · obtain rfl := List.mem_singleton.mp hhere
      exact .inr (.inr ⟨hhere, not_or.mpr ⟨hsingle, hdouble⟩⟩)
  | case5 done other rest _ hdouble ih =>
    refine (ih hmem).imp mem_of_mem_shorten (Or.imp_right ?_)
    exact And.imp_left (List.mem_cons_of_mem other)
  | case6 done other rest _ _ hsingle ih =>
    refine (ih hmem).imp_right (Or.imp_right ?_)
    exact And.imp_left (List.mem_cons_of_mem other)
  | case7 done other rest _ hdouble hsingle ih =>
    rcases ih hmem with hbefore | hempty | hbehind
    · rcases List.mem_cons.mp hbefore with rfl | hbefore
      · exact .inr (.inr ⟨List.mem_cons_self, not_or.mpr ⟨hsingle, hdouble⟩⟩)
      · exact .inl hbefore
    · exact .inr (.inl hempty)
    · exact .inr (.inr (hbehind.imp_left (List.mem_cons_of_mem other)))

theorem IsDots.length_decoded_pos (h : IsDots segment) : 0 < (decoded segment).length := by
  rcases h.decoded_eq with hsame | hsame
  · rw [hsame]; decide
  · rw [hsame]; decide

theorem size_resolveSegments (done segments : List (List Char)) :
    size (resolveSegments done segments) + segments.countP (IsDots ·) ≤ size done + size segments := by
  fun_induction resolveSegments done segments with
  | case1 done => rw [size_reverse]; simp [size]
  | case2 done last hdouble =>
    have hdots : IsDots last := .inr hdouble
    have hpositive := hdots.length_decoded_pos
    have hshorter := size_shorten_le done
    rw [size_append, size_reverse, size_cons, size_cons, List.countP_cons_of_pos (by simpa using hdots)]
    simp only [decoded_nil, List.length_nil, List.countP_nil]
    omega
  | case3 done last _ hsingle =>
    have hdots : IsDots last := .inl hsingle
    have hpositive := hdots.length_decoded_pos
    rw [size_append, size_reverse, size_cons, size_cons, List.countP_cons_of_pos (by simpa using hdots)]
    simp only [decoded_nil, List.length_nil, List.countP_nil]
    omega
  | case4 done last hdouble hsingle =>
    have hnoDots : ¬IsDots last := not_or.mpr ⟨hsingle, hdouble⟩
    rw [size_append, size_reverse, List.countP_cons_of_neg (by simpa using hnoDots), List.countP_nil]
    omega
  | case5 done other rest _ hdouble ih =>
    have hdots : IsDots other := .inr hdouble
    have hpositive := hdots.length_decoded_pos
    have hshorter := size_shorten_le done
    rw [size_cons, List.countP_cons_of_pos (by simpa using hdots)]
    omega
  | case6 done other rest _ _ hsingle ih =>
    have hdots : IsDots other := .inl hsingle
    have hpositive := hdots.length_decoded_pos
    rw [size_cons, List.countP_cons_of_pos (by simpa using hdots)]
    omega
  | case7 done other rest _ hdouble hsingle ih =>
    have hnoDots : ¬IsDots other := not_or.mpr ⟨hsingle, hdouble⟩
    rw [size_cons] at ih
    rw [size_cons, List.countP_cons_of_neg (by simpa using hnoDots)]
    omega

/-! ## The path of a text -/

def encodedSegments (cs : List Char) : List (List Char) := (splitOn '/' cs).map (encode pathSet)

/-- The path of a text whose leading slash is off. -/
def pathOf (cs : List Char) : List Char :=
  (resolveSegments [] (encodedSegments cs)).flatMap ('/' :: ·)

theorem readPath_slash (cs : List Char) : readPath ('/' :: cs) = pathOf cs := rfl

theorem readPath_of_noSlash (hrelative : cs.head? ≠ some '/') : readPath cs = pathOf cs := by
  unfold readPath
  split
  · simp at hrelative
  · rfl

theorem encodedSegments_ne_nil (cs : List Char) : encodedSegments cs ≠ [] := by
  unfold encodedSegments
  rw [Ne, List.map_eq_nil_iff]
  exact splitOn_ne_nil '/' cs

theorem resolveSegments_ne_nil (done : List (List Char)) (hnonempty : segments ≠ []) :
    resolveSegments done segments ≠ [] := by
  fun_induction resolveSegments done segments with
  | case1 => contradiction
  | case2 | case3 | case4 => simp
  | case5 done other rest hmore _ ih | case6 done other rest hmore _ _ ih
    | case7 done other rest hmore _ _ ih =>
    exact ih (by simpa using hmore)

theorem decoded_encodedSegments (cs : List Char) :
    decoded ((encodedSegments cs).flatMap ('/' :: ·)) = 0x2F :: decoded cs := by
  rw [← decoded_slash, ← flatMap_splitOn, decoded_flatMap, decoded_flatMap, encodedSegments,
    List.flatMap_map]
  simp only [decoded_encode pathSet_sparesEscapes]

theorem infix_of_mem_splitOn (hmem : segment ∈ splitOn '/' cs) : segment <:+: cs := by
  obtain ⟨before, after, hsame⟩ := List.append_of_mem hmem
  have hwhole := flatMap_splitOn '/' cs
  rw [hsame, List.flatMap_append, List.flatMap_cons] at hwhole
  cases hfront : before.flatMap ('/' :: ·) with
  | nil =>
    rw [hfront] at hwhole
    exact ⟨[], _, (List.cons.inj hwhole).2⟩
  | cons slash rest =>
    rw [hfront] at hwhole
    refine ⟨rest ++ ['/'], after.flatMap ('/' :: ·), ?_⟩
    simpa using (List.cons.inj hwhole).2

theorem size_encodedSegments (cs : List Char) :
    size (encodedSegments cs) = (decoded cs).length + 1 := by
  rw [← length_decoded_flatMap, decoded_encodedSegments, List.length_cons]

theorem length_decoded_pathOf (cs : List Char) :
    (decoded (pathOf cs)).length + (encodedSegments cs).countP (IsDots ·) ≤ (decoded cs).length + 1 := by
  have hmost := size_resolveSegments [] (encodedSegments cs)
  rw [size_encodedSegments] at hmost
  rw [pathOf, length_decoded_flatMap]
  simpa [size] using hmost

theorem noDots_iff (hplain : ¬HasEscape cs) : (∀ segment ∈ encodedSegments cs, ¬IsDots segment) ↔
    ['.'] ∉ splitOn '/' cs ∧ ['.', '.'] ∉ splitOn '/' cs := by
  have hdots : ∀ segment ∈ splitOn '/' cs, IsDots (encode pathSet segment) ↔
      segment = ['.'] ∨ segment = ['.', '.'] := by
    intro segment hmem
    exact isDots_encode_iff fun hescape => hplain (hescape.of_infix (infix_of_mem_splitOn hmem))
  constructor
  · intro hnoDots
    constructor
    · intro hmem
      exact hnoDots _ (List.mem_map_of_mem hmem) ((hdots _ hmem).mpr (.inl rfl))
    · intro hmem
      exact hnoDots _ (List.mem_map_of_mem hmem) ((hdots _ hmem).mpr (.inr rfl))
  · rintro ⟨hsingle, hdouble⟩ _ hmem hisDots
    obtain ⟨segment, hthere, rfl⟩ := List.mem_map.mp hmem
    rcases (hdots segment hthere).mp hisDots with rfl | rfl
    · exact hsingle hthere
    · exact hdouble hthere

theorem decoded_pathOf_of_noDots (hnoDots : ∀ segment ∈ encodedSegments cs, ¬IsDots segment) :
    decoded (pathOf cs) = 0x2F :: decoded cs := by
  rw [pathOf, resolveSegments_of_noDots hnoDots (encodedSegments_ne_nil cs), List.reverse_nil,
    List.nil_append, decoded_encodedSegments]

theorem decoded_pathOf_iff : decoded (pathOf cs) = 0x2F :: utf8 cs ↔
    ¬HasEscape cs ∧ ['.'] ∉ splitOn '/' cs ∧ ['.', '.'] ∉ splitOn '/' cs := by
  constructor
  · intro hsame
    have hlengths := length_decoded_pathOf cs
    have hshorter := length_decoded_le cs
    rw [hsame, List.length_cons] at hlengths
    have hnone : (encodedSegments cs).countP (IsDots ·) = 0 := by omega
    have hnoDots : ∀ segment ∈ encodedSegments cs, ¬IsDots segment := by
      simpa [List.countP_eq_zero] using hnone
    have hplain : ¬HasEscape cs := by
      rw [decoded_pathOf_of_noDots hnoDots] at hsame
      exact decoded_eq_utf8_iff.mp (List.cons.inj hsame).2
    exact ⟨hplain, (noDots_iff hplain).mp hnoDots⟩
  · rintro ⟨hplain, hnoDots⟩
    rw [decoded_pathOf_of_noDots ((noDots_iff hplain).mpr hnoDots), decoded_eq_utf8_iff.mpr hplain]

theorem mem_encodedSegments (hmem : segment ∈ encodedSegments cs) :
    Verbatim pathSet segment ∧ '/' ∉ segment := by
  obtain ⟨piece, hthere, rfl⟩ := List.mem_map.mp hmem
  refine ⟨verbatim_encode pathSet_sparesEscapes piece, fun hslash => ?_⟩
  rcases mem_encode hslash with ⟨hinside, -⟩ | hpercent | hdigit
  · exact not_mem_of_mem_splitOn hthere hinside
  · exact absurd hpercent (by decide)
  · exact absurd hdigit (by decide)

theorem mem_resolved (hmem : segment ∈ resolveSegments [] (encodedSegments cs)) :
    Verbatim pathSet segment ∧ '/' ∉ segment ∧ ¬IsDots segment := by
  rcases mem_resolveSegments hmem with hbefore | rfl | ⟨hmem, hnoDots⟩
  · exact absurd hbefore List.not_mem_nil
  · exact ⟨fun c hmem => absurd hmem List.not_mem_nil, List.not_mem_nil, by decide⟩
  · exact ⟨(mem_encodedSegments hmem).1, (mem_encodedSegments hmem).2, hnoDots⟩

theorem verbatim_pathOf (cs : List Char) : Verbatim pathSet (pathOf cs) := by
  intro c hmem
  obtain ⟨segment, hthere, hmem⟩ := List.mem_flatMap.mp hmem
  rcases List.mem_cons.mp hmem with rfl | hmem
  · decide
  · exact (mem_resolved hthere).1 c hmem

theorem pathOf_eq_cons (cs : List Char) : ∃ rest, pathOf cs = '/' :: rest := by
  obtain ⟨first, others, hsame⟩ :=
    List.exists_cons_of_ne_nil (resolveSegments_ne_nil [] (encodedSegments_ne_nil cs))
  exact ⟨first ++ others.flatMap ('/' :: ·), by rw [pathOf, hsame]; rfl⟩

theorem readPath_pathOf (cs : List Char) : readPath (pathOf cs) = pathOf cs := by
  have hnonempty := resolveSegments_ne_nil [] (encodedSegments_ne_nil cs)
  obtain ⟨rest, hsame⟩ := pathOf_eq_cons cs
  have hsplit : splitOn '/' rest = resolveSegments [] (encodedSegments cs) := by
    have hagain := splitOn_flatMap hnonempty fun segment hmem => (mem_resolved hmem).2.1
    rw [← pathOf, hsame] at hagain
    exact hagain
  have hencoded : encodedSegments rest = resolveSegments [] (encodedSegments cs) := by
    rw [encodedSegments, hsplit]
    refine (List.map_congr_left (g := id) fun segment hmem => ?_).trans (List.map_id _)
    exact encode_of_verbatim (mem_resolved hmem).1
  rw [hsame, readPath_slash, pathOf, hencoded, resolveSegments_of_noDots ?_ hnonempty]
  · exact hsame
  · exact fun segment hmem => (mem_resolved hmem).2.2

/-- A text that a path keeps as it is. -/
structure Kept (cs : List Char) : Prop where
  noEscape : ¬HasEscape cs
  noDropped : ∀ c ∈ cs, isDropped c = false
  head : ∀ c ∈ cs.head?, c ≠ '/' ∧ c ≠ '?' ∧ c ≠ '#'
  noDots : ['.'] ∉ splitOn '/' cs ∧ ['.', '.'] ∉ splitOn '/' cs

theorem kept_nil : Kept [] := ⟨not_hasEscape_nil, by simp, by simp, by decide⟩

/-- The text cannot begin a path. -/
def StopsPath (cs : List Char) : Prop := cs = [] ∨ cs.head? = some '?' ∨ cs.head? = some '#'

theorem path_setPath_of_stops (text : String) (url : Url)
    (hstops : StopsPath (text.toList.filter (!isDropped ·))) : (url.setPath text).path = [] := by
  unfold setPath
  rcases hstops with hempty | hquery | hfragment
  · rw [hempty]
  · obtain ⟨rest, hsame⟩ := List.head?_eq_some_iff.mp hquery
    rw [hsame]
    rfl
  · obtain ⟨rest, hsame⟩ := List.head?_eq_some_iff.mp hfragment
    rw [hsame]
    rfl

theorem path_setPath_of_begins (text : String) (url : Url)
    (hbegins : ¬StopsPath (text.toList.filter (!isDropped ·))) :
    (url.setPath text).path = readPath (text.toList.filter (!isDropped ·)) := by
  unfold setPath
  generalize text.toList.filter (!isDropped ·) = cs at hbegins ⊢
  dsimp only
  split
  · exact (hbegins (.inl rfl)).elim
  · exact (hbegins (.inr (.inl rfl))).elim
  · exact (hbegins (.inr (.inr rfl))).elim
  · rfl

theorem decoded_pathOf_drop (cs : List Char) :
    decoded (pathOf cs) = 0x2F :: decoded ((pathOf cs).drop 1) := by
  obtain ⟨rest, hsame⟩ := pathOf_eq_cons cs
  rw [hsame, decoded_slash]
  rfl

theorem length_decoded_drop (cs : List Char) :
    (decoded ((pathOf cs).drop 1)).length ≤ (utf8 cs).length := by
  have hmost := length_decoded_pathOf cs
  have hshorter := length_decoded_le cs
  rw [decoded_pathOf_drop, List.length_cons] at hmost
  omega

theorem length_decoded_readPath (cs : List Char) :
    (decoded ((readPath cs).drop 1)).length ≤ (utf8 cs).length := by
  by_cases hslash : cs.head? = some '/'
  · obtain ⟨rest, rfl⟩ := List.head?_eq_some_iff.mp hslash
    have hmost := length_decoded_drop rest
    rw [readPath_slash, utf8_cons, List.length_append]
    omega
  · rw [readPath_of_noSlash hslash]
    exact length_decoded_drop cs

theorem noSlash_of_decoded_readPath (hsame : decoded ((readPath cs).drop 1) = utf8 cs) :
    cs.head? ≠ some '/' := by
  intro hslash
  obtain ⟨rest, rfl⟩ := List.head?_eq_some_iff.mp hslash
  have hmost := length_decoded_drop rest
  have hone := length_utf8EncodeChar_pos '/'
  rw [readPath_slash] at hsame
  rw [hsame, utf8_cons, List.length_append] at hmost
  omega

theorem filter_of_decoded_readPath
    (hsame : decoded ((readPath (cs.filter (!isDropped ·))).drop 1) = utf8 cs) :
    cs.filter (!isDropped ·) = cs := by
  obtain ⟨-, hall⟩ := eq_of_length_utf8 (List.filter_sublist (p := (!isDropped ·)) (l := cs))
  apply hall
  rw [← hsame]
  exact length_decoded_readPath _

theorem kept_of_decoded_readPath (hundropped : cs.filter (!isDropped ·) = cs) (hbegins : ¬StopsPath cs)
    (hsame : decoded ((readPath cs).drop 1) = utf8 cs) : Kept cs := by
  have hnoSlash := noSlash_of_decoded_readPath hsame
  rw [readPath_of_noSlash hnoSlash] at hsame
  have hwhole : decoded (pathOf cs) = 0x2F :: utf8 cs := by
    rw [decoded_pathOf_drop, hsame]
  obtain ⟨hplain, hnoDots⟩ := decoded_pathOf_iff.mp hwhole
  refine ⟨hplain, ?_, ?_, hnoDots⟩
  · intro c hmem
    simpa using List.filter_eq_self.mp hundropped c hmem
  · intro c hfirst
    refine ⟨?_, ?_, ?_⟩
    · rintro rfl
      exact hnoSlash hfirst
    · rintro rfl
      exact hbegins (.inr (.inl hfirst))
    · rintro rfl
      exact hbegins (.inr (.inr hfirst))

theorem Kept.filter_eq (hkept : Kept cs) : cs.filter (!isDropped ·) = cs := by
  rw [List.filter_eq_self]
  intro c hmem
  rw [hkept.noDropped c hmem]
  rfl

theorem Kept.decoded_setPath {text : String} (hkept : Kept text.toList) (url : Url) :
    decoded ((url.setPath text).path.drop 1) = utf8 text.toList := by
  by_cases hstops : StopsPath text.toList
  · rw [path_setPath_of_stops text url (hkept.filter_eq.symm ▸ hstops)]
    rcases hstops with hempty | hquery | hfragment
    · rw [hempty]
      rfl
    · exact absurd rfl (hkept.head _ hquery).2.1
    · exact absurd rfl (hkept.head _ hfragment).2.2
  · rw [path_setPath_of_begins text url (hkept.filter_eq.symm ▸ hstops), hkept.filter_eq,
      readPath_of_noSlash fun hslash => (hkept.head _ hslash).1 rfl]
    have hwhole := decoded_pathOf_iff.mpr ⟨hkept.noEscape, hkept.noDots⟩
    rw [decoded_pathOf_drop] at hwhole
    exact (List.cons.inj hwhole).2

/-- Exactly the texts without escapes, dropped characters, a marked start and dot segments can be
read off a path. -/
theorem decoded_setPath_iff (text : String) (url : Url) :
    decoded ((url.setPath text).path.drop 1) = utf8 text.toList ↔ Kept text.toList := by
  refine ⟨fun hsame => ?_, fun hkept => hkept.decoded_setPath url⟩
  by_cases hstops : StopsPath (text.toList.filter (!isDropped ·))
  · rw [path_setPath_of_stops text url hstops] at hsame
    have hempty : [] = text.toList := utf8_inj hsame
    exact hempty ▸ kept_nil
  · rw [path_setPath_of_begins text url hstops] at hsame
    have hundropped := filter_of_decoded_readPath hsame
    rw [hundropped] at hsame hstops
    exact kept_of_decoded_readPath hundropped hstops hsame

end SchemaMigration.Url
