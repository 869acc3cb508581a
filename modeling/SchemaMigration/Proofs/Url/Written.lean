import SchemaMigration.Proofs.Fallible
import SchemaMigration.Proofs.Text.Search
import SchemaMigration.Proofs.Url.Path

/-!
# Reading a URL that was written

A URL with a host, whose parts need no encoding any more, is read back part by part.
-/

namespace SchemaMigration.Url

open Text Number

/-- The user name, and the password behind a colon. -/
def Authority.userinfo (a : Authority) : List Char :=
  match a.password with
  | some password => a.username ++ ':' :: password
  | none => a.username

def Authority.portText (a : Authority) : List Char :=
  match a.port with
  | some n => ':' :: decimalDigits n
  | none => []

/-- The parts of the URL are in the form in which they are written. -/
structure Plain (url : Url) (a : Authority) : Prop where
  scheme : url.scheme ≠ [] ∧ ∀ c ∈ url.scheme, c.isLower = true
  authority : url.authority = some a
  username : Verbatim userinfoSet a.username
  password : ∀ password ∈ a.password, password ≠ [] ∧ Verbatim userinfoSet password
  host : a.host ≠ [] ∧ Verbatim userinfoSet a.host
  port : ∀ n ∈ a.port, n ≤ 65535
  path : url.path = [] ∨ ∃ cs, url.path = pathOf cs
  query : url.query = none
  fragment : url.fragment = none

theorem Plain.verbatim_path {url : Url} {a : Authority} (h : Plain url a) : Verbatim pathSet url.path := by
  rcases h.path with hempty | ⟨cs, hsame⟩
  · simp [hempty, Verbatim]
  · exact hsame ▸ verbatim_pathOf cs

variable {url : Url} {a : Authority} {cs : List Char} {c : Char} {set : EncodeSet}

theorem Verbatim.not_mem (hverbatim : Verbatim set cs) (hmarked : set c = true) : c ∉ cs := by
  intro hmem
  rw [(hverbatim c hmem).1] at hmarked
  exact Bool.false_ne_true hmarked

theorem Verbatim.mono {wider : EncodeSet} (hverbatim : Verbatim wider cs)
    (hsub : ∀ c, wider c = false → set c = false) : Verbatim set cs :=
  fun c hmem => ⟨hsub c (hverbatim c hmem).1, (hverbatim c hmem).2⟩

/-! ## The authority -/

theorem Authority.write_eq (a : Authority) : a.write =
    (if a.username = [] ∧ a.password = none then [] else a.userinfo ++ ['@']) ++
      (a.host ++ a.portText) := by
  unfold Authority.write Authority.userinfo Authority.portText
  cases a.password <;> cases a.port <;> simp

theorem readPort_portText (hsmall : ∀ n ∈ a.port, n ≤ 65535) :
    readPort a.portText = .ok (a.port, []) := by
  unfold Authority.portText
  cases h : a.port with
  | none => rfl
  | some n =>
    have hmost := hsmall n h
    have hspanned : (decimalDigits n).span Char.isDigit = (decimalDigits n, []) := by
      rw [span_eq_iff]
      exact ⟨(List.append_nil _).symm, fun c hmem => isDigit_of_mem_decimalDigits hmem, by simp⟩
    simp only [readPort, hspanned, natOfDigits_decimalDigits]
    rw [if_neg (by omega), if_neg (decimalDigits_ne_nil n)]

theorem splitHost_append {host : List Char} (hverbatim : Verbatim userinfoSet host) (a : Authority) :
    splitHost false (host ++ a.portText) = (host, a.portText) := by
  induction host with
  | nil =>
    unfold Authority.portText
    cases a.port <;> rfl
  | cons c host ih =>
    obtain ⟨hhere, hverbatim⟩ := List.forall_mem_cons.mp hverbatim
    have hnoColon : c ≠ ':' := by
      rintro rfl
      exact absurd hhere.1 (by decide)
    have hnoBracket : c ≠ '[' := by
      rintro rfl
      exact absurd hhere.1 (by decide)
    rw [List.cons_append, splitHost, if_neg (by simp [hnoColon]), if_neg hnoBracket, ite_self]
    simp only [ih hverbatim]

theorem readHost_of_verbatim {host : List Char} (hverbatim : Verbatim userinfoSet host) :
    readHost host = .ok host := by
  have hnoBracket : '[' ∉ host := hverbatim.not_mem (by decide)
  have hallowed : host.any forbiddenInHost.contains = false := by
    have hmarked : ∀ c ∈ forbiddenInHost, userinfoSet c = true := List.all_eq_true.mp (by decide)
    rw [List.any_eq_false]
    intro c hmem
    rw [List.contains_iff_mem]
    intro hforbidden
    exact hverbatim.not_mem (hmarked c hforbidden) hmem
  have hsame : encode controlSet host = host := by
    refine encode_of_verbatim (hverbatim.mono fun c hspared => ?_)
    have hpath := (Bool.or_eq_false_iff.mp hspared).1
    have hfragment := (Bool.or_eq_false_iff.mp hpath).1
    exact (Bool.or_eq_false_iff.mp hfragment).1
  unfold readHost
  split
  · exact absurd List.mem_cons_self hnoBracket
  · rw [hallowed, hsame]
    rfl

theorem readUserinfo_userinfo (husername : Verbatim userinfoSet a.username)
    (hpassword : ∀ password ∈ a.password, password ≠ [] ∧ Verbatim userinfoSet password) :
    readUserinfo a.userinfo = (a.username, a.password) := by
  have hnoColon : ':' ∉ a.username := husername.not_mem (by decide)
  unfold Authority.userinfo readUserinfo
  cases h : a.password with
  | none =>
    simp only
    rw [splitFirst?_eq_none hnoColon]
    simp only
    rw [encode_of_verbatim husername]
  | some p =>
    obtain ⟨hnonempty, hverbatim⟩ := hpassword p h
    have hsplit : splitFirst? ':' (a.username ++ ':' :: p) = some (a.username, p) :=
      splitFirst?_eq_some_iff.mpr ⟨rfl, hnoColon⟩
    simp only
    rw [hsplit]
    cases p with
    | nil => contradiction
    | cons c p =>
      simp only
      rw [encode_of_verbatim husername, encode_of_verbatim hverbatim]

theorem mem_portText (hmem : c ∈ a.portText) : c = ':' ∨ c.isDigit = true := by
  unfold Authority.portText at hmem
  cases h : a.port with
  | none => simp [h] at hmem
  | some n =>
    rw [h] at hmem
    exact (List.mem_cons.mp hmem).imp_right isDigit_of_mem_decimalDigits

theorem splitLast?_write (h : Plain url a) :
    (a.username = [] ∧ a.password = none ∧ a.write = a.host ++ a.portText ∧
      splitLast? '@' a.write = none) ∨
    splitLast? '@' a.write = some (a.userinfo, a.host ++ a.portText) := by
  have hnoMark : '@' ∉ a.host ++ a.portText := by
    rw [List.mem_append, not_or]
    refine ⟨h.host.2.not_mem (by decide), fun hmem => ?_⟩
    rcases mem_portText hmem with hcolon | hdigit
    · exact absurd hcolon (by decide)
    · exact absurd hdigit (by decide)
  rw [Authority.write_eq]
  by_cases hempty : a.username = [] ∧ a.password = none
  · rw [if_pos hempty, List.nil_append]
    exact .inl ⟨hempty.1, hempty.2, rfl, splitLast?_eq_none hnoMark⟩
  · rw [if_neg hempty, splitLast?_eq_some_iff]
    exact .inr ⟨by simp, hnoMark⟩

theorem readAuthority_write (h : Plain url a) (more : Bool) : readAuthority more a.write = .ok (a, []) := by
  obtain ⟨hnonempty, hverbatim⟩ := h.host
  have hhost := readHost_of_verbatim hverbatim
  have hport := readPort_portText h.port
  unfold readAuthority
  rcases splitLast?_write h with ⟨hnoName, hnoPassword, hwhole, hsplit⟩ | hsplit
  · have hnames : readUserinfo [] = (a.username, a.password) := by
      rw [hnoName, hnoPassword]
      rfl
    rw [hsplit]
    simp [hnames, hwhole, splitHost_append hverbatim, hhost, hport, hnonempty, bind, Except.bind, pure,
      Except.pure]
  · have hnames := readUserinfo_userinfo h.username h.password
    rw [hsplit]
    simp [hnames, splitHost_append hverbatim, hhost, hport, hnonempty, bind, Except.bind, pure, Except.pure]

/-! ## The whole -/

theorem toList_write (h : Plain url a) :
    url.write.toList = url.scheme ++ ':' :: '/' :: '/' :: (a.write ++ url.path) := by
  unfold write
  rw [h.authority, h.query, h.fragment]
  simp

theorem isHexDigit_of_isDigit (hdigit : c.isDigit = true) : isHexDigit c = true := by
  have hbounds := isDigit_iff.mp hdigit
  simp [isHexDigit, hbounds.1, hbounds.2]

theorem isLower_iff : c.isLower = true ↔ 97 ≤ c.toNat ∧ c.toNat ≤ 122 := by
  show (decide (97 ≤ c.val) && decide (c.val ≤ 122)) = true ↔ _
  simp [UInt32.le_iff_toNat_le, ← Char.toNat_val]

theorem isUpper_iff : c.isUpper = true ↔ 65 ≤ c.toNat ∧ c.toNat ≤ 90 := by
  show decide (65 ≤ c.val ∧ c.val ≤ 90) = true ↔ _
  simp [UInt32.le_iff_toNat_le, ← Char.toNat_val]

theorem isAlpha_ascii (hletter : c.isAlpha = true) : c.toNat < 0x80 := by
  rcases Bool.or_eq_true_iff.mp hletter with hupper | hlower
  · have hmost := (isUpper_iff.mp hupper).2
    omega
  · have hmost := (isLower_iff.mp hlower).2
    omega

theorem isAlpha_of_isLower (hlower : c.isLower = true) : c.isAlpha = true :=
  Bool.or_eq_true_iff.mpr (.inr hlower)

theorem toLower_of_isLower (hlower : c.isLower = true) : c.toLower = c := by
  unfold Char.toLower
  rw [dif_neg]
  intro hcapital
  have hmost : c.val.toNat ≤ 90 := UInt32.le_iff_toNat_le.mp hcapital.2
  have hleast := (isLower_iff.mp hlower).1
  unfold Char.toNat at hleast
  omega

theorem userinfoSet_of_isLower (hlower : c.isLower = true) :
    userinfoSet c = false ∧ c.toNat < 0x80 := by
  have hascii : c.toNat < 0x80 := by
    have hmost := (isLower_iff.mp hlower).2
    omega
  refine ⟨?_, hascii⟩
  revert hlower
  exact ascii_forall (P := fun c => c.isLower = true → userinfoSet c = false) (by decide +kernel) hascii

theorem pathSet_of_userinfoSet (hspared : userinfoSet c = false) : pathSet c = false :=
  (Bool.or_eq_false_iff.mp hspared).1

theorem visible_of_pathSet (hspared : pathSet c = false) : 0x20 < c.toNat := by
  obtain ⟨hfragment, -⟩ := Bool.or_eq_false_iff.mp hspared
  obtain ⟨hcontrol, -⟩ := Bool.or_eq_false_iff.mp hfragment
  have hnoSpace : c ≠ ' ' := by
    rintro rfl
    exact absurd hspared (by decide)
  have hleast : c.toNat ≠ 0x20 := fun hsame => hnoSpace (Char.toNat_inj.mp hsame)
  simp [isControl] at hcontrol
  omega

theorem mem_write (h : Plain url a) (hmem : c ∈ a.write) :
    (userinfoSet c = false ∧ c.toNat < 0x80) ∨ c = ':' ∨ c = '@' := by
  have huserinfo : c ∈ a.userinfo → (userinfoSet c = false ∧ c.toNat < 0x80) ∨ c = ':' := by
    unfold Authority.userinfo
    cases hpassword : a.password with
    | none => exact fun hmem => .inl (h.username c hmem)
    | some p =>
      intro hmem
      rcases List.mem_append.mp hmem with hname | hword
      · exact .inl (h.username c hname)
      · exact (List.mem_cons.mp hword).symm.imp_left ((h.password p hpassword).2 c)
  rw [Authority.write_eq, List.mem_append, List.mem_append] at hmem
  rcases hmem with hfront | hhost | hport
  · split at hfront
    · exact absurd hfront List.not_mem_nil
    · rcases List.mem_append.mp hfront with hinside | hmark
      · exact (huserinfo hinside).imp_right .inl
      · exact .inr (.inr (List.mem_singleton.mp hmark))
  · exact .inl (h.host.2 c hhost)
  · rcases mem_portText hport with hcolon | hdigit
    · exact .inr (.inl hcolon)
    · have hhex := isHexDigit_of_isDigit hdigit
      exact .inl ⟨userinfoSet_sparesEscapes c (.inr hhex), isHexDigit_ascii hhex⟩

theorem verbatim_write (h : Plain url a) : Verbatim pathSet url.write.toList := by
  have hcolon : pathSet ':' = false ∧ ':'.toNat < 0x80 := by decide
  have hslash : pathSet '/' = false ∧ '/'.toNat < 0x80 := by decide
  rw [toList_write h]
  intro c hmem
  rcases List.mem_append.mp hmem with hscheme | hmem
  · have hlower := userinfoSet_of_isLower (h.scheme.2 c hscheme)
    exact ⟨pathSet_of_userinfoSet hlower.1, hlower.2⟩
  rcases List.mem_cons.mp hmem with rfl | hmem
  · exact hcolon
  rcases List.mem_cons.mp hmem with rfl | hmem
  · exact hslash
  rcases List.mem_cons.mp hmem with rfl | hmem
  · exact hslash
  rcases List.mem_append.mp hmem with hauthority | hpath
  · rcases mem_write h hauthority with hspared | rfl | rfl
    · exact ⟨pathSet_of_userinfoSet hspared.1, hspared.2⟩
    · exact hcolon
    · exact ⟨by decide, by decide⟩
  · exact h.verbatim_path c hpath

theorem readScheme?_append {scheme : List Char} (hnonempty : scheme ≠ [])
    (hlower : ∀ c ∈ scheme, c.isLower = true) (rest : List Char) :
    readScheme? (scheme ++ ':' :: rest) = some (scheme, rest) := by
  have hspanned : (scheme ++ ':' :: rest).span
      (fun c => c.isAlphanum || c == '+' || c == '-' || c == '.') = (scheme, ':' :: rest) := by
    rw [span_eq_iff]
    refine ⟨rfl, fun c hmem => ?_, ?_⟩
    · simp [Char.isAlphanum, isAlpha_of_isLower (hlower c hmem)]
    · rintro c ⟨rfl⟩
      decide
  have hsame : scheme.map Char.toLower = scheme := by
    refine (List.map_congr_left (g := id) fun c hmem => ?_).trans (List.map_id _)
    exact toLower_of_isLower (hlower c hmem)
  unfold readScheme?
  simp only [hspanned]
  cases scheme with
  | nil => contradiction
  | cons first others =>
    have halpha := isAlpha_of_isLower (hlower first List.mem_cons_self)
    simp only
    rw [if_pos halpha, hsame]

theorem filter_trimControls (hvisible : ∀ c ∈ cs, 0x20 < c.toNat) :
    (trimControls cs).filter (!isDropped ·) = cs := by
  have huntrimmed : ∀ ds : List Char, (∀ c ∈ ds, 0x20 < c.toNat) →
      ds.dropWhile (fun c => c.toNat ≤ 0x20) = ds := by
    intro ds hvisible
    cases ds with
    | nil => rfl
    | cons c ds =>
      have hhere := hvisible c List.mem_cons_self
      rw [List.dropWhile_cons_of_neg]
      simpa using hhere
  have htrimmed : trimControls cs = cs := by
    unfold trimControls
    simp only
    rw [huntrimmed cs hvisible, huntrimmed cs.reverse (by simpa using hvisible), List.reverse_reverse]
  rw [htrimmed, List.filter_eq_self]
  intro c hmem
  have hhere := hvisible c hmem
  have hdiffers : ∀ d ∈ ['\t', '\n', '\r'], c ≠ d := by
    rintro d hmem rfl
    simp at hmem
    rcases hmem with rfl | rfl | rfl <;> simp at hhere
  simp at hdiffers
  simp [isDropped, hdiffers]

theorem span_write (h : Plain url a) :
    (a.write ++ url.path).span (!endsAuthority ·) = (a.write, url.path) := by
  rw [span_eq_iff]
  have hends : ∀ d, endsAuthority d = true → d = '/' ∨ d = '?' ∨ d = '#' := by
    intro d
    simp [endsAuthority, or_assoc]
  refine ⟨rfl, fun c hmem => ?_, fun c hfirst => ?_⟩
  · rw [Bool.not_eq_true', ← Bool.not_eq_true]
    intro hstop
    rcases mem_write h hmem with ⟨hspared, -⟩ | rfl | rfl
    · rcases hends c hstop with rfl | rfl | rfl
      · exact absurd hspared (by decide)
      · exact absurd hspared (by decide)
      · exact absurd hspared (by decide)
    · exact absurd hstop (by decide)
    · exact absurd hstop (by decide)
  · rcases h.path with hempty | ⟨cs, hsame⟩
    · simp [hempty] at hfirst
    · obtain ⟨rest, hslash⟩ := pathOf_eq_cons cs
      rw [hsame, hslash] at hfirst
      obtain rfl : '/' = c := by simpa using hfirst
      decide

theorem read_write (h : Plain url a) : Url.read url.write = .ok url := by
  have hpath : (if url.path = [] then [] else readPath url.path) = url.path := by
    rcases h.path with hempty | ⟨cs, hsame⟩
    · rw [if_pos hempty, hempty]
    · obtain ⟨rest, hslash⟩ := pathOf_eq_cons cs
      rw [hsame, if_neg (by simp [hslash]), readPath_pathOf]
  have hverbatim := h.verbatim_path
  have hfragment : splitFragment url.path = (url.path, none) := by
    unfold splitFragment
    rw [splitFirst?_eq_none (hverbatim.not_mem (by decide))]
  have hquery : splitQuery url.path = (url.path, none) := by
    unfold splitQuery
    rw [splitFirst?_eq_none (hverbatim.not_mem (by decide))]
  unfold read
  rw [filter_trimControls fun c hmem => visible_of_pathSet (verbatim_write h c hmem).1, toList_write h]
  simp only [readScheme?_append h.scheme.1 h.scheme.2, span_write h, readAuthority_write h, bind,
    Except.bind, List.nil_append, hfragment, hquery, hpath, pure, Except.pure]
  obtain ⟨scheme, authority, way, search, mark⟩ := url
  obtain rfl : authority = some a := h.authority
  obtain rfl : search = none := h.query
  obtain rfl : mark = none := h.fragment
  rfl

end SchemaMigration.Url
