import SchemaMigration.Proofs.Number.Digits
import SchemaMigration.Proofs.Text.Order
import SchemaMigration.Url.Encode

/-!
# What a percent-encoded text stands for

A `%` with two hexadecimal digits is a byte, and any other character its UTF-8 form. No `%` is
ever encoded itself. So encoding changes nothing in what a text stands for, and a text stands for
itself unless it had such a triple from the beginning.
-/

namespace SchemaMigration.Url

open Number Files

def utf8 (cs : List Char) : List UInt8 := cs.flatMap String.utf8EncodeChar

/-- The bytes that a part of a URL stands for. -/
def decoded : List Char → List UInt8
  | c :: a :: b :: rest =>
    if c = '%' ∧ isHexDigit a ∧ isHexDigit b then
      UInt8.ofNat (natOfDigits 16 [a, b]) :: decoded rest
    else String.utf8EncodeChar c ++ decoded (a :: b :: rest)
  | cs => utf8 cs

def IsEscape (cs : List Char) : Prop :=
  ∃ a b, cs = ['%', a, b] ∧ isHexDigit a = true ∧ isHexDigit b = true

def StartsEscape (cs : List Char) : Prop := ∃ e, IsEscape e ∧ e <+: cs

def HasEscape (cs : List Char) : Prop := ∃ e, IsEscape e ∧ e <:+: cs

/-- The set leaves alone what an escape is made of. -/
def EncodeSet.SparesEscapes (set : EncodeSet) : Prop :=
  ∀ c, c = '%' ∨ isHexDigit c = true → set c = false

variable {set : EncodeSet} {c : Char} {cs ds : List Char}

theorem utf8_cons (c : Char) (cs : List Char) : utf8 (c :: cs) = String.utf8EncodeChar c ++ utf8 cs :=
  List.flatMap_cons

theorem utf8Bytes_eq_utf8 (s : String) : utf8Bytes s = utf8 s.toList := utf8Bytes_eq s

theorem length_utf8EncodeChar_pos (c : Char) : 0 < (String.utf8EncodeChar c).length :=
  List.length_pos_iff.mpr String.utf8EncodeChar_ne_nil

theorem isHexDigit_ascii (hdigit : isHexDigit c = true) : c.toNat < 0x80 := by
  simp only [isHexDigit, Bool.or_eq_true, Bool.and_eq_true, decide_eq_true_eq] at hdigit
  rcases hdigit with (⟨-, hmost⟩ | ⟨-, hmost⟩) | ⟨-, hmost⟩
  all_goals
    have hmost := Char.le_def.mp hmost
    have hmost := UInt32.le_iff_toNat_le.mp hmost
    exact Nat.lt_of_le_of_lt hmost (by decide)

theorem ascii_forall {P : Char → Prop} (hall : ∀ n < 0x80, P (Char.ofNat n)) (hascii : c.toNat < 0x80) :
    P c := by
  have hhere := hall c.toNat hascii
  rwa [Char.ofNat_toNat] at hhere

theorem userinfoSet_sparesEscapes : EncodeSet.SparesEscapes userinfoSet := by
  intro c h
  have hascii : c.toNat < 0x80 := by
    rcases h with rfl | hdigit
    · decide
    · exact isHexDigit_ascii hdigit
  revert h
  exact ascii_forall (P := fun c => c = '%' ∨ isHexDigit c = true → userinfoSet c = false)
    (by decide +kernel) hascii

theorem pathSet_sparesEscapes : EncodeSet.SparesEscapes pathSet := by
  intro c h
  have hspared := userinfoSet_sparesEscapes c h
  unfold userinfoSet at hspared
  exact (Bool.or_eq_false_iff.mp hspared).1

/-! ## Escapes -/

theorem IsEscape.slash_not_mem (h : IsEscape cs) : '/' ∉ cs := by
  obtain ⟨a, b, rfl, ha, hb⟩ := h
  intro hslash
  rcases List.mem_cons.mp hslash with hwrong | hslash
  · exact absurd hwrong (by decide)
  · rcases List.mem_pair.mp hslash with rfl | rfl
    · exact absurd ha (by decide)
    · exact absurd hb (by decide)

theorem startsEscape_iff : StartsEscape (c :: cs) ↔
    c = '%' ∧ ∃ a b rest, cs = a :: b :: rest ∧ isHexDigit a = true ∧ isHexDigit b = true := by
  constructor
  · rintro ⟨e, ⟨a, b, rfl, ha, hb⟩, rest, hsame⟩
    obtain ⟨rfl, rfl⟩ := List.cons.inj hsame
    exact ⟨rfl, a, b, rest, rfl, ha, hb⟩
  · rintro ⟨rfl, a, b, rest, rfl, ha, hb⟩
    exact ⟨['%', a, b], ⟨a, b, rfl, ha, hb⟩, List.prefix_append _ rest⟩

theorem hasEscape_cons : HasEscape (c :: cs) ↔ StartsEscape (c :: cs) ∨ HasEscape cs := by
  simp only [HasEscape, StartsEscape, List.infix_cons_iff, and_or_left, exists_or]

theorem HasEscape.of_infix (hinside : cs <:+: ds) (h : HasEscape cs) : HasEscape ds := by
  obtain ⟨e, hescape, hthere⟩ := h
  exact ⟨e, hescape, hthere.trans hinside⟩

theorem not_hasEscape_nil : ¬HasEscape [] := by
  rintro ⟨e, ⟨a, b, rfl, -⟩, hinside⟩
  simp at hinside

/-! ## Decoding -/

theorem decoded_nil : decoded [] = [] := rfl

theorem decoded_escape {a b : Char} {rest : List Char} (ha : isHexDigit a = true)
    (hb : isHexDigit b = true) :
    decoded ('%' :: a :: b :: rest) = UInt8.ofNat (natOfDigits 16 [a, b]) :: decoded rest := by
  rw [decoded, if_pos ⟨rfl, ha, hb⟩]

theorem decoded_cons (hplain : ¬StartsEscape (c :: cs)) :
    decoded (c :: cs) = String.utf8EncodeChar c ++ decoded cs := by
  rw [startsEscape_iff] at hplain
  match cs with
  | [] => simp [decoded, utf8]
  | [a] => simp [decoded, utf8]
  | a :: b :: rest =>
    rw [decoded, if_neg]
    rintro ⟨hpercent, ha, hb⟩
    exact hplain ⟨hpercent, a, b, rest, rfl, ha, hb⟩

/-- Cases for what a text begins with, with the rest of it shorter. -/
theorem escape_cases {motive : List Char → Prop} (nil : motive [])
    (escape : ∀ a b rest, isHexDigit a = true → isHexDigit b = true → motive rest →
      motive ('%' :: a :: b :: rest))
    (plain : ∀ c cs, ¬StartsEscape (c :: cs) → motive cs → motive (c :: cs)) :
    ∀ cs, motive cs
  | [] => nil
  | c :: cs => by
    by_cases hstarts : StartsEscape (c :: cs)
    · obtain ⟨rfl, a, b, rest, rfl, ha, hb⟩ := startsEscape_iff.mp hstarts
      exact escape a b rest ha hb (escape_cases nil escape plain rest)
    · exact plain c cs hstarts (escape_cases nil escape plain cs)

theorem length_decoded_le (cs : List Char) : (decoded cs).length ≤ (utf8 cs).length := by
  induction cs using escape_cases with
  | nil => exact le_rfl
  | escape a b rest ha hb ih =>
    rw [decoded_escape ha hb, utf8_cons, utf8_cons, utf8_cons]
    have hpercent := length_utf8EncodeChar_pos '%'
    simp only [List.length_cons, List.length_append]
    omega
  | plain c cs hstarts ih =>
    rw [decoded_cons hstarts, utf8_cons]
    simp only [List.length_append]
    omega

theorem decoded_eq_utf8_iff : decoded cs = utf8 cs ↔ ¬HasEscape cs := by
  induction cs using escape_cases with
  | nil => simp [decoded_nil, utf8, not_hasEscape_nil]
  | escape a b rest ha hb ih =>
    have hescape : HasEscape ('%' :: a :: b :: rest) :=
      ⟨['%', a, b], ⟨a, b, rfl, ha, hb⟩, (List.prefix_append _ rest).isInfix⟩
    refine iff_of_false ?_ (not_not_intro hescape)
    intro hsame
    have hlengths := congrArg List.length hsame
    have hshorter := length_decoded_le rest
    have hpercent := length_utf8EncodeChar_pos '%'
    have hfirst := length_utf8EncodeChar_pos a
    rw [decoded_escape ha hb, utf8_cons, utf8_cons, utf8_cons] at hlengths
    simp only [List.length_cons, List.length_append] at hlengths
    omega
  | plain c cs hstarts ih =>
    rw [decoded_cons hstarts, utf8_cons, List.append_cancel_left_eq, ih, hasEscape_cons]
    simp [hstarts]

theorem utf8_inj (hsame : utf8 cs = utf8 ds) : cs = ds := by
  have hbytes : utf8Bytes (String.ofList cs) = utf8Bytes (String.ofList ds) := by
    simpa [utf8Bytes_eq_utf8] using hsame
  rcases lt_trichotomy (String.ofList cs) (String.ofList ds) with hless | hequal | hgreater
  · exact absurd (hbytes ▸ utf8Bytes_lt_iff.mpr hless) (List.lt_irrefl _)
  · exact String.ofList_injective hequal
  · exact absurd (hbytes ▸ utf8Bytes_lt_iff.mpr hgreater) (List.lt_irrefl _)

theorem eq_of_length_utf8 (hsub : cs.Sublist ds) :
    (utf8 cs).length ≤ (utf8 ds).length ∧ ((utf8 ds).length ≤ (utf8 cs).length → cs = ds) := by
  induction hsub with
  | slnil => exact ⟨le_rfl, fun _ => rfl⟩
  | cons d hsub ih =>
    have hpositive := length_utf8EncodeChar_pos d
    rw [utf8_cons, List.length_append]
    constructor
    · omega
    · omega
  | cons_cons d hsub ih =>
    rw [utf8_cons, utf8_cons, List.length_append, List.length_append]
    constructor
    · omega
    · intro hmost
      rw [ih.2 (by omega)]

/-! ## Decoding what was encoded -/

theorem decoded_encodeByte (b : UInt8) (cs : List Char) :
    decoded (encodeByte b ++ cs) = b :: decoded cs := by
  have hdigits : ∀ n < 16, isHexDigit (upperHexDigit n) = true ∧ digitValue (upperHexDigit n) = n := by
    decide
  have hsmall := b.toNat_lt
  obtain ⟨hhigh, hhighValue⟩ := hdigits (b.toNat / 16) (by omega)
  obtain ⟨hlow, hlowValue⟩ := hdigits (b.toNat % 16) (by omega)
  have hvalue : natOfDigits 16 [upperHexDigit (b.toNat / 16), upperHexDigit (b.toNat % 16)] = b.toNat := by
    simp only [natOfDigits, List.foldl_cons, List.foldl_nil, hhighValue, hlowValue]
    omega
  rw [encodeByte, List.cons_append, List.cons_append, List.cons_append, List.nil_append,
    decoded_escape hhigh hlow, hvalue, UInt8.ofNat_toNat]

theorem decoded_encodeBytes (bs : List UInt8) (cs : List Char) :
    decoded (bs.flatMap encodeByte ++ cs) = bs ++ decoded cs := by
  induction bs with
  | nil => rfl
  | cons b bs ih => rw [List.flatMap_cons, List.append_assoc, decoded_encodeByte, ih, List.cons_append]

theorem encodeChar_of_not (hspared : set c = false) (hascii : c.toNat < 0x80) : encodeChar set c = [c] := by
  unfold encodeChar
  rw [if_neg]
  simp [hspared, hascii]

theorem encodeChar_eq (set : EncodeSet) (c : Char) : encodeChar set c = [c] ∨
    encodeChar set c = (String.utf8EncodeChar c).flatMap encodeByte := by
  have hbytes : utf8Bytes c.toString = String.utf8EncodeChar c := by
    simp [utf8Bytes_eq, Char.toString]
  unfold encodeChar
  split
  · exact .inr (by rw [hbytes])
  · exact .inl rfl

theorem encode_cons (set : EncodeSet) (c : Char) (cs : List Char) :
    encode set (c :: cs) = encodeChar set c ++ encode set cs := List.flatMap_cons

theorem encode_ne_nil (hnonempty : cs ≠ []) : encode set cs ≠ [] := by
  obtain ⟨c, rest, rfl⟩ := List.exists_cons_of_ne_nil hnonempty
  rw [encode_cons]
  rcases encodeChar_eq set c with hsame | hbytes
  · simp [hsame]
  · obtain ⟨b, bs, hfirst⟩ := List.exists_cons_of_ne_nil (String.utf8EncodeChar_ne_nil (c := c))
    simp [hbytes, hfirst, encodeByte]

theorem prefix_of_prefix_encode (hnoPercent : '%' ∉ ds) (hstarts : ds <+: encode set cs) : ds <+: cs := by
  induction ds generalizing cs with
  | nil => exact List.nil_prefix
  | cons d ds ih =>
    obtain ⟨hdiffers, hnoPercent⟩ := not_or.mp (List.mem_cons.not.mp hnoPercent)
    cases cs with
    | nil => simp [encode] at hstarts
    | cons c cs =>
      rw [encode_cons] at hstarts
      rcases encodeChar_eq set c with hsame | hbytes
      · rw [hsame] at hstarts
        obtain ⟨rfl, hmore⟩ := List.cons_prefix_cons.mp hstarts
        exact List.cons_prefix_cons.mpr ⟨rfl, ih hnoPercent hmore⟩
      · obtain ⟨b, bs, hfirst⟩ := List.exists_cons_of_ne_nil (String.utf8EncodeChar_ne_nil (c := c))
        rw [hbytes, hfirst] at hstarts
        exact absurd (List.cons_prefix_cons.mp hstarts).1 (Ne.symm hdiffers)

theorem decoded_encode (hspares : set.SparesEscapes) (cs : List Char) :
    decoded (encode set cs) = decoded cs := by
  induction cs using escape_cases with
  | nil => rfl
  | escape a b rest ha hb ih =>
    have hpercent : encodeChar set '%' = ['%'] := encodeChar_of_not (hspares _ (.inl rfl)) (by decide)
    have hfirst := encodeChar_of_not (hspares a (.inr ha)) (isHexDigit_ascii ha)
    have hsecond := encodeChar_of_not (hspares b (.inr hb)) (isHexDigit_ascii hb)
    rw [encode_cons, encode_cons, encode_cons, hpercent, hfirst, hsecond]
    simp only [List.cons_append, List.nil_append]
    rw [decoded_escape ha hb, decoded_escape ha hb, ih]
  | plain c cs hstarts ih =>
    rw [encode_cons, decoded_cons hstarts, ← ih]
    rcases encodeChar_eq set c with hsame | hbytes
    · rw [hsame, List.singleton_append]
      refine decoded_cons fun hagain => hstarts ?_
      obtain ⟨hpercent, a, b, rest, hdigits, ha, hb⟩ := startsEscape_iff.mp hagain
      have hnoPercent : '%' ∉ [a, b] := by
        intro hpercent
        rcases List.mem_pair.mp hpercent with rfl | rfl
        · exact absurd ha (by decide)
        · exact absurd hb (by decide)
      obtain ⟨rest', hbefore⟩ : [a, b] <+: cs :=
        prefix_of_prefix_encode hnoPercent ⟨rest, hdigits.symm⟩
      exact startsEscape_iff.mpr ⟨hpercent, a, b, rest', hbefore.symm, ha, hb⟩
    · rw [hbytes, decoded_encodeBytes]

theorem decoded_cons_of_ne (hdiffers : c ≠ '%') (cs : List Char) :
    decoded (c :: cs) = String.utf8EncodeChar c ++ decoded cs :=
  decoded_cons fun hstarts => hdiffers (startsEscape_iff.mp hstarts).1

theorem decoded_slash (cs : List Char) : decoded ('/' :: cs) = 0x2F :: decoded cs :=
  decoded_cons_of_ne (by decide) cs

theorem decoded_append_slash (cs ds : List Char) :
    decoded (cs ++ '/' :: ds) = decoded cs ++ 0x2F :: decoded ds := by
  induction cs using escape_cases with
  | nil => exact decoded_slash ds
  | escape a b rest ha hb ih =>
    simp only [List.cons_append]
    rw [decoded_escape ha hb, decoded_escape ha hb, ih, List.cons_append]
  | plain c cs hstarts ih =>
    have hplain : ¬StartsEscape (c :: cs ++ '/' :: ds) := by
      rintro ⟨e, hescape, hinFront⟩
      rcases prefix_append_cases hinFront with hbefore | ⟨d, hfirst, hacross⟩
      · exact hstarts ⟨e, hescape, hbefore⟩
      · obtain rfl : '/' = d := by simpa using hfirst
        exact hescape.slash_not_mem (hacross.subset (by simp))
    rw [List.cons_append] at hplain ⊢
    rw [decoded_cons hplain, decoded_cons hstarts, ih, List.append_assoc]

/-! ## Texts that need no encoding -/

/-- No character is encoded. -/
def Verbatim (set : EncodeSet) (cs : List Char) : Prop := ∀ c ∈ cs, set c = false ∧ c.toNat < 0x80

theorem encode_of_verbatim (hverbatim : Verbatim set cs) : encode set cs = cs := by
  induction cs with
  | nil => rfl
  | cons c cs ih =>
    obtain ⟨⟨hspared, hascii⟩, hverbatim⟩ := List.forall_mem_cons.mp hverbatim
    rw [encode_cons, encodeChar_of_not hspared hascii, ih hverbatim]
    rfl

theorem mem_encodeByte {b : UInt8} (hmem : c ∈ encodeByte b) : c = '%' ∨ isHexDigit c = true := by
  have hdigits : ∀ n < 16, isHexDigit (upperHexDigit n) = true := by decide
  have hsmall := b.toNat_lt
  rcases List.mem_cons.mp hmem with hpercent | hmem
  · exact .inl hpercent
  · rcases List.mem_pair.mp hmem with rfl | rfl
    · exact .inr (hdigits _ (by omega))
    · exact .inr (hdigits _ (by omega))

theorem mem_encode (hmem : c ∈ encode set cs) :
    (c ∈ cs ∧ set c = false ∧ c.toNat < 0x80) ∨ c = '%' ∨ isHexDigit c = true := by
  obtain ⟨d, hthere, hmem⟩ := List.mem_flatMap.mp hmem
  unfold encodeChar at hmem
  split at hmem
  · obtain ⟨b, -, hmem⟩ := List.mem_flatMap.mp hmem
    exact .inr (mem_encodeByte hmem)
  · next hspared =>
    obtain rfl := List.mem_singleton.mp hmem
    exact .inl ⟨hthere, by simpa using hspared⟩

theorem verbatim_encode (hspares : set.SparesEscapes) (cs : List Char) : Verbatim set (encode set cs) := by
  intro c hmem
  rcases mem_encode hmem with ⟨-, hverbatim⟩ | hescape
  · exact hverbatim
  · refine ⟨hspares c hescape, ?_⟩
    rcases hescape with rfl | hdigit
    · decide
    · exact isHexDigit_ascii hdigit

end SchemaMigration.Url
