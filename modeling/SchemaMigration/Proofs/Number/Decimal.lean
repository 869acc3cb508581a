import Mathlib.Data.List.TakeDrop
import Mathlib.Data.List.TakeWhile
import SchemaMigration.Number.Decimal

/-!
# What is read as a number

A numeral is a sign, digits with at most one point among them, and an exponent. The sign and the
exponent may be left out.
-/

namespace SchemaMigration.Number

variable {cs : List Char}

def IsSign (cs : List Char) : Prop := cs = [] ∨ cs = ['+'] ∨ cs = ['-']

structure IsDigits (cs : List Char) : Prop where
  nonempty : cs ≠ []
  digits : ∀ c ∈ cs, c.isDigit = true

inductive IsMantissa : List Char → Prop
  | whole {w : List Char} (digits : IsDigits w) : IsMantissa w
  | pointed {w f : List Char} (digits : IsDigits w) (more : ∀ c ∈ f, c.isDigit = true) :
      IsMantissa (w ++ '.' :: f)
  | fraction {f : List Char} (digits : IsDigits f) : IsMantissa ('.' :: f)

inductive IsExponent : List Char → Prop
  | none : IsExponent []
  | some {e : Char} {sign ds : List Char} (letter : e = 'e' ∨ e = 'E') (signed : IsSign sign)
      (digits : IsDigits ds) : IsExponent (e :: (sign ++ ds))

def IsNumeral (cs : List Char) : Prop :=
  ∃ sign mantissa exponent, cs = sign ++ (mantissa ++ exponent) ∧
    IsSign sign ∧ IsMantissa mantissa ∧ IsExponent exponent

namespace Decimal

theorem splitSign_spec (cs : List Char) : ∃ sign, IsSign sign ∧ cs = sign ++ (splitSign cs).2 := by
  unfold splitSign
  split
  · exact ⟨['-'], .inr (.inr rfl), rfl⟩
  · exact ⟨['+'], .inr (.inl rfl), rfl⟩
  · exact ⟨[], .inl rfl, rfl⟩

theorem readExponent?_spec {n : Int} (hread : readExponent? cs = some n) : IsExponent cs := by
  unfold readExponent? at hread
  split at hread
  · exact .none
  · next c rest =>
    split at hread
    · next hletter =>
      obtain ⟨sign, hsigned, hsame⟩ := splitSign_spec rest
      dsimp only at hread
      split at hread
      · next hdigits =>
        rw [hsame]
        exact .some hletter hsigned ⟨hdigits.1, List.all_eq_true.mp hdigits.2⟩
      · cases hread
    · cases hread

theorem splitFraction_spec {whole : List Char} (hdigits : ∀ c ∈ whole, c.isDigit = true)
    (hsome : ¬(whole = [] ∧ (splitFraction cs).1 = [])) :
    ∃ mantissa, IsMantissa mantissa ∧ whole ++ cs = mantissa ++ (splitFraction cs).2 := by
  unfold splitFraction at hsome ⊢
  split at hsome
  · next rest =>
    rw [List.span_eq_takeWhile_dropWhile] at hsome ⊢
    have hmore : ∀ c ∈ rest.takeWhile Char.isDigit, c.isDigit = true := fun c hmem =>
      List.mem_takeWhile_imp hmem
    have hsame : whole ++ '.' :: rest =
        whole ++ '.' :: rest.takeWhile Char.isDigit ++ rest.dropWhile Char.isDigit := by simp
    by_cases hnothing : whole = []
    · have hnonempty : rest.takeWhile Char.isDigit ≠ [] := fun hnone => hsome ⟨hnothing, hnone⟩
      subst hnothing
      exact ⟨_, .fraction ⟨hnonempty, hmore⟩, hsame⟩
    · exact ⟨_, .pointed ⟨hnothing, hdigits⟩ hmore, hsame⟩
  · have hnonempty : whole ≠ [] := fun hnone => hsome ⟨hnone, rfl⟩
    exact ⟨whole, .whole ⟨hnonempty, hdigits⟩, rfl⟩

theorem isNumeral_of_read? {d : Decimal} (hread : read? cs = some d) : IsNumeral cs := by
  obtain ⟨sign, hsigned, hsame⟩ := splitSign_spec cs
  unfold read? at hread
  dsimp only at hread
  rw [List.span_eq_takeWhile_dropWhile] at hread
  generalize (splitSign cs).2 = unsigned at hread hsame
  have hdigits : ∀ c ∈ unsigned.takeWhile Char.isDigit, c.isDigit = true := fun c hmem =>
    List.mem_takeWhile_imp hmem
  split at hread
  · cases hread
  · next hsome =>
    obtain ⟨mantissa, hisMantissa, hparts⟩ := splitFraction_spec hdigits hsome
    rw [List.takeWhile_append_dropWhile] at hparts
    obtain ⟨n, hexponent, -⟩ := Option.map_eq_some_iff.mp hread
    exact ⟨sign, mantissa, _, hsame.trans (congrArg (sign ++ ·) hparts), hsigned, hisMantissa,
      readExponent?_spec hexponent⟩

end Decimal

theorem IsMantissa.head (hisMantissa : IsMantissa cs) :
    ∃ c rest, cs = c :: rest ∧ (c.isDigit = true ∨ c = '.') := by
  cases hisMantissa with
  | whole hdigits =>
    obtain ⟨c, rest, rfl⟩ := List.exists_cons_of_ne_nil hdigits.nonempty
    exact ⟨c, rest, rfl, .inl (hdigits.digits c List.mem_cons_self)⟩
  | @pointed w f hdigits hmore =>
    obtain ⟨c, rest, rfl⟩ := List.exists_cons_of_ne_nil hdigits.nonempty
    exact ⟨c, rest ++ '.' :: f, rfl, .inl (hdigits.digits c List.mem_cons_self)⟩
  | fraction hdigits => exact ⟨'.', _, rfl, .inr rfl⟩

theorem IsNumeral.head (hisNumeral : IsNumeral cs) :
    ∀ c ∈ cs.head?, c.isDigit = true ∨ c ∈ ['.', '+', '-'] := by
  obtain ⟨sign, mantissa, exponent, rfl, hsigned, hisMantissa, -⟩ := hisNumeral
  intro c hfirst
  rcases hsigned with rfl | rfl | rfl
  · obtain ⟨d, rest, rfl, hdigit⟩ := hisMantissa.head
    obtain rfl : d = c := by simpa using hfirst
    exact hdigit.imp_right fun hpoint => by simp [hpoint]
  · obtain rfl : '+' = c := by simpa using hfirst
    exact .inr (by decide)
  · obtain rfl : '-' = c := by simpa using hfirst
    exact .inr (by decide)

theorem IsMantissa.exists_digit (hisMantissa : IsMantissa cs) : ∃ c ∈ cs, c.isDigit = true := by
  cases hisMantissa with
  | whole hdigits =>
    obtain ⟨c, hmem⟩ := List.exists_mem_of_ne_nil _ hdigits.nonempty
    exact ⟨c, hmem, hdigits.digits c hmem⟩
  | pointed hdigits hmore =>
    obtain ⟨c, hmem⟩ := List.exists_mem_of_ne_nil _ hdigits.nonempty
    exact ⟨c, List.mem_append_left _ hmem, hdigits.digits c hmem⟩
  | fraction hdigits =>
    obtain ⟨c, hmem⟩ := List.exists_mem_of_ne_nil _ hdigits.nonempty
    exact ⟨c, List.mem_cons_of_mem _ hmem, hdigits.digits c hmem⟩

theorem IsNumeral.exists_digit (hisNumeral : IsNumeral cs) : ∃ c ∈ cs, c.isDigit = true := by
  obtain ⟨sign, mantissa, exponent, rfl, -, hisMantissa, -⟩ := hisNumeral
  obtain ⟨c, hmem, hdigit⟩ := hisMantissa.exists_digit
  exact ⟨c, List.mem_append_right _ (List.mem_append_left _ hmem), hdigit⟩

theorem IsNumeral.digit_or_mark (hisNumeral : IsNumeral cs) :
    ∀ c ∈ cs, c.isDigit = true ∨ c ∈ ['.', '+', '-', 'e', 'E'] := by
  have hofSign : ∀ {sign : List Char}, IsSign sign →
      ∀ c ∈ sign, c.isDigit = true ∨ c ∈ ['.', '+', '-', 'e', 'E'] := by
    rintro sign (rfl | rfl | rfl) <;> simp
  obtain ⟨sign, mantissa, exponent, rfl, hsigned, hisMantissa, hisExponent⟩ := hisNumeral
  refine List.forall_mem_append.mpr ⟨hofSign hsigned, List.forall_mem_append.mpr ⟨?_, ?_⟩⟩
  · cases hisMantissa with
    | whole hdigits => exact fun c hmem => .inl (hdigits.digits c hmem)
    | pointed hdigits hmore =>
      refine List.forall_mem_append.mpr ⟨fun c hmem => .inl (hdigits.digits c hmem), ?_⟩
      exact List.forall_mem_cons.mpr ⟨by simp, fun c hmem => .inl (hmore c hmem)⟩
    | fraction hdigits =>
      exact List.forall_mem_cons.mpr ⟨by simp, fun c hmem => .inl (hdigits.digits c hmem)⟩
  · cases hisExponent with
    | none => simp
    | some hletter hsigned hdigits =>
      refine List.forall_mem_cons.mpr ⟨?_, List.forall_mem_append.mpr ⟨hofSign hsigned, ?_⟩⟩
      · rcases hletter with rfl | rfl <;> simp
      · exact fun c hmem => .inl (hdigits.digits c hmem)

end SchemaMigration.Number
