import SchemaMigration.Proofs.Sql.Value
import SchemaMigration.Sql.Interpolate

/-!
# The placeholders of a statement

A statement is a row of characters and placeholders, each with its number and its value. To
write the values is to replace placeholders by characters: all of them at once, or those from
one number on.
-/

namespace SchemaMigration.Sql

open Text Number

/-! ## All values at once -/

/-- A part of a statement: a character, or a placeholder with its number and its value. -/
inductive Piece
  | char (c : Char)
  | slot (number : Nat) (value : SqlValue)
  deriving DecidableEq, Repr

/-- The number that the digits behind a `$` write without a leading zero, and its value, if it
has one. -/
def slotAt? (params : List SqlValue) (c : Char) (rest : List Char) : Option (SqlValue × Nat) :=
  if c = '$' then
    (params.zipIdx 1).find? fun entry => decimalDigits entry.2 = rest.takeWhile Char.isDigit
  else none

/-- A placeholder takes all the digits behind its `$`. -/
def pieces (params : List SqlValue) : List Char → List Piece
  | [] => []
  | c :: rest =>
    match slotAt? params c rest with
    | some (value, number) => .slot number value :: pieces params (rest.dropWhile Char.isDigit)
    | none => .char c :: pieces params rest
termination_by cs => cs.length
decreasing_by
  · have hshorter := (List.dropWhile_sublist Char.isDigit (l := rest)).length_le
    simp only [List.length_cons]
    omega
  · simp

namespace Piece

def text : Piece → List Char
  | .char c => [c]
  | .slot number _ => '$' :: decimalDigits number

def filled : Piece → List Char
  | .char c => [c]
  | .slot _ value => value.literal.toList

/-- The number behind the `$` with which a piece begins, zero where there is none. -/
def stem? : Piece → Option Nat
  | .char c => if c = '$' then some 0 else none
  | .slot number _ => some number

end Piece

/-- Every placeholder replaced by its value, in one pass from left to right. -/
def fillAtOnce (params : List SqlValue) (sql : String) : String :=
  String.ofList ((pieces params sql.toList).flatMap Piece.filled)

/-! ## The pieces of a statement -/

variable {params : List SqlValue} {cs : List Char} {number least : Nat} {value : SqlValue}
variable {ps qs : List Piece}

theorem slotAt?_eq_some {c : Char} {rest : List Char}
    (hfound : slotAt? params c rest = some (value, number)) :
    c = '$' ∧ decimalDigits number = rest.takeWhile Char.isDigit ∧
      0 < number ∧ number ≤ params.length ∧ params[number - 1]? = some value := by
  unfold slotAt? at hfound
  split at hfound
  · next hmark =>
    have hnamed := List.find?_some hfound
    have hmem := List.mem_of_find?_eq_some hfound
    obtain ⟨hpositive, hthere⟩ := List.mem_zipIdx_iff_le_and_getElem?_sub.mp hmem
    obtain ⟨hinside, -⟩ := List.getElem?_eq_some_iff.mp hthere
    dsimp only at hnamed hpositive hthere hinside
    exact ⟨hmark, by simpa using hnamed, hpositive, by omega, hthere⟩
  · cases hfound

def textOf (ps : List Piece) : List Char := ps.flatMap Piece.text

@[simp] theorem textOf_nil : textOf [] = [] := rfl

@[simp] theorem textOf_cons (p : Piece) (ps : List Piece) : textOf (p :: ps) = p.text ++ textOf ps := rfl

@[simp] theorem textOf_append (ps qs : List Piece) : textOf (ps ++ qs) = textOf ps ++ textOf qs :=
  List.flatMap_append

@[simp] theorem textOf_chars (cs : List Char) : textOf (cs.map .char) = cs := by
  induction cs with
  | nil => rfl
  | cons c cs ih => simp [Piece.text, ih]

theorem textOf_pieces (params : List SqlValue) (cs : List Char) : textOf (pieces params cs) = cs := by
  induction cs using pieces.induct params with
  | case1 => simp [pieces]
  | case2 c rest value number hfound ih =>
    obtain ⟨rfl, hdigits, -⟩ := slotAt?_eq_some hfound
    rw [pieces, hfound]
    simp [ih, Piece.text, hdigits]
  | case3 c rest hnone ih =>
    rw [pieces, hnone]
    simp [ih, Piece.text]

theorem slot_of_mem_pieces (hmem : .slot number value ∈ pieces params cs) :
    0 < number ∧ number ≤ params.length ∧ params[number - 1]? = some value := by
  induction cs using pieces.induct params with
  | case1 => simp [pieces] at hmem
  | case2 c rest value' number' hfound ih =>
    rw [pieces, hfound] at hmem
    rcases List.mem_cons.mp hmem with hsame | hmem
    · obtain ⟨rfl, rfl⟩ := Piece.slot.inj hsame
      exact (slotAt?_eq_some hfound).2.2
    · exact ih hmem
  | case3 c rest hnone ih =>
    rw [pieces, hnone] at hmem
    exact ih (by simpa using hmem)

theorem not_isDigit_behind_slot {d : Char}
    (hnext : [.slot number value, .char d] <:+: pieces params cs) : d.isDigit = false := by
  induction cs using pieces.induct params with
  | case1 => simp [pieces] at hnext
  | case2 c rest value' number' hfound ih =>
    rw [pieces, hfound] at hnext
    rcases List.infix_cons_iff.mp hnext with hhere | hlater
    · obtain ⟨after, hsame⟩ := (List.cons_prefix_cons.mp hhere).2
      have htext := textOf_pieces params (rest.dropWhile Char.isDigit)
      have hstops := List.head?_dropWhile_not Char.isDigit rest
      rw [← htext, ← hsame] at hstops
      simpa [Piece.text] using hstops
    · exact ih hlater
  | case3 c rest hnone ih =>
    rw [pieces, hnone] at hnext
    rcases List.infix_cons_iff.mp hnext with hhere | hlater
    · simp at hhere
    · exact ih hlater

/-! ## The values from one number on -/

namespace Piece

def writtenFrom (least : Nat) : Piece → List Piece
  | .char c => [.char c]
  | .slot number value =>
    if least ≤ number then value.literal.toList.map .char else [.slot number value]

theorem writtenFrom_of_le (hlater : least ≤ number) :
    (slot number value).writtenFrom least = value.literal.toList.map .char := if_pos hlater

theorem writtenFrom_of_lt (hbelow : number < least) :
    (slot number value).writtenFrom least = [slot number value] := if_neg (by omega)

theorem writtenFrom_ne_nil (least : Nat) (p : Piece) : p.writtenFrom least ≠ [] := by
  cases p with
  | char c => simp [writtenFrom]
  | slot number value =>
    rcases Nat.lt_or_ge number least with hbelow | hlater
    · simp [writtenFrom_of_lt hbelow]
    · simpa [writtenFrom_of_le hlater] using value.literal_ends.1

end Piece

/-- The pieces once the values of all numbers from `least` on are written. -/
def writtenFrom (least : Nat) (ps : List Piece) : List Piece := ps.flatMap (Piece.writtenFrom least)

@[simp] theorem writtenFrom_nil : writtenFrom least [] = [] := rfl

@[simp] theorem writtenFrom_cons (p : Piece) (ps : List Piece) :
    writtenFrom least (p :: ps) = p.writtenFrom least ++ writtenFrom least ps := rfl

@[simp] theorem writtenFrom_append (ps qs : List Piece) :
    writtenFrom least (ps ++ qs) = writtenFrom least ps ++ writtenFrom least qs :=
  List.flatMap_append

@[simp] theorem writtenFrom_chars (cs : List Char) :
    writtenFrom least (cs.map .char) = cs.map .char := by
  induction cs with
  | nil => rfl
  | cons c cs ih => simp [Piece.writtenFrom, ih]

theorem writtenFrom_writtenFrom (number : Nat) (ps : List Piece) :
    writtenFrom number (writtenFrom (number + 1) ps) = writtenFrom number ps := by
  induction ps with
  | nil => rfl
  | cons p ps ih =>
    rw [writtenFrom_cons, writtenFrom_append, ih, writtenFrom_cons]
    congr 1
    cases p with
    | char c => rfl
    | slot n value =>
      rcases Nat.lt_or_ge n (number + 1) with hbelow | hlater
      · rw [Piece.writtenFrom_of_lt hbelow, writtenFrom_cons, writtenFrom_nil, List.append_nil]
      · rw [Piece.writtenFrom_of_le hlater, writtenFrom_chars, Piece.writtenFrom_of_le (by omega)]

theorem slot_of_mem_writtenFrom (hmem : .slot number value ∈ writtenFrom least ps) :
    .slot number value ∈ ps ∧ number < least := by
  obtain ⟨p, hinside, hmem⟩ := List.mem_flatMap.mp hmem
  cases p with
  | char c => simp [Piece.writtenFrom] at hmem
  | slot n v =>
    rcases Nat.lt_or_ge n least with hbelow | hlater
    · rw [Piece.writtenFrom_of_lt hbelow] at hmem
      obtain ⟨rfl, rfl⟩ := Piece.slot.inj (List.mem_singleton.mp hmem)
      exact ⟨hinside, hbelow⟩
    · simp [Piece.writtenFrom_of_le hlater] at hmem

theorem writtenFrom_of_below (hbelow : ∀ n v, .slot n v ∈ ps → n < least) : writtenFrom least ps = ps := by
  induction ps with
  | nil => rfl
  | cons p ps ih =>
    rw [writtenFrom_cons, ih fun n v hmem => hbelow n v (List.mem_cons_of_mem _ hmem)]
    cases p with
    | char c => rfl
    | slot n v =>
      rw [Piece.writtenFrom_of_lt (hbelow n v List.mem_cons_self)]
      rfl

theorem textOf_writtenFrom_one (hpositive : ∀ n v, .slot n v ∈ ps → 0 < n) :
    textOf (writtenFrom 1 ps) = ps.flatMap Piece.filled := by
  induction ps with
  | nil => rfl
  | cons p ps ih =>
    rw [writtenFrom_cons, textOf_append, ih fun n v hmem => hpositive n v (List.mem_cons_of_mem _ hmem),
      List.flatMap_cons]
    congr 1
    cases p with
    | char c => rfl
    | slot n v =>
      rw [Piece.writtenFrom_of_le (hpositive n v List.mem_cons_self), textOf_chars]
      rfl

/-! ## Neighbours -/

theorem neighbours_of_flatMap {α β : Type} {f : α → List β} {xs : List α} {a b : β}
    (hnonempty : ∀ x, f x ≠ []) (hnext : [a, b] <:+: xs.flatMap f) :
    (∃ x ∈ xs, [a, b] <:+: f x) ∨
      ∃ x y, [x, y] <:+: xs ∧ a ∈ (f x).getLast? ∧ b ∈ (f y).head? := by
  induction xs with
  | nil => simp at hnext
  | cons x xs ih =>
    have hlater (hbehind : [a, b] <:+: xs.flatMap f) : (∃ y ∈ x :: xs, [a, b] <:+: f y) ∨
        ∃ y z, [y, z] <:+: x :: xs ∧ a ∈ (f y).getLast? ∧ b ∈ (f z).head? := by
      rcases ih hbehind with ⟨y, hmem, hinside⟩ | ⟨y, z, hbetween, hlast, hfirst⟩
      · exact .inl ⟨y, List.mem_cons_of_mem _ hmem, hinside⟩
      · exact .inr ⟨y, z, hbetween.trans (List.suffix_cons x xs).isInfix, hlast, hfirst⟩
    rw [List.flatMap_cons, List.infix_append_iff] at hnext
    rcases hnext with hinside | hbehind | ⟨front, back, hsame, hends, hstarts⟩
    · exact .inl ⟨x, List.mem_cons_self, hinside⟩
    · exact hlater hbehind
    · match front, hsame with
      | [], hsame => exact hlater (hsame ▸ hstarts.isInfix)
      | [c], hsame =>
        obtain ⟨rfl, rfl⟩ : a = c ∧ [b] = back := List.cons.inj hsame
        obtain ⟨y, ys, rfl⟩ : ∃ y ys, xs = y :: ys := by
          refine List.exists_cons_of_ne_nil ?_
          rintro rfl
          simp at hstarts
        obtain ⟨d, rest, hfirst⟩ := List.exists_cons_of_ne_nil (hnonempty y)
        rw [List.flatMap_cons, hfirst, List.cons_append, List.cons_prefix_cons] at hstarts
        obtain ⟨before, hwhole⟩ := hends
        refine .inr ⟨x, y, ⟨[], ys, rfl⟩, ?_, ?_⟩
        · simp [← hwhole]
        · simp [hfirst, hstarts.1]
      | c :: d :: others, hsame =>
        obtain ⟨rfl, hsecond⟩ := List.cons.inj hsame
        obtain ⟨rfl, hthird⟩ := List.cons.inj hsecond
        obtain ⟨rfl, -⟩ : others = [] ∧ back = [] := by simpa using hthird.symm
        exact .inl ⟨x, List.mem_cons_self, hends.isInfix⟩

theorem char_of_head?_textOf {d : Char} (hfirst : d ∈ (textOf ps).head?) (hother : d ≠ '$') :
    ∃ rest, ps = .char d :: rest := by
  cases ps with
  | nil => simp at hfirst
  | cons p rest =>
    cases p with
    | char c =>
      obtain rfl : c = d := by simpa [Piece.text] using hfirst
      exact ⟨rest, rfl⟩
    | slot n v =>
      obtain rfl : '$' = d := by simpa [Piece.text] using hfirst
      exact absurd rfl hother

theorem next_of_writtenFrom {p q : Piece} {stem : Nat} (hmarked : stem ∈ p.stem?)
    (hnext : [p, q] <:+: writtenFrom least ps) :
    (∃ n v, .slot n v ∈ ps ∧ least ≤ n ∧ [p, q] <:+: v.literal.toList.map .char) ∨
      ∃ y, [p, y] <:+: ps ∧ q ∈ (y.writtenFrom least).head? := by
  rcases neighbours_of_flatMap (Piece.writtenFrom_ne_nil least) hnext with
    ⟨x, hmem, hinside⟩ | ⟨x, y, hbetween, hlast, hfirst⟩
  · left
    cases x with
    | char c =>
      have hsize := hinside.length_le
      simp [Piece.writtenFrom] at hsize
    | slot n v =>
      rcases Nat.lt_or_ge n least with hbelow | hlater
      · rw [Piece.writtenFrom_of_lt hbelow] at hinside
        simpa using hinside.length_le
      · rw [Piece.writtenFrom_of_le hlater] at hinside
        exact ⟨n, v, hmem, hlater, hinside⟩
  · right
    refine ⟨y, ?_, hfirst⟩
    suffices x = p by rwa [← this]
    cases x with
    | char c => simpa [Piece.writtenFrom] using hlast
    | slot n v =>
      rcases Nat.lt_or_ge n least with hbelow | hlater
      · simpa [Piece.writtenFrom_of_lt hbelow] using hlast
      · rw [Piece.writtenFrom_of_le hlater, List.getLast?_map] at hlast
        obtain ⟨c, hends, rfl⟩ := Option.map_eq_some_iff.mp hlast
        obtain ⟨rfl, -⟩ : c = '$' ∧ stem = 0 := by simpa [Piece.stem?, eq_comm] using hmarked
        exact absurd hends v.literal_ends.2.2

theorem head?_writtenFrom {d : Char} {y : Piece} (hfirst : .char d ∈ (y.writtenFrom least).head?) :
    y = .char d ∨ ∃ n v, y = .slot n v ∧ least ≤ n ∧ d ∈ v.literal.toList.head? := by
  cases y with
  | char c => exact .inl (by simpa [Piece.writtenFrom] using hfirst)
  | slot n v =>
    rcases Nat.lt_or_ge n least with hbelow | hlater
    · simp [Piece.writtenFrom_of_lt hbelow] at hfirst
    · exact .inr ⟨n, v, rfl, hlater, by simpa [Piece.writtenFrom_of_le hlater] using hfirst⟩

end SchemaMigration.Sql
