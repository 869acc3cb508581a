import SchemaMigration.Text.Search

/-!
# Reading what is written twice

A text between two quotes, with the quotes inside written twice, is read back together with what
follows it, as long as that does not go on with another quote.
-/

namespace SchemaMigration.Text

variable {q : Char} {cs ds rest others : List Char}

/-- Reads up to the closing `q`, which is one that stands alone; also what follows it. -/
def readDoubled? (q : Char) : List Char → Option (List Char × List Char)
  | [] => none
  | [c] => if c = q then some ([], []) else none
  | c :: d :: rest =>
    if c = q then
      if d = q then (readDoubled? q rest).map (Prod.map (q :: ·) id) else some ([], d :: rest)
    else (readDoubled? q (d :: rest)).map (Prod.map (c :: ·) id)

theorem readDoubled?_closing (hstops : rest.head? ≠ some q) :
    readDoubled? q (q :: rest) = some ([], rest) := by
  cases rest with
  | nil => simp [readDoubled?]
  | cons d rest =>
    have hother : d ≠ q := by simpa using hstops
    simp [readDoubled?, hother]

theorem readDoubled?_cons {c d : Char} (hother : c ≠ q) (rest : List Char) :
    readDoubled? q (c :: d :: rest) = (readDoubled? q (d :: rest)).map (Prod.map (c :: ·) id) := by
  simp [readDoubled?, hother]

theorem readDoubled?_append (q : Char) (cs rest : List Char) :
    readDoubled? q (doubled q cs ++ rest) = (readDoubled? q rest).map (Prod.map (cs ++ ·) id) := by
  induction cs with
  | nil =>
    have hnothing : Prod.map ([] ++ ·) id = (id : List Char × List Char → List Char × List Char) := rfl
    rw [hnothing, Option.map_id]
    rfl
  | cons c cs ih =>
    by_cases hsame : c = q
    · subst hsame
      simp only [doubled, if_true, List.cons_append, readDoubled?, ih, Option.map_map]
      rfl
    · rw [doubled, if_neg hsame, List.cons_append]
      cases hmore : doubled q cs ++ rest with
      | nil =>
        obtain ⟨-, rfl⟩ := List.append_eq_nil_iff.mp hmore
        simp [readDoubled?, hsame]
      | cons d tail =>
        rw [readDoubled?_cons hsame, ← hmore, ih, Option.map_map]
        rfl

theorem readDoubled?_doubled (cs : List Char) (hstops : rest.head? ≠ some q) :
    readDoubled? q (doubled q cs ++ q :: rest) = some (cs, rest) := by
  rw [readDoubled?_append, readDoubled?_closing hstops]
  simp

theorem doubled_append_inj (hstops : rest.head? ≠ some q) (hstops' : others.head? ≠ some q)
    (hsame : doubled q cs ++ q :: rest = doubled q ds ++ q :: others) : cs = ds ∧ rest = others := by
  have hread := congrArg (readDoubled? q) hsame
  rw [readDoubled?_doubled cs hstops, readDoubled?_doubled ds hstops'] at hread
  simpa using hread

theorem eq_of_readDoubled? (hread : readDoubled? q cs = some (ds, rest)) :
    cs = doubled q ds ++ q :: rest := by
  induction cs using readDoubled?.induct q generalizing ds with
  | case1 => cases hread
  | case2 =>
    simp only [readDoubled?, if_true, Option.some.injEq, Prod.mk.injEq] at hread
    obtain ⟨rfl, rfl⟩ := hread
    rfl
  | case3 c hother => simp [readDoubled?, hother] at hread
  | case4 cs ih =>
    simp only [readDoubled?, if_true, Option.map_eq_some_iff] at hread
    obtain ⟨⟨text, left⟩, hinner, ⟨⟩⟩ := hread
    rw [ih hinner]
    simp [doubled]
  | case5 d cs hother =>
    simp only [readDoubled?, if_true, if_neg hother, Option.some.injEq, Prod.mk.injEq] at hread
    obtain ⟨rfl, rfl⟩ := hread
    rfl
  | case6 c d cs hother ih =>
    rw [readDoubled?_cons hother, Option.map_eq_some_iff] at hread
    obtain ⟨⟨text, left⟩, hinner, ⟨⟩⟩ := hread
    rw [ih hinner]
    simp [doubled, hother]

theorem length_readDoubled? (hread : readDoubled? q cs = some (ds, rest)) : rest.length < cs.length := by
  rw [eq_of_readDoubled? hread]
  simp
  omega

end SchemaMigration.Text
