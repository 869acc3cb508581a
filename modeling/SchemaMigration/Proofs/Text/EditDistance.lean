import Mathlib.Order.Bounds.Defs
import Mathlib.Order.MinMax
import SchemaMigration.Text.EditDistance

/-!
# Edits

An edit inserts, deletes or substitutes one character somewhere in a text. The edit distance
of two texts is the least number of edits that lead from the one to the other.
-/

namespace SchemaMigration.Text

variable {a a' b : List Char} {c d : Char} {n : Nat}

inductive Edit : List Char → List Char → Prop
  | insertion (before : List Char) (c : Char) (after : List Char) :
      Edit (before ++ after) (before ++ c :: after)
  | deletion (before : List Char) (c : Char) (after : List Char) :
      Edit (before ++ c :: after) (before ++ after)
  | substitution (before : List Char) (c d : Char) (after : List Char) :
      Edit (before ++ c :: after) (before ++ d :: after)

/-- So many edits, one after the other. -/
inductive Edits : Nat → List Char → List Char → Prop
  | none (a : List Char) : Edits 0 a a
  | step {n : Nat} {a a' b : List Char} : Edit a a' → Edits n a' b → Edits (n + 1) a b

/-! ## The recursion -/

theorem distanceRow_cons (a b : List Char) (d : Char) :
    distanceRow (d :: b) a = editDistance a (d :: b) :: distanceRow b a := by
  induction a with
  | nil => rfl
  | cons c a ih =>
    unfold editDistance
    rw [distanceRow, ih]
    rfl

theorem editDistance_nil_left (b : List Char) : editDistance [] b = b.length := by
  cases b <;> rfl

theorem editDistance_nil_right (a : List Char) : editDistance a [] = a.length := by
  induction a with
  | nil => rfl
  | cons c a ih =>
    rw [List.length_cons, ← ih]
    rfl

theorem editDistance_cons (a b : List Char) (c d : Char) :
    editDistance (c :: a) (d :: b) =
      min (min (editDistance a (d :: b)) (editDistance (c :: a) b) + 1)
        (editDistance a b + if c = d then 0 else 1) := by
  unfold editDistance
  rw [distanceRow, distanceRow_cons]
  rfl

theorem editDistance_self (a : List Char) : editDistance a a = 0 := by
  induction a with
  | nil => rfl
  | cons c a ih => simp [editDistance_cons, ih]

/-! ## No fewer edits will do -/

theorem editDistance_delete (a b : List Char) (c : Char) :
    editDistance (c :: a) b ≤ editDistance a b + 1 := by
  cases b with
  | nil => simp [editDistance_nil_right]
  | cons d b =>
    rw [editDistance_cons]
    omega

theorem editDistance_insert (a b : List Char) (d : Char) :
    editDistance a (d :: b) ≤ editDistance a b + 1 := by
  cases a with
  | nil => simp [editDistance_nil_left]
  | cons c a =>
    rw [editDistance_cons]
    omega

theorem editDistance_inserted (a b : List Char) (c : Char) :
    editDistance a b ≤ editDistance (c :: a) b + 1 := by
  induction b with
  | nil =>
    simp only [editDistance_nil_right, List.length_cons]
    omega
  | cons d b ih =>
    have hinsert := editDistance_insert a b d
    rw [editDistance_cons]
    omega

theorem editDistance_substituted (a b : List Char) (c c' : Char) :
    editDistance (c :: a) b ≤ editDistance (c' :: a) b + 1 := by
  induction b with
  | nil => simp [editDistance_nil_right]
  | cons d b ih =>
    have hmismatch : (if c = d then 0 else 1) ≤ 1 := by split <;> omega
    rw [editDistance_cons, editDistance_cons]
    omega

theorem editDistance_behind (h : ∀ b, editDistance a b ≤ editDistance a' b + 1) (c : Char)
    (b : List Char) : editDistance (c :: a) b ≤ editDistance (c :: a') b + 1 := by
  induction b with
  | nil =>
    have hnil := h []
    simp only [editDistance_nil_right, List.length_cons] at hnil ⊢
    omega
  | cons d b ih =>
    -- Of the three terms of the recursion `h` bounds the first and the last, and `ih` the other.
    have hcons := h (d :: b)
    have hrest := h b
    rw [editDistance_cons, editDistance_cons]
    omega

theorem editDistance_append_behind (h : ∀ b, editDistance a b ≤ editDistance a' b + 1)
    (before b : List Char) : editDistance (before ++ a) b ≤ editDistance (before ++ a') b + 1 := by
  induction before generalizing b with
  | nil => exact h b
  | cons c before ih => exact editDistance_behind ih c b

theorem Edit.editDistance_le (h : Edit a a') (b : List Char) :
    editDistance a b ≤ editDistance a' b + 1 := by
  cases h with
  | insertion before c after =>
    exact editDistance_append_behind (editDistance_inserted after · c) before b
  | deletion before c after =>
    exact editDistance_append_behind (editDistance_delete after · c) before b
  | substitution before c d after =>
    exact editDistance_append_behind (editDistance_substituted after · c d) before b

theorem Edits.editDistance_le (h : Edits n a b) : editDistance a b ≤ n := by
  induction h with
  | none a => exact (editDistance_self a).le
  | @step n a a' b hedit _ ih =>
    have hfirst := hedit.editDistance_le b
    omega

/-! ## As many edits will do -/

theorem Edit.behind (h : Edit a a') (c : Char) : Edit (c :: a) (c :: a') := by
  cases h with
  | insertion before d after => exact .insertion (c :: before) d after
  | deletion before d after => exact .deletion (c :: before) d after
  | substitution before d e after => exact .substitution (c :: before) d e after

theorem Edits.behind (h : Edits n a b) (c : Char) : Edits n (c :: a) (c :: b) := by
  induction h with
  | none a => exact .none (c :: a)
  | step hedit _ ih => exact .step (hedit.behind c) ih

theorem Edits.min {m : Nat} (h : Edits m a b) (h' : Edits n a b) : Edits (min m n) a b := by
  rcases min_choice m n with hbest | hbest
  · rwa [hbest]
  · rwa [hbest]

theorem edits_nil_left (b : List Char) : Edits b.length [] b := by
  induction b with
  | nil => exact .none []
  | cons d b ih => exact .step (.insertion [] d []) (ih.behind d)

theorem edits_nil_right (a : List Char) : Edits a.length a [] := by
  induction a with
  | nil => exact .none []
  | cons c a ih => exact .step (.deletion [] c a) ih

/-- The edits that the distance counts. -/
theorem edits_editDistance (a b : List Char) : Edits (editDistance a b) a b := by
  induction a generalizing b with
  | nil =>
    rw [editDistance_nil_left]
    exact edits_nil_left b
  | cons c a iha =>
    induction b with
    | nil =>
      rw [editDistance_nil_right]
      exact edits_nil_right (c :: a)
    | cons d b ihb =>
      -- Every term of the minimum is the number of edits of some way to begin.
      have hdelete : Edits (editDistance a (d :: b) + 1) (c :: a) (d :: b) :=
        .step (.deletion [] c a) (iha (d :: b))
      have hinsert : Edits (editDistance (c :: a) b + 1) (c :: a) (d :: b) :=
        .step (.insertion [] d (c :: a)) (ihb.behind d)
      have hsubstitute : Edits (editDistance a b + if c = d then 0 else 1) (c :: a) (d :: b) := by
        split
        · next heq => exact heq ▸ (iha b).behind c
        · exact .step (.substitution [] c d a) ((iha b).behind d)
      rw [editDistance_cons, ← Nat.add_min_add_right]
      exact (hdelete.min hinsert).min hsubstitute

theorem editDistance_isLeast (a b : List Char) : IsLeast {n | Edits n a b} (editDistance a b) :=
  ⟨edits_editDistance a b, fun _ h => h.editDistance_le⟩

end SchemaMigration.Text
