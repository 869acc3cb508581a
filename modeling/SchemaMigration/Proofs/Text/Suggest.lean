import Mathlib.Order.Bounds.Basic
import SchemaMigration.Proofs.Text.EditDistance
import SchemaMigration.Text.Suggest

/-!
# The nearest candidate

A suggestion is the earliest of the candidates that the fewest edits lead to, as long as three
edits are enough.
-/

namespace SchemaMigration.Text

variable {name other c : String} {before after candidates : List String} {m n : Nat}

/-- So many edits lead from one name to the other without regard to case, and no fewer. -/
def Apart (name other : String) (n : Nat) : Prop :=
  IsLeast {n | Edits n (lowercase name).toList (lowercase other).toList} n

/-- Every candidate before this one is farther from the name, and none after it is nearer. -/
structure NearestAt (name : String) (before : List String) (c : String) (after : List String)
    (n : Nat) : Prop where
  apart : Apart name c n
  before : ∀ other ∈ before, ∀ m, Apart name other m → n < m
  after : ∀ other ∈ after, ∀ m, Apart name other m → n ≤ m

def Nearest (name : String) (candidates : List String) (c : String) (n : Nat) : Prop :=
  ∃ before after, candidates = before ++ c :: after ∧ NearestAt name before c after n

/-- The suggestion that a name gets from a list. -/
structure Suggests (name : String) (candidates : List String) (suggestion : Option String) :
    Prop where
  near (c : String) : suggestion = some c ↔ ∃ n ≤ suggestionDistance, Nearest name candidates c n
  far : suggestion = none ↔ ∀ c ∈ candidates, ∀ n, Apart name c n → suggestionDistance < n

theorem apart_iff : Apart name other n ↔ nameDistance name other = n := by
  have hleast := editDistance_isLeast (lowercase name).toList (lowercase other).toList
  constructor
  · exact fun h => hleast.unique h
  · rintro rfl
    exact hleast

theorem nearestAt_iff : NearestAt name before c after n ↔ nameDistance name c = n ∧
    (∀ other ∈ before, n < nameDistance name other) ∧
    (∀ other ∈ after, n ≤ nameDistance name other) := by
  constructor
  · rintro ⟨hapart, hbefore, hafter⟩
    exact ⟨apart_iff.mp hapart, fun other hother => hbefore other hother _ (apart_iff.mpr rfl),
      fun other hother => hafter other hother _ (apart_iff.mpr rfl)⟩
  · rintro ⟨hapart, hbefore, hafter⟩
    refine ⟨apart_iff.mpr hapart, fun other hother m hm => ?_, fun other hother m hm => ?_⟩
    · exact apart_iff.mp hm ▸ hbefore other hother
    · exact apart_iff.mp hm ▸ hafter other hother

namespace Nearest

theorem apart (h : Nearest name candidates c n) : nameDistance name c = n := by
  obtain ⟨before, after, -, hat⟩ := h
  exact apart_iff.mp hat.apart

theorem mem (h : Nearest name candidates c n) : c ∈ candidates := by
  obtain ⟨before, after, rfl, -⟩ := h
  simp

theorem le (h : Nearest name candidates c n) (hother : other ∈ candidates) :
    n ≤ nameDistance name other := by
  obtain ⟨before, after, rfl, hat⟩ := h
  obtain ⟨hapart, hbefore, hafter⟩ := nearestAt_iff.mp hat
  rcases List.mem_append.mp hother with hother | hother
  · exact (hbefore other hother).le
  · rcases List.mem_cons.mp hother with rfl | hother
    · exact hapart.ge
    · exact hafter other hother

theorem head (h : ∀ other ∈ candidates, nameDistance name c ≤ nameDistance name other) :
    Nearest name (c :: candidates) c (nameDistance name c) :=
  ⟨[], candidates, rfl, nearestAt_iff.mpr ⟨rfl, by simp, h⟩⟩

theorem cons (h : Nearest name candidates c n) (hfarther : n < nameDistance name other) :
    Nearest name (other :: candidates) c n := by
  obtain ⟨before, after, rfl, hat⟩ := h
  obtain ⟨hapart, hbefore, hafter⟩ := nearestAt_iff.mp hat
  refine ⟨other :: before, after, rfl, nearestAt_iff.mpr ⟨hapart, ?_, hafter⟩⟩
  intro x hx
  rcases List.mem_cons.mp hx with rfl | hx
  · exact hfarther
  · exact hbefore x hx

theorem unique {c' : String} (h : Nearest name candidates c n)
    (h' : Nearest name candidates c' m) : c = c' ∧ n = m := by
  have hsame : n = m := by
    have hle := h.le h'.mem
    have hge := h'.le h.mem
    have hc := h.apart
    have hc' := h'.apart
    omega
  obtain ⟨before, after, rfl, hat⟩ := h
  obtain ⟨before', after', hsplit, hat'⟩ := h'
  obtain ⟨hapart, hbefore, -⟩ := nearestAt_iff.mp hat
  obtain ⟨hapart', hbefore', -⟩ := nearestAt_iff.mp hat'
  -- Whichever stands first would be farther than the other, at the same distance.
  rcases List.append_eq_append_iff.mp hsplit with ⟨_ | ⟨d, middle⟩, heq, hrest⟩ |
    ⟨_ | ⟨d, middle⟩, heq, hrest⟩
  · exact ⟨(List.cons.inj hrest).1, hsame⟩
  · obtain ⟨rfl, -⟩ := List.cons.inj hrest
    have := hbefore' c (by simp [heq])
    omega
  · exact ⟨(List.cons.inj hrest).1.symm, hsame⟩
  · obtain ⟨rfl, -⟩ := List.cons.inj hrest
    have := hbefore c' (by simp [heq])
    omega

end Nearest

theorem nearest?_spec (name : String) (candidates : List String) :
    match nearest? name candidates with
    | some (c, n) => Nearest name candidates c n
    | none => candidates = [] := by
  induction candidates with
  | nil => rfl
  | cons c rest ih =>
    rw [nearest?]
    cases hbest : nearest? name rest with
    | none =>
      rw [hbest] at ih
      rw [ih]
      exact .head (by simp)
    | some best =>
      rw [hbest] at ih
      dsimp only
      by_cases hfarther : best.2 < nameDistance name c
      · rw [if_pos hfarther]
        exact ih.cons hfarther
      · rw [if_neg hfarther]
        exact .head fun x hx => (Nat.le_of_not_lt hfarther).trans (ih.le hx)

theorem nearest?_eq_some_iff :
    nearest? name candidates = some (c, n) ↔ Nearest name candidates c n := by
  have hspec := nearest?_spec name candidates
  constructor
  · intro h
    rwa [h] at hspec
  · intro h
    split at hspec
    · next c' n' hbest =>
      obtain ⟨rfl, rfl⟩ := h.unique hspec
      exact hbest
    · next =>
      have := h.mem
      simp [hspec] at this

theorem suggest_eq_some_iff : suggest name candidates = some c ↔
    ∃ n ≤ suggestionDistance, Nearest name candidates c n := by
  simp only [suggest, Option.map_eq_some_iff, Option.filter_eq_some_iff, Prod.exists,
    nearest?_eq_some_iff, decide_eq_true_eq, exists_and_right, exists_eq_right]
  exact exists_congr fun n => and_comm

theorem suggest_eq_none_iff : suggest name candidates = none ↔
    ∀ c ∈ candidates, suggestionDistance < nameDistance name c := by
  have hspec := nearest?_spec name candidates
  unfold suggest
  cases hbest : nearest? name candidates with
  | none =>
    rw [hbest] at hspec
    simp [hspec]
  | some best =>
    rw [hbest] at hspec
    have hapart := hspec.apart
    simp only [Option.map_eq_none_iff, Option.filter_eq_none_iff, Option.some.injEq,
      forall_eq', decide_eq_true_eq, Nat.not_le]
    constructor
    · intro hfar c hc
      exact hfar.trans_le (hspec.le hc)
    · intro hfar
      exact hapart ▸ hfar best.1 hspec.mem

theorem suggest_spec (name : String) (candidates : List String) :
    Suggests name candidates (suggest name candidates) where
  near _ := suggest_eq_some_iff
  far := by simp only [suggest_eq_none_iff, apart_iff, forall_eq']

theorem Suggests.mem {suggestion : Option String} (h : Suggests name candidates suggestion)
    (hsome : suggestion = some c) : c ∈ candidates := by
  obtain ⟨n, -, hnearest⟩ := (h.near c).mp hsome
  exact hnearest.mem

end SchemaMigration.Text
