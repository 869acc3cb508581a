import Mathlib.Data.List.DropRight
import SchemaMigration.Text.Blank
import SchemaMigration.Text.Word

/-! # Blanks, names and trimming -/

namespace SchemaMigration.Text

def blankCodes : List Nat :=
  [0x9, 0xA, 0xB, 0xC, 0xD, 0x20, 0x85, 0xA0, 0x1680, 0x2000, 0x2001, 0x2002, 0x2003, 0x2004, 0x2005,
    0x2006, 0x2007, 0x2008, 0x2009, 0x200A, 0x2028, 0x2029, 0x202F, 0x205F, 0x3000]

theorem mem_blankCodes {c : Char} (h : isBlank c = true) : c.toNat ∈ blankCodes := by
  simp only [isBlank, Bool.or_eq_true, Bool.and_eq_true, decide_eq_true_eq, beq_iff_eq] at h
  simp only [blankCodes, List.mem_cons, List.not_mem_nil, or_false]
  omega

theorem isWordChar_of_mem_blankCodes :
    ∀ n ∈ blankCodes, isWordChar (Char.ofNat n) = false := by
  decide +kernel

theorem isWordChar_of_isBlank {c : Char} (h : isBlank c = true) : isWordChar c = false := by
  have hnamed := isWordChar_of_mem_blankCodes c.toNat (mem_blankCodes h)
  rwa [Char.ofNat_toNat] at hnamed

theorem isBlank_of_isWordChar {c : Char} (h : isWordChar c = true) : isBlank c = false := by
  by_contra hblank
  rw [Bool.not_eq_false] at hblank
  rw [isWordChar_of_isBlank hblank] at h
  cases h

theorem isBlank_of_isAsciiBlank {c : Char} (h : isAsciiBlank c = true) : isBlank c = true := by
  simp only [isAsciiBlank, Bool.or_eq_true, beq_iff_eq] at h
  rcases h with ((rfl | rfl) | rfl) | rfl <;> rfl

/-! ## Trimming -/

theorem trimEnd_eq (cs : List Char) : trimEnd cs = cs.rdropWhile isBlank := rfl

theorem length_trim_le (cs : List Char) : (trim cs).length ≤ cs.length := by
  have hlast : (trim cs).length ≤ (trimStart cs).length := by
    rw [trim, trimEnd_eq]
    exact (List.rdropWhile_prefix _ _).length_le
  exact hlast.trans (List.dropWhile_sublist _).length_le

theorem trim_eq_nil_iff {cs : List Char} : trim cs = [] ↔ ∀ c ∈ cs, isBlank c = true := by
  rw [trim, trimEnd_eq, List.rdropWhile_eq_nil_iff]
  constructor
  · intro hblank
    have hnothing : cs.dropWhile isBlank = [] := by
      by_contra hnonempty
      have hstops := List.head_dropWhile_not isBlank hnonempty
      rw [hblank _ (List.head_mem hnonempty)] at hstops
      cases hstops
    exact List.dropWhile_eq_nil_iff.mp hnothing
  · intro hblank c hmem
    exact hblank c ((List.dropWhile_sublist _).subset hmem)

/-- A text that neither begins nor ends with a blank. -/
structure Trimmed (cs : List Char) : Prop where
  head : ∀ c ∈ cs.head?, isBlank c = false
  last : ∀ c ∈ cs.getLast?, isBlank c = false

theorem trimmed_trim (cs : List Char) : Trimmed (trim cs) := by
  rw [trim, trimEnd_eq]
  constructor
  · intro c hfirst
    obtain ⟨rest, hsame⟩ := List.rdropWhile_prefix isBlank (trimStart cs)
    have hstops := List.head?_dropWhile_not isBlank cs
    have hstart : (cs.dropWhile isBlank).head? = some c := by
      rw [← trimStart, ← hsame, List.head?_append, Option.mem_def.mp hfirst, Option.some_or]
    rw [hstart] at hstops
    exact hstops
  · intro c hlast
    have hnonempty : (trimStart cs).rdropWhile isBlank ≠ [] := by
      intro hnone
      simp [hnone] at hlast
    have hends := List.rdropWhile_last_not isBlank (trimStart cs) hnonempty
    rw [List.getLast?_eq_some_getLast hnonempty] at hlast
    simpa [← Option.some.inj hlast] using hends

theorem trimEnd_padded {cs trail : List Char} (hblank : ∀ c ∈ trail, isBlank c = true)
    (htrimmed : Trimmed cs) : trimEnd (cs ++ trail) = cs := by
  have hreversed : ∀ c ∈ trail.reverse, isBlank c = true := by simpa using hblank
  rw [trimEnd, List.reverse_append, List.dropWhile_append_of_pos hreversed]
  cases h : cs.reverse with
  | nil => simp_all
  | cons c rest =>
    have hends : c ∈ cs.getLast? := by simp [← List.head?_reverse, h]
    rw [List.dropWhile_cons_of_neg (by simp [htrimmed.last c hends]), ← h, List.reverse_reverse]

theorem isBlank_of_mem_nil : ∀ c ∈ ([] : List Char), isBlank c = true := by simp

theorem trim_padded {lead cs trail : List Char} (hbefore : ∀ c ∈ lead, isBlank c = true)
    (hafter : ∀ c ∈ trail, isBlank c = true) (hnonempty : cs ≠ []) (htrimmed : Trimmed cs) :
    trim (lead ++ (cs ++ trail)) = cs := by
  obtain ⟨c, rest, rfl⟩ := List.exists_cons_of_ne_nil hnonempty
  have hfirst : trimStart (lead ++ (c :: rest ++ trail)) = c :: rest ++ trail := by
    rw [trimStart, List.dropWhile_append_of_pos hbefore, List.cons_append,
      List.dropWhile_cons_of_neg (by simp [htrimmed.head c rfl])]
  rw [trim, hfirst, trimEnd_padded hafter htrimmed]

theorem Trimmed.trim_append {cs trail : List Char} (htrimmed : Trimmed cs) (hnonempty : cs ≠ [])
    (hafter : ∀ c ∈ trail, isBlank c = true) : trim (cs ++ trail) = cs :=
  trim_padded isBlank_of_mem_nil hafter hnonempty htrimmed

theorem Trimmed.trim_eq {cs : List Char} (htrimmed : Trimmed cs) (hnonempty : cs ≠ []) :
    trim cs = cs := by
  have hpadded := htrimmed.trim_append hnonempty isBlank_of_mem_nil
  rwa [List.append_nil] at hpadded

end SchemaMigration.Text
