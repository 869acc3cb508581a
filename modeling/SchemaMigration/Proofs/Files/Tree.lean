import SchemaMigration.Files.Tree
import SchemaMigration.Proofs.Fallible

/-!
# Well-formed trees

A tree as a disk holds it has one node at each location and no slash in the name of a file.
Then a directory lists no name twice.
-/

namespace SchemaMigration.Files.FileTree

variable {tree : FileTree}

/-- No location is there twice. -/
def Distinct (tree : FileTree) : Prop := tree.entries.Pairwise (·.1 ≠ ·.1)

/-- A tree as a disk holds it: one node at each location, and no slash in the name of a
file. -/
structure WellNamed (tree : FileTree) : Prop where
  distinct : tree.Distinct
  noSlash : ∀ location content, (location, .file content) ∈ tree.entries →
    ∀ name, location.getLast? = some (.text name) → '/' ∉ name.toList

theorem wellNamed_empty : WellNamed {} := ⟨.nil, by simp⟩

/-! ## The names in a directory -/

theorem pairwise_filterMap_of_key {α β κ : Type} {f : α → Option β} {source : α → κ}
    (target : β → κ) {xs : List α} (h : xs.Pairwise (source · ≠ source ·))
    (hf : ∀ x y, f x = some y → source x = target y) :
    (xs.filterMap f).Pairwise (target · ≠ target ·) := by
  refine List.pairwise_filterMap.mpr (h.imp ?_)
  intro x x' hne y hy y' hy' heq
  exact hne (by rw [hf x y hy, hf x' y' hy', heq])

theorem Distinct.children (h : tree.Distinct) (directory : Location) :
    (tree.children directory).Pairwise (·.1 ≠ ·.1) := by
  unfold FileTree.children
  refine (pairwise_filterMap_of_key (fun child : Name × Node => directory ++ [child.1]) h ?_).imp
    fun hne heq => hne (by rw [heq])
  rintro ⟨location, node⟩ child hchild
  dsimp only at hchild ⊢
  split at hchild
  · next last hlast =>
    split at hchild
    · next hdir =>
      obtain rfl := Option.some.inj hchild
      obtain ⟨start, rfl⟩ := List.getLast?_eq_some_iff.mp hlast
      simpa using hdir
    · simp at hchild
  · simp at hchild

theorem Distinct.fileNames {directory : Path} {names : List String} (h : tree.Distinct)
    (hnames : tree.fileNames directory = .ok names) : names.Nodup := by
  obtain ⟨location, -, hnames⟩ := bind_eq_ok.mp hnames
  split at hnames
  · obtain rfl := Except.ok.inj hnames
    refine (pairwise_filterMap_of_key Name.text (h.children location) ?_).imp
      fun hne heq => hne (by rw [heq])
    -- Only files are named, and a name that is text is that text.
    rintro ⟨value | value, _ | content⟩ name hname <;> simp_all [Name.text?]
  · simp at hnames

theorem WellNamed.fileNames {directory : Path} {names : List String} (h : tree.WellNamed)
    (hnames : tree.fileNames directory = .ok names) : ∀ name ∈ names, '/' ∉ name.toList := by
  obtain ⟨location, -, hnames⟩ := bind_eq_ok.mp hnames
  split at hnames
  swap
  · simp at hnames
  obtain rfl := Except.ok.inj hnames
  intro name hname
  obtain ⟨⟨child, node⟩, hchild, hfile⟩ := List.mem_filterMap.mp hname
  obtain ⟨⟨place, node'⟩, hentry, hlast⟩ := List.mem_filterMap.mp hchild
  dsimp only at hlast
  split at hlast
  swap
  · simp at hlast
  next last hgetLast =>
  split at hlast
  swap
  · simp at hlast
  obtain ⟨rfl, rfl⟩ := Prod.mk.inj (Option.some.inj hlast)
  cases node' with
  | directory => simp at hfile
  | file content =>
    obtain rfl : last = .text name := by
      cases last <;> simp_all [Name.text?]
    exact h.noSlash place content hentry name hgetLast

end SchemaMigration.Files.FileTree
