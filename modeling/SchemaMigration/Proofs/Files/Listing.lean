import SchemaMigration.Proofs.Files.Directory

/-!
# What a tree shows

A tree is a listing, and its order does not matter: what a path leads to and which names a
directory has depends on the nodes alone. Making the directories of a path adds nothing but
those.
-/

namespace SchemaMigration.Files.FileTree

open SchemaMigration.Files.Path

variable {tree other made : FileTree} {start next : Location} {path : List String}

/-! ## The nodes of a listing -/

theorem mem_entries_iff (h : tree.Distinct) {location : Location} {node : Node}
    (hbelow : location ≠ []) : (location, node) ∈ tree.entries ↔ tree.node? location = some node := by
  unfold Distinct at h
  unfold node?
  rw [if_neg hbelow]
  generalize tree.entries = entries at h
  induction entries with
  | nil => simp
  | cons entry rest ih =>
    obtain ⟨hentry, hrest⟩ := List.pairwise_cons.mp h
    obtain ⟨place, found⟩ := entry
    rw [List.mem_cons, ih hrest, List.lookup_cons]
    by_cases hplace : location = place
    · subst hplace
      have hlater : List.lookup location rest = none :=
        List.lookup_eq_none_iff.mpr fun later hlater => bne_iff_ne.mpr (hentry later hlater)
      simp [hlater, eq_comm]
    · simp [hplace, beq_eq_false_iff_ne.mpr hplace]

theorem mem_fileNames {directory : Path} {names : List String} (h : tree.Distinct)
    (hnames : tree.fileNames directory = .ok names) {name : String} :
    name ∈ names ↔ ∃ location content, tree.resolve directory = .ok location ∧
      tree.node? (location ++ [.text name]) = some (.file content) := by
  obtain ⟨location, hlocation, hnames⟩ := bind_eq_ok.mp hnames
  split at hnames
  swap
  · simp at hnames
  obtain rfl := Except.ok.inj hnames
  have hentry : ∀ content, (location ++ [Name.text name], Node.file content) ∈ tree.entries ↔
      tree.node? (location ++ [.text name]) = some (.file content) :=
    fun content => mem_entries_iff h (by simp)
  rw [List.mem_filterMap]
  constructor
  · rintro ⟨⟨child, node⟩, hchild, hfile⟩
    obtain ⟨⟨place, node'⟩, hmem, hplace⟩ := List.mem_filterMap.mp hchild
    dsimp only at hplace
    split at hplace
    swap
    · simp at hplace
    next last hlast =>
    split at hplace
    swap
    · simp at hplace
    next hparent =>
    obtain ⟨rfl, rfl⟩ := Prod.mk.inj (Option.some.inj hplace)
    obtain ⟨above, rfl⟩ := List.getLast?_eq_some_iff.mp hlast
    rw [List.dropLast_concat] at hparent
    subst hparent
    cases node' with
    | directory => simp at hfile
    | file content =>
      obtain rfl : last = .text name := by
        cases last <;> simp_all [Name.text?]
      exact ⟨above, content, hlocation, (hentry content).mp hmem⟩
  · rintro ⟨place, content, hplace, hnode⟩
    obtain rfl : location = place := Except.ok.inj (hlocation.symm.trans hplace)
    refine ⟨(.text name, .file content), ?_, rfl⟩
    exact List.mem_filterMap.mpr ⟨_, (hentry content).mpr hnode, by simp⟩

/-! ## Trees with the same nodes -/

/-- The two listings show the same nodes. -/
def Agree (tree other : FileTree) : Prop := ∀ location, tree.node? location = other.node? location

theorem agree_of_perm (h : tree.Distinct) (hperm : other.entries.Perm tree.entries) :
    tree.Agree other := by
  have hother : other.Distinct := (hperm.pairwise_iff Ne.symm).mpr h
  intro location
  by_cases hbelow : location = []
  · simp [node?, hbelow]
  · ext node
    rw [← mem_entries_iff h hbelow, ← mem_entries_iff hother hbelow, hperm.mem_iff]

theorem Agree.enter (h : tree.Agree other) (location : Location) (name : String) :
    tree.enter location name = other.enter location name := by
  unfold FileTree.enter
  rw [h location, h]

theorem Agree.follow (h : tree.Agree other) (location : Location) (path : List String) :
    tree.follow location path = other.follow location path := by
  induction path generalizing location with
  | nil => rfl
  | cons name rest ih =>
    unfold FileTree.follow
    rw [h.enter]
    congr 1
    funext mid
    exact ih mid

theorem Agree.resolve (h : tree.Agree other) (path : Path) : tree.resolve path = other.resolve path := by
  unfold FileTree.resolve
  rw [h.follow]

theorem Agree.isDirectory (h : tree.Agree other) (path : Path) :
    tree.isDirectory path = other.isDirectory path := by
  unfold FileTree.isDirectory find
  rw [h.resolve]
  simp only [h _]

theorem Agree.place (h : tree.Agree other) (path : List String) : tree.place path = other.place path := by
  unfold FileTree.place
  simp only [h.follow, h.enter, h _]

theorem Agree.insert (h : tree.Agree other) {location : Location}
    (hnew : tree.node? location = none) (node : Node) :
    (tree.insert location node).Agree (other.insert location node) := by
  intro place
  have hnew' : other.node? location = none := (h location).symm.trans hnew
  rw [node?_insert hnew, node?_insert hnew', h place]

theorem Agree.createDirectory_ok (h : tree.Agree other) (hmade : tree.createDirectory path = .ok made) :
    ∃ made', other.createDirectory path = .ok made' ∧ made.Agree made' := by
  obtain ⟨location, hplace, rfl⟩ := createDirectory_spec hmade
  refine ⟨other.insert location .directory, ?_, h.insert (place_new hplace .directory).1 .directory⟩
  unfold FileTree.createDirectory
  rw [← h.place, hplace]
  rfl

theorem Agree.createDirectory_error (h : tree.Agree other) {e : FileError}
    (hmade : tree.createDirectory path = .error e) : other.createDirectory path = .error e := by
  unfold FileTree.createDirectory at hmade ⊢
  rw [← h.place]
  rcases bind_eq_error.mp hmade with hplace | ⟨⟨location, node⟩, hplace, hnode⟩
  · rw [hplace]
    rfl
  · cases node with
    | none => simp [pure, Except.pure] at hnode
    | some node =>
      rw [hplace]
      exact hnode

theorem Agree.unmade (h : tree.Agree other) (path : List String) (e : FileError) :
    tree.unmade path e = other.unmade path e := by
  unfold FileTree.unmade
  simp only [h.follow, h _]

theorem Agree.createMissing (h : tree.Agree other) (path : List String) :
    (tree.createMissing path).1 = (other.createMissing path).1 ∧
      (tree.createMissing path).2.Agree (other.createMissing path).2 := by
  induction path with
  | nil => exact ⟨rfl, h⟩
  | cons last above ih =>
    unfold FileTree.createMissing
    dsimp only
    cases hfirst : tree.createDirectory (last :: above).reverse with
    | ok made =>
      obtain ⟨made', hfirst', hagree⟩ := h.createDirectory_ok hfirst
      rw [hfirst']
      exact ⟨rfl, hagree⟩
    | error e =>
    rw [h.createDirectory_error hfirst]
    by_cases he : e = .notFound
    swap
    · cases e
      case notFound => exact absurd rfl he
      all_goals exact ⟨h.unmade _ _, h⟩
    subst he
    rcases hup : tree.createMissing above with ⟨failure, up⟩
    rcases hup' : other.createMissing above with ⟨failure', up'⟩
    rw [hup, hup'] at ih
    obtain ⟨rfl, hagree⟩ := ih
    cases failure with
    | some e => exact ⟨rfl, hagree⟩
    | none =>
    dsimp only
    cases hagain : up.createDirectory (last :: above).reverse with
    | ok made =>
      obtain ⟨made', hagain', hmade⟩ := hagree.createDirectory_ok hagain
      rw [hagain']
      exact ⟨rfl, hmade⟩
    | error e =>
      rw [hagree.createDirectory_error hagain]
      exact ⟨hagree.unmade _ e, hagree⟩

theorem Agree.createDirectories (h : tree.Agree other) (path : Path) :
    (tree.createDirectories path).1 = (other.createDirectories path).1 := by
  unfold FileTree.createDirectories
  rw [h root]
  split
  · rfl
  split
  · rfl
  · exact (h.createMissing _).1

/-! ## What making directories adds -/

/-- `made` has all nodes of `tree`, and what is new are directories on the way along the
path. -/
structure Grows (path : List String) (tree made : FileTree) : Prop where
  kept : tree.Keeps made
  added : ∀ ⦃location node⦄, tree.node? location = none → made.node? location = some node →
    node = .directory ∧ ∃ above, above <+: path ∧ made.follow [] above = .ok location

theorem Grows.refl (path : List String) (tree : FileTree) : Grows path tree tree where
  kept _ _ h := h
  added location node hnone hsome := by simp [hnone] at hsome

theorem Grows.trans {above : List String} (habove : above <+: path) (h : Grows above tree made)
    (h' : Grows path made other) : Grows path tree other where
  kept := h.kept.trans h'.kept
  added location node hnone hsome := by
    cases hmade : made.node? location with
    | none => exact h'.added hmade hsome
    | some found =>
      obtain ⟨rfl, way, hway, hfollow⟩ := h.added hnone hmade
      have hsame : some Node.directory = some node := (h'.kept hmade).symm.trans hsome
      exact ⟨(Option.some.inj hsame).symm, way, hway.trans habove, h'.kept.follow hfollow⟩

theorem grows_createDirectory (h : tree.createDirectory path = .ok made) : Grows path tree made := by
  obtain ⟨place, hplace, rfl⟩ := createDirectory_spec h
  obtain ⟨hnew, hfollow⟩ := place_new hplace .directory
  refine ⟨keeps_insert hnew .directory, fun location node hnone hsome => ?_⟩
  rw [node?_insert hnew] at hsome
  split at hsome
  · next heq =>
    subst heq
    exact ⟨(Option.some.inj hsome).symm, path, List.prefix_refl path, hfollow⟩
  · simp [hnone] at hsome

theorem grows_createMissing (tree : FileTree) (path : List String) :
    Grows path.reverse tree (tree.createMissing path).2 := by
  induction path with
  | nil => exact .refl [] tree
  | cons last above ih =>
    have habove : above.reverse <+: (last :: above).reverse := by
      rw [List.reverse_cons]
      exact List.prefix_append above.reverse [last]
    unfold createMissing
    dsimp only
    split
    · next hmade => exact grows_createDirectory hmade
    · split
      · next hup =>
        rw [hup] at ih
        exact ih.trans habove (.refl _ _)
      · next hup =>
        rw [hup] at ih
        split
        · next hmade => exact ih.trans habove (grows_createDirectory hmade)
        · exact ih.trans habove (.refl _ _)
    · exact .refl _ tree

theorem grows_createDirectories (tree : FileTree) (path : Path) :
    Grows (activeSteps path) tree (tree.createDirectories path).2 := by
  unfold createDirectories
  split
  · exact .refl _ tree
  split
  · exact .refl _ tree
  · have hgrows := grows_createMissing tree (activeSteps path).reverse
    rwa [List.reverse_reverse] at hgrows

theorem follow_active (h : tree.follow start path = .ok next) :
    tree.follow start (path.filter (!isIdle ·)) = .ok next := by
  induction path generalizing start with
  | nil => exact h
  | cons name rest ih =>
    obtain ⟨mid, hmid, hrest⟩ := bind_eq_ok.mp h
    by_cases hidle : isIdle name = true
    · obtain rfl := enter_idle hidle hmid
      rw [List.filter_cons_of_neg (by simp [hidle])]
      exact ih hrest
    · rw [List.filter_cons_of_pos (by simpa using hidle)]
      exact bind_eq_ok.mpr ⟨mid, hmid, ih hrest⟩

theorem follow_of_active (h : tree.follow start (path.filter (!isIdle ·)) = .ok next)
    (hnext : tree.node? next = some .directory) : tree.follow start path = .ok next := by
  induction path generalizing start with
  | nil => exact h
  | cons name rest ih =>
    by_cases hidle : isIdle name = true
    · rw [List.filter_cons_of_neg (by simp [hidle])] at h
      have hrest := ih h
      have hstart : tree.node? start = some .directory := by
        cases rest with
        | nil =>
          obtain rfl : start = next := Except.ok.inj hrest
          exact hnext
        | cons second rest =>
          obtain ⟨mid, hmid, -⟩ := bind_eq_ok.mp hrest
          unfold enter at hmid
          split at hmid
          · assumption
          · simp at hmid
      have henter : tree.enter start name = .ok start := by
        unfold enter
        rw [hstart]
        simp [hidle]
      exact bind_eq_ok.mpr ⟨start, henter, hrest⟩
    · rw [List.filter_cons_of_pos (by simpa using hidle)] at h
      obtain ⟨mid, hmid, hrest⟩ := bind_eq_ok.mp h
      exact bind_eq_ok.mpr ⟨mid, hmid, ih hrest⟩

theorem isDirectory_of_created {path : Path} (hpath : path ≠ "")
    (h : tree.createDirectories path = (none, made)) : made.isDirectory path = true := by
  unfold createDirectories at h
  split at h
  · simp at h
  next hname =>
  split at h
  · simp at h
  obtain ⟨location, hfollow, hdirectory⟩ := leads_of_createMissing h
  rw [List.reverse_reverse] at hfollow
  have hsteps := follow_of_active hfollow hdirectory
  have hresolve : made.resolve path = .ok location := by
    unfold resolve
    rw [if_neg hname, if_neg hpath, hsteps]
  have hfind : made.find path = .ok .directory := by
    unfold find
    rw [hresolve]
    simp only [bind, Except.bind, hdirectory]
    rfl
  unfold isDirectory
  rw [hfind]

end SchemaMigration.Files.FileTree
