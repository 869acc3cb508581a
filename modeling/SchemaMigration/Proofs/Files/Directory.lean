import SchemaMigration.Proofs.Files.Tree

/-!
# Directories that are there

Once the directories of a path are made the path leads to a directory, and making them
again changes nothing.
-/

namespace SchemaMigration.Files.FileTree

open SchemaMigration.Files.Path

variable {tree made : FileTree} {location next start : Location} {path : List String}

/-- At the end of the path there is a directory. -/
def Leads (tree : FileTree) (path : List String) : Prop :=
  ∃ location, tree.follow [] path = .ok location ∧ tree.node? location = some .directory

theorem unmade_eq_none_iff {e : FileError} : tree.unmade path e = none ↔ tree.Leads path := by
  unfold unmade Leads
  cases tree.follow [] path with
  | error e => simp
  | ok location => simp

theorem resolve_eq_ok_iff {path : Path} : tree.resolve path = .ok location ↔
    hasNul path = false ∧ path ≠ "" ∧ tree.follow [] (steps path) = .ok location := by
  unfold resolve
  cases hasNul path with
  | true => simp
  | false =>
    by_cases hempty : path = ""
    · simp [hempty]
    · simp [hempty]

/-! ## A new directory hides nothing -/

theorem lookup_of_missing (hnew : tree.node? location = none) :
    location ≠ [] ∧ tree.entries.lookup location = none := by
  have hne : location ≠ [] := by
    rintro rfl
    simp [node?] at hnew
  exact ⟨hne, by simpa [node?, hne] using hnew⟩

theorem entries_insert (hnew : tree.node? location = none) (node : Node) :
    (tree.insert location node).entries = tree.entries ++ [(location, node)] := by
  simp [insert, (lookup_of_missing hnew).2]

theorem node?_insert (hnew : tree.node? location = none) (node : Node) (other : Location) :
    (tree.insert location node).node? other =
      if other = location then some node else tree.node? other := by
  obtain ⟨hne, hlookup⟩ := lookup_of_missing hnew
  unfold node?
  rw [entries_insert hnew, List.lookup_append]
  by_cases hroot : other = []
  · simp [hroot, Ne.symm hne]
  by_cases heq : other = location
  · simp [heq, hne, hlookup]
  · simp [hroot, heq, List.lookup_cons, beq_eq_false_iff_ne.mpr heq]

/-- Every node of the one tree is a node of the other. -/
def Keeps (tree made : FileTree) : Prop :=
  ∀ ⦃location node⦄, tree.node? location = some node → made.node? location = some node

theorem keeps_insert (hnew : tree.node? location = none) (node : Node) :
    tree.Keeps (tree.insert location node) := by
  intro other old hold
  rw [node?_insert hnew, if_neg, hold]
  rintro rfl
  simp [hnew] at hold

theorem Keeps.refl (tree : FileTree) : tree.Keeps tree := fun _ _ hnode => hnode

theorem Keeps.missing (hkeeps : tree.Keeps made) (h : made.node? location = none) :
    tree.node? location = none := by
  cases hnode : tree.node? location with
  | none => rfl
  | some node => simp [hkeeps hnode] at h

theorem Keeps.trans {last : FileTree} (h : tree.Keeps made) (h' : made.Keeps last) :
    tree.Keeps last := fun _ _ hnode => h' (h hnode)

theorem Keeps.enter (hkeeps : tree.Keeps made) {name : String}
    (h : tree.enter start name = .ok next) : made.enter start name = .ok next := by
  have hdirectory : tree.node? start = some .directory := by
    unfold FileTree.enter at h
    split at h
    · assumption
    · simp at h
  unfold FileTree.enter at h ⊢
  rw [hdirectory] at h
  rw [hkeeps hdirectory]
  dsimp only at h ⊢
  split
  · next hidle => rwa [if_pos hidle] at h
  next hidle =>
  rw [if_neg hidle] at h
  split
  · next hparent => rwa [if_pos hparent] at h
  next hparent =>
  rw [if_neg hparent] at h
  split
  · next hlong => rwa [if_pos hlong] at h
  next hlong =>
  rw [if_neg hlong] at h
  cases hnode : tree.node? (start ++ [.text name]) with
  | none => simp [hnode] at h
  | some node =>
    rw [hkeeps hnode]
    simpa [hnode] using h

theorem Keeps.follow (hkeeps : tree.Keeps made) (h : tree.follow start path = .ok next) :
    made.follow start path = .ok next := by
  induction path generalizing start with
  | nil => exact h
  | cons name rest ih =>
    obtain ⟨mid, hmid, hrest⟩ := bind_eq_ok.mp h
    exact bind_eq_ok.mpr ⟨mid, hkeeps.enter hmid, ih hrest⟩

theorem Keeps.resolve (hkeeps : tree.Keeps made) {path : Path}
    (h : tree.resolve path = .ok location) : made.resolve path = .ok location := by
  obtain ⟨hnul, hnonempty, hsteps⟩ := resolve_eq_ok_iff.mp h
  exact resolve_eq_ok_iff.mpr ⟨hnul, hnonempty, hkeeps.follow hsteps⟩

/-! ## Making directories -/

theorem follow_append {rest : List String} : tree.follow start (path ++ rest) = .ok next ↔
    ∃ mid, tree.follow start path = .ok mid ∧ tree.follow mid rest = .ok next := by
  induction path generalizing start with
  | nil =>
    constructor
    · exact fun h => ⟨start, rfl, h⟩
    · rintro ⟨mid, hmid, hrest⟩
      obtain rfl := Except.ok.inj hmid
      exact hrest
  | cons name path ih =>
    constructor
    · intro h
      obtain ⟨first, hfirst, h⟩ := bind_eq_ok.mp h
      obtain ⟨mid, hmid, hrest⟩ := ih.mp h
      exact ⟨mid, bind_eq_ok.mpr ⟨first, hfirst, hmid⟩, hrest⟩
    · rintro ⟨mid, hmid, hrest⟩
      obtain ⟨first, hfirst, hmid⟩ := bind_eq_ok.mp hmid
      exact bind_eq_ok.mpr ⟨first, hfirst, ih.mpr ⟨mid, hmid, hrest⟩⟩

theorem follow_singleton {name : String} :
    tree.follow start [name] = .ok next ↔ tree.enter start name = .ok next := by
  unfold follow
  rw [bind_eq_ok]
  constructor
  · rintro ⟨mid, hmid, hend⟩
    obtain rfl : mid = next := Except.ok.inj hend
    exact hmid
  · exact fun h => ⟨next, h, rfl⟩

theorem follow_concat {last : String} :
    tree.follow start (path ++ [last]) = .ok next ↔
      ∃ parent, tree.follow start path = .ok parent ∧ tree.enter parent last = .ok next := by
  simp only [follow_append, follow_singleton]

theorem enter_idle {name : String} (hidle : isIdle name = true)
    (h : tree.enter start name = .ok next) : next = start := by
  unfold enter at h
  split at h
  · rw [if_pos hidle] at h
    exact (Except.ok.inj h).symm
  · simp at h

theorem node?_of_idle {name : String} (hidle : isIdle name = true)
    (h : tree.enter start name = .ok next) : tree.node? next = some .directory := by
  unfold enter at h
  split at h
  · next hdirectory =>
    rw [if_pos hidle] at h
    obtain rfl := Except.ok.inj h
    exact hdirectory
  · simp at h

theorem place_concat {last : String} {parent : Location} (h : tree.follow [] path = .ok parent) :
    tree.place (path ++ [last]) =
      match tree.enter parent last with
      | .ok location => .ok (location, tree.node? location)
      | .error .notFound =>
        if last = ".." then .error .notFound else .ok (parent ++ [.text last], none)
      | .error e => .error e := by
  unfold place
  rw [List.getLast?_concat, List.dropLast_concat, h]
  rfl

theorem enter_made {last : String} (h : tree.enter start last = .error .notFound)
    (hparent : last ≠ "..") (node : Node) :
    tree.node? (start ++ [.text last]) = none ∧
      (tree.insert (start ++ [.text last]) node).enter start last = .ok (start ++ [.text last]) := by
  unfold enter at h ⊢
  split at h
  · next hdirectory =>
    rw [if_neg hparent] at h
    split at h
    · simp at h
    next hidle =>
    split at h
    · simp at h
    next hlong =>
    split at h
    · simp at h
    next hnew =>
    refine ⟨hnew, ?_⟩
    rw [keeps_insert hnew _ hdirectory]
    simp [hidle, hparent, hlong, node?_insert hnew]
  · simp at h

theorem place_new (h : tree.place path = .ok (location, none)) (node : Node) :
    tree.node? location = none ∧ (tree.insert location node).follow [] path = .ok location := by
  rcases List.eq_nil_or_concat' path with rfl | ⟨above, last, rfl⟩
  · simp [place, pure, Except.pure] at h
  have hfound : ∃ parent, tree.follow [] above = .ok parent := by
    cases hfollow : tree.follow [] above with
    | ok parent => exact ⟨parent, rfl⟩
    | error e => simp [place, hfollow, bind, Except.bind] at h
  obtain ⟨parent, hparent⟩ := hfound
  rw [place_concat hparent] at h
  split at h
  · next next hnext =>
    obtain ⟨rfl, hnew⟩ := Prod.mk.inj (Except.ok.inj h)
    have hkeeps := keeps_insert hnew node
    exact ⟨hnew, follow_concat.mpr ⟨parent, hkeeps.follow hparent, hkeeps.enter hnext⟩⟩
  · next hmissing =>
    split at h
    · simp at h
    next hlast =>
    obtain ⟨rfl, -⟩ := Prod.mk.inj (Except.ok.inj h)
    obtain ⟨hnew, henter⟩ := enter_made hmissing hlast node
    have hkeeps := keeps_insert hnew node
    exact ⟨hnew, follow_concat.mpr ⟨parent, hkeeps.follow hparent, henter⟩⟩
  · simp at h

theorem createDirectory_spec (h : tree.createDirectory path = .ok made) :
    ∃ location, tree.place path = .ok (location, none) ∧
      made = tree.insert location .directory := by
  obtain ⟨⟨location, node⟩, hplace, hmade⟩ := bind_eq_ok.mp h
  cases node with
  | some node => simp at hmade
  | none => exact ⟨location, hplace, (Except.ok.inj hmade).symm⟩

theorem leads_of_createDirectory (h : tree.createDirectory path = .ok made) : made.Leads path := by
  obtain ⟨location, hplace, rfl⟩ := createDirectory_spec h
  obtain ⟨hnew, hfollow⟩ := place_new hplace .directory
  exact ⟨location, hfollow, by rw [node?_insert hnew, if_pos rfl]⟩

theorem leads_of_createMissing (h : tree.createMissing path = (none, made)) :
    made.Leads path.reverse := by
  cases path with
  | nil =>
    obtain rfl : tree = made := (Prod.mk.inj h).2
    exact ⟨[], rfl, rfl⟩
  | cons last above =>
    unfold createMissing at h
    dsimp only at h
    split at h
    · next hmade =>
      obtain rfl := (Prod.mk.inj h).2
      exact leads_of_createDirectory hmade
    · split at h
      · simp at h
      · split at h
        · next hmade =>
          obtain rfl := (Prod.mk.inj h).2
          exact leads_of_createDirectory hmade
        · obtain ⟨hthere, rfl⟩ := Prod.mk.inj h
          exact unmade_eq_none_iff.mp hthere
    · obtain ⟨hthere, rfl⟩ := Prod.mk.inj h
      exact unmade_eq_none_iff.mp hthere

theorem createMissing_of_leads (h : tree.Leads path.reverse) :
    tree.createMissing path = (none, tree) := by
  cases path with
  | nil => rfl
  | cons last above =>
    have hunmade : ∀ e, tree.unmade (last :: above).reverse e = none :=
      fun e => unmade_eq_none_iff.mpr h
    obtain ⟨location, hfollow, hdirectory⟩ := h
    rw [List.reverse_cons] at hfollow
    obtain ⟨parent, hparent, hlast⟩ := follow_concat.mp hfollow
    have hexists : tree.createDirectory (last :: above).reverse = .error .exists := by
      unfold createDirectory
      rw [List.reverse_cons, place_concat hparent, hlast]
      dsimp only
      rw [hdirectory]
      rfl
    unfold createMissing
    dsimp only
    rw [hexists]
    dsimp only
    rw [hunmade]

theorem createDirectories_of_leads {path : Path} (h : tree.Leads (activeSteps path))
    (hmade : tree.createDirectories path = (none, made)) : made = tree := by
  unfold createDirectories at hmade
  split at hmade
  · cases hmade
  split at hmade
  · cases hmade
  rw [createMissing_of_leads (by rwa [List.reverse_reverse])] at hmade
  exact (Prod.mk.inj hmade).2.symm

end SchemaMigration.Files.FileTree
