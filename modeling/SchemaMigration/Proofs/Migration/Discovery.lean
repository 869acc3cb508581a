import SchemaMigration.Proofs.Files.Listing
import SchemaMigration.Proofs.Run.Outcome

/-!
# What discovery leaves behind

Discovery reads the files. All it can change is that it makes the directory of the
migrations.
-/

namespace SchemaMigration

/-- The files once discovery has tried to make a missing directory. -/
def Catalog.prepared (c : Catalog) (tree : Files.FileTree) : Files.FileTree :=
  match c.missingDirectory tree with
  | none => tree
  | some directory => (tree.createDirectories directory).2

variable {δ : Type} {s : Session δ}

theorem createDirectories_spec (path : Files.Path) :
    Ends (Action.createDirectories path) s fun result t =>
      t = { s with files := (s.files.createDirectories path).2 } ∧
        result = match (s.files.createDirectories path).1 with
          | some e => .error (.io e)
          | none => .ok () := by
  unfold Action.createDirectories
  rw [ends_files_bind]
  simp only [ends_setFiles_bind]
  cases (s.files.createDirectories path).1 with
  | some e => exact ⟨rfl, rfl⟩
  | none => exact ⟨rfl, rfl⟩

theorem createDirectories_outcome (path : Files.Path) :
    Ends (Action.createDirectories path) s fun result t =>
      t = { s with files := (s.files.createDirectories path).2 } ∧
        (∀ u, result = .ok u → (s.files.createDirectories path).1 = none) ∧
        ∀ e, result = .error e → ∃ reason, e = .io reason := by
  refine (createDirectories_spec path).mono ?_
  rintro _ t ⟨rfl, rfl⟩
  cases (s.files.createDirectories path).1 with
  | none => exact ⟨rfl, fun _ _ => rfl, nofun⟩
  | some reason => exact ⟨rfl, nofun, fun e hsame => ⟨reason, (Except.error.inj hsame).symm⟩⟩

/-- What discovery comes to on the given files. -/
def Catalog.discovery (c : Catalog) (createMissing : Bool) (tree : Files.FileTree) :
    Except MigrationError (List String) :=
  if createMissing then
    match c.missingDirectory tree with
    | none => c.discover tree
    | some directory =>
      match (tree.createDirectories directory).1 with
      | some e => .error (.io e)
      | none => c.discover tree
  else c.discover tree

namespace Catalog

variable {c : Catalog} {tree : Files.FileTree} {directory : Files.Path}

theorem missingDirectory_eq_some_iff :
    c.missingDirectory tree = some directory ↔
      c.directory = some directory ∧ tree.isDirectory directory = false := by
  unfold missingDirectory
  rw [Option.filter_eq_some_iff]
  simp

theorem directory_ne_empty (h : c.directory = some directory) : directory ≠ "" := by
  obtain ⟨root, -, rfl⟩ := Option.map_eq_some_iff.mp h
  have hname : c.dialect.directory ≠ "" := by
    cases c.dialect <;> decide
  unfold Files.Path.join
  split
  · exact hname
  split
  · intro heq
    exact hname (String.append_eq_empty_iff.mp heq).2
  · intro heq
    exact hname (String.append_eq_empty_iff.mp heq).2

theorem prepared_eq_self (h : ∀ directory, c.directory = some directory →
    tree.isDirectory directory = true) : c.prepared tree = tree := by
  unfold prepared
  cases hmissing : c.missingDirectory tree with
  | none => rfl
  | some directory =>
    obtain ⟨hdirectory, hthere⟩ := missingDirectory_eq_some_iff.mp hmissing
    simp [h directory hdirectory] at hthere

theorem discovery_of_there (h : c.missingDirectory tree = none) (createMissing : Bool) :
    c.discovery createMissing tree = c.discover tree := by
  simp [discovery, h]

theorem prepared_of_there (h : c.missingDirectory tree = none) : c.prepared tree = tree := by
  simp [prepared, h]

theorem missingDirectory_prepared {ids : List String} (h : c.discovery true tree = .ok ids) :
    c.missingDirectory (c.prepared tree) = none := by
  cases hmissing : c.missingDirectory tree with
  | none => rw [prepared_of_there hmissing, hmissing]
  | some directory =>
    obtain ⟨hdirectory, -⟩ := missingDirectory_eq_some_iff.mp hmissing
    unfold discovery at h
    rw [if_pos rfl, hmissing] at h
    rcases hmade : tree.createDirectories directory with ⟨_ | e, made⟩
    swap
    · simp [hmade] at h
    have hprepared : c.prepared tree = made := by simp [prepared, hmissing, hmade]
    have hthere := Files.FileTree.isDirectory_of_created (directory_ne_empty hdirectory) hmade
    simp [missingDirectory, hdirectory, hprepared, hthere]

end Catalog

theorem discover_of_discovery {c : Catalog} {createMissing : Bool} {tree : Files.FileTree}
    {ids : List String} (h : c.discovery createMissing tree = .ok ids) : c.discover tree = .ok ids := by
  unfold Catalog.discovery at h
  repeat' split at h
  all_goals first | exact h | simp at h

theorem discoverFiles_spec (c : Catalog) (createMissing : Bool) :
    Ends (c.discoverFiles createMissing) s fun result t =>
      result = c.discovery createMissing s.files ∧
        t.files = (if createMissing then c.prepared s.files else s.files) ∧
        t.database = s.database := by
  unfold Catalog.discoverFiles Catalog.makeDirectory Catalog.discovery Catalog.prepared
  rw [ends_files_bind]
  cases createMissing with
  | false => exact ⟨rfl, rfl, rfl⟩
  | true =>
    rw [if_pos rfl, if_pos rfl, if_pos rfl, ends_bind, ends_files_bind]
    cases c.missingDirectory s.files with
    | none => exact ⟨rfl, rfl, rfl⟩
    | some directory =>
      refine (createDirectories_spec directory).bind ?_ ?_
      · rintro _ t ⟨rfl, hresult⟩
        cases hmade : (s.files.createDirectories directory).1 with
        | none => exact ⟨by simp only [hmade]; rfl, rfl, rfl⟩
        | some e => simp [hmade] at hresult
      · rintro e t ⟨rfl, hresult⟩
        cases hmade : (s.files.createDirectories directory).1 with
        | none => simp [hmade] at hresult
        | some e =>
          obtain rfl := Except.error.inj (hmade ▸ hresult)
          exact ⟨by simp only [hmade], rfl, rfl⟩

end SchemaMigration
