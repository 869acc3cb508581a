import SchemaMigration.Proofs.Files.Listing
import SchemaMigration.Proofs.Migration.Catalog
import SchemaMigration.Proofs.Migration.Discovery
import SchemaMigration.Proofs.Text.Order
import SchemaMigration.Proofs.Text.Search

/-!
# Discovery as a union

What is discovered are the registered ids together with the migration files of the directory.
Neither the order of registering nor that of the listing shows in the answer, and the first
id to be refused is the smallest one.
-/

namespace SchemaMigration

open Files

/-! ## The names of migration files -/

theorem Format.ofFileName?_eq_some_iff {name : String} {format : Format} :
    Format.ofFileName? name = some format ↔ ∃ stem, name = stem ++ ("." ++ format.extension) := by
  have hpoint : ∀ format : Format, '.' ∉ format.extension.toList := by
    intro format
    cases format with
    | json => decide
    | toml => decide
  constructor
  · intro h
    unfold Format.ofFileName? at h
    split at h
    swap
    · simp at h
    next stem ext hsplit =>
    obtain ⟨hname, -⟩ := Text.splitLast?_eq_some_iff.mp hsplit
    have hext : String.ofList ext = format.extension := by
      split at h
      · next heq => rw [heq, ← Option.some.inj h]; rfl
      · next heq => rw [heq, ← Option.some.inj h]; rfl
      · simp at h
    refine ⟨String.ofList stem, String.toList_inj.mp ?_⟩
    rw [hname, ← hext]
    simp
  · rintro ⟨stem, rfl⟩
    have hsplit : Text.splitLast? '.' (stem ++ ("." ++ format.extension)).toList =
        some (stem.toList, format.extension.toList) :=
      Text.splitLast?_eq_some_iff.mpr ⟨by simp, hpoint format⟩
    unfold Format.ofFileName?
    rw [hsplit]
    cases format with
    | json => rfl
    | toml => rfl

theorem Format.ofFileName?_isSome_iff {name : String} :
    (Format.ofFileName? name).isSome ↔ ∃ stem, name = stem ++ ".json" ∨ name = stem ++ ".toml" := by
  have hjson : "." ++ Format.json.extension = ".json" := by decide
  have htoml : "." ++ Format.toml.extension = ".toml" := by decide
  rw [Option.isSome_iff_exists]
  constructor
  · rintro ⟨format, h⟩
    obtain ⟨stem, hname⟩ := ofFileName?_eq_some_iff.mp h
    cases format with
    | json => exact ⟨stem, .inl (hjson ▸ hname)⟩
    | toml => exact ⟨stem, .inr (htoml ▸ hname)⟩
  · rintro ⟨stem, hname | hname⟩
    · exact ⟨.json, ofFileName?_eq_some_iff.mpr ⟨stem, hjson.symm ▸ hname⟩⟩
    · exact ⟨.toml, ofFileName?_eq_some_iff.mpr ⟨stem, htoml.symm ▸ hname⟩⟩

theorem Migration.isValidId_iff {id : String} :
    isValidId id = true ↔ ∃ rest, id = "lipgrade_" ++ rest := by
  unfold isValidId idStart
  rw [List.isPrefixOf_iff_prefix]
  constructor
  · rintro ⟨rest, hrest⟩
    exact ⟨String.ofList rest, String.toList_inj.mp (by simp [← hrest])⟩
  · rintro ⟨rest, rfl⟩
    exact ⟨rest.toList, by simp⟩

theorem Migration.isValidId_fileName (name stamp : String) (format : Format) :
    isValidId (fileName name stamp format) = true :=
  isValidId_iff.mpr ⟨stamp ++ "_" ++ name ++ "." ++ format.extension, by
    simp [fileName, idStart, String.append_assoc]⟩

theorem Migration.ofFileName?_fileName (name stamp : String) (format : Format) :
    Format.ofFileName? (fileName name stamp format) = some format :=
  Format.ofFileName?_eq_some_iff.mpr ⟨idStart ++ stamp ++ "_" ++ name, by
    simp [fileName, String.append_assoc]⟩

/-! ## What a catalog offers -/

/-- A regular file right in the directory, with a name that is text and ends as the name of a
migration file has to. -/
def Files.FileTree.HasMigration (tree : FileTree) (directory : Path) (name : String) : Prop :=
  ∃ location content, tree.resolve directory = .ok location ∧
    tree.node? location = some .directory ∧
    tree.node? (location ++ [.text name]) = some (.file content) ∧
    ∃ stem, name = stem ++ ".json" ∨ name = stem ++ ".toml"

theorem Files.FileTree.isDirectory_iff {tree : FileTree} {directory : Path} :
    tree.isDirectory directory = true ↔
      ∃ location, tree.resolve directory = .ok location ∧ tree.node? location = some .directory := by
  unfold FileTree.isDirectory FileTree.find
  cases tree.resolve directory with
  | error e => simp [bind, Except.bind]
  | ok location =>
    have hstep : (Except.ok location : Except FileError Location) = .ok location := rfl
    cases hnode : tree.node? location with
    | none => simp [bind, Except.bind, hnode, throw, throwThe, MonadExceptOf.throw]
    | some node => cases node <;> simp [bind, Except.bind, hnode, pure, Except.pure]

namespace Catalog

variable {c other : Catalog} {tree listing : FileTree} {id : String} {ids : List String}

def Registers (c : Catalog) (id : String) : Prop := id ∈ c.registered.map (·.id)

def HasFile (c : Catalog) (tree : FileTree) (id : String) : Prop :=
  ∃ directory, c.directory = some directory ∧ tree.HasMigration directory id

/-- The id is that of a migration, in code or in a file. -/
def Offers (c : Catalog) (tree : FileTree) (id : String) : Prop := c.Registers id ∨ c.HasFile tree id

/-- One id is that of a registered migration and of a file. -/
def Collides (c : Catalog) (tree : FileTree) : Prop := ∃ id, c.Registers id ∧ c.HasFile tree id

/-- The first of the ids in the order of their bytes that does not start as ids have to. -/
structure FirstMisnamed (c : Catalog) (tree : FileTree) (bad : String) : Prop where
  offered : c.Offers tree bad
  misnamed : ¬ ∃ rest, bad = "lipgrade_" ++ rest
  first : ∀ id, c.Offers tree id → (¬ ∃ rest, id = "lipgrade_" ++ rest) → id ≠ bad →
    utf8Bytes bad < utf8Bytes id

theorem registers_iff : c.Registers id ↔ (c.registered? id).isSome := by
  unfold Registers registered?
  rw [List.find?_isSome]
  simp

/-! ## What is discovered -/

theorem mem_candidates {directory : Path} (htree : tree.Distinct)
    (hdirectory : tree.isDirectory directory = true) (h : candidates tree directory = .ok ids) :
    id ∈ ids ↔ tree.HasMigration directory id := by
  obtain ⟨location, hlocation, hnode⟩ := FileTree.isDirectory_iff.mp hdirectory
  unfold candidates at h
  cases hnames : tree.fileNames directory with
  | error e => simp [hnames] at h
  | ok names =>
  obtain rfl := Except.ok.inj (hnames ▸ h)
  rw [List.mem_filter, FileTree.mem_fileNames htree hnames, Format.ofFileName?_isSome_iff]
  constructor
  · rintro ⟨⟨place, content, hplace, hfile⟩, hname⟩
    obtain rfl : location = place := Except.ok.inj (hlocation.symm.trans hplace)
    exact ⟨location, content, hlocation, hnode, hfile, hname⟩
  · rintro ⟨place, content, hplace, -, hfile, hname⟩
    exact ⟨⟨place, content, hplace, hfile⟩, hname⟩

theorem candidates_succeed {directory : Path} (hdirectory : tree.isDirectory directory = true) :
    ∃ ids, candidates tree directory = .ok ids := by
  obtain ⟨location, hlocation, hnode⟩ := FileTree.isDirectory_iff.mp hdirectory
  unfold candidates FileTree.fileNames
  simp only [hlocation, bind, Except.bind, hnode]
  exact ⟨_, rfl⟩

theorem fileIds_union (htree : tree.Distinct) :
    (∃ ids, c.fileIds tree = .ok ids ∧ ¬ c.Collides tree ∧ ∀ id, id ∈ ids ↔ c.HasFile tree id) ∨
      ∃ id directory, c.fileIds tree = .error (.configuration (.registeredTwice id directory)) ∧
        c.directory = some directory ∧ c.Registers id ∧ c.HasFile tree id := by
  unfold fileIds
  cases hdirectory : c.directory with
  | none =>
    have hnone : ∀ id, ¬ c.HasFile tree id := by
      rintro id ⟨directory, hsome, -⟩
      simp [hdirectory] at hsome
    exact .inl ⟨[], rfl, fun ⟨id, _, hid⟩ => hnone id hid, fun id => by simp [hnone id]⟩
  | some directory =>
  have hfile : ∀ id, c.HasFile tree id ↔ tree.HasMigration directory id := by
    intro id
    unfold HasFile
    simp [hdirectory]
  dsimp only
  cases hthere : tree.isDirectory directory with
  | false =>
    have hnone : ∀ id, ¬ c.HasFile tree id := by
      rintro id hid
      obtain ⟨location, content, hlocation, hnode, -⟩ := (hfile id).mp hid
      have htrue := FileTree.isDirectory_iff.mpr ⟨location, hlocation, hnode⟩
      simp [hthere] at htrue
    exact .inl ⟨[], rfl, fun ⟨id, _, hid⟩ => hnone id hid, fun id => by simp [hnone id]⟩
  | true =>
  obtain ⟨found, hfound⟩ := candidates_succeed hthere
  have hmem : ∀ id, id ∈ found ↔ c.HasFile tree id :=
    fun id => (mem_candidates htree hthere hfound).trans (hfile id).symm
  rw [if_pos rfl, hfound]
  simp only [bind, Except.bind]
  cases hclash : found.find? (fun id => (c.registered? id).isSome) with
  | none =>
    refine .inl ⟨found, rfl, ?_, hmem⟩
    rintro ⟨id, hregistered, hid⟩
    have hnew := List.find?_eq_none.mp hclash id ((hmem id).mpr hid)
    exact hnew (registers_iff.mp hregistered)
  | some id =>
    exact .inr ⟨id, directory, rfl, rfl, registers_iff.mpr (by simpa using List.find?_some hclash),
      (hmem id).mp (List.mem_of_find?_eq_some hclash)⟩

/-- All that discovery can come to. -/
theorem discover_union (hkeyed : c.Keyed) (htree : tree.Distinct) :
    match c.discover tree with
    | .ok ids => ¬ c.Collides tree ∧ (∀ id, c.Offers tree id → ∃ rest, id = "lipgrade_" ++ rest) ∧
        Ascending ids ∧ ∀ id, id ∈ ids ↔ c.Offers tree id
    | .error e =>
        (¬ c.Collides tree ∧ ∃ bad, c.FirstMisnamed tree bad ∧ e = .namingConvention bad) ∨
          ∃ id directory, e = .configuration (.registeredTwice id directory) ∧
            c.directory = some directory ∧ c.Registers id ∧ c.HasFile tree id := by
  rcases fileIds_union (c := c) htree with ⟨files, hfiles, hclash, hmem⟩ | ⟨id, directory, hfiles, hid⟩
  swap
  · have herror : c.discover tree = .error (.configuration (.registeredTwice id directory)) :=
      bind_eq_error.mpr (.inl hfiles)
    rw [herror]
    exact .inr ⟨id, directory, rfl, hid⟩
  have hoffers : ∀ id, id ∈ sortIds (c.registered.map (·.id) ++ files) ↔ c.Offers tree id := by
    intro id
    rw [(sortIds_perm _).mem_iff, List.mem_append, hmem]
    rfl
  cases hbad : (sortIds (c.registered.map (·.id) ++ files)).find? (!Migration.isValidId ·) with
  | none =>
    have hdiscover : c.discover tree = .ok (sortIds (c.registered.map (·.id) ++ files)) := by
      unfold discover
      simp only [hfiles, bind, Except.bind, hbad]
      rfl
    have hsorted := discover_sorted hkeyed htree hdiscover
    rw [hdiscover]
    refine ⟨hclash, fun id hid => ?_, ascending_iff.mpr hsorted, hoffers⟩
    have hvalid := List.find?_eq_none.mp hbad id ((hoffers id).mpr hid)
    exact Migration.isValidId_iff.mp (by simpa using hvalid)
  | some bad =>
    have hdiscover : c.discover tree = .error (.namingConvention bad) := by
      unfold discover
      simp only [hfiles, bind, Except.bind, hbad]
      rfl
    rw [hdiscover]
    obtain ⟨hinvalid, before, rest, hsplit, hvalid⟩ := List.find?_eq_some_iff_append.mp hbad
    refine .inl ⟨hclash, bad, ⟨?_, ?_, fun id hid hmisnamed hne => ?_⟩, rfl⟩
    · exact (hoffers bad).mp (List.mem_of_find?_eq_some hbad)
    · rw [← Migration.isValidId_iff]
      simpa using hinvalid
    -- The ids before it start as they have to, and those after it are greater.
    · have hin := (hoffers id).mpr hid
      have hsorted := sortIds_sorted (c.registered.map (·.id) ++ files)
      rw [hsplit] at hin hsorted
      rw [← Migration.isValidId_iff] at hmisnamed
      rcases List.mem_append.mp hin with hbefore | hafter
      · exact absurd (by simpa using hvalid id hbefore) hmisnamed
      · rcases List.mem_cons.mp hafter with rfl | hafter
        · exact absurd rfl hne
        · have hle := (List.pairwise_cons.mp (List.pairwise_append.mp hsorted).2.1).1 id hafter
          exact utf8Bytes_lt_iff.mpr (Std.lt_of_le_of_ne hle (Ne.symm hne))

theorem FirstMisnamed.unique {bad bad' : String} (h : c.FirstMisnamed tree bad)
    (h' : c.FirstMisnamed tree bad') : bad = bad' := by
  by_contra hne
  have hlt := h.first bad' h'.offered h'.misnamed (Ne.symm hne)
  have hgt := h'.first bad h.offered h.misnamed hne
  exact List.lt_irrefl _ (List.lt_trans hlt hgt)

/-! ## The order of the sources -/

/-- The same migrations registered in another order, and the same files listed in another. -/
structure Reorders (c : Catalog) (tree : FileTree) (other : Catalog) (listing : FileTree) : Prop where
  dialect : other.dialect = c.dialect
  root : other.root = c.root
  registered : other.registered.Perm c.registered
  entries : listing.entries.Perm tree.entries

namespace Reorders

theorem directory (h : c.Reorders tree other listing) : other.directory = c.directory := by
  unfold Catalog.directory
  rw [h.root, h.dialect]

theorem keyed (h : c.Reorders tree other listing) (hkeyed : c.Keyed) : other.Keyed :=
  (h.registered.map Migration.id).nodup_iff.mpr hkeyed

theorem distinct (h : c.Reorders tree other listing) (htree : tree.Distinct) : listing.Distinct :=
  (h.entries.pairwise_iff Ne.symm).mpr htree

theorem registers (h : c.Reorders tree other listing) : other.Registers id ↔ c.Registers id :=
  (h.registered.map (·.id)).mem_iff

theorem hasFile (h : c.Reorders tree other listing) (htree : tree.Distinct) :
    other.HasFile listing id ↔ c.HasFile tree id := by
  have hagree := FileTree.agree_of_perm htree h.entries
  unfold HasFile FileTree.HasMigration
  simp only [h.directory, hagree.resolve, hagree _]

theorem offers (h : c.Reorders tree other listing) (htree : tree.Distinct) :
    other.Offers listing id ↔ c.Offers tree id := or_congr h.registers (h.hasFile htree)

theorem collides (h : c.Reorders tree other listing) (htree : tree.Distinct) :
    other.Collides listing ↔ c.Collides tree :=
  exists_congr fun _ => and_congr h.registers (h.hasFile htree)

theorem firstMisnamed (h : c.Reorders tree other listing) (htree : tree.Distinct) {bad : String}
    (hbad : other.FirstMisnamed listing bad) : c.FirstMisnamed tree bad where
  offered := (h.offers htree).mp hbad.offered
  misnamed := hbad.misnamed
  first id hid := hbad.first id ((h.offers htree).mpr hid)

theorem discover (h : c.Reorders tree other listing) (hkeyed : c.Keyed) (htree : tree.Distinct)
    (hclash : ¬ c.Collides tree) : other.discover listing = c.discover tree := by
  have hone := discover_union hkeyed htree
  have htwo := discover_union (h.keyed hkeyed) (h.distinct htree)
  have hclash' : ¬ other.Collides listing := fun hin => hclash ((h.collides htree).mp hin)
  have hnoError : ∀ {id}, ¬ (c.Registers id ∧ c.HasFile tree id) := fun hin => hclash ⟨_, hin⟩
  have hnoError' : ∀ {id}, ¬ (other.Registers id ∧ other.HasFile listing id) :=
    fun hin => hclash' ⟨_, hin⟩
  cases hresult : c.discover tree with
  | ok ids =>
    rw [hresult] at hone
    obtain ⟨-, hnamed, hids, hmem⟩ := hone
    cases hresult' : other.discover listing with
    | ok ids' =>
      rw [hresult'] at htwo
      obtain ⟨-, -, hids', hmem'⟩ := htwo
      have hperm : ids'.Perm ids := by
        refine (List.perm_ext_iff_of_nodup ?_ ?_).mpr fun id => ?_
        · exact (ascending_iff.mp hids').imp fun hlt => (ne_of_lt hlt)
        · exact (ascending_iff.mp hids).imp fun hlt => (ne_of_lt hlt)
        · rw [hmem', hmem, h.offers htree]
      rw [hperm.eq_of_pairwise (fun _ _ _ _ hlt hgt => absurd hgt (lt_asymm hlt))
        (ascending_iff.mp hids') (ascending_iff.mp hids)]
    | error e =>
      rw [hresult'] at htwo
      rcases htwo with ⟨-, bad, hbad, -⟩ | ⟨id, directory, -, -, hin⟩
      · exact absurd (hnamed bad ((h.offers htree).mp hbad.offered)) hbad.misnamed
      · exact absurd hin hnoError'
  | error e =>
    rw [hresult] at hone
    rcases hone with ⟨-, bad, hbad, rfl⟩ | ⟨id, directory, -, -, hin⟩
    swap
    · exact absurd hin hnoError
    cases hresult' : other.discover listing with
    | ok ids' =>
      rw [hresult'] at htwo
      obtain ⟨-, hnamed, -, -⟩ := htwo
      exact absurd (hnamed bad ((h.offers htree).mpr hbad.offered)) hbad.misnamed
    | error e =>
      rw [hresult'] at htwo
      rcases htwo with ⟨-, bad', hbad', rfl⟩ | ⟨id, directory, -, -, hin⟩
      · rw [hbad.unique (h.firstMisnamed htree hbad')]
      · exact absurd hin hnoError'

end Reorders

/-! ## The directory -/

/-- If the directory is missing it can be made. -/
def CanMake (c : Catalog) (tree : FileTree) : Prop :=
  ∀ directory, c.directory = some directory → tree.isDirectory directory = false →
    (tree.createDirectories directory).1 = none

theorem Reorders.canMake (h : c.Reorders tree other listing) (htree : tree.Distinct)
    (hmake : c.CanMake tree) : other.CanMake listing := by
  have hagree := FileTree.agree_of_perm htree h.entries
  intro directory hdirectory hmissing
  rw [← hagree.createDirectories]
  rw [← hagree.isDirectory] at hmissing
  exact hmake directory (h.directory ▸ hdirectory) hmissing

theorem discovery_of_canMake {createMissing : Bool} (hmake : createMissing = true → c.CanMake tree) :
    c.discovery createMissing tree = c.discover tree := by
  unfold discovery
  cases createMissing with
  | false => rfl
  | true =>
    rw [if_pos rfl]
    cases hmissing : c.missingDirectory tree with
    | none => rfl
    | some directory =>
      obtain ⟨hdirectory, hthere⟩ := missingDirectory_eq_some_iff.mp hmissing
      dsimp only
      rw [hmake rfl directory hdirectory hthere]

theorem prepared_grows {directory : Path} (hdirectory : c.directory = some directory)
    (hmissing : tree.isDirectory directory = false) (hmake : c.CanMake tree) :
    FileTree.Grows (Path.activeSteps directory) tree (c.prepared tree) ∧
      (c.prepared tree).isDirectory directory = true := by
  have hprepared : c.prepared tree = (tree.createDirectories directory).2 := by
    unfold prepared
    rw [missingDirectory_eq_some_iff.mpr ⟨hdirectory, hmissing⟩]
  have hmade := hmake directory hdirectory hmissing
  rw [hprepared]
  refine ⟨FileTree.grows_createDirectories tree directory, ?_⟩
  exact FileTree.isDirectory_of_created (directory_ne_empty hdirectory) (Prod.ext hmade rfl)

/-- Discovery gives the union of the two sources in order, or refuses it for a reason that
does not depend on the order of the sources. -/
theorem discovers_union {δ : Type} {s : Session δ} (createMissing : Bool) (hkeyed : c.Keyed)
    (htree : s.files.Distinct) (hmake : createMissing = true → c.CanMake s.files) :
    Ends (c.discoverFiles createMissing) s fun result t =>
      ((∃ ids, result = .ok ids) ↔ ¬ c.Collides s.files ∧
        ∀ id, c.Offers s.files id → ∃ rest, id = "lipgrade_" ++ rest) ∧
      (∀ ids, result = .ok ids → Ascending ids ∧ ∀ id, id ∈ ids ↔ c.Offers s.files id) ∧
      (¬ c.Collides s.files → (∃ id, c.Offers s.files id ∧ ¬ ∃ rest, id = "lipgrade_" ++ rest) →
        ∃ bad, c.FirstMisnamed s.files bad ∧ result = .error (.namingConvention bad)) ∧
      (c.Collides s.files → ∃ id directory,
        result = .error (.configuration (.registeredTwice id directory)) ∧
          c.directory = some directory ∧ c.Registers id ∧ c.HasFile s.files id) ∧
      (¬ c.Collides s.files → ∀ (other : Catalog) (start : Session δ),
        c.Reorders s.files other start.files →
          Ends (other.discoverFiles createMissing) start fun result' _ => result' = result) ∧
      (∀ directory, createMissing = true → c.directory = some directory →
        s.files.isDirectory directory = false →
          FileTree.Grows (Path.activeSteps directory) s.files t.files ∧
            t.files.isDirectory directory = true) ∧
      ((createMissing = true → ∀ directory, c.directory = some directory →
        s.files.isDirectory directory = true) → t.files = s.files) ∧
      t.database = s.database := by
  refine (discoverFiles_spec c createMissing).mono ?_
  rintro result t ⟨hresult, hfiles, hdatabase⟩
  rw [discovery_of_canMake hmake] at hresult
  have hunion := discover_union hkeyed htree
  rw [← hresult] at hunion
  refine ⟨⟨?_, ?_⟩, ?_, ?_, ?_, ?_, ?_, ?_, hdatabase⟩
  · rintro ⟨ids, rfl⟩
    exact ⟨hunion.1, hunion.2.1⟩
  · rintro ⟨hclash, hnamed⟩
    cases result with
    | ok ids => exact ⟨ids, rfl⟩
    | error e =>
      rcases hunion with ⟨-, bad, hbad, -⟩ | ⟨id, directory, -, -, hin⟩
      · exact absurd (hnamed bad hbad.offered) hbad.misnamed
      · exact absurd ⟨id, hin⟩ hclash
  · rintro ids rfl
    exact hunion.2.2
  · rintro hclash ⟨id, hid, hmisnamed⟩
    cases result with
    | ok ids => exact absurd (hunion.2.1 id hid) hmisnamed
    | error e =>
      rcases hunion with ⟨-, bad, hbad, rfl⟩ | ⟨id, directory, -, -, hin⟩
      · exact ⟨bad, hbad, rfl⟩
      · exact absurd ⟨id, hin⟩ hclash
  · intro hclash
    cases result with
    | ok ids => exact absurd hclash hunion.1
    | error e =>
      rcases hunion with ⟨hnone, -⟩ | ⟨id, directory, rfl, hid⟩
      · exact absurd hclash hnone
      · exact ⟨id, directory, rfl, hid⟩
  · intro hclash other start hreorders
    refine (discoverFiles_spec other createMissing).mono ?_
    rintro result' t' ⟨hresult', -, -⟩
    rw [discovery_of_canMake fun hcreate => hreorders.canMake htree (hmake hcreate)] at hresult'
    rw [hresult', hreorders.discover hkeyed htree hclash, hresult]
  · intro directory hcreate hdirectory hmissing
    rw [hfiles, if_pos hcreate]
    exact prepared_grows hdirectory hmissing (hmake hcreate)
  · intro hthere
    rw [hfiles]
    split
    · next hcreate => exact prepared_eq_self (hthere hcreate)
    · rfl

/-- Two migrations in code and a directory with two files, among others that do not count. -/
def mixed : Catalog where
  dialect := .sqlite
  root := some "migrations"
  registered := [{ id := "lipgrade_4" }, { id := "lipgrade_2.json" }]

def mixedFiles : FileTree where
  entries := [
    ([.text "migrations"], .directory),
    ([.text "migrations", .text "lipgrade_0.json"], .file (.text "")),
    ([.text "migrations", .text "sqlite"], .directory),
    ([.text "migrations", .text "sqlite", .text "lipgrade_3.old.toml"], .file (.text "")),
    ([.text "migrations", .text "sqlite", .text "notes.txt"], .file (.text "")),
    ([.text "migrations", .text "sqlite", .text "lipgrade_5.json"], .directory),
    ([.text "migrations", .text "sqlite", .bytes [0xFF]], .file (.text "")),
    ([.text "migrations", .text "sqlite", .text "lipgrade_1.json"], .file (.text ""))]

theorem discovers_union_mixed :
    mixed.Keyed ∧ mixedFiles.entries.Pairwise (·.1 ≠ ·.1) ∧
      Ends (mixed.discoverFiles true) (⟨mixedFiles, [], ()⟩ : Session Unit) fun result t =>
        (∃ ids, result = .ok ids ∧
          ids = ["lipgrade_1.json", "lipgrade_2.json", "lipgrade_3.old.toml", "lipgrade_4"] ∧
          ∀ id, id ∈ ids ↔ mixed.Offers mixedFiles id) ∧ t.files = mixedFiles := by
  have hkeyed : mixed.Keyed := by decide
  have hdistinct : mixedFiles.entries.Pairwise (·.1 ≠ ·.1) := by decide
  have hthere : ∀ directory, mixed.directory = some directory →
      mixedFiles.isDirectory directory = true := by
    intro directory hdirectory
    obtain rfl := Option.some.inj hdirectory
    decide
  have hmake : mixed.CanMake mixedFiles := by
    intro directory hdirectory hmissing
    simp [hthere directory hdirectory] at hmissing
  have hunion := discovers_union (s := (⟨mixedFiles, [], ()⟩ : Session Unit)) true hkeyed hdistinct
    fun _ => hmake
  have hresult : ((mixed.discoverFiles true).run (⟨mixedFiles, [], ()⟩ : Session Unit)).1 =
      .ok ["lipgrade_1.json", "lipgrade_2.json", "lipgrade_3.old.toml", "lipgrade_4"] := by
    decide +kernel
  obtain ⟨-, hids, -, -, -, -, hfiles, -⟩ := hunion
  exact ⟨hkeyed, hdistinct, ⟨_, hresult, rfl, (hids _ hresult).2⟩, hfiles fun _ => hthere⟩

end Catalog

end SchemaMigration
