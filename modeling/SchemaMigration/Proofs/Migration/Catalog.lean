import SchemaMigration.Migration.Catalog
import SchemaMigration.Proofs.Document.Record
import SchemaMigration.Proofs.Files.Directory
import SchemaMigration.Proofs.Files.Path

/-!
# The ids of a catalog

What is discovered is distinct and starts as ids have to. What is loaded by an id has
that id, unless the id is a path of its own.
-/

namespace SchemaMigration

open Files

/-! ## Loading -/

theorem Format.decode_spec {α : Type} {format : Format} {reader : Document → Decoded α}
    {source : String} {a : α} (h : format.decode reader source = .ok a) : ∃ d, reader d = .ok a := by
  cases format with
  | json =>
    obtain ⟨value, hvalue, h⟩ := bind_eq_ok.mp h
    split at h
    · obtain rfl := Except.ok.inj h
      exact ⟨_, hvalue⟩
    · simp at h
  | toml =>
    unfold Format.decode Toml.decode at h
    dsimp only at h
    split at h
    · exact ⟨_, h⟩
    · simp at h

namespace Migration

theorem parse_id {format : Format} {id source : String} {mig : Migration}
    (h : parse format id source = .ok mig) : mig.id = id := by
  have hdecode : format.decode (decode format id) source = .ok mig := by
    unfold parse at h
    cases hd : format.decode (decode format id) source with
    | error e => simp [hd, Except.mapError] at h
    | ok found => simpa [hd, Except.mapError] using h
  obtain ⟨d, hd⟩ := Format.decode_spec hdecode
  have hfields : ∀ f ∈ (fileShape format).fields, RecordShape.Keeps (·.id = id) f := by
    intro f hf d record next hrecord hnext
    simp only [fileShape, List.mem_cons, List.not_mem_nil, or_false] at hf
    rcases hf with rfl | rfl
    · obtain ⟨up, -, rfl⟩ := map_eq_ok.mp hnext
      exact hrecord
    · obtain ⟨down, -, rfl⟩ := map_eq_ok.mp hnext
      exact hrecord
  exact RecordShape.decode_keeps hfields rfl hd

theorem load_id {tree : FileTree} {path : Path} {mig : Migration} (h : load tree path = .ok mig) :
    Path.fileName? path = some mig.id := by
  unfold load at h
  split at h
  · simp at h
  next id hid =>
  split at h
  · simp at h
  split at h
  · simp at h
  · rw [hid, parse_id h]

end Migration

namespace Catalog

variable {c : Catalog} {tree : FileTree}

theorem registered?_id {id : String} {mig : Migration} (h : c.registered? id = some mig) :
    mig.id = id := by
  simpa using List.find?_some h

theorem load_cases {id : String} {mig : Migration} (h : c.load tree id = .ok mig) :
    c.registered? id = some mig ∨ ∃ directory, c.directory = some directory ∧
      tree.isFile (directory.join id) = true ∧ Migration.load tree (directory.join id) = .ok mig := by
  unfold load at h
  split at h
  · next found hfound =>
    obtain rfl := Except.ok.inj h
    exact .inl hfound
  split at h
  · next directory hdirectory =>
    dsimp only at h
    split at h
    · next hfile => exact .inr ⟨directory, hdirectory, hfile, h⟩
    · simp at h
  · simp at h

theorem load_id {id : String} (hid : Path.IsSimple id) {mig : Migration}
    (h : c.load tree id = .ok mig) : mig.id = id := by
  rcases load_cases h with hregistered | ⟨directory, -, -, hload⟩
  · exact registered?_id hregistered
  · have hname := Migration.load_id hload
    rw [Path.fileName?_join hid] at hname
    exact (Option.some.inj hname).symm

theorem isSimple_of_valid {id : String} (hvalid : Migration.isValidId id = true)
    (hslash : '/' ∉ id.toList) : Path.IsSimple id := by
  obtain ⟨rest, hrest⟩ := List.isPrefixOf_iff_prefix.mp hvalid
  have hne : ∀ short : String, short.toList.length < 9 → id ≠ short := by
    rintro short hshort rfl
    have hlength := congrArg List.length hrest
    rw [List.length_append] at hlength
    have : Migration.idStart.toList.length = 9 := by decide
    omega
  refine ⟨hslash, ?_, hne ".." (by decide)⟩
  simp [Path.isIdle, hne "" (by decide), hne "." (by decide)]

theorem not_isFile_of_idle {directory : Path} {id : String} (hidle : Path.isIdle id = true)
    (hslash : '/' ∉ id.toList) : tree.isFile (directory.join id) = false := by
  have hlast : (Path.steps (directory.join id)).getLast? = some id :=
    (Path.getLast?_steps _).trans (Path.getLast?_pieces_join hslash directory)
  obtain ⟨before, hbefore⟩ := List.getLast?_eq_some_iff.mp hlast
  unfold FileTree.isFile FileTree.find
  cases hresolve : tree.resolve (directory.join id) with
  | error e => rfl
  | ok location =>
    have hfollow : tree.follow [] (before ++ [id]) = .ok location := by
      unfold FileTree.resolve at hresolve
      split at hresolve
      · simp at hresolve
      split at hresolve
      · simp at hresolve
      rwa [hbefore] at hresolve
    obtain ⟨parent, -, henter⟩ := FileTree.follow_concat.mp hfollow
    have hnode := FileTree.node?_of_idle hidle henter
    simp only [bind, Except.bind, hnode]
    rfl

theorem load_id_of_noSlash {id : String} (hslash : '/' ∉ id.toList) {mig : Migration}
    (h : c.load tree id = .ok mig) : mig.id = id := by
  rcases load_cases h with hregistered | ⟨directory, -, hfile, hload⟩
  · exact registered?_id hregistered
  cases hidle : Path.isIdle id with
  | true => simp [not_isFile_of_idle hidle hslash] at hfile
  | false =>
    have hparent : id ≠ ".." := by
      rintro rfl
      have hname := Migration.load_id hload
      simp [Path.fileName?_join_parent] at hname
    exact load_id ⟨hslash, hidle, hparent⟩ h

/-! ## Sorting -/

theorem idLe_iff {id other : String} : idLe id other = true ↔ id ≤ other := decide_eq_true_iff

theorem insertId_perm (id : String) (ids : List String) : (insertId id ids).Perm (id :: ids) := by
  induction ids with
  | nil => exact .refl _
  | cons other rest ih =>
    unfold insertId
    split
    · exact .refl _
    · exact (ih.cons other).trans (.swap id other rest)

theorem sortIds_nil : sortIds [] = [] := by simp [sortIds]

theorem sortIds_cons (id : String) (rest : List String) :
    sortIds (id :: rest) = insertId id (sortIds rest) := by simp [sortIds]

theorem sortIds_perm (ids : List String) : (sortIds ids).Perm ids := by
  induction ids with
  | nil => rw [sortIds_nil]
  | cons id rest ih =>
    rw [sortIds_cons]
    exact (insertId_perm id (sortIds rest)).trans (ih.cons id)

theorem insertId_sorted {ids : List String} (h : ids.Pairwise (· ≤ ·)) (id : String) :
    (insertId id ids).Pairwise (· ≤ ·) := by
  induction ids with
  | nil => exact List.pairwise_singleton _ _
  | cons other rest ih =>
    obtain ⟨hother, hrest⟩ := List.pairwise_cons.mp h
    unfold insertId
    split
    · next hle =>
      rw [idLe_iff] at hle
      refine List.pairwise_cons.mpr ⟨?_, h⟩
      rintro x (_ | ⟨_, hx⟩)
      · exact hle
      · exact String.le_trans hle (hother x hx)
    · next hle =>
      rw [idLe_iff] at hle
      have hge : other ≤ id := (String.le_total other id).resolve_right hle
      refine List.pairwise_cons.mpr ⟨fun x hx => ?_, ih hrest⟩
      rcases List.mem_cons.mp ((insertId_perm id rest).mem_iff.mp hx) with rfl | hx
      · exact hge
      · exact hother x hx

theorem sortIds_sorted (ids : List String) : (sortIds ids).Pairwise (· ≤ ·) := by
  induction ids with
  | nil => simp [sortIds_nil]
  | cons id rest ih =>
    rw [sortIds_cons]
    exact insertId_sorted ih id

theorem getLast?_sortIds_iff {ids : List String} {last : String} :
    (sortIds ids).getLast? = some last ↔ last ∈ ids ∧ ∀ id ∈ ids, id ≤ last := by
  have hlast : ∀ {x}, (sortIds ids).getLast? = some x → x ∈ ids ∧ ∀ id ∈ ids, id ≤ x := by
    intro x hx
    obtain ⟨smaller, hsmaller⟩ := List.getLast?_eq_some_iff.mp hx
    have hsorted := List.pairwise_append.mp (hsmaller ▸ sortIds_sorted ids)
    have hmem : ∀ id, id ∈ ids ↔ id ∈ smaller ∨ id = x := fun id => by
      rw [← (sortIds_perm ids).mem_iff, hsmaller, List.mem_append, List.mem_singleton]
    refine ⟨(hmem x).mpr (.inr rfl), fun id hid => ?_⟩
    rcases (hmem id).mp hid with hin | rfl
    · exact hsorted.2.2 id hin x List.mem_cons_self
    · exact String.le_refl id
  refine ⟨hlast, fun ⟨hmem, hmax⟩ => ?_⟩
  cases hx : (sortIds ids).getLast? with
  | none =>
    have hnil : sortIds ids = [] := List.getLast?_eq_none_iff.mp hx
    have hin : last ∈ sortIds ids := (sortIds_perm ids).mem_iff.mpr hmem
    simp [hnil] at hin
  | some x =>
    obtain ⟨hin, hgreatest⟩ := hlast hx
    rw [String.le_antisymm (hmax x hin) (hgreatest last hmem)]

theorem getLast?_sortIds_congr {ids other : List String} (h : ∀ id, id ∈ ids ↔ id ∈ other) :
    (sortIds ids).getLast? = (sortIds other).getLast? := by
  ext last
  rw [getLast?_sortIds_iff, getLast?_sortIds_iff]
  simp only [h]

/-! ## Discovery -/

/-- No id is registered twice. -/
def Keyed (c : Catalog) : Prop := (c.registered.map (·.id)).Nodup

instance (c : Catalog) : Decidable c.Keyed :=
  inferInstanceAs (Decidable (c.registered.map (·.id)).Nodup)

theorem Keyed.register (h : c.Keyed) (mig : Migration) : (c.register mig).Keyed := by
  unfold Keyed Catalog.register
  rw [List.map_append, List.nodup_append]
  refine ⟨(List.filter_sublist.map _).nodup h, List.pairwise_singleton _ _, ?_⟩
  intro id hid other hother
  obtain ⟨kept, hkept, rfl⟩ := List.mem_map.mp hid
  obtain rfl : other = mig.id := List.mem_singleton.mp hother
  simpa using (List.mem_filter.mp hkept).2

theorem fileIds_cases {ids : List String} (h : c.fileIds tree = .ok ids) :
    ids = [] ∨ ∃ directory names, tree.fileNames directory = .ok names ∧ ids.Sublist names ∧
      ∀ id ∈ ids, c.registered? id = none := by
  unfold fileIds at h
  split at h
  · exact .inl (Except.ok.inj h).symm
  next directory _ =>
  split at h
  swap
  · exact .inl (Except.ok.inj h).symm
  obtain ⟨found, hfound, h⟩ := bind_eq_ok.mp h
  split at h
  · simp at h
  next hnone =>
  obtain rfl := Except.ok.inj h
  unfold candidates at hfound
  cases hnames : tree.fileNames directory with
  | error e => simp [hnames] at hfound
  | ok names =>
    obtain rfl := Except.ok.inj (hnames ▸ hfound)
    exact .inr ⟨directory, names, hnames, List.filter_sublist, fun id hid => by
      simpa using List.find?_eq_none.mp hnone id hid⟩

theorem fileIds_spec {ids : List String} (htree : tree.Distinct) (h : c.fileIds tree = .ok ids) :
    ids.Nodup ∧ ∀ id ∈ ids, c.registered? id = none := by
  rcases fileIds_cases h with rfl | ⟨directory, names, hnames, hsub, hnew⟩
  · simp
  · exact ⟨(htree.fileNames hnames).sublist hsub, hnew⟩

theorem fileIds_noSlash {ids : List String} (htree : tree.WellNamed) (h : c.fileIds tree = .ok ids) :
    ∀ id ∈ ids, '/' ∉ id.toList := by
  rcases fileIds_cases h with rfl | ⟨directory, names, hnames, hsub, -⟩
  · simp
  · exact fun id hid => htree.fileNames hnames id (hsub.subset hid)

/-- The ids that are discovered: all of them, in order, and each a valid one. -/
theorem discover_spec {ids : List String} (h : c.discover tree = .ok ids) :
    (∃ files, c.fileIds tree = .ok files ∧ ids = sortIds (c.registered.map (·.id) ++ files)) ∧
      ∀ id ∈ ids, Migration.isValidId id = true := by
  obtain ⟨files, hfiles, h⟩ := bind_eq_ok.mp h
  dsimp only at h
  split at h
  · simp at h
  next hnone =>
  obtain rfl := Except.ok.inj h
  refine ⟨⟨files, hfiles, rfl⟩, ?_⟩
  intro id hid
  simpa using List.find?_eq_none.mp hnone id hid

theorem discover_nodup {ids : List String} (hkeyed : c.Keyed) (htree : tree.Distinct)
    (h : c.discover tree = .ok ids) : ids.Nodup := by
  obtain ⟨⟨files, hfiles, rfl⟩, -⟩ := discover_spec h
  obtain ⟨hnodup, hnew⟩ := fileIds_spec htree hfiles
  refine (sortIds_perm _).nodup_iff.mpr (List.nodup_append.mpr ⟨hkeyed, hnodup, ?_⟩)
  rintro id hid other hother rfl
  obtain ⟨mig, hmig, rfl⟩ := List.mem_map.mp hid
  have hnone := List.find?_eq_none.mp (hnew _ hother) mig hmig
  simp at hnone

theorem discover_sorted {ids : List String} (hkeyed : c.Keyed) (htree : tree.Distinct)
    (h : c.discover tree = .ok ids) : ids.Pairwise (· < ·) := by
  obtain ⟨⟨files, -, hids⟩, -⟩ := discover_spec h
  have hle : ids.Pairwise (· ≤ ·) := hids ▸ sortIds_sorted _
  have hnodup := discover_nodup hkeyed htree h
  exact hle.imp₂ (fun _ _ hab hne => Std.lt_of_le_of_ne hab hne) hnodup

theorem loaded_id {ids : List String} {id : String} {other : FileTree} {mig : Migration}
    (htree : tree.WellNamed) (h : c.discover tree = .ok ids) (hid : id ∈ ids)
    (hload : c.load other id = .ok mig) : mig.id = id := by
  obtain ⟨⟨files, hfiles, rfl⟩, hvalid⟩ := discover_spec h
  have hmem : id ∈ c.registered.map (·.id) ++ files := (sortIds_perm _).mem_iff.mp hid
  cases hregistered : c.registered? id with
  | some found =>
    obtain rfl : found = mig := by simpa [load, hregistered] using hload
    exact registered?_id hregistered
  | none =>
    rcases List.mem_append.mp hmem with hcode | hfile
    · obtain ⟨found, hfound, rfl⟩ := List.mem_map.mp hcode
      simpa using List.find?_eq_none.mp hregistered found hfound
    · have hslash := fileIds_noSlash htree hfiles id hfile
      exact load_id (isSimple_of_valid (hvalid id hid) hslash) hload

end Catalog

end SchemaMigration
