import SchemaMigration.Proofs.Migration.Union
import SchemaMigration.Proofs.Run.Unwind

/-!
# Loading by an id

What is loaded by an id has that id if the id is registered or the name of a file right in the
directory. Whatever is discovered can be loaded. An id with a slash in it leads to a file further
away, and what is loaded has the name of that file for its id.
-/

namespace SchemaMigration

open Files Files.Path

/-! ## Files in a directory -/

namespace Files.FileTree

variable {tree : FileTree} {start next location : Location} {directory : Path} {name : String}
variable {node : Node}

/-- The names of the files are such as a disk can hold. -/
structure OnDisk (tree : FileTree) : Prop extends tree.WellNamed where
  fits : ∀ location content, (location, .file content) ∈ tree.entries →
    ∀ name, location.getLast? = some (.text name) →
      '\x00' ∉ name.toList ∧ name.utf8ByteSize ≤ nameLimit

/-- The name stands for itself in a path and is no longer than names may be. -/
structure Fits (name : String) : Prop extends IsSimple name where
  noNul : '\x00' ∉ name.toList
  short : name.utf8ByteSize ≤ nameLimit

theorem enter_child (hdirectory : tree.node? location = some .directory) (hname : Fits name)
    (hnode : tree.node? (location ++ [.text name]) = some node) :
    tree.enter location name = .ok (location ++ [.text name]) := by
  unfold enter
  simp only [hdirectory, hnode, hname.notIdle, hname.notParent, Nat.not_lt.mpr hname.short,
    Bool.false_eq_true, if_false]

theorem resolve_join (h : tree.resolve directory = .ok location)
    (hdirectory : tree.node? location = some .directory) (hname : Fits name)
    (hnode : tree.node? (location ++ [.text name]) = some node) :
    tree.resolve (join directory name) = .ok (location ++ [.text name]) := by
  obtain ⟨hnul, hnonempty, hsteps⟩ := resolve_eq_ok_iff.mp h
  obtain ⟨way, hway, hjoin⟩ := steps_join directory
  have hfollow : tree.follow [] way = .ok location := by
    rcases hway with hway | hway
    · rwa [hway] at hsteps
    -- The slash at the end of the directory is a step that leads nowhere.
    · rw [hway] at hsteps
      obtain ⟨parent, hparent, hlast⟩ := follow_concat.mp hsteps
      rwa [enter_idle rfl hlast]
  refine resolve_eq_ok_iff.mpr ⟨?_, ?_, ?_⟩
  · have hchars := hname.noNul
    rw [join_eq hname.noSlash hnonempty]
    unfold hasNul at hnul ⊢
    split <;> simp_all
  · rw [join_eq hname.noSlash hnonempty]
    split <;> simp [hnonempty]
  · rw [hjoin name hname.noSlash]
    exact follow_concat.mpr ⟨location, hfollow, enter_child hdirectory hname hnode⟩

theorem isFile_join {content : Content} (h : tree.resolve directory = .ok location)
    (hdirectory : tree.node? location = some .directory) (hname : Fits name)
    (hnode : tree.node? (location ++ [.text name]) = some (.file content)) :
    tree.isFile (join directory name) = true := by
  unfold isFile find
  rw [resolve_join h hdirectory hname hnode]
  simp only [bind, Except.bind, hnode]
  rfl

theorem HasMigration.isFile (h : tree.HasMigration directory name) (htree : tree.OnDisk)
    (hvalid : Migration.isValidId name = true) : tree.isFile (join directory name) = true := by
  obtain ⟨location, content, hlocation, hdirectory, hnode, -⟩ := h
  have hentry := (mem_entries_iff htree.distinct (by simp)).mpr hnode
  have hlast : (location ++ [Name.text name]).getLast? = some (.text name) := List.getLast?_concat
  have hslash := htree.noSlash _ content hentry name hlast
  obtain ⟨hnul, hshort⟩ := htree.fits _ content hentry name hlast
  exact isFile_join hlocation hdirectory ⟨Catalog.isSimple_of_valid hvalid hslash, hnul, hshort⟩ hnode

end Files.FileTree

/-! ## What is loaded -/

namespace Migration

variable {e : MigrationError}

theorem parse_error {format : Format} {id source : String} (h : parse format id source = .error e) :
    ∃ cause, e = .load id cause := by
  unfold parse at h
  cases hread : format.decode (decode format id) source with
  | ok mig => simp [hread, Except.mapError] at h
  | error cause =>
    rw [hread] at h
    exact ⟨_, (Except.error.inj h).symm⟩

theorem load_error {tree : FileTree} {path : Path} (h : load tree path = .error e) :
    ∃ file cause, e = .load file cause := by
  unfold load at h
  split at h
  · exact ⟨_, _, (Except.error.inj h).symm⟩
  split at h
  · exact ⟨_, _, (Except.error.inj h).symm⟩
  split at h
  · exact ⟨_, _, (Except.error.inj h).symm⟩
  · exact ⟨_, parse_error h⟩

end Migration

theorem Ledger.entry_inj {dialect : Dialect} {direction : Direction} {id other : String} :
    entry dialect direction id = entry dialect direction other ↔ id = other := by
  cases direction <;> simp [entry, insertion, deletion]

namespace Catalog

variable {c : Catalog} {tree : FileTree} {dialect : Dialect} {direction : Direction} {id : String}
variable {ids : List String}

/-- The id is that of a registered migration, or there is no slash in it. -/
def Plain (c : Catalog) (id : String) : Prop := c.Registers id ∨ '/' ∉ id.toList

theorem load_of_registers (tree : FileTree) (h : c.Registers id) :
    ∃ mig, c.load tree id = .ok mig ∧ mig.id = id := by
  obtain ⟨mig, hmig⟩ := Option.isSome_iff_exists.mp (registers_iff.mp h)
  refine ⟨mig, ?_, registered?_id hmig⟩
  unfold load
  rw [hmig]

theorem load_id_iff {mig : Migration} (h : c.load tree id = .ok mig) : mig.id = id ↔ c.Plain id := by
  constructor
  · intro hid
    rcases load_cases h with hregistered | ⟨directory, -, -, hload⟩
    · exact .inl (registers_iff.mpr (by simp [hregistered]))
    · exact .inr (noSlash_of_fileName? (hid ▸ Migration.load_id hload))
  · rintro (hregistered | hslash)
    · obtain ⟨found, hfound, hid⟩ := load_of_registers tree hregistered
      obtain rfl : found = mig := Except.ok.inj (hfound.symm.trans h)
      exact hid
    · exact load_id_of_noSlash hslash h

theorem planned_id_iff {p : PlannedMigration} (h : c.planned dialect tree direction id = .ok p) :
    p.id = id ↔ c.Plain id := by
  obtain ⟨mig, hmig, hp, -⟩ := planned_loads h
  rw [hp]
  exact load_id_iff hmig

theorem plain_of_discovered (htree : tree.WellNamed) (h : c.discover tree = .ok ids)
    (hid : id ∈ ids) : c.Plain id := by
  obtain ⟨⟨files, hfiles, rfl⟩, -⟩ := discover_spec h
  rcases List.mem_append.mp ((sortIds_perm _).mem_iff.mp hid) with hcode | hfile
  · exact .inl hcode
  · exact .inr (fileIds_noSlash htree hfiles id hfile)

theorem not_missing_of_discovered (htree : tree.OnDisk) (h : c.discover tree = .ok ids)
    (hid : id ∈ ids) (other : String) : c.load tree id ≠ .error (.missing other) := by
  obtain ⟨⟨files, hfiles, rfl⟩, hvalid⟩ := discover_spec h
  rcases List.mem_append.mp ((sortIds_perm _).mem_iff.mp hid) with hcode | hfile
  · obtain ⟨mig, hload, -⟩ := load_of_registers tree hcode
    simp [hload]
  have hunion := fileIds_union (c := c) htree.distinct
  simp only [hfiles, Except.ok.injEq, reduceCtorEq, false_and, exists_const, or_false,
    exists_eq_left'] at hunion
  obtain ⟨directory, hdirectory, hmigration⟩ := (hunion.2 id).mp hfile
  have hthere := hmigration.isFile htree (hvalid id hid)
  intro hmissing
  unfold load at hmissing
  split at hmissing
  · simp at hmissing
  · simp only [hdirectory, hthere, if_true] at hmissing
    obtain ⟨file, cause, hload⟩ := Migration.load_error hmissing
    cases hload

end Catalog

namespace Runner

/-- A migration has the id by which it is loaded, and the ledger the row of the id that was
planned, exactly if the id is registered or has no slash in it. So it is with every id that is
discovered, and each of them can be loaded. -/
theorem row_of_id {δ : Type} (r : Runner δ) (tree : FileTree) :
    (∀ id mig, r.catalog.load tree id = .ok mig → (mig.id = id ↔ r.catalog.Plain id)) ∧
    (∀ direction id p, r.dryRun = false →
      r.catalog.planned r.adapter.dialect tree direction id = .ok p →
        (r.sent direction p = p.statements ++ [Ledger.entry r.adapter.dialect direction id] ↔
          r.catalog.Plain id)) ∧
    (tree.OnDisk → ∀ ids, r.catalog.discover tree = .ok ids → ∀ id ∈ ids,
      r.catalog.Plain id ∧ ∀ other, r.catalog.load tree id ≠ .error (.missing other)) := by
  refine ⟨fun id mig => Catalog.load_id_iff, fun direction id p hdry hplanned => ?_,
    fun htree ids hids id hid => ?_⟩
  · rw [← Catalog.planned_id_iff hplanned, sent, hdry]
    simp [Ledger.entry_inj]
  · exact ⟨Catalog.plain_of_discovered htree.toWellNamed hids hid,
      Catalog.not_missing_of_discovered htree hids hid⟩

/-- A migration in code, a file in the directory and one further down. -/
def nested : Catalog where
  dialect := .sqlite
  root := some "m"
  registered := [{ id := "lipgrade_0/a" }]

def nestedFiles : FileTree := {
  entries := [
    ([.text "m"], .directory),
    ([.text "m", .text "sqlite"], .directory),
    ([.text "m", .text "sqlite", .text "lipgrade_1.json"], .file (.text "\x7b\"up\": []\x7d")),
    ([.text "m", .text "sqlite", .text "sub"], .directory),
    ([.text "m", .text "sqlite", .text "sub", .text "lipgrade_2.json"],
      .file (.text "\x7b\"up\": []\x7d"))] }

theorem nestedFiles_onDisk : nestedFiles.OnDisk := by
  have hnames : ∀ location content, (location, Node.file content) ∈ nestedFiles.entries →
      ∀ name, location.getLast? = some (.text name) →
        name = "lipgrade_1.json" ∨ name = "lipgrade_2.json" := by
    intro location content hentry name hname
    simp only [nestedFiles, List.mem_cons, Prod.mk.injEq, reduceCtorEq, and_false, false_or,
      List.not_mem_nil, or_false] at hentry
    rcases hentry with ⟨rfl, -⟩ | ⟨rfl, -⟩
    · exact .inl (by simpa using hname.symm)
    · exact .inr (by simpa using hname.symm)
  refine ⟨⟨?_, fun location content hentry name hname => ?_⟩,
    fun location content hentry name hname => ?_⟩
  · unfold FileTree.Distinct
    decide
  · rcases hnames location content hentry name hname with rfl | rfl <;> decide
  · rcases hnames location content hentry name hname with rfl | rfl <;> decide

theorem row_of_id_nested :
    nestedFiles.OnDisk ∧
      nested.discover nestedFiles = .ok ["lipgrade_0/a", "lipgrade_1.json"] ∧
      (∀ other, nested.load nestedFiles "lipgrade_1.json" ≠ .error (.missing other)) ∧
      ∃ mig, nested.load nestedFiles "lipgrade_1.json" = .ok mig ∧ mig.id = "lipgrade_1.json" := by
  obtain ⟨hload, -, hdiscovered⟩ :=
    row_of_id (watching (Rehearsal.adapter acceptsAll) nested) nestedFiles
  have hids : nested.discover nestedFiles = .ok ["lipgrade_0/a", "lipgrade_1.json"] := by
    decide +kernel
  have hfile : nested.load nestedFiles "lipgrade_1.json" = .ok { id := "lipgrade_1.json" } := by
    decide +kernel
  obtain ⟨hplain, hmissing⟩ := hdiscovered nestedFiles_onDisk _ hids "lipgrade_1.json" (by simp)
  exact ⟨nestedFiles_onDisk, hids, hmissing, _, hfile, (hload _ _ hfile).mpr hplain⟩

/-- A file further down is loaded with another id. A rollback by its path reports the path and
leaves it in the ledger. -/
theorem nested_stays_applied :
    nested.load nestedFiles "sub/lipgrade_2.json" = .ok { id := "lipgrade_2.json" } ∧
      ∃ s : Session Rehearsal.Book, s.files = nestedFiles ∧
        s.database.store.ledger = ["sub/lipgrade_2.json"] ∧
        (rehearseBack acceptsAll nested s).1 = .ok (.rolledBack "sub/lipgrade_2.json") ∧
        (rehearseBack acceptsAll nested s).2.2.database.inner.store.ledger = ["sub/lipgrade_2.json"] := by
  refine ⟨by decide +kernel, ⟨nestedFiles, [], { store := { ledger := ["sub/lipgrade_2.json"] } }⟩,
    rfl, rfl, ?_, ?_⟩
  · decide +kernel
  · decide +kernel

end Runner

end SchemaMigration
