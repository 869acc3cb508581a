import SchemaMigration.Proofs.Files.Grounded
import SchemaMigration.Proofs.Migration.Union
import SchemaMigration.Proofs.Run.Plan

/-!
# Files that a catalog does not notice

A new file whose name is not that of a migration file changes nothing for a catalog, wherever the
file is.
-/

namespace SchemaMigration

open Files Files.Path

/-! ## A new file -/

namespace Files.FileTree

variable {tree : FileTree} {location next : Location} {content : Content} {way : List String}
variable {path : Path} {name : String}

theorem follow_or_file (hnew : tree.node? location = none)
    (h : (tree.insert location (.file content)).follow [] way = .ok next) :
    tree.follow [] way = .ok next ∨ next = location := by
  induction way using List.reverseRecOn generalizing next with
  | nil => exact .inl h
  | append_singleton way name ih =>
    obtain ⟨parent, hparent, henter⟩ := follow_concat.mp h
    obtain ⟨hdirectory, hstep⟩ := enter_spec henter
    rw [node?_insert hnew] at hdirectory
    split at hdirectory
    · simp at hdirectory
    next hne =>
    have hbefore := (ih hparent).resolve_right hne
    rcases enter_or_new hdirectory henter with hsame | ⟨rfl, hmissing⟩
    · exact .inl (follow_concat.mpr ⟨parent, hbefore, hsame⟩)
    · obtain ⟨-, hsame⟩ | ⟨-, hsame⟩ | ⟨-, -, hthere⟩ := hstep
      · simp at hsame
      · have hlength := congrArg List.length hsame
        simp at hlength
        omega
      · rw [node?_insert hnew, hmissing] at hthere
        by_contra hne
        exact hthere (if_neg fun heq => hne (.inr heq))

theorem resolve_or_file (hnew : tree.node? location = none)
    (h : (tree.insert location (.file content)).resolve path = .ok next) :
    tree.resolve path = .ok next ∨ next = location := by
  obtain ⟨hnul, hnonempty, hsteps⟩ := resolve_eq_ok_iff.mp h
  exact (follow_or_file hnew hsteps).imp_left fun h => resolve_eq_ok_iff.mpr ⟨hnul, hnonempty, h⟩

theorem find_or_file (hnew : tree.node? location = none) {node : Node}
    (h : (tree.insert location (.file content)).find path = .ok node) :
    tree.find path = .ok node ∨
      (tree.insert location (.file content)).resolve path = .ok location ∧ node = .file content := by
  obtain ⟨next, hleads, hnode⟩ := find_eq_ok_iff.mp h
  rw [node?_insert hnew] at hnode
  split at hnode
  · next heq => exact .inr ⟨heq ▸ hleads, (Option.some.inj hnode).symm⟩
  · next hne =>
    refine .inl (find_eq_ok_iff.mpr ⟨next, (resolve_or_file hnew hleads).resolve_right hne, hnode⟩)

theorem Keeps.find {made : FileTree} (hkeeps : tree.Keeps made) {node : Node}
    (h : tree.find path = .ok node) : made.find path = .ok node := by
  obtain ⟨next, hleads, hnode⟩ := find_eq_ok_iff.mp h
  exact find_eq_ok_iff.mpr ⟨next, hkeeps.resolve hleads, hkeeps hnode⟩

theorem isDirectory_eq_true_iff : tree.isDirectory path = true ↔ tree.find path = .ok .directory := by
  unfold isDirectory
  cases tree.find path with
  | error e => simp
  | ok node => cases node <;> simp

theorem isFile_eq_true_iff :
    tree.isFile path = true ↔ ∃ content, tree.find path = .ok (.file content) := by
  unfold isFile
  cases tree.find path with
  | error e => simp
  | ok node => cases node <;> simp

theorem Keeps.isFile {made : FileTree} (hkeeps : tree.Keeps made) (h : tree.isFile path = true) :
    made.isFile path = true := by
  obtain ⟨content, hfind⟩ := isFile_eq_true_iff.mp h
  exact isFile_eq_true_iff.mpr ⟨content, hkeeps.find hfind⟩

theorem isDirectory_insert (hnew : tree.node? location = none) :
    (tree.insert location (.file content)).isDirectory path = tree.isDirectory path := by
  rw [Bool.eq_iff_iff, isDirectory_eq_true_iff, isDirectory_eq_true_iff]
  constructor
  · intro h
    rcases find_or_file hnew h with h | ⟨-, h⟩
    · exact h
    · simp at h
  · exact (keeps_insert hnew _).find

theorem fileName?_of_resolve {last : String} (h : tree.resolve path = .ok (location ++ [.text last]))
    (hnode : tree.node? (location ++ [.text last]) = some (.file content)) :
    fileName? path = some last ∨ fileName? path = none := by
  obtain ⟨-, -, hsteps⟩ := resolve_eq_ok_iff.mp h
  rcases List.eq_nil_or_concat' (steps path) with hnil | ⟨way, step, hway⟩
  · rw [hnil] at hsteps
    have := Except.ok.inj hsteps
    simp at this
  rw [hway] at hsteps
  obtain ⟨parent, -, henter⟩ := follow_concat.mp hsteps
  obtain ⟨pieces, hpieces⟩ : ∃ before, pieces path = before ++ [step] := by
    rw [← List.getLast?_eq_some_iff, ← getLast?_steps, hway, List.getLast?_concat]
  have hactive : isIdle step = false := by
    by_contra hidle
    rw [Bool.not_eq_false] at hidle
    rw [node?_of_idle hidle henter] at hnode
    simp at hnode
  have hname : fileName? path = if step = ".." then none else some step := by
    unfold fileName? components
    rw [hpieces, List.filter_append]
    simp [hactive, Option.filter]
  rw [hname]
  split
  · exact .inr rfl
  next hstep =>
  obtain ⟨-, ⟨hidle, -⟩ | ⟨hback, -⟩ | ⟨-, hsame, -⟩⟩ := enter_spec henter
  · simp [hactive] at hidle
  · exact absurd hback hstep
  · obtain ⟨-, hlast⟩ := List.append_singleton_inj.mp hsame
    exact .inl (congrArg some (Name.text.inj hlast).symm)

end Files.FileTree

/-! ## The formats of files -/

theorem Files.Path.join_suffix (directory name : String) :
    ∃ before, join directory name = before ++ name := by
  unfold join
  split
  · exact ⟨"", by simp⟩
  split
  · exact ⟨directory, rfl⟩
  · exact ⟨directory ++ "/", rfl⟩

theorem Format.fileName?_of_last {path : Path} {name : String} {format : Format}
    (hlast : (pieces path).getLast? = some name) (hformat : Format.ofFileName? name = some format) :
    fileName? path = some name := by
  have hne : ∀ other, Format.ofFileName? other = none → name ≠ other := by
    rintro other hnone rfl
    simp [hnone] at hformat
  obtain ⟨front, hpieces⟩ := List.getLast?_eq_some_iff.mp hlast
  unfold fileName? components
  rw [hpieces, List.filter_append]
  simp [isIdle, hne "" (by decide), hne "." (by decide), hne ".." (by decide)]

theorem Format.ofFileName?_of_path (before : String) (format : Format) :
    ∃ name, fileName? (before ++ ("." ++ format.extension)) = some name ∧
      Format.ofFileName? name = some format := by
  have hslash : '/' ∉ ("." ++ format.extension).toList := by cases format <;> decide
  obtain ⟨start, hlast⟩ := Text.getLast?_splitOn_append hslash before.toList
  have hformat : Format.ofFileName? (String.ofList start ++ ("." ++ format.extension)) = some format :=
    Format.ofFileName?_eq_some_iff.mpr ⟨_, rfl⟩
  refine ⟨_, fileName?_of_last ?_ hformat, hformat⟩
  unfold pieces
  rw [String.toList_append, List.getLast?_map, hlast]
  simp

theorem Format.ofFileName?_of_join (directory : Path) {id : String}
    (h : (Format.ofFileName? id).isSome) :
    ∃ name, fileName? (join directory id) = some name ∧ (Format.ofFileName? name).isSome := by
  obtain ⟨format, hformat⟩ := Option.isSome_iff_exists.mp h
  obtain ⟨stem, rfl⟩ := Format.ofFileName?_eq_some_iff.mp hformat
  obtain ⟨before, hjoin⟩ := join_suffix directory (stem ++ ("." ++ format.extension))
  obtain ⟨name, hname, hfound⟩ := Format.ofFileName?_of_path (before ++ stem) format
  rw [String.append_assoc, ← hjoin] at hname
  exact ⟨name, hname, by rw [hfound]; rfl⟩

/-! ## What the catalog finds -/

namespace Migration

variable {tree other : FileTree} {path : Path}

theorem load_congr (h : other.find path = tree.find path) : load other path = load tree path := by
  unfold load FileTree.readText
  rw [h]

end Migration

namespace Catalog

variable {c : Catalog} {tree : FileTree} {parent : Location} {content : Content} {name id : String}

theorem candidates_insert (hnew : tree.node? (parent ++ [.text name]) = none)
    (hname : Format.ofFileName? name = none) {directory : Path}
    (hthere : tree.isDirectory directory = true) :
    candidates (tree.insert (parent ++ [.text name]) (.file content)) directory =
      candidates tree directory := by
  obtain ⟨location, hlocation, hnode⟩ := FileTree.isDirectory_iff.mp hthere
  have hkeeps := FileTree.keeps_insert hnew (.file content)
  unfold candidates FileTree.fileNames FileTree.children
  simp only [hlocation, hkeeps.resolve hlocation, bind, Except.bind, hnode, hkeeps hnode,
    FileTree.entries_insert hnew, pure, Except.pure, List.filterMap_append, List.filter_append]
  -- The new file is in the directory or not, and in neither case its name counts.
  by_cases hparent : parent = location
  · simp [hparent, Name.text?, hname]
  · simp [hparent]

theorem fileIds_insert (hnew : tree.node? (parent ++ [.text name]) = none)
    (hname : Format.ofFileName? name = none) :
    c.fileIds (tree.insert (parent ++ [.text name]) (.file content)) = c.fileIds tree := by
  unfold fileIds
  cases c.directory with
  | none => rfl
  | some directory =>
    dsimp only
    rw [FileTree.isDirectory_insert hnew]
    split
    · next hthere => rw [candidates_insert hnew hname hthere]
    · rfl

theorem discover_insert (hnew : tree.node? (parent ++ [.text name]) = none)
    (hname : Format.ofFileName? name = none) :
    c.discover (tree.insert (parent ++ [.text name]) (.file content)) = c.discover tree := by
  unfold discover
  rw [fileIds_insert hnew hname]

theorem load_insert (id : String) (hnew : tree.node? (parent ++ [.text name]) = none) :
    c.load (tree.insert (parent ++ [.text name]) (.file content)) id = c.load tree id ∨
      c.load tree id = .error (.missing id) ∧ c.registered? id = none ∧
        ∃ directory, c.directory = some directory ∧
          (tree.insert (parent ++ [.text name]) (.file content)).resolve (directory.join id) =
            .ok (parent ++ [.text name]) := by
  unfold load
  cases c.registered? id with
  | some mig => exact .inl rfl
  | none =>
  cases c.directory with
  | none => exact .inl rfl
  | some directory =>
  dsimp only
  have hkeeps := FileTree.keeps_insert hnew (.file content)
  cases hfile : (tree.insert (parent ++ [.text name]) (.file content)).isFile (directory.join id) with
  | false =>
    have hbefore : tree.isFile (directory.join id) = false :=
      Bool.eq_false_iff.mpr fun hthere => by simp [hkeeps.isFile hthere] at hfile
    rw [hbefore]
    exact .inl rfl
  | true =>
    obtain ⟨found, hfound⟩ := FileTree.isFile_eq_true_iff.mp hfile
    rcases FileTree.find_or_file hnew hfound with hold | ⟨hleads, -⟩
    · rw [FileTree.isFile_eq_true_iff.mpr ⟨found, hold⟩]
      exact .inl (Migration.load_congr (hfound.trans hold.symm))
    · have hbefore : tree.isFile (directory.join id) = false := by
        refine Bool.eq_false_iff.mpr fun hthere => ?_
        obtain ⟨old, hold⟩ := FileTree.isFile_eq_true_iff.mp hthere
        obtain ⟨next, hnext, hnode⟩ := FileTree.find_eq_ok_iff.mp hold
        obtain rfl := Except.ok.inj ((hkeeps.resolve hnext).symm.trans hleads)
        simp [hnew] at hnode
      rw [hbefore]
      exact .inr ⟨rfl, rfl, directory, rfl, hleads⟩

theorem format_of_discovered {ids : List String} (h : c.discover tree = .ok ids) (hid : id ∈ ids)
    (hregistered : c.registered? id = none) : (Format.ofFileName? id).isSome := by
  obtain ⟨⟨files, hfiles, rfl⟩, -⟩ := discover_spec h
  rw [(sortIds_perm _).mem_iff, List.mem_append] at hid
  rcases hid with hid | hid
  · have hfound := registers_iff.mp hid
    simp [hregistered] at hfound
  unfold fileIds at hfiles
  split at hfiles
  · obtain rfl := Except.ok.inj hfiles
    simp at hid
  split at hfiles
  swap
  · obtain rfl := Except.ok.inj hfiles
    simp at hid
  obtain ⟨found, hfound, hfiles⟩ := bind_eq_ok.mp hfiles
  split at hfiles
  · simp at hfiles
  obtain rfl : found = files := Except.ok.inj hfiles
  unfold candidates at hfound
  split at hfound
  · obtain rfl := Except.ok.inj hfound
    exact (List.mem_filter.mp hid).2
  · simp at hfound

/-- A new file whose name is not that of a migration file goes unnoticed. -/
theorem agrees_insert (hnew : tree.node? (parent ++ [.text name]) = none)
    (hname : Format.ofFileName? name = none) :
    c.Agrees tree (tree.insert (parent ++ [.text name]) (.file content)) := by
  have hnode : (tree.insert (parent ++ [.text name]) (.file content)).node? (parent ++ [.text name]) =
      some (.file content) := (FileTree.node?_insert hnew _ _).trans (if_pos rfl)
  refine ⟨?_, discover_insert hnew hname, fun ids hids id hid => ?_, fun id mig => ?_⟩
  · unfold missingDirectory
    simp only [FileTree.isDirectory_insert hnew]
  · rcases load_insert (c := c) id hnew with h | ⟨-, hregistered, directory, -, hleads⟩
    · exact h
    obtain ⟨found, hfound, hformat⟩ :=
      Format.ofFileName?_of_join directory (format_of_discovered hids hid hregistered)
    rcases FileTree.fileName?_of_resolve hleads hnode with hlast | hlast
    · obtain rfl := Option.some.inj (hfound.symm.trans hlast)
      simp [hname] at hformat
    · simp [hfound] at hlast
  · rcases load_insert (c := c) id hnew with h | ⟨hmissing, hregistered, directory, hdirectory, hleads⟩
    · rw [h]
    rw [hmissing]
    refine iff_of_false (fun h => ?_) nofun
    rcases load_cases h with h | ⟨directory', hdirectory', -, h⟩
    · simp [hregistered] at h
    obtain rfl := Option.some.inj (hdirectory.symm.trans hdirectory')
    unfold Migration.load at h
    rcases FileTree.fileName?_of_resolve hleads hnode with hlast | hlast
    · simp [hlast, hname] at h
    · simp [hlast] at h

end Catalog

end SchemaMigration
