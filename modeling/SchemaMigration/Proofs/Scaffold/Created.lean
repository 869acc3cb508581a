import SchemaMigration.Proofs.Calendar.Stamp
import SchemaMigration.Proofs.Files.Written
import SchemaMigration.Proofs.Migration.Union
import SchemaMigration.Proofs.Run.Outcome
import SchemaMigration.Proofs.Scaffold.Template

/-!
# Loading a new migration

Where a new migration was made, its file is a migration that makes a table and drops it again,
exactly if its name stays within the comment that it is written into.
-/

namespace SchemaMigration.Scaffold

open Files Toml Calendar

/-! ## The file -/

theorem writeFile_spec {δ : Type} (path : Path) (content : String) (s : Session δ) :
    Ends (Action.writeFile path content) s fun result t =>
      (∀ u, result = .ok u → s.files.write path content = .ok t.files) ∧
        ∀ e, result = .error e → t.files = s.files ∧ ∃ reason, e = .io reason := by
  unfold Action.writeFile
  rw [ends_files_bind]
  cases hwritten : s.files.write path content with
  | error reason => exact ⟨nofun, fun e hsame => ⟨rfl, reason, (Except.error.inj hsame).symm⟩⟩
  | ok tree => exact ⟨fun u _ => rfl, nofun⟩

theorem ofExcept_spec {δ α : Type} (x : Except MigrationError α) (s : Session δ) :
    Ends (Action.ofExcept x) s fun result t => result = x ∧ t = s :=
  ⟨rfl, rfl⟩

theorem checkName_spec {name checked : String} (hvalid : checkName name = .ok checked) :
    checked = Text.trimmed name ∧ '/' ∉ checked.toList := by
  unfold checkName at hvalid
  dsimp only at hvalid
  split at hvalid
  · cases hvalid
  split at hvalid
  · cases hvalid
  · next hnoSeparator =>
    obtain rfl := Except.ok.inj hvalid
    refine ⟨rfl, fun hslash => hnoSeparator ?_⟩
    rw [List.any_eq_true]
    exact ⟨'/', hslash, rfl⟩

theorem create_files {δ : Type} (dialect : Dialect) (root : Path) (name stamp : String)
    (s : Session δ) :
    let directory := root.join dialect.directory
    let file := Migration.fileName (Text.trimmed name) stamp .toml
    let made := s.files.createDirectories directory
    Ends (create dialect root name stamp) s fun result t =>
      (∀ path, result = .ok path → '/' ∉ (Text.trimmed name).toList ∧ path = directory.join file ∧
        made.1 = none ∧ made.2.holds path = false ∧
        made.2.write path (template dialect file) = .ok t.files) ∧
      (∀ e, result = .error e → t.files = s.files ∨ t.files = made.2) ∧
      (∀ e, result = .error (.configuration e) → t.files = s.files ∨
        '/' ∉ (Text.trimmed name).toList ∧ e = .migrationExists file ∧ made.1 = none ∧
        t.files = made.2 ∧ made.2.holds (directory.join file) = true) := by
  intro directory file made
  unfold create
  refine (ofExcept_spec (checkName name) s).bind ?_ ?_
  swap
  · rintro e t ⟨hinvalid, rfl⟩
    exact ⟨nofun, fun _ _ => .inl rfl, fun _ _ => .inl rfl⟩
  rintro checked t ⟨hvalid, rfl⟩
  obtain ⟨rfl, hnoSlash⟩ := checkName_spec hvalid.symm
  refine (createDirectories_outcome directory).bind ?_ ?_
  swap
  · rintro e t ⟨rfl, -, hfailed⟩
    obtain ⟨reason, rfl⟩ := hfailed e rfl
    exact ⟨nofun, fun _ _ => .inr rfl, nofun⟩
  rintro u t ⟨rfl, hdone, -⟩
  have hcomplete : made.1 = none := hdone u rfl
  rw [ends_files_bind]
  change Ends (if made.2.holds (directory.join file) = true then _ else _) _ _
  cases hthere : made.2.holds (directory.join file) with
  | true =>
    rw [if_pos rfl]
    refine ⟨nofun, fun _ _ => .inr rfl, fun e hsame => .inr ?_⟩
    exact ⟨hnoSlash, (MigrationError.configuration.inj (Except.error.inj hsame)).symm, hcomplete, rfl, rfl⟩
  | false =>
    rw [if_neg Bool.false_ne_true]
    refine (writeFile_spec _ _ _).bind ?_ ?_
    · rintro u t' ⟨hwritten, -⟩
      refine ⟨fun path hsame => ?_, nofun, nofun⟩
      obtain rfl := Except.ok.inj hsame
      exact ⟨hnoSlash, rfl, hcomplete, hthere, hwritten u rfl⟩
    · rintro e t' ⟨-, hfailed⟩
      obtain ⟨hunchanged, reason, rfl⟩ := hfailed e rfl
      exact ⟨nofun, fun _ _ => .inr hunchanged, nofun⟩

theorem create_spec {δ : Type} (dialect : Dialect) (root : Path) (name stamp : String)
    (s : Session δ) : Ends (create dialect root name stamp) s fun result t =>
      ∀ path, result = .ok path → '/' ∉ (Text.trimmed name).toList ∧
        path = (root.join dialect.directory).join
          (Migration.fileName (Text.trimmed name) stamp .toml) ∧
        t.files.readText path =
          .ok (template dialect (Migration.fileName (Text.trimmed name) stamp .toml)) := by
  refine (create_files dialect root name stamp s).mono fun result t hfiles path hsame => ?_
  obtain ⟨hnoSlash, hthere, -, habsent, hwritten⟩ := hfiles.1 path hsame
  exact ⟨hnoSlash, hthere, FileTree.readText_write hwritten habsent⟩

/-! ## Loading it -/

section Loading

variable {name : String} {m : Moment}

theorem exists_toList_fileName (name : String) (m : Moment) : ∃ front : List Char,
    (∀ c ∈ front, isContent c = true ∧ c ≠ '/') ∧
      (Migration.fileName name m.stamp .toml).toList = front ++ name.toList ++ ".toml".toList := by
  refine ⟨Migration.idStart.toList ++ m.stamp.toList ++ ['_'], ?_, ?_⟩
  · have hletters : Migration.idStart.toList.all fun c => isContent c && c != '/' := by decide +kernel
    simp only [List.forall_mem_append, List.forall_mem_singleton]
    refine ⟨⟨by simpa using hletters, fun c hmem => ?_⟩, by decide⟩
    rcases Moment.mem_stamp hmem with hdigit | rfl | rfl
    · refine ⟨isContent_of_isDigit hdigit, ?_⟩
      rintro rfl
      exact absurd hdigit (by decide)
    · decide
    · decide
  · simp [Migration.fileName, Format.extension]

theorem noSlash_fileName (hnoSlash : '/' ∉ name.toList) :
    '/' ∉ (Migration.fileName name m.stamp .toml).toList := by
  obtain ⟨front, hadded, hsame⟩ := exists_toList_fileName name m
  rw [hsame, List.mem_append, List.mem_append]
  rintro ((hslash | hslash) | hslash)
  · exact (hadded _ hslash).2 rfl
  · exact hnoSlash hslash
  · exact absurd hslash (by decide)

theorem load_created {tree : FileTree} {directory : Path} {source : String}
    (hnoSlash : '/' ∉ name.toList)
    (hwritten : tree.readText (directory.join (Migration.fileName name m.stamp .toml)) = .ok source) :
    Path.fileName? (directory.join (Migration.fileName name m.stamp .toml)) =
        some (Migration.fileName name m.stamp .toml) ∧
      Migration.load tree (directory.join (Migration.fileName name m.stamp .toml)) =
        Migration.parse .toml (Migration.fileName name m.stamp .toml) source := by
  have hsimple := Catalog.isSimple_of_valid (Migration.isValidId_fileName name m.stamp .toml)
    (noSlash_fileName hnoSlash)
  have hfound := Path.fileName?_join hsimple directory
  refine ⟨hfound, ?_⟩
  unfold Migration.load
  rw [hfound]
  dsimp only
  rw [Migration.ofFileName?_fileName]
  dsimp only
  rw [hwritten]

theorem content_fileName : (∀ c ∈ (Migration.fileName name m.stamp .toml).toList, isContent c = true) ↔
    ∀ c ∈ name.toList, isContent c = true := by
  obtain ⟨front, hadded, hsame⟩ := exists_toList_fileName name m
  have hextension : ∀ c ∈ ".toml".toList, isContent c = true := List.all_eq_true.mp (by decide)
  rw [hsame, List.forall_mem_append, List.forall_mem_append]
  exact ⟨fun h => h.1.2, fun h => ⟨⟨fun c hmem => (hadded c hmem).1, h⟩, hextension⟩⟩

theorem oneLine_fileName (honeLine : '\n' ∉ name.toList) :
    '\n' ∉ (Migration.fileName name m.stamp .toml).toList := by
  obtain ⟨front, hadded, hsame⟩ := exists_toList_fileName name m
  rw [hsame, List.mem_append, List.mem_append]
  rintro ((hlineFeed | hlineFeed) | hlineFeed)
  · exact absurd (hadded _ hlineFeed).1 (by decide)
  · exact honeLine hlineFeed
  · exact absurd hlineFeed (by decide)

theorem getLast?_fileName : (Migration.fileName name m.stamp .toml).toList.getLast? = some 'l' := by
  obtain ⟨front, -, hsame⟩ := exists_toList_fileName name m
  rw [hsame, List.getLast?_append]
  rfl

end Loading

/-- One table is made, and dropped on the way back. -/
structure IsNewTable (dialect : Dialect) (file : String) (mig : Migration) : Prop where
  id : mig.id = file
  up : ∃ table, mig.up = [.createTable table]
  down : ∃ table, mig.down = [.dropTable table]
  translates : ∀ op ∈ mig.up ++ mig.down, ∃ statement, op.statement dialect = .ok statement

theorem isNewTable_newTable (dialect : Dialect) (file : String) :
    IsNewTable dialect file (newTable file) :=
  ⟨rfl, ⟨_, rfl⟩, ⟨_, rfl⟩, statement_newTable dialect file⟩

/-- Where a new migration was made, its file is a migration of that name, which makes one table and
drops it again, exactly if the name stays within the comment that it is written into. A name of one
line does so exactly when it has no control characters but tabs, and otherwise the file does not
load. -/
theorem created_loads {δ : Type} (dialect : Dialect) (root : Path) (name : String) (m : Moment)
    (s : Session δ) : Ends (create dialect root name m.stamp) s fun result t =>
      ∀ path, result = .ok path → ∃ file,
        file = Migration.fileName (Text.trimmed name) m.stamp .toml ∧
        Path.fileName? path = some file ∧
        Migration.isValidId file = true ∧ Format.ofFileName? file = some .toml ∧
        ((∃ mig, Migration.load t.files path = .ok mig ∧ IsNewTable dialect file mig) ↔
          IsComment file.toList) ∧
        ('\n' ∉ (Text.trimmed name).toList →
          (IsComment file.toList ↔ ∀ c ∈ (Text.trimmed name).toList, isContent c = true) ∧
          ((∃ mig, Migration.load t.files path = .ok mig) → IsComment file.toList)) := by
  refine (create_spec dialect root name m.stamp s).mono fun result t hspec path hsame => ?_
  obtain ⟨hslash, hpath, hwritten⟩ := hspec path hsame
  rw [hpath] at hwritten ⊢
  obtain ⟨hfound, hloaded⟩ := load_created hslash hwritten
  refine ⟨_, rfl, hfound, Migration.isValidId_fileName _ _ _, Migration.ofFileName?_fileName _ _ _, ⟨?_, ?_⟩,
    fun hline => ?_⟩
  · rintro ⟨mig, hload, htable⟩
    obtain ⟨up, hup⟩ := htable.up
    obtain ⟨down, hdown⟩ := htable.down
    exact isComment_of_operations (hloaded.symm.trans hload) (by rw [hup]; rfl) (by rw [hdown]; rfl)
  · intro hcomment
    exact ⟨_, hloaded.trans (parse_template hcomment), isNewTable_newTable _ _⟩
  · have hfile := oneLine_fileName (m := m) hline
    refine ⟨(isComment_iff hfile (by simp [getLast?_fileName])).trans content_fileName, ?_⟩
    rintro ⟨mig, hload⟩
    exact isComment_of_parse hfile (hloaded.symm.trans hload)

def leapDay : Moment := ⟨2024, 2, 29, 23, 59, 59⟩

/-- A session without files. -/
def start : Session Unit where
  files := {}
  database := ()

theorem created_loads_addUsers : ∃ t,
    (create .sqlite "migrations" " add users " leapDay.stamp).run start =
      (.ok "migrations/sqlite/lipgrade_20240229235959_add users.toml", t) ∧
    ∃ mig, Migration.load t.files "migrations/sqlite/lipgrade_20240229235959_add users.toml" = .ok mig ∧
      IsNewTable .sqlite "lipgrade_20240229235959_add users.toml" mig := by
  have hnamed : Migration.fileName (Text.trimmed " add users ") leapDay.stamp .toml =
      "lipgrade_20240229235959_add users.toml" := by
    decide +kernel
  have honeLine : '\n' ∉ (Text.trimmed " add users ").toList := by decide +kernel
  have hcontent : ∀ c ∈ (Text.trimmed " add users ").toList, isContent c = true :=
    List.all_eq_true.mp (by decide +kernel)
  obtain ⟨t, hmade⟩ : ∃ t, (create .sqlite "migrations" " add users " leapDay.stamp).run start =
      (.ok "migrations/sqlite/lipgrade_20240229235959_add users.toml", t) :=
    ends_of_result (by decide +kernel)
  have hspec := created_loads .sqlite "migrations" " add users " leapDay start
  rw [ends_iff hmade] at hspec
  obtain ⟨file, rfl, -, -, -, hloads, hlines⟩ := hspec _ rfl
  obtain ⟨mig, hloaded, htable⟩ := hloads.mpr ((hlines honeLine).1.mpr hcontent)
  rw [hnamed] at htable
  exact ⟨t, hmade, mig, hloaded, htable⟩

/-- Behind a line break, the name is part of what the migration says. -/
theorem created_drops : ∃ t,
    (create .sqlite "migrations" droppingUsers leapDay.stamp).run start =
      (.ok ("migrations/sqlite/lipgrade_20240229235959_" ++ droppingUsers ++ ".toml"), t) ∧
    ∃ mig table,
      Migration.load t.files ("migrations/sqlite/lipgrade_20240229235959_" ++ droppingUsers ++ ".toml") =
        .ok mig ∧
      mig.up = [.dropTable { name := some "users" }, .createTable table] := by
  obtain ⟨t, hmade⟩ : ∃ t, (create .sqlite "migrations" droppingUsers leapDay.stamp).run start =
      (.ok ("migrations/sqlite/lipgrade_20240229235959_" ++ droppingUsers ++ ".toml"), t) :=
    ends_of_result (by decide +kernel)
  have hspec := create_spec .sqlite "migrations" droppingUsers leapDay.stamp start
  rw [ends_iff hmade] at hspec
  obtain ⟨hnoSlash, hthere, hwritten⟩ := hspec _ rfl
  obtain ⟨-, hloaded⟩ := load_created hnoSlash (hthere ▸ hwritten)
  obtain ⟨body, h⟩ := exists_isBody .sqlite
  -- The comment ends within the name of the file.
  have hends : intro .sqlite ++
      (Migration.fileName (Text.trimmed droppingUsers) leapDay.stamp .toml).toList ++ ['\n'] =
        " SQLite migration: lipgrade_20240229235959_x".toList ++
          '\n' :: (dropUsers ++ ".toml\n".toList) := by
    decide +kernel
  have hcomment : IsComment " SQLite migration: lipgrade_20240229235959_x".toList :=
    (isComment_iff (by decide +kernel) (by decide +kernel)).mpr (List.all_eq_true.mp (by decide +kernel))
  have hnoMark : (dropUsers ++ ".toml\n".toList ++ body).head? ≠ some '\uFEFF' := by
    have hbracket : (dropUsers ++ ".toml\n".toList).head? = some '[' := by decide +kernel
    rw [List.head?_append, hbracket]
    simp
  have hwhole : template .sqlite (Migration.fileName (Text.trimmed droppingUsers) leapDay.stamp .toml) =
      String.ofList ('#' :: " SQLite migration: lipgrade_20240229235959_x".toList ++
        '\n' :: (dropUsers ++ ".toml\n".toList ++ body)) := by
    rw [h.template_ofList, List.append_cons _ '\n' body, List.cons_append, hends]
    simp
  rw [hwhole, parse_behind hcomment hnoMark h.behindDrop, ← hthere] at hloaded
  exact ⟨t, hmade, _, _, hloaded, rfl⟩

end SchemaMigration.Scaffold
