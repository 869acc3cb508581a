import SchemaMigration.Proofs.Files.Grounded
import SchemaMigration.Proofs.Scaffold.Created

/-!
# What is there stays

Setting a project up and making a migration leave everything as it is that was there. A project is
set up once: doing it again adds nothing.
-/

namespace SchemaMigration.Scaffold

open Files Files.Path Calendar

variable {δ : Type} {base tree : FileTree} {report : Report} {location top : Location} {node : Node}
variable {path directory : Path} {name : String} {outer : List String}

/-! ## What is added -/

/-- What is new is what was created, and what was skipped was there. -/
structure AddsCreated (base tree : FileTree) (report : Report) : Prop where
  kept : base.Keeps tree
  created : ∀ path ∈ report.created, ∃ location node, tree.resolve path = .ok location ∧
    base.node? location = none ∧ tree.node? location = some node
  complete : ∀ location node, base.node? location = none → tree.node? location = some node →
    ∃ path ∈ report.created, tree.resolve path = .ok location
  skipped : ∀ path ∈ report.skipped, base.holds path = true

/-- What is new is one file and directories on the way. -/
structure AddsFile (way : List String) (path : Path) (content : String) (base tree : FileTree) :
    Prop where
  kept : base.Keeps tree
  added : ∃ location, tree.resolve path = .ok location ∧ base.node? location = none ∧
    tree.node? location = some (.file (.text content)) ∧
    ∀ other node, other ≠ location → base.node? other = none → tree.node? other = some node →
      node = .directory ∧ ∃ above, above <+: way ∧ tree.follow [] above = .ok other

theorem addsCreated_refl (base : FileTree) : AddsCreated base base {} where
  kept := FileTree.Keeps.refl base
  created := by simp
  complete location node hmissing hthere := by simp [hmissing] at hthere
  skipped := by simp

theorem AddsCreated.create (hadds : AddsCreated base tree report) (hnew : tree.node? location = none)
    (hleads : (tree.insert location node).resolve path = .ok location) :
    AddsCreated base (tree.insert location node)
      { report with created := report.created ++ [path] } where
  kept := hadds.kept.trans (FileTree.keeps_insert hnew node)
  created := by
    have hkept := FileTree.keeps_insert hnew node
    refine List.forall_mem_append.mpr ⟨fun old hmem => ?_, List.forall_mem_singleton.mpr ?_⟩
    · obtain ⟨place, there, hresolved, hmissing, hfound⟩ := hadds.created old hmem
      exact ⟨place, there, hkept.resolve hresolved, hmissing, hkept hfound⟩
    · exact ⟨location, node, hleads, hadds.kept.missing hnew, by rw [FileTree.node?_insert hnew, if_pos rfl]⟩
  complete place found hmissing hthere := by
    rw [FileTree.node?_insert hnew] at hthere
    split at hthere
    · next hsame => exact ⟨path, by simp, hsame ▸ hleads⟩
    · obtain ⟨old, hmem, hresolved⟩ := hadds.complete place found hmissing hthere
      exact ⟨old, List.mem_append_left _ hmem, (FileTree.keeps_insert hnew node).resolve hresolved⟩
  skipped := hadds.skipped

theorem AddsCreated.skip (hadds : AddsCreated base tree report) (hheld : base.holds path = true) :
    AddsCreated base tree { report with skipped := report.skipped ++ [path] } where
  kept := hadds.kept
  created := hadds.created
  complete := hadds.complete
  skipped := List.forall_mem_append.mpr ⟨hadds.skipped, List.forall_mem_singleton.mpr hheld⟩

/-! ## A new project -/

/-- The name stands last in no path that was created. -/
def Apart (report : Report) (name : String) : Prop :=
  ∀ path ∈ report.created, ∃ way last, steps path = way ++ [last] ∧ IsSimple last ∧ last ≠ name

theorem AddsCreated.held (hadds : AddsCreated base tree report) (hgrounded : base.Grounded)
    (hsimple : IsSimple name) (hlast : steps path = outer ++ [name])
    (hnoDetour : base.NoDetour (steps path)) (hapart : Apart report name)
    (hthere : tree.holds path = true) : base.holds path = true := by
  obtain ⟨location, node, hresolved, hthere⟩ := FileTree.holds_iff.mp hthere
  obtain ⟨hnoNul, hnonempty, hleads⟩ := FileTree.resolve_eq_ok_iff.mp hresolved
  rcases FileTree.follow_or_new hgrounded hadds.kept hnoDetour hleads with hbefore | hmissing
  · obtain ⟨old, hfound⟩ := hgrounded.node?_of_follow hbefore
    exact FileTree.holds_iff.mpr
      ⟨location, old, FileTree.resolve_eq_ok_iff.mpr ⟨hnoNul, hnonempty, hbefore⟩, hfound⟩
  · obtain ⟨other, hmem, hresolved⟩ := hadds.complete location node hmissing hthere
    obtain ⟨way, name', hlast', hsimple', hdiffers⟩ := hapart other hmem
    obtain ⟨-, -, hleads'⟩ := FileTree.resolve_eq_ok_iff.mp hresolved
    rw [hlast] at hleads
    rw [hlast'] at hleads'
    obtain ⟨parent, -, -, rfl⟩ := FileTree.follow_named hsimple hleads
    obtain ⟨parent', -, -, hsame⟩ := FileTree.follow_named hsimple' hleads'
    obtain ⟨-, hsame⟩ := List.append_singleton_inj.mp hsame
    exact absurd (Name.text.inj hsame).symm hdiffers

theorem writeExamples_spec (hgrounded : base.Grounded)
    (hnoDetour : ∀ name, IsSimple name → base.NoDetour (steps (directory.join name)))
    {examples : List (String × String)} (hsimple : ∀ e ∈ examples, IsSimple e.1)
    (honce : (examples.map Prod.fst).Nodup) {s : Session δ} (hadds : AddsCreated base s.files report)
    (hapart : ∀ e ∈ examples, Apart report e.1) :
    Ends (writeExamples directory report examples) s fun result t =>
      s.files.Keeps t.files ∧ ∀ report', result = .ok report' → AddsCreated base t.files report' := by
  induction examples generalizing report s with
  | nil => exact ⟨FileTree.Keeps.refl _, fun report' hsame => Except.ok.inj hsame ▸ hadds⟩
  | cons e rest ih =>
    obtain ⟨name, content⟩ := e
    obtain ⟨hsimpleName, hsimple⟩ := List.forall_mem_cons.mp hsimple
    obtain ⟨hapartName, hapart⟩ := List.forall_mem_cons.mp hapart
    obtain ⟨hfresh, honce⟩ := List.nodup_cons.mp honce
    obtain ⟨way, -, hjoin⟩ := steps_join directory
    have hlast := hjoin name hsimpleName.noSlash
    unfold writeExamples
    rw [ends_files_bind]
    cases hthere : s.files.holds (directory.join name) with
    | true =>
      rw [if_pos rfl]
      have hheld := hadds.held hgrounded hsimpleName hlast (hnoDetour name hsimpleName) hapartName hthere
      exact ih hsimple honce (hadds.skip hheld) hapart
    | false =>
      rw [if_neg Bool.false_ne_true]
      refine (writeFile_spec _ _ s).bind ?_ ?_
      · rintro u t ⟨hwritten, -⟩
        obtain ⟨top, -, -, hnew, hmade, hresolved⟩ :=
          FileTree.write_absent hsimpleName hlast (hwritten u rfl) hthere
        have hkept := FileTree.keeps_insert hnew (.file (.text content))
        rw [← hmade] at hkept
        have hmore := hadds.create hnew (hmade ▸ hresolved)
        rw [← hmade] at hmore
        refine (ih hsimple honce hmore fun e hmem => ?_).mono
          fun result t' hends => ⟨hkept.trans hends.1, hends.2⟩
        refine List.forall_mem_append.mpr ⟨hapart e hmem, List.forall_mem_singleton.mpr ?_⟩
        refine ⟨way, name, hlast, hsimpleName, ?_⟩
        rintro rfl
        exact hfresh (List.mem_map.mpr ⟨e, hmem, rfl⟩)
      · rintro error t ⟨-, hfailed⟩
        rw [(hfailed error rfl).1]
        exact ⟨FileTree.Keeps.refl _, nofun⟩

theorem makeMigrations_spec {s : Session δ} (hsimple : IsSimple name)
    (hlast : steps directory = outer ++ [name]) (hleads : s.files.follow [] outer = .ok top)
    (hadds : AddsCreated base s.files report) :
    Ends (makeMigrations directory report) s fun result t => s.files.Keeps t.files ∧
      ∀ report', result = .ok report' → AddsCreated base t.files report' ∧
        ∀ path ∈ report'.created, path ∈ report.created ∨ path = directory := by
  unfold makeMigrations
  rw [ends_files_bind]
  cases hthere : s.files.isDirectory directory with
  | true =>
    rw [if_pos rfl, ends_print_bind]
    refine ⟨FileTree.Keeps.refl _, fun report' hsame => ?_⟩
    obtain rfl := Except.ok.inj hsame
    exact ⟨hadds, fun path hmem => .inl hmem⟩
  | false =>
    rw [if_neg Bool.false_ne_true]
    have hkept := (FileTree.grows_createDirectories s.files directory).kept
    refine (createDirectories_outcome directory).bind ?_ ?_
    · rintro u t ⟨rfl, hdone, -⟩
      obtain ⟨hnew, hmade, hresolved⟩ := FileTree.createDirectories_named hsimple hlast hleads hthere
        (Prod.ext (hdone u rfl) rfl)
      rw [ends_print_bind]
      refine ⟨hkept, fun report' hsame => ?_⟩
      obtain rfl := Except.ok.inj hsame
      have hmore := hadds.create hnew (hmade ▸ hresolved)
      rw [← hmade] at hmore
      exact ⟨hmore, fun path hmem => by simpa using hmem⟩
    · rintro e t ⟨rfl, -⟩
      exact ⟨hkept, nofun⟩

theorem isSimple_configFileName : IsSimple configFileName := ⟨by decide, by decide, by decide⟩

theorem isSimple_migrations : IsSimple "migrations" := ⟨by decide, by decide, by decide⟩

theorem isSimple_examples : ∀ e ∈ examples, IsSimple e.1 := by
  intro e hmem
  simp only [examples, List.mem_cons, List.not_mem_nil, or_false] at hmem
  rcases hmem with rfl | rfl | rfl <;> exact ⟨by decide, by decide, by decide⟩

theorem apart_examples {root : Path}
    (hjoin : ∀ name, '/' ∉ name.toList → steps (root.join name) = outer ++ [name])
    (hcreated : ∀ path ∈ report.created,
      path = root.join configFileName ∨ path = root.join "migrations") :
    ∀ e ∈ examples, Apart report e.1 := by
  have hother : ∀ e ∈ examples, configFileName ≠ e.1 ∧ "migrations" ≠ e.1 := by decide
  intro e hmem path hthere
  obtain ⟨hnotConfig, hnotMigrations⟩ := hother e hmem
  rcases hcreated path hthere with rfl | rfl
  · exact ⟨outer, _, hjoin _ isSimple_configFileName.noSlash, isSimple_configFileName, hnotConfig⟩
  · exact ⟨outer, _, hjoin _ isSimple_migrations.noSlash, isSimple_migrations, hnotMigrations⟩

theorem init_spec {s : Session δ} (hgrounded : s.files.Grounded) (root : Path) :
    Ends (init root) s fun result t => s.files.Keeps t.files ∧ ∀ report, result = .ok report →
      AddsCreated s.files t.files report ∧ t.files.holds (root.join configFileName) = true := by
  obtain ⟨outer, -, hjoin⟩ := steps_join root
  unfold init
  rw [ends_files_bind]
  dsimp only
  cases hthere : s.files.holds (root.join configFileName) with
  | true =>
    rw [if_pos rfl, ends_print_bind]
    refine ⟨FileTree.Keeps.refl _, fun report hsame => ?_⟩
    obtain rfl := Except.ok.inj hsame
    exact ⟨(addsCreated_refl s.files).skip hthere, hthere⟩
  | false =>
  rw [if_neg Bool.false_ne_true]
  refine (writeFile_spec _ _ s).bind ?_ ?_
  swap
  · rintro error t ⟨-, hfailed⟩
    rw [(hfailed error rfl).1]
    exact ⟨FileTree.Keeps.refl _, nofun⟩
  rintro u t ⟨hwritten, -⟩
  obtain ⟨top, hleads, -, hnew, hmade, hresolved⟩ := FileTree.write_absent isSimple_configFileName
    (hjoin _ isSimple_configFileName.noSlash) (hwritten u rfl) hthere
  have hadds : AddsCreated s.files t.files { created := [root.join configFileName] } := by
    rw [hmade] at hresolved ⊢
    exact (addsCreated_refl s.files).create hnew hresolved
  have hholds : t.files.holds (root.join configFileName) = true := by
    obtain ⟨location, node, hresolved, -, hfound⟩ := hadds.created _ (List.mem_singleton_self _)
    exact FileTree.holds_iff.mpr ⟨location, node, hresolved, hfound⟩
  have hwithin := hjoin _ isSimple_migrations.noSlash
  -- What was printed does not matter to the files.
  have hmade (transcript) := makeMigrations_spec (s := ⟨t.files, transcript, t.database⟩)
    isSimple_migrations hwithin (hadds.kept.follow hleads) hadds
  rw [ends_print_bind]
  refine (hmade _).bind ?_ ?_
  swap
  · rintro error t' ⟨hkept, -⟩
    exact ⟨hadds.kept.trans hkept, nofun⟩
  rintro report t' ⟨hkept, hends⟩
  obtain ⟨hadds', hmembers⟩ := hends report rfl
  have hnoDetour (name : String) (hsimple : IsSimple name) :=
    FileTree.noDetour_join hleads isSimple_migrations hwithin hsimple
  have hapart := apart_examples hjoin fun path hmem =>
    (hmembers path hmem).imp_left List.mem_singleton.mp
  refine (writeExamples_spec hgrounded hnoDetour isSimple_examples (by decide) hadds' hapart).bind ?_ ?_
  · rintro report' t'' ⟨hkept', hends⟩
    rw [ends_print_bind]
    refine ⟨hadds.kept.trans (hkept.trans hkept'), fun report hsame => ?_⟩
    obtain rfl := Except.ok.inj hsame
    exact ⟨hends _ rfl, (hkept.trans hkept').holds hholds⟩
  · rintro error t'' ⟨hkept', -⟩
    exact ⟨hadds.kept.trans (hkept.trans hkept'), nofun⟩

theorem init_again {s : Session δ} {root : Path} (hthere : s.files.holds (root.join configFileName) = true) :
    Ends (init root) s fun result t =>
      result = .ok { skipped := [root.join configFileName] } ∧ t.files = s.files := by
  unfold init
  rw [ends_files_bind]
  dsimp only
  rw [if_pos hthere, ends_print_bind]
  exact ⟨rfl, rfl⟩

/-! ## A new migration -/

theorem addsFile_of_write {way : List String} {content : String} {made : FileTree}
    (hgrown : FileTree.Grows way base made) (hsimple : IsSimple name) (hlast : steps path = outer ++ [name])
    (habsent : made.holds path = false) (hwritten : made.write path content = .ok tree) :
    AddsFile way path content base tree := by
  obtain ⟨top, -, -, hnew, rfl, hresolved⟩ := FileTree.write_absent hsimple hlast hwritten habsent
  have hkept := FileTree.keeps_insert hnew (.file (.text content))
  refine ⟨hgrown.kept.trans hkept, _, hresolved, hgrown.kept.missing hnew, ?_, ?_⟩
  · rw [FileTree.node?_insert hnew, if_pos rfl]
  · intro other node hdiffers hmissing hthere
    rw [FileTree.node?_insert hnew, if_neg hdiffers] at hthere
    obtain ⟨hsame, above, hstarts, hleads⟩ := hgrown.added hmissing hthere
    exact ⟨hsame, above, hstarts, hkept.follow hleads⟩

theorem create_adds {s : Session δ} (hgrounded : s.files.Grounded) (dialect : Dialect) (root : Path)
    (name : String) (m : Moment) :
    let way := activeSteps (root.join dialect.directory)
    let file := Migration.fileName (Text.trimmed name) m.stamp .toml
    Ends (create dialect root name m.stamp) s fun result t => s.files.Keeps t.files ∧
      (∀ path, result = .ok path → AddsFile way path (template dialect file) s.files t.files) ∧
      ∀ e, result = .error (.configuration e) → t.files = s.files ∨
        e = .migrationExists file ∧ ¬s.files.NoDetour way ∧ FileTree.Grows way s.files t.files := by
  intro way file
  have hgrown : FileTree.Grows way s.files _ :=
    FileTree.grows_createDirectories s.files (root.join dialect.directory)
  obtain ⟨outer, -, hjoin⟩ := steps_join (root.join dialect.directory)
  have hisSimple (hnoSlash : '/' ∉ (Text.trimmed name).toList) : IsSimple file :=
    Catalog.isSimple_of_valid (Migration.isValidId_fileName _ _ _) (noSlash_fileName hnoSlash)
  refine (create_files dialect root name m.stamp s).mono ?_
  rintro result t ⟨hok, hfailed, hrefused⟩
  have hadded : ∀ path, result = .ok path → AddsFile way path (template dialect file) s.files t.files := by
    intro path hsame
    obtain ⟨hnoSlash, rfl, -, habsent, hwritten⟩ := hok path hsame
    have hsimple := hisSimple hnoSlash
    exact addsFile_of_write hgrown hsimple (hjoin file hsimple.noSlash) habsent hwritten
  refine ⟨?_, hadded, ?_⟩
  · cases result with
    | ok path => exact (hadded path rfl).kept
    | error e =>
      rcases hfailed e rfl with hsame | hsame
      · exact hsame ▸ FileTree.Keeps.refl s.files
      · exact hsame ▸ hgrown.kept
  · intro e hsame
    rcases hrefused e hsame with hunchanged | ⟨hnoSlash, hexists', hcomplete, hfiles, hthere⟩
    · exact .inl hunchanged
    · rw [hfiles]
      by_cases hnoDetour : s.files.NoDetour way
      · exact .inl (FileTree.eq_of_createDirectories hgrounded (hisSimple hnoSlash) hnoDetour
          (Prod.ext hcomplete rfl) hthere)
      · exact .inr ⟨hexists', hnoDetour, hgrown⟩

/-! ## All of it -/

/-- Whatever comes of it, nothing is written over. A new project has nothing new but what it
reports, and is left alone the second time. A new migration is one file and directories on the way.
Where a migration is refused nothing is new, unless it exists already and the way to the migrations
leads back out of a directory that is missing: then directories on the way may be new. -/
theorem nothing_overwritten {s : Session δ} (hgrounded : s.files.Grounded) (root : Path) :
    (Ends (init root) s fun result t => s.files.Keeps t.files ∧ ∀ report, result = .ok report →
      AddsCreated s.files t.files report ∧ Ends (init root) t fun again u =>
        again = .ok { skipped := [root.join configFileName] } ∧ u.files = t.files) ∧
    ∀ (dialect : Dialect) (name : String) (m : Moment),
      let way := activeSteps (root.join dialect.directory)
      let file := Migration.fileName (Text.trimmed name) m.stamp .toml
      Ends (create dialect root name m.stamp) s fun result t => s.files.Keeps t.files ∧
        (∀ path, result = .ok path → AddsFile way path (template dialect file) s.files t.files) ∧
        ∀ e, result = .error (.configuration e) → t.files = s.files ∨
          e = .migrationExists file ∧ ¬s.files.NoDetour way ∧ FileTree.Grows way s.files t.files := by
  refine ⟨?_, fun dialect name m => create_adds hgrounded dialect root name m⟩
  refine (init_spec hgrounded root).mono fun result t hends => ⟨hends.1, fun report hsame => ?_⟩
  obtain ⟨hadds, hthere⟩ := hends.2 report hsame
  exact ⟨hadds, init_again hthere⟩

/-- A project with an example of its own. -/
def started : Session Unit where
  files := ⟨[
    ([.text "app"], .directory),
    ([.text "app", .text "migrations"], .directory),
    ([.text "app", .text "migrations", .text "002_mysql_example.toml.example"], .file (.text "mine"))]⟩
  database := ()

theorem nothing_overwritten_started : started.files.Grounded ∧ ∃ t,
    (init "app").run started = (.ok {
      created := ["app/lipgrate.toml", "app/migrations/001_postgres_example.toml.example",
        "app/migrations/003_sqlite_example.toml.example"]
      skipped := ["app/migrations/002_mysql_example.toml.example"] }, t) ∧
    started.files.Keeps t.files ∧ Ends (init "app") t fun again u =>
      again = .ok { skipped := ["app/lipgrate.toml"] } ∧ u.files = t.files := by
  have hgrounded : started.files.Grounded := by decide
  obtain ⟨t, hmade⟩ : ∃ t, (init "app").run started = (.ok {
      created := ["app/lipgrate.toml", "app/migrations/001_postgres_example.toml.example",
        "app/migrations/003_sqlite_example.toml.example"]
      skipped := ["app/migrations/002_mysql_example.toml.example"] }, t) :=
    ends_of_result (by decide +kernel)
  have hspec := (nothing_overwritten hgrounded "app").1
  rw [ends_iff hmade] at hspec
  have hconfig : Path.join "app" configFileName = "app/lipgrate.toml" := by decide +kernel
  rw [← hconfig]
  exact ⟨hgrounded, t, hmade, hspec.1, (hspec.2 _ rfl).2⟩

/-- A migration in `y`, and no `x` beside it. -/
def beside : Session Unit where
  files := ⟨[
    ([.text "y"], .directory),
    ([.text "y", .text "sqlite"], .directory),
    ([.text "y", .text "sqlite", .text "lipgrade_20240229235959_a.toml"], .file (.text "kept"))]⟩
  database := ()

/-- The refused migration leaves the directory behind that leads back to its place. -/
theorem create_leaves_directory : beside.files.Grounded ∧
    ((create .sqlite "x/../y" "a" leapDay.stamp).run beside).1 =
      .error (.configuration (.migrationExists "lipgrade_20240229235959_a.toml")) ∧
    beside.files.node? [.text "x"] = none ∧
    ((create .sqlite "x/../y" "a" leapDay.stamp).run beside).2.files.node? [.text "x"] =
      some .directory :=
  ⟨by decide, by decide +kernel, by decide, by decide +kernel⟩

end SchemaMigration.Scaffold
