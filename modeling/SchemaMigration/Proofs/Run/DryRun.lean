import SchemaMigration.Proofs.Database.Engine
import SchemaMigration.Proofs.Run.Migrate
import SchemaMigration.Proofs.Run.Reset
import SchemaMigration.Proofs.Run.Survey

/-!
# Dry runs

A dry run plans as if nothing, or for a rollback as if everything, were applied. It shows the
statements of its plan and leaves all else alone.
-/

namespace SchemaMigration

open Runner

variable {δ γ α : Type}

/-! ## The plan of a dry run -/

namespace Catalog

/-- The migrations that a dry run on the given files is about, and their plans. -/
def prospect (c : Catalog) (dialect : Dialect) (tree : Files.FileTree) (direction : Direction) :
    Except MigrationError (List String × List PlannedMigration) := do
  if c.dialect ≠ dialect then throw (.configuration (.dialectMismatch c.dialect dialect))
  let all ← c.discover tree
  let ids := targets direction (all, assumedLedger direction all)
  let batch ← ids.mapM (c.planned dialect tree direction)
  return (ids, batch)

/-- The statements of the plan; none if there is no plan. -/
def previews (c : Catalog) (dialect : Dialect) (tree : Files.FileTree) (direction : Direction) :
    List Statement :=
  match c.prospect dialect tree direction with
  | .ok (_, batch) => batch.flatMap (·.statements)
  | .error _ => []

end Catalog

def showing (statements : List Statement) : List AdapterCall :=
  statements.map (.send { dryRun := true })

theorem begin_not_mem_showing (statements : List Statement) : .begin ∉ showing statements := by
  simp [showing, AdapterCall.begin, AdapterCall.control, AdapterCall.send]

namespace Runner

/-- However the call ends, the files are as before, and of the database `look` sees the
same. -/
def Keeps (look : δ → γ) (call : Action δ α) : Prop :=
  ∀ s, Ends call s fun _ t => t.files = s.files ∧ look t.database = look s.database

section Traced

variable {a : Adapter δ} {r : Runner (Traced δ)} {run : Run (Traced δ)} {direction : Direction}

theorem carryScript_dry (hdry : r.dryRun = true) (direction : Direction)
    (batch : List PlannedMigration) :
    r.carryScript direction batch = showing (batch.flatMap (·.statements)) := by
  have htx : r.transactional = false := by simp [transactional, hdry]
  have hsent : r.sent direction = (·.statements) := by
    funext p
    simp [sent, hdry]
  unfold carryScript
  split
  · next hnone => simp [hnone, showing]
  · simp [openingScript, closingScript, batchScript, batchOptions, showing, hsent, htx, hdry]

/-- A survey that finds what a dry run assumes, or else fails as `failed` says. -/
def Foresees (r : Runner (Traced δ)) (direction : Direction) (run : Run (Traced δ))
    (failed : MigrationError → Run (Traced δ) → Prop) : Prop :=
  Ends (r.survey direction) run fun result next => match result with
    | .error e => failed e next
    | .ok found => next.calls = run.calls ++ allMade r.surveyScript ∧
      r.catalog.prospect r.adapter.dialect run.session.files direction = do
        let batch ← (targets direction found).mapM
          (r.catalog.planned r.adapter.dialect next.session.files direction)
        return (targets direction found, batch)

theorem Foresees.mono {failed failed' : MigrationError → Run (Traced δ) → Prop}
    (h : r.Foresees direction run failed) (himp : ∀ e next, failed e next → failed' e next) :
    r.Foresees direction run failed' := by
  refine Ends.mono h ?_
  rintro (e | found) next hnext
  · exact himp e next hnext
  · exact hnext

theorem Foresees.body {failed : MigrationError → Run (Traced δ) → Prop}
    (h : r.Foresees direction run failed)
    {carry : List String × List String → RunAction (Traced δ) α} {outcome : List String → α}
    (hcarry : ∀ found,
      r.CarriesOut direction (targets direction found) (outcome (targets direction found)) (carry found)) :
    Ends (r.survey direction >>= carry) run fun result next =>
      (∃ e, result = .error e ∧ failed e next) ∨
      match r.catalog.prospect r.adapter.dialect run.session.files direction with
      | .error e => result = .error e ∧ next.calls = run.calls ++ allMade r.surveyScript
      | .ok (ids, batch) => ∃ log, next.calls = run.calls ++ allMade r.surveyScript ++ log ∧
        Performs rescue (r.carryScript direction batch) result log ∧
        ∀ y, result = .ok y → y = outcome ids := by
  refine Ends.bind h ?_ fun e next hfailed => .inl ⟨e, rfl, hfailed⟩
  rintro found mid ⟨hcalls, hprospect⟩
  refine (hcarry found mid).mono fun result next hnext => .inr ?_
  rw [hcalls] at hnext
  rw [hprospect]
  cases hplan : (targets direction found).mapM
      (r.catalog.planned r.adapter.dialect mid.session.files direction) with
  | error e =>
    rw [hplan] at hnext
    exact hnext
  | ok batch =>
    rw [hplan] at hnext
    exact hnext

theorem prospect_mismatch {c : Catalog} {dialect : Dialect} (hdialect : c.dialect ≠ dialect)
    (tree : Files.FileTree) (direction : Direction) : c.prospect dialect tree direction =
      .error (.configuration (.dialectMismatch c.dialect dialect)) := by
  unfold Catalog.prospect
  rw [if_pos hdialect]
  rfl

theorem prospect_eq {c : Catalog} {dialect : Dialect} (hdialect : c.dialect = dialect)
    (tree : Files.FileTree) (direction : Direction) : c.prospect dialect tree direction = do
      let all ← c.discover tree
      let ids := targets direction (all, assumedLedger direction all)
      let batch ← ids.mapM (c.planned dialect tree direction)
      return (ids, batch) := by
  unfold Catalog.prospect
  rw [if_neg (not_not.mpr hdialect)]

theorem foresees_dry (hdry : r.dryRun = true) : r.Foresees direction run fun e next =>
    next.calls = run.calls ∧
      r.catalog.prospect r.adapter.dialect run.session.files direction = .error e := by
  have hmakes : r.makesDirectory direction = false := by
    cases direction <;> simp [makesDirectory, hdry]
  have hscript : r.surveyScript = [] := by simp [surveyScript, hdry]
  refine survey_rule ?_ ?_ ?_
  · exact fun hdialect => ⟨rfl, prospect_mismatch hdialect _ _⟩
  · intro e next hdialect he hd
    rw [hmakes] at he
    have hundiscovered : r.catalog.discover run.session.files = .error e := he
    exact ⟨congrArg Traced.calls hd, by rw [prospect_eq hdialect, hundiscovered]; rfl⟩
  · intro all next hdialect hall hf hd
    rw [hmakes] at hall hf
    have hdiscovered : r.catalog.discover run.session.files = .ok all := hall
    rw [hdry, hscript]
    have hfiles : next.session.files = run.session.files := hf
    refine ⟨?_, by rw [prospect_eq hdialect, hdiscovered, ← hfiles]; rfl⟩
    exact (congrArg Traced.calls hd).trans (List.append_nil _).symm

theorem dryBody_spec (hdry : r.dryRun = true)
    {carry : List String × List String → RunAction (Traced δ) α} {outcome : List String → α}
    (hcarry : ∀ found,
      r.CarriesOut direction (targets direction found) (outcome (targets direction found)) (carry found)) :
    Ends (r.survey direction >>= carry) run fun result next =>
      match r.catalog.prospect r.adapter.dialect run.session.files direction with
      | .error e => result = .error e ∧ next.calls = run.calls
      | .ok (ids, batch) => ∃ log, next.calls = run.calls ++ log ∧
        Performs (fun _ => []) (showing (batch.flatMap (·.statements))) result log ∧
        ∀ y, result = .ok y → y = outcome ids := by
  have hscript : run.calls ++ allMade r.surveyScript = run.calls := by
    simp [surveyScript, hdry, allMade]
  refine ((foresees_dry hdry).body hcarry).mono ?_
  rintro result next (⟨e, rfl, hcalls, hprospect⟩ | hplanned)
  · rw [hprospect]
    exact ⟨rfl, hcalls⟩
  · rw [hscript] at hplanned
    split
    · next e hprospect =>
      rw [hprospect] at hplanned
      exact hplanned
    · next ids batch hprospect =>
      rw [hprospect] at hplanned
      obtain ⟨log, hlog, hperforms, houtcome⟩ := hplanned
      rw [carryScript_dry hdry] at hperforms
      refine ⟨log, hlog, hperforms.congr fun before hbefore => ?_, houtcome⟩
      exact if_neg fun hmem => begin_not_mem_showing _ (hbefore.subset hmem)

/-- The calls of a dry run before its cleanup are those that show its statements, up to the
first that the adapter refuses. -/
theorem dryBody_shows (hdry : r.dryRun = true)
    {carry : List String × List String → RunAction (Traced δ) α} {outcome : List String → α}
    (hcarry : ∀ found,
      r.CarriesOut direction (targets direction found) (outcome (targets direction found)) (carry found)) :
    Ends (r.survey direction >>= carry) run fun _ next => ∃ shown,
      next.calls = run.calls ++ shown ∧ shown.map (·.1) <+:
        showing (r.catalog.previews r.adapter.dialect run.session.files direction) := by
  refine (dryBody_spec hdry hcarry).mono fun result next hnext => ?_
  unfold Catalog.previews
  cases hprospect : r.catalog.prospect r.adapter.dialect run.session.files direction with
  | error e =>
    rw [hprospect] at hnext
    exact ⟨[], by rw [hnext.2, List.append_nil], List.nil_prefix⟩
  | ok found =>
    rw [hprospect] at hnext
    obtain ⟨log, hlog, hperforms, -⟩ := hnext
    exact ⟨log, hlog, hperforms.calls_prefix⟩

theorem migrateBody_shows (hr : r.adapter = a.traced) (hdry : r.dryRun = true) :
    Ends r.migrateBody run fun _ next => ∃ shown, next.calls = run.calls ++ shown ∧
      shown.map (·.1) <+: showing (r.catalog.previews r.adapter.dialect run.session.files .up) := by
  rw [migrateBody_eq]
  exact dryBody_shows hdry fun found => applyPending_carriesOut hr _

theorem rollbackBody_shows (hr : r.adapter = a.traced) (hdry : r.dryRun = true) :
    Ends r.rollbackBody run fun _ next => ∃ shown, next.calls = run.calls ++ shown ∧
      shown.map (·.1) <+: showing (r.catalog.previews r.adapter.dialect run.session.files .down) := by
  rw [rollbackBody_eq]
  exact dryBody_shows hdry fun found => revertLast_carriesOut hr found

theorem resetBody_shows (hr : r.adapter = a.traced) (hdry : r.dryRun = true)
    (hdialect : r.catalog.dialect = r.adapter.dialect) :
    Ends r.resetBody run fun _ next => ∃ tree failure shown,
      (Keeps (fun _ => ()) (a.dropAll r.options) → tree = run.session.files) ∧
      next.calls = run.calls ++ [(.dropAll r.options, failure)] ++ shown ∧
      shown.map (·.1) <+: showing (r.catalog.previews r.adapter.dialect tree .up) := by
  refine resetBody_rule hdialect fun before hbefore => ?_
  have hkept : Ends (a.dropAll r.options) before.session.untraced fun _ t =>
      Keeps (fun _ => ()) (a.dropAll r.options) → t.files = before.session.files :=
    fun hkeeps => (hkeeps _).1
  have hdrop := traced_dropAll hkept
  rw [← hr] at hdrop
  refine hdrop.mono ?_
  rintro (e | _) dropped ⟨hfiles, hadds⟩
  · refine ⟨run.session.files, some e, [], fun _ => rfl, ?_, List.nil_prefix⟩
    rw [hadds, calls_of_sameWorld hbefore, List.append_nil]
    rfl
  intro next hnext
  have htree : Keeps (fun _ => ()) (a.dropAll r.options) → next.session.files = run.session.files := by
    rw [hnext.files, ← hbefore.files]
    exact hfiles
  have hcalls : next.calls = run.calls ++ [(.dropAll r.options, none)] := by
    rw [calls_of_sameWorld hnext, hadds, calls_of_sameWorld hbefore]
    rfl
  refine (migrateBody_shows hr hdry).mono ?_
  rintro (e | outcome) last ⟨shown, hlast, hshown⟩
  · exact ⟨next.session.files, none, shown, htree, by rw [hlast, hcalls], hshown⟩
  · intro final hfinal
    refine ⟨next.session.files, none, shown, htree, ?_, hshown⟩
    rw [calls_of_sameWorld hfinal, hlast, hcalls]

end Traced

/-! ## What a dry run leaves alone -/

/-- The files are the same, and what `look` sees of the database. -/
def Alike (look : δ → γ) (run next : Run δ) : Prop :=
  next.session.files = run.session.files ∧ look next.session.database = look run.session.database

instance (look : δ → γ) : Frame (Alike look) where
  same h := ⟨h.files, congrArg look h.database⟩
  trans h h' := ⟨h'.1.trans h.1, h'.2.trans h.2⟩

theorem Keeps.preserves {look : δ → γ} {call : Action δ α} (h : Keeps look call) :
    Preserves (Alike look) (RunAction.ofAction call) := fun run => ends_ofAction.mpr (h run.session)

end Runner

/-- Statements that are only shown change neither the files nor what `look` sees of the
database. -/
structure Adapter.OnlyPreviews (a : Adapter δ) (look : δ → γ) : Prop where
  query : ∀ sql params options, options.dryRun = true → Keeps look (a.query sql params options)
  dropAll : ∀ options, options.dryRun = true → Keeps look (a.dropAll options)

namespace Runner

variable {r : Runner δ} {look : δ → γ}

theorem previews_preserve (h : r.adapter.OnlyPreviews look) (hdry : r.dryRun = true) :
    Preserves (Alike look) r.migrateBody ∧ Preserves (Alike look) r.rollbackBody ∧
      Preserves (Alike look) r.resetBody := by
  have hpermits : r.Permits (Alike look) := {
    files := fun hwet => by simp [hdry] at hwet
    getClient := fun hwet => by simp [hdry] at hwet
    query := fun sql params options hsuits =>
      (h.query sql params options (hsuits.dryRun.trans hdry)).preserves }
  refine ⟨migrateBody_preserves hpermits, rollbackBody_preserves hpermits, ?_⟩
  exact resetBody_preserves hpermits (h.dropAll _ hdry).preserves

/-- What holds of the session after each of the commands that can be tried out. -/
def AfterEach (r : Runner δ) (s : Session δ) (post : Session δ → Prop) : Prop :=
  post (r.migrate.start s).2.2 ∧ post (r.rollback.start s).2.2 ∧ post (r.reset.start s).2.2

theorem afterEach_of_previews (h : r.adapter.OnlyPreviews look) (hdry : r.dryRun = true)
    (hrelease : Keeps look r.adapter.releaseClient) (hdisconnect : Keeps look r.adapter.disconnect)
    (s : Session δ) :
    r.AfterEach s fun t => t.files = s.files ∧ look t.database = look s.database := by
  obtain ⟨hmigrate, hrollback, hreset⟩ := previews_preserve h hdry
  have hcommand : ∀ {α : Type} {body : RunAction δ α}, Preserves (Alike look) body →
      Preserves (Alike look) (r.command body) := fun hbody =>
    command_preserves hbody hrelease.preserves hdisconnect.preserves
  exact ⟨hcommand hmigrate _, hcommand hrollback _, hcommand hreset _⟩

theorem afterEach_of_closes (h : r.adapter.OnlyPreviews id) (hdry : r.dryRun = true)
    (release close : δ → δ)
    (hrelease : ∀ s, Ends r.adapter.releaseClient s fun _ t =>
      t.files = s.files ∧ t.database = release s.database)
    (hclose : ∀ s, Ends r.adapter.disconnect s fun _ t =>
      t.files = s.files ∧ t.database = close s.database)
    (s : Session δ) :
    r.AfterEach s fun t => t.files = s.files ∧ t.database = close (release s.database) := by
  obtain ⟨hmigrate, hrollback, hreset⟩ := previews_preserve h hdry
  have hcommand : ∀ {α : Type} {body : RunAction δ α}, Preserves (Alike id) body →
      Ends (r.command body) { session := s } fun _ next =>
        next.session.files = s.files ∧ next.session.database = close (release s.database) := by
    intro α body hbody
    refine (command_closes hrelease hclose (hbody { session := s })).mono ?_
    rintro result next ⟨mid, ⟨hf, hd⟩, hf', hd'⟩
    exact ⟨hf'.trans hf, by rw [hd', show mid.session.database = s.database from hd]⟩
  exact ⟨hcommand hmigrate, hcommand hrollback, hcommand hreset⟩

end Runner

section Adapters

variable {ε : Type} (engine : Engine ε)

theorem Pooled.onlyPreviews (dialect : Dialect) : (Pooled.adapter engine dialect).OnlyPreviews id where
  query sql params options hdry s := (Pooled.query_shown sql params hdry).mono fun _ _ h => h.2
  dropAll options hdry s := by
    have hshown := @Pooled.query_shown ε engine dialect s dropAllSql [] options hdry
    cases dialect with
    | postgresql => exact Ends.bind hshown (fun _ _ h => h.2) fun _ _ h => h.2
    | mysql | sqlite => exact ⟨rfl, rfl⟩

theorem Single.onlyPreviews (prepare : Action (Link ε) Unit) (url : String) :
    (Single.adapter engine prepare url).OnlyPreviews id where
  query sql params _ hdry _ := (Single.query_shown sql params hdry).mono fun _ _ h => h.2
  dropAll _ _ _ := ⟨rfl, rfl⟩

end Adapters

namespace Runner

/-- Before the cleanup come the calls of `opening`. After them the statements of the plan for
the files in `tree` are shown, up to the first that the adapter refuses. -/
def Shows (c : Catalog) (dialect : Dialect) (tree : Files.FileTree) (direction : Direction)
    (opening : Log) (t : Session (Traced δ)) : Prop :=
  ∃ shown released disconnected, t.database.calls =
      opening ++ shown ++ [(.releaseClient, released), (.disconnect, disconnected)] ∧
    shown.map (·.1) <+: showing (c.previews dialect tree direction)

theorem shows_of_body {a : Adapter δ} {r : Runner (Traced δ)} (hr : r.adapter = a.traced) {c : Catalog}
    {dialect : Dialect} {tree : Files.FileTree} {direction : Direction} {opening : Log}
    {body : RunAction (Traced δ) α} {s : Session δ}
    (h : Ends body { session := s.watched } fun _ next => ∃ shown,
      next.calls = opening ++ shown ∧ shown.map (·.1) <+: showing (c.previews dialect tree direction)) :
    Shows c dialect tree direction opening ((r.command body).start s.watched).2.2 := by
  obtain ⟨mid, released, disconnected, ⟨shown, hmid, hshown⟩, hcalls⟩ := command_calls hr h
  rw [hmid] at hcalls
  exact ⟨shown, released, disconnected, hcalls, hshown⟩

/-- Before its cleanup a dry run makes no calls but those that show statements of its plan,
and that of a reset for dropping all tables, all of them with the option of a dry run. It
makes no directory, and what an adapter only shows stays as it is: with one connection or
with a pool, nothing is sent, and no connection is acquired. -/
theorem dryRun_touches_nothing (a : Adapter δ) (c : Catalog) (s : Session δ) :
    let r : Runner (Traced δ) := ⟨a.traced, c, true⟩
    (Shows c a.dialect s.files .up [] (r.migrate.start s.watched).2.2 ∧
      Shows c a.dialect s.files .down [] (r.rollback.start s.watched).2.2 ∧
      ∃ tree opening, (opening = [] ∨ ∃ failure, opening = [(.dropAll { dryRun := true }, failure)]) ∧
        (Keeps (fun _ => ()) (a.dropAll { dryRun := true }) → tree = s.files) ∧
        Shows c a.dialect tree .up opening (r.reset.start s.watched).2.2) ∧
    (∀ (γ : Type) (look : δ → γ), a.OnlyPreviews look → Keeps look a.releaseClient →
      Keeps look a.disconnect →
      AfterEach ⟨a, c, true⟩ s fun t => t.files = s.files ∧ look t.database = look s.database) ∧
    ∀ (ε : Type) (engine : Engine ε) (u : Session (Link ε)),
      (∀ dialect, (Pooled.adapter engine dialect).OnlyPreviews id ∧
        AfterEach ⟨Pooled.adapter engine dialect, c, true⟩ u fun t =>
          t.files = u.files ∧ t.database = Pooled.disconnected engine u.database) ∧
      ∀ prepare url, (Single.adapter engine prepare url).OnlyPreviews id ∧
        AfterEach ⟨Single.adapter engine prepare url, c, true⟩ u fun t =>
          t.files = u.files ∧ t.database = Single.disconnected engine u.database := by
  intro r
  refine ⟨⟨?_, ?_, ?_⟩, fun γ look h hrelease hdisconnect => ?_, fun ε engine u => ⟨?_, ?_⟩⟩
  · have hbody : Ends r.migrateBody { session := s.watched } _ := migrateBody_shows (a := a) rfl rfl
    exact shows_of_body (a := a) rfl hbody
  · have hbody : Ends r.rollbackBody { session := s.watched } _ := rollbackBody_shows (a := a) rfl rfl
    exact shows_of_body (a := a) rfl hbody
  · by_cases hdialect : c.dialect = a.dialect
    · have hbody : Ends r.resetBody { session := s.watched } _ :=
        resetBody_shows (a := a) rfl rfl hdialect
      obtain ⟨tree, failure, shown, htree, hcalls, hshown⟩ := hbody
      have hshows : Ends r.resetBody { session := s.watched } fun _ next => ∃ shown,
          next.calls = [(.dropAll { dryRun := true }, failure)] ++ shown ∧
          shown.map (·.1) <+: showing (c.previews a.dialect tree .up) := ⟨shown, hcalls, hshown⟩
      exact ⟨tree, _, .inr ⟨failure, rfl⟩, htree, shows_of_body (a := a) rfl hshows⟩
    · have hbody : Ends r.resetBody { session := s.watched } _ := resetBody_mismatch hdialect
      refine ⟨s.files, [], .inl rfl, fun _ => rfl, shows_of_body (a := a) rfl (hbody.mono ?_)⟩
      rintro result next rfl
      exact ⟨[], rfl, List.nil_prefix⟩
  · exact afterEach_of_previews h rfl hrelease hdisconnect s
  · intro dialect
    have hpreviews := Pooled.onlyPreviews engine dialect
    refine ⟨hpreviews, ?_⟩
    refine afterEach_of_closes (r := ⟨Pooled.adapter engine dialect, c, true⟩) hpreviews rfl
      ({ · with client := none }) (Pooled.disconnected engine) ?_ Pooled.disconnect_spec u
    exact fun u => (Pooled.releaseClient_spec u).mono fun _ _ h => h.2
  · intro prepare url
    have hpreviews := Single.onlyPreviews engine prepare url
    refine ⟨hpreviews, ?_⟩
    exact afterEach_of_closes (r := ⟨Single.adapter engine prepare url, c, true⟩) hpreviews rfl id
      (Single.disconnected engine) (fun u => ⟨rfl, rfl⟩) Single.disconnect_spec u

theorem rehearsal_previews (script : Rehearsal.Script) :
    (Rehearsal.adapter script).OnlyPreviews (·.standing.durable) where
  query sql params options hdry s := by
    refine (Rehearsal.query_shown sql params hdry).mono ?_
    rintro result t ⟨hf, hstanding, -⟩
    exact ⟨hf, congrArg Standing.durable hstanding⟩
  dropAll options hdry s := by
    have hshown : Ends (Rehearsal.query script dropAllSql [] options) s fun _ t =>
        t.files = s.files ∧ t.database.standing.durable = s.database.standing.durable :=
      (Rehearsal.query_shown dropAllSql [] hdry).mono fun _ _ h =>
        ⟨h.1, congrArg Standing.durable h.2.1⟩
    unfold Rehearsal.adapter
    dsimp only
    split
    · exact hshown.bind (fun _ _ h => h) fun _ _ h => h
    · exact ⟨rfl, rfl⟩
    · exact ⟨rfl, rfl⟩

theorem dryRun_touches_nothing_gaps :
    AfterEach ⟨Rehearsal.adapter acceptsAll, threeTables, true⟩ gaps fun t =>
      t.files = gaps.files ∧ t.database.standing.durable = { ledger := ["lipgrade_2", "lipgrade_0"] } := by
  obtain ⟨-, hkept, -⟩ := dryRun_touches_nothing (Rehearsal.adapter acceptsAll) threeTables gaps
  refine hkept _ (·.standing.durable) (rehearsal_previews acceptsAll) (fun s => ?_) fun s => ?_
  · have hnoted : Ends (Rehearsal.note acceptsAll .releaseClient) s _ := Rehearsal.note_spec _
    refine hnoted.mono ?_
    rintro result t rfl
    exact ⟨rfl, rfl⟩
  · refine Rehearsal.close_spec.mono ?_
    rintro result t ⟨hf, ht⟩
    show t.files = s.files ∧ t.database.standing.durable = s.database.standing.durable
    rw [ht]
    exact ⟨hf, rfl⟩

end Runner

end SchemaMigration
