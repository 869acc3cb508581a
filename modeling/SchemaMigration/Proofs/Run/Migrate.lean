import SchemaMigration.Proofs.Database.Rehearsal
import SchemaMigration.Proofs.Run.Pending
import SchemaMigration.Proofs.Text.Order

/-!
# Migrating

A migrate in which no call fails applies exactly what is pending, in order and once. What
it applied is in the ledger, so that the next migrate has nothing to do.
-/

namespace SchemaMigration

variable {δ γ σ : Type} {m : Semantics γ} {view : δ → Standing γ} {sight : Files.FileTree → σ}
variable {a : Adapter δ} {c : Catalog} {g : γ} {s : Session δ} {plans : List PlannedMigration}

theorem ends_start {α : Type} {body : RunAction δ α} {result : Except MigrationError α}
    {state : RunState} {t : Session δ} {post : Except MigrationError α → Run δ → Prop}
    (h : Ends body { session := s } post) (hrun : body.start s = (result, state, t)) :
    post result { session := t, state } := by
  rw [start_eq, Prod.mk.injEq, Prod.mk.injEq] at hrun
  obtain ⟨rfl, rfl, rfl⟩ := hrun
  exact h

namespace Runner

/-! ## The whole command -/

section Traced

variable {r : Runner (Traced δ)} {run : Run (Traced δ)}

theorem command_traced (hlaw : Lawful a m view sight) (hr : r.adapter = a.traced) {α : Type}
    {body : RunAction (Traced δ) α} {post : Except MigrationError α → Run (Traced δ) → Prop}
    (hbody : Ends body run post) :
    Ends (r.command body) run fun result next => ∃ mid released disconnected, post result mid ∧
      next.calls = mid.calls ++ [(.releaseClient, released), (.disconnect, disconnected)] ∧
      sight next.session.files = sight mid.session.files ∧
      ∀ g, view mid.session.database.inner = .idle g →
        view next.session.database.inner = .idle g := by
  have htraced : Lawful r.adapter m (fun d => view d.inner) sight := hr ▸ hlaw.traced
  have hself : Ends body run fun result mid => result = (body.run run).1 ∧ mid = (body.run run).2 :=
    ⟨rfl, rfl⟩
  refine ((command_calls hr hself).and (command_spec htraced hself)).mono ?_
  rintro result next ⟨⟨_, released, disconnected, ⟨rfl, rfl⟩, hcalls⟩,
    _, ⟨-, rfl⟩, ⟨hf, hidle⟩, hdurable, -⟩
  refine ⟨_, released, disconnected, hbody, hcalls, hf, fun g hg => ?_⟩
  rw [Standing.eq_of_saved_none (hidle (by rw [hg]; rfl)), hdurable, hg]
  rfl

end Traced

def cleanupScript : List AdapterCall := [.releaseClient, .disconnect]

theorem command_clean (hlaw : Lawful a m view sight) {r : Runner (Traced δ)} (hr : r.adapter = a.traced)
    {α : Type} {body : RunAction (Traced δ) α} {s t : Session (Traced δ)} {state : RunState}
    {result : Except MigrationError α} {post : Except MigrationError α → Run (Traced δ) → Prop}
    (hbody : Ends body { session := s } fun result last => Clean last.calls → post result last)
    (hrun : (r.command body).start s = (result, state, t)) (hclean : Clean t.database.calls) :
    ∃ last : Run (Traced δ), post result last ∧
      t.database.calls.map (·.1) = last.calls.map (·.1) ++ cleanupScript ∧
      sight t.files = sight last.session.files ∧
      ∀ g, view last.session.database.inner = .idle g → view t.database.inner = .idle g := by
  obtain ⟨last, released, disconnected, hlast, hcalls, hf, hkept⟩ :=
    ends_start (command_traced hlaw hr hbody) hrun
  have hcalls' : t.database.calls =
      last.calls ++ [(.releaseClient, released), (.disconnect, disconnected)] := hcalls
  rw [hcalls'] at hclean
  refine ⟨last, hlast (clean_append.mp hclean).1, ?_, hf, hkept⟩
  rw [hcalls', List.map_append]
  rfl

/-- The calls of a migrate are those of its script, up to the first that fails, and two more. -/
theorem migrate_performs (hlaw : Lawful a m view sight) (hready : c.Ready a.dialect s.files plans)
    (hshown : c.ShownBy sight (c.prepared s.files)) (hv : view s.database = .idle g) :
    Ends (watching a c).migrate { session := s.watched } fun result next =>
      ∃ log released disconnected,
        next.calls = log ++ [(.releaseClient, released), (.disconnect, disconnected)] ∧
        Performs rescue ((watching a c).migrateScript (pendingPlans plans (m.ledger g))) result log ∧
        ∀ outcome, result = .ok outcome →
          outcome = migrateOutcome (pendingPlans plans (m.ledger g)) ∧
          ((∀ p ∈ pendingPlans plans (m.ledger g), ∀ st ∈ p.statements, ¬ m.control st.sql) →
            sight next.session.files = sight (c.prepared s.files) ∧
            view next.session.database.inner =
              .idle (m.run ((pendingPlans plans (m.ledger g)).flatMap (·.writes a.dialect .up)) g)) := by
  have hperforms : Ends (watching a c).migrateBody { session := s.watched } _ :=
    migrateBody_performs hlaw rfl rfl hready hshown hv
  have hleaves : Ends (watching a c).migrateBody { session := s.watched } fun result next =>
      (∀ p ∈ pendingPlans plans (m.ledger g), ∀ st ∈ p.statements, ¬ m.control st.sql) →
        sight next.session.files = sight (c.prepared s.files) ∧
        ∀ outcome, result = .ok outcome → view next.session.database.inner =
          .idle (m.run ((pendingPlans plans (m.ledger g)).flatMap (·.writes a.dialect .up)) g) :=
    fun hplain => migrateBody_leaves hlaw rfl rfl hready hshown hv hplain
  refine (command_traced hlaw rfl (hperforms.and hleaves)).mono ?_
  rintro result next ⟨mid, released, disconnected, ⟨⟨⟨log, hlog, hscript⟩, houtcome⟩, hview⟩,
    hcalls, hf, hidle⟩
  have hmid : mid.calls = log := hlog
  refine ⟨log, released, disconnected, hmid ▸ hcalls, hscript, fun outcome hok => ?_⟩
  refine ⟨houtcome outcome hok, fun hplain => ?_⟩
  obtain ⟨hfiles, hcontents⟩ := hview hplain
  exact ⟨hf.trans hfiles, hidle _ (hcontents outcome hok)⟩

theorem migrate_clean (hlaw : Lawful a m view sight) (hready : c.Ready a.dialect s.files plans)
    (hshown : c.ShownBy sight (c.prepared s.files)) (hv : view s.database = .idle g) :
    Ends (watching a c).migrate { session := s.watched } fun result next => Clean next.calls →
      result = .ok (migrateOutcome (pendingPlans plans (m.ledger g))) ∧
        next.calls.map (·.1) =
          (watching a c).migrateScript (pendingPlans plans (m.ledger g)) ++ cleanupScript ∧
        ((∀ p ∈ pendingPlans plans (m.ledger g), ∀ st ∈ p.statements, ¬ m.control st.sql) →
          sight next.session.files = sight (c.prepared s.files) ∧
          view next.session.database.inner =
            .idle (m.run ((pendingPlans plans (m.ledger g)).flatMap (·.writes a.dialect .up)) g)) := by
  refine (migrate_performs hlaw hready hshown hv).mono ?_
  rintro result next ⟨log, released, disconnected, hcalls, hperforms, hexact⟩ hclean
  rw [hcalls] at hclean ⊢
  obtain ⟨rfl, outcome, rfl⟩ := hperforms.of_clean (clean_append.mp hclean).1
  obtain ⟨rfl, hleaves⟩ := hexact outcome rfl
  refine ⟨rfl, ?_, hleaves⟩
  rw [List.map_append, map_fst_allMade]
  rfl

/-- Without transactions a migrate that fails on the way has executed a prefix of the writes
of its batch, and these are durable. -/
theorem migrate_executes (hlaw : Lawful a m view sight) (htx : a.transactional = false)
    (hready : c.Ready a.dialect s.files plans) (hshown : c.ShownBy sight (c.prepared s.files))
    (hv : view s.database = .idle g)
    (hplain : ∀ p ∈ pendingPlans plans (m.ledger g), ∀ st ∈ p.statements, ¬ m.control st.sql) :
    Ends (watching a c).migrate { session := s.watched } fun _ next =>
      sight next.session.files = sight (c.prepared s.files) ∧ ∃ opening carried,
        executed next.calls = opening ++ carried ∧
        opening <+: [⟨Ledger.createSql a.dialect, []⟩, ⟨Ledger.selectSql, []⟩] ∧
        carried <+: (pendingPlans plans (m.ledger g)).flatMap (·.writes a.dialect .up) ∧
        view next.session.database.inner = .idle (m.run carried g) := by
  have hdirect : (watching a c).transactional = false := by
    simp [transactional, watching, Adapter.traced, htx]
  have hexecutes : Ends (watching a c).migrateBody { session := s.watched } _ :=
    migrateBody_executes hlaw rfl hdirect rfl hready hshown hv hplain
  have hleaves : Ends (watching a c).migrateBody { session := s.watched } _ :=
    migrateBody_leaves hlaw rfl rfl hready hshown hv hplain
  refine (command_traced hlaw rfl (hexecutes.and hleaves)).mono ?_
  rintro result next ⟨mid, released, disconnected, ⟨⟨log, opening, carried, hlog, hexecuted,
    hopening, hcarried, hview⟩, hfiles, -⟩, hcalls, hf, hidle⟩
  have hmid : mid.calls = log := hlog
  have hcleanup : executed [(.releaseClient, released), (.disconnect, disconnected)] = [] := by
    cases released <;> cases disconnected <;> rfl
  refine ⟨hf.trans hfiles, opening, carried, ?_, hopening, hcarried, hidle _ hview⟩
  rw [hcalls, hmid, executed_append, hcleanup, List.append_nil, hexecuted]

end Runner

/-! ## The ledger after a batch -/

theorem ledger_of_writes {dialect : Dialect} (hkeeping : Keeping m dialect)
    {batch : List PlannedMigration}
    (hspares : ∀ p ∈ batch, ∀ st ∈ p.statements, m.SparesLedger st)
    (hnodup : (batch.map (·.id)).Nodup) {g : γ} (hnew : ∀ p ∈ batch, p.id ∉ m.ledger g) :
    (m.ledger (m.run (batch.flatMap (·.writes dialect .up)) g)).Perm
      (batch.map (·.id) ++ m.ledger g) := by
  induction batch generalizing g with
  | nil => exact .refl _
  | cons p rest ih =>
    rw [List.map_cons, List.nodup_cons] at hnodup
    have hsame := Semantics.ledger_run (hspares p List.mem_cons_self) g
    have hp : (m.ledger (m.run (p.writes dialect .up) g)).Perm (p.id :: m.ledger g) := by
      have hnew' : p.id ∉ m.ledger (m.run p.statements g) := hsame ▸ hnew p List.mem_cons_self
      have hinsert := hkeeping.insertion p.id _ hnew'
      rw [hsame] at hinsert
      rw [PlannedMigration.writes, Semantics.run_append]
      exact hinsert
    have hrest := ih (fun q hq => hspares q (List.mem_cons_of_mem _ hq)) hnodup.2
      (g := m.run (p.writes dialect .up) g) fun q hq hmem => by
        rcases List.mem_cons.mp (hp.mem_iff.mp hmem) with heq | hold
        · exact hnodup.1 (heq ▸ List.mem_map_of_mem hq)
        · exact hnew q (List.mem_cons_of_mem _ hq) hold
    rw [List.flatMap_cons, Semantics.run_append, List.map_cons]
    exact hrest.trans ((hp.append_left _).trans List.perm_middle)

/-! ## What a migrate does -/

theorem Catalog.Ready.ledger_done {tree : Files.FileTree} {dialect : Dialect}
    (hready : c.Ready dialect tree plans) (hkeeping : Keeping m dialect)
    {done rest : List PlannedMigration} (hcut : pendingPlans plans (m.ledger g) = done ++ rest)
    (hspares : ∀ p ∈ done, ∀ st ∈ p.statements, m.SparesLedger st) :
    (m.ledger (m.run (done.flatMap (·.writes dialect .up)) g)).Perm
      (done.map (·.id) ++ m.ledger g) := by
  have hbatch : (done ++ rest).Sublist plans := hcut ▸ pendingPlans_sublist plans _
  have hdone : done.Sublist plans := (List.sublist_append_left done rest).trans hbatch
  refine ledger_of_writes hkeeping hspares ((hdone.map _).nodup hready.nodup) fun p hp => ?_
  exact (mem_pendingPlans.mp (hcut ▸ List.mem_append_left rest hp)).2

namespace Runner

variable {result : Except MigrationError MigrateOutcome} {t : Session (Traced δ)}
variable {all : List String}

/-- A migrate in which no call fails. -/
structure Undisturbed (m : Semantics γ) (view : δ → Standing γ) (sight : Files.FileTree → σ)
    (a : Adapter δ) (c : Catalog) (s : Session δ) (result : Except MigrationError MigrateOutcome)
    (t : Session (Traced δ)) : Prop where
  law : Lawful a m view sight
  speaks : c.dialect = a.dialect
  ran : ∃ state, (watching a c).migrate.start s.watched = (result, state, t)
  clean : Clean t.database.calls

namespace Undisturbed

variable {batch : List PlannedMigration}

theorem spec (h : Undisturbed m view sight a c s result t)
    (hready : c.Ready c.dialect s.files plans) (hshown : c.ShownBy sight (c.prepared s.files))
    (hidle : (view s.database).saved = none)
    (hbatch : pendingPlans plans (m.ledger (view s.database).contents) = batch) :
    result = .ok (migrateOutcome batch) ∧
      t.database.calls.map (·.1) = (watching a c).migrateScript batch ++ cleanupScript ∧
      ((∀ p ∈ batch, ∀ st ∈ p.statements, ¬ m.control st.sql) →
        sight t.untraced.files = sight (c.prepared s.files) ∧ view t.database.inner =
          .idle (m.run (batch.flatMap (·.writes c.dialect .up)) (view s.database).contents)) := by
  obtain ⟨hlaw, hspeaks, ⟨state, hrun⟩, hclean⟩ := h
  subst hbatch
  have hv := Standing.eq_idle hidle
  rw [hspeaks] at hready ⊢
  exact ends_start (migrate_clean hlaw hready hshown hv) hrun hclean

theorem ledger_spec (h : Undisturbed m view sight a c s result t) (hkeeping : Keeping m c.dialect)
    (hready : c.Ready c.dialect s.files plans) (hshown : c.ShownBy sight (c.prepared s.files))
    (hidle : (view s.database).saved = none)
    (hbatch : pendingPlans plans (m.ledger (view s.database).contents) = batch)
    (hharmless : ∀ p ∈ batch, ∀ st ∈ p.statements, m.Harmless st) :
    (m.ledger (view t.database.inner).contents).Perm
      (batch.map (·.id) ++ m.ledger (view s.database).contents) := by
  obtain ⟨-, -, hleaves⟩ := h.spec hready hshown hidle hbatch
  rw [(hleaves fun p hp st hst => (hharmless p hp st hst).1).2]
  exact hready.ledger_done hkeeping (hbatch.trans (List.append_nil batch).symm)
    fun p hp st hst => (hharmless p hp st hst).2

end Undisturbed

theorem migrateOutcome_eq (hids : plans.map (·.id) = all) (ledger : List String) :
    migrateOutcome (pendingPlans plans ledger) =
      if ∀ id ∈ all, id ∈ ledger then .upToDate else .applied (all.filter (· ∉ ledger)) := by
  subst hids
  have hnone : pendingPlans plans ledger = [] ↔ ∀ id ∈ plans.map (·.id), id ∈ ledger := by
    simp [pendingPlans]
  unfold migrateOutcome
  rw [filter_map_id, if_congr hnone rfl rfl]

/-- If no call fails, a migrate applies what is pending, in order, each migration followed
by its entry in the ledger. The next one has nothing to do, unless the directory that was
made for the migrations shows more of them. -/
theorem migrate_applies_pending (h : Undisturbed m view sight a c s result t)
    (hkeeping : Keeping m c.dialect) (hkeyed : c.Keyed) (htree : s.files.WellNamed)
    (hshown : c.ShownBy sight (c.prepared s.files))
    (hall : c.discovery true s.files = .ok all)
    (hplans : all.mapM (c.planned c.dialect (c.prepared s.files) .up) = .ok plans)
    (hidle : (view s.database).saved = none) :
    let ledger := m.ledger (view s.database).contents
    let pending := all.filter (· ∉ ledger)
    let batch := pendingPlans plans ledger
    Files.Ascending all ∧
    List.Forall₂ (c.Translates c.dialect (c.prepared s.files)) pending batch ∧
    result = .ok (if ∀ id ∈ all, id ∈ ledger then .upToDate else .applied pending) ∧
    t.database.calls.map (·.1) = (watching a c).migrateScript batch ++ cleanupScript ∧
    ((∀ p ∈ batch, ∀ st ∈ p.statements, m.Harmless st) →
      (m.ledger (view t.database.inner).contents).Perm (pending ++ ledger) ∧
      (c.discover (c.prepared s.files) = .ok all →
        ∀ b second u, Undisturbed m view sight b c t.untraced second u →
          second = .ok .upToDate ∧
          u.database.calls.map (·.1) = (watching b c).readingScript ++ cleanupScript ∧
          view u.database.inner = view t.database.inner)) := by
  intro ledger pending batch
  have hready : c.Ready c.dialect s.files plans :=
    Catalog.ready_of_validation hkeyed htree rfl (bind_eq_ok.mpr ⟨all, hall, hplans⟩)
  have hids : plans.map (·.id) = all := Except.ok.inj (hready.discovered.symm.trans hall)
  have hpending : pending = batch.map (·.id) := by
    show all.filter (· ∉ ledger) = (pendingPlans plans ledger).map (·.id)
    rw [← hids, filter_map_id]
  have hsub : batch ⊆ plans := (pendingPlans_sublist plans ledger).subset
  obtain ⟨hresult, hcalls, hleaves⟩ := h.spec hready hshown hidle rfl
  refine ⟨Files.ascending_iff.mpr (hids ▸ hready.sorted), hpending ▸ hready.translates hsub, ?_,
    hcalls, fun hharmless => ?_⟩
  · rw [hresult, migrateOutcome_eq hids]
  have hledger := h.ledger_spec hkeeping hready hshown hidle rfl hharmless
  refine ⟨hpending ▸ hledger, fun hsame b second u hagain => ?_⟩
  obtain ⟨hfiles, hview⟩ := hleaves fun p hp st hst => (hharmless p hp st hst).1
  have hnothing : pendingPlans plans (m.ledger (view t.untraced.database).contents) = [] :=
    pendingPlans_rest hready.nodup (List.append_nil batch).symm hledger
  have hidle' : (view t.untraced.database).saved = none := congrArg Standing.saved hview
  obtain ⟨hready', hshown'⟩ := hready.after hshown hfiles (hids ▸ hsame)
  obtain ⟨hresult', hcalls', hleaves'⟩ := hagain.spec hready' hshown' hidle' hnothing
  refine ⟨hresult', ?_, ?_⟩
  · rw [hcalls', migrateScript, if_pos rfl, List.append_nil]
  · exact (hleaves' fun p hp => by simp at hp).2.trans (Standing.eq_idle hidle').symm

/-! ## Migrates, rehearsed -/

/-- A migrate of a catalog on a rehearsal. -/
def rehearse (script : Rehearsal.Script) (c : Catalog) (s : Session Rehearsal.Book) :
    Except MigrationError MigrateOutcome × RunState × Session (Traced Rehearsal.Book) :=
  (watching (Rehearsal.adapter script) c).migrate.start s.watched

theorem rehearse_undisturbed (script : Rehearsal.Script) (c : Catalog) (s : Session Rehearsal.Book)
    (hrows : script.extraRows.filterMap Adapter.idOfRow? = []) (hdialect : c.dialect = script.dialect)
    (hclean : Clean (rehearse script c s).2.2.database.calls) :
    Undisturbed (Rehearsal.semantics script) Rehearsal.Book.standing id (Rehearsal.adapter script) c s
      (rehearse script c s).1 (rehearse script c s).2.2 :=
  ⟨Rehearsal.adapter_lawful script hrows, hdialect, ⟨(rehearse script c s).2.1, rfl⟩, hclean⟩

/-- Migrations in code that send the given statements. -/
def inCode (migrations : List (String × List String)) : Catalog where
  dialect := .sqlite
  registered := migrations.map fun (id, sqls) =>
    { id, up := sqls.map fun sql => .raw { sql := some sql } }

def planOf (id : String) (sqls : List String) : PlannedMigration :=
  ⟨id, sqls.map fun sql => ⟨[Console.plain "Executing raw SQL"], ⟨sql, []⟩⟩⟩

def acceptsAll : Rehearsal.Script where
  dialect := .sqlite
  transactional := true
  discards := true

/-- Three tables; the ledger has the second, and a migration that is gone. -/
def threeTables : Catalog := inCode [
  ("lipgrade_3", ["CREATE TABLE c (x)"]),
  ("lipgrade_1", ["CREATE TABLE a (x)", "CREATE TABLE aa (x)"]),
  ("lipgrade_2", ["CREATE TABLE b (x)"])]

def gaps : Session Rehearsal.Book := ⟨{}, [], { store := { ledger := ["lipgrade_2", "lipgrade_0"] } }⟩

def threePlans : List PlannedMigration := [
  planOf "lipgrade_1" ["CREATE TABLE a (x)", "CREATE TABLE aa (x)"],
  planOf "lipgrade_2" ["CREATE TABLE b (x)"],
  planOf "lipgrade_3" ["CREATE TABLE c (x)"]]

theorem migrate_applies_pending_gaps :
    (rehearse acceptsAll threeTables gaps).1 = .ok (.applied ["lipgrade_1", "lipgrade_3"]) ∧
      (rehearse acceptsAll threeTables gaps).2.2.database.inner.store.ledger.Perm
        ["lipgrade_1", "lipgrade_3", "lipgrade_2", "lipgrade_0"] ∧
      (rehearse acceptsAll threeTables
        (rehearse acceptsAll threeTables gaps).2.2.untraced).1 = .ok .upToDate := by
  have hplans : ["lipgrade_1", "lipgrade_2", "lipgrade_3"].mapM
      (threeTables.planned .sqlite (threeTables.prepared {}) .up) = .ok threePlans := by
    decide +kernel
  have hplain : ∀ p ∈ pendingPlans threePlans ["lipgrade_2", "lipgrade_0"],
      ∀ st ∈ p.statements, Rehearsal.Plain acceptsAll st := by decide +kernel
  have hfirst := rehearse_undisturbed acceptsAll threeTables gaps rfl rfl (by decide +kernel)
  have hsecond := rehearse_undisturbed acceptsAll threeTables
    (rehearse acceptsAll threeTables gaps).2.2.untraced rfl rfl (by decide +kernel)
  obtain ⟨-, -, hresult, -, hrest⟩ := migrate_applies_pending hfirst
    (Rehearsal.semantics_keeping acceptsAll) (by decide +kernel) Files.FileTree.wellNamed_empty
    (Catalog.shownBy_id _ _) (by decide +kernel) hplans rfl
  obtain ⟨hledger, hagain⟩ :=
    hrest fun p hp st hst => Rehearsal.harmless_of_plain acceptsAll (hplain p hp st hst)
  exact ⟨hresult, hledger, (hagain (by decide +kernel) _ _ _ hsecond).1⟩

/-- The directory of the migrations is missing only as long as `x` is. -/
def uncovering : Catalog := { dialect := .sqlite, root := some "x/../y" }

def behindMissing : Session Rehearsal.Book where
  files := {
    entries := [
      ([.text "y"], .directory),
      ([.text "y", .text "sqlite"], .directory),
      ([.text "y", .text "sqlite", .text "lipgrade_1.json"],
        .file (.text "\x7b\"up\": []\x7d"))] }
  database := {}

/-- The second migration takes back what was done in the transaction of the runner. -/
def takingBack : Catalog :=
  inCode [("lipgrade_1", ["CREATE TABLE a (x)"]), ("lipgrade_2", ["ROLLBACK"])]

/-- The next migrate does have something to do if making the directory uncovers files, or if
an operation ends the transaction of the runner. -/
theorem migrate_applies_again :
    (uncovering.validation .sqlite true behindMissing.files = .ok [] ∧
      (rehearse acceptsAll uncovering behindMissing).1 = .ok .upToDate ∧
      Clean (rehearse acceptsAll uncovering behindMissing).2.2.database.calls ∧
      (rehearse acceptsAll uncovering (rehearse acceptsAll uncovering behindMissing).2.2.untraced).1 =
        .ok (.applied ["lipgrade_1.json"])) ∧
    takingBack.validation .sqlite true {} =
      .ok [planOf "lipgrade_1" ["CREATE TABLE a (x)"], planOf "lipgrade_2" ["ROLLBACK"]] ∧
    (Rehearsal.semantics acceptsAll).SparesLedger ⟨"CREATE TABLE a (x)", []⟩ ∧
    (Rehearsal.semantics acceptsAll).SparesLedger ⟨"ROLLBACK", []⟩ ∧
    (rehearse acceptsAll takingBack ⟨{}, [], {}⟩).1 = .ok (.applied ["lipgrade_1", "lipgrade_2"]) ∧
    Clean (rehearse acceptsAll takingBack ⟨{}, [], {}⟩).2.2.database.calls ∧
    (rehearse acceptsAll takingBack ⟨{}, [], {}⟩).2.2.database.inner.store.ledger = ["lipgrade_2"] ∧
    (rehearse acceptsAll takingBack (rehearse acceptsAll takingBack ⟨{}, [], {}⟩).2.2.untraced).1 =
      .ok (.applied ["lipgrade_1"]) := by
  have huncovered : uncovering.validation .sqlite true behindMissing.files = .ok [] ∧
      (rehearse acceptsAll uncovering behindMissing).1 = .ok .upToDate ∧
      Clean (rehearse acceptsAll uncovering behindMissing).2.2.database.calls ∧
      (rehearse acceptsAll uncovering (rehearse acceptsAll uncovering behindMissing).2.2.untraced).1 =
        .ok (.applied ["lipgrade_1.json"]) := by decide +kernel
  have hplain : Rehearsal.Plain acceptsAll ⟨"CREATE TABLE a (x)", []⟩ := by decide +kernel
  refine ⟨huncovered, by decide +kernel, ?_, fun store => rfl, by decide +kernel⟩
  exact (Rehearsal.harmless_of_plain acceptsAll hplain).2

end Runner

end SchemaMigration
