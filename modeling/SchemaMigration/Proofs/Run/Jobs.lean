import SchemaMigration.Proofs.Migration.Catalog
import SchemaMigration.Proofs.Run.Atomicity
import SchemaMigration.Proofs.Run.History
import SchemaMigration.Proofs.Run.ReadOnly

/-!
# Commands, one after the other

Each command has a runner of its own, and its own adapter, catalog and files. All of
them work on one database, whose ledger follows the history of what they carried out.
-/

namespace SchemaMigration

open Files

inductive Verb
  | migrate
  | rollback
  | status
  deriving DecidableEq, Repr

/-- A command for a fresh runner. -/
structure Job (δ : Type) where
  verb : Verb
  runner : Runner δ
  files : FileTree := {}

namespace Job

variable {δ γ σ : Type}

def session (j : Job δ) (d : δ) : Session δ := { files := j.files, database := d }

def deed? (j : Job δ) (tree : FileTree) (direction : Direction) (id : String) : Option Deed :=
  match j.runner.catalog.planned j.runner.adapter.dialect tree direction id with
  | .ok p => some ⟨direction, p⟩
  | .error _ => none

/-- The migrations that a command reports to have carried out; a dry run reports what it
has only shown. -/
def deeds (j : Job δ) (d : δ) : List Deed :=
  if j.runner.dryRun then []
  else
    match j.verb with
    | .migrate =>
      match (j.runner.migrate.start (j.session d)).1 with
      | .ok (.applied ids) => ids.filterMap (j.deed? (j.runner.catalog.prepared j.files) .up)
      | _ => []
    | .rollback =>
      match (j.runner.rollback.start (j.session d)).1 with
      | .ok (.rolledBack last) => (j.deed? j.files .down last).toList
      | _ => []
    | .status => []

def perform (j : Job δ) (d : δ) : δ :=
  match j.verb with
  | .migrate => (j.runner.migrate.start (j.session d)).2.2.database
  | .rollback => (j.runner.rollback.start (j.session d)).2.2.database
  | .status => (j.runner.status.start (j.session d)).2.2.database

/-- What is assumed of a command: transactions that a lost connection gives up, a catalog
and a tree without doubles, all of it in sight, ids that are no paths, and statements that
neither end transactions nor write the ledger. -/
structure Fits (j : Job δ) (m : Semantics γ) (view : δ → Standing γ) (sight : FileTree → σ)
    (dialect : Dialect) : Prop where
  law : Lawful j.runner.adapter m view sight
  transactional : j.runner.adapter.transactional = true
  discards : Discards j.runner.adapter view
  speaks : j.runner.adapter.dialect = dialect
  keyed : j.runner.catalog.Keyed
  distinct : j.files.Distinct
  shown : j.runner.catalog.ShownBy sight j.files
  prepared : j.runner.catalog.ShownBy sight (j.runner.catalog.prepared j.files)
  noSlash : ∀ ids, j.runner.catalog.discover j.files = .ok ids → ∀ id ∈ ids, '/' ∉ id.toList
  ups : j.runner.catalog.SendsOnly j.runner.adapter.dialect
    (j.runner.catalog.prepared j.files) .up fun st => ¬ m.control st.sql ∧ m.SparesLedger st
  downs : j.runner.catalog.SendsOnly j.runner.adapter.dialect j.files .down
    fun st => ¬ m.control st.sql ∧ m.SparesLedger st

end Job

theorem planned_id {c : Catalog} {dialect : Dialect} {tree : FileTree} {direction : Direction}
    {id : String} {p : PlannedMigration} (hid : Path.IsSimple id)
    (h : c.planned dialect tree direction id = .ok p) : p.id = id := by
  obtain ⟨mig, hmig, hp, -⟩ := Catalog.planned_loads h
  exact hp.trans (Catalog.load_id hid hmig)

/-! ## One command -/

namespace Job

variable {δ γ σ : Type} {m : Semantics γ} {view : δ → Standing γ} {sight : FileTree → σ}
variable {dialect : Dialect} {start : γ} {history : List Deed} {j : Job δ} {d : δ}

/-- What a command leaves: the contents and the history go together. -/
def Extends (m : Semantics γ) (view : δ → Standing γ) (dialect : Dialect) (start : γ)
    (history : List Deed) (d : δ) : Prop :=
  view d = .idle (replay m dialect start history) ∧ Sound m dialect start history

theorem extends_of_unchanged (h : Extends m view dialect start history d) {next : δ}
    (hsaved : (view next).saved = none) (hdurable : (view next).durable = (view d).durable) :
    Extends m view dialect start (history ++ []) next := by
  refine ⟨?_, by simpa using h.2⟩
  rw [Standing.eq_of_saved_none hsaved, hdurable, h.1, List.append_nil]
  rfl

theorem deeds_of_planned {tree : FileTree} {direction : Direction} {ids : List String}
    {batch : List PlannedMigration}
    (h : ids.mapM (j.runner.catalog.planned j.runner.adapter.dialect tree direction) = .ok batch) :
    ids.filterMap (j.deed? tree direction) = batch.map (Deed.mk direction) := by
  have hall := forall₂_of_mapM h
  clear h
  induction hall with
  | nil => rfl
  | @cons id p rest others hp _ ih =>
    have hdeed : j.deed? tree direction id = some ⟨direction, p⟩ := by simp [deed?, hp]
    rw [List.filterMap_cons_some hdeed, ih, List.map_cons]

theorem applied_extends (hkeeping : Keeping m dialect) (hfits : j.Fits m view sight dialect)
    {ids completed : List String} {batch : List PlannedMigration} {next : δ}
    (h : Extends m view dialect start history d)
    (happlies : j.runner.Applies m j.files (view d).durable ids completed batch)
    (hsaved : (view next).saved = none)
    (hdurable : (view next).durable =
      m.run (batch.flatMap (·.writes j.runner.adapter.dialect .up)) (view d).durable) :
    Extends m view dialect start
      (history ++ ids.filterMap (j.deed? (j.runner.catalog.prepared j.files) .up)) next := by
  obtain ⟨hcontents, hsound⟩ := h
  obtain ⟨hperm, ⟨all, hall, rfl⟩, hplanned⟩ := happlies
  rw [hcontents, Standing.durable_idle] at hperm hdurable
  have hsimple : ∀ id ∈ all.filter (· ∉ completed), Path.IsSimple id := by
    intro id hid
    have hmem := (List.mem_filter.mp hid).1
    exact Catalog.isSimple_of_valid ((Catalog.discover_spec hall).2 id hmem)
      (hfits.noSlash all hall id hmem)
  have hids : batch.map (·.id) = all.filter (· ∉ completed) :=
    Catalog.ids_of_planned (fun id hid _ => planned_id (hsimple id hid)) hplanned
  rw [deeds_of_planned hplanned]
  refine ⟨?_, hsound.append_ups hkeeping batch ?_ ?_ ?_ ?_⟩
  · rw [Standing.eq_of_saved_none hsaved, hdurable, replay_append, hfits.speaks]
    simp [replay, Deed.writes, List.flatMap_map]
  · intro p hp st hst
    exact (Runner.statements_of_planned hfits.ups hplanned p hp st hst).2
  · intro p hp
    exact hsimple _ (hids ▸ List.mem_map_of_mem hp)
  · rw [hids]
    exact (Catalog.discover_nodup hfits.keyed hfits.distinct hall).filter _
  · intro p hp hmem
    have hid : p.id ∈ all.filter (· ∉ completed) := hids ▸ List.mem_map_of_mem hp
    have hnew : p.id ∉ completed := by simpa using (List.mem_filter.mp hid).2
    exact hnew (hperm.mem_iff.mpr hmem)

theorem migrate_extends (hkeeping : Keeping m dialect) (hfits : j.Fits m view sight dialect)
    (hdry : j.runner.dryRun = false) (hverb : j.verb = .migrate)
    (h : Extends m view dialect start history d) :
    Extends m view dialect start (history ++ j.deeds d) (j.perform d) := by
  have hidle : (view (j.session d).database).saved = none := by
    rw [show (j.session d).database = d from rfl, h.1]
    rfl
  have hspec := Runner.migrate_spec hfits.law hfits.transactional hdry hidle hfits.prepared
    fun id p hp st hst => (hfits.ups id p hp st hst).1
  unfold deeds perform
  rw [hdry, hverb, if_neg (by simp)]
  dsimp only
  rw [start_eq]
  unfold Ends at hspec
  generalize j.runner.migrate.run { session := j.session d } = finished at hspec ⊢
  obtain ⟨result, next⟩ := finished
  obtain ⟨hsaved, hresult⟩ := hspec
  have hsaved := hsaved hfits.discards
  match result with
  | .error e => exact extends_of_unchanged h hsaved hresult
  | .ok .upToDate => exact extends_of_unchanged h hsaved hresult
  | .ok (.applied ids) =>
    obtain ⟨completed, batch, happlies, hdurable⟩ := hresult
    exact applied_extends hkeeping hfits h happlies hsaved hdurable

theorem rollback_extends (hkeeping : Keeping m dialect) (hfits : j.Fits m view sight dialect)
    (hdry : j.runner.dryRun = false) (hverb : j.verb = .rollback)
    (h : Extends m view dialect start history d) :
    Extends m view dialect start (history ++ j.deeds d) (j.perform d) := by
  have hidle : (view (j.session d).database).saved = none := by
    rw [show (j.session d).database = d from rfl, h.1]
    rfl
  have hspec := Runner.rollback_spec hfits.law hfits.transactional hdry hidle hfits.shown
    fun id p hp st hst => (hfits.downs id p hp st hst).1
  unfold deeds perform
  rw [hdry, hverb, if_neg (by simp)]
  dsimp only
  rw [start_eq]
  unfold Ends at hspec
  generalize j.runner.rollback.run { session := j.session d } = finished at hspec ⊢
  obtain ⟨result, next⟩ := finished
  obtain ⟨hsaved, hresult⟩ := hspec
  have hsaved := hsaved hfits.discards
  match result with
  | .error e => exact extends_of_unchanged h hsaved hresult
  | .ok .nothingToRollback => exact extends_of_unchanged h hsaved hresult
  | .ok (.rolledBack last) =>
    obtain ⟨completed, p, ⟨hperm, hlast, hplanned⟩, hdurable⟩ := hresult
    obtain ⟨hcontents, hsound⟩ := h
    rw [show (j.session d).database = d from rfl, hcontents, Standing.durable_idle] at hperm hdurable
    have hmem : last ∈ m.ledger (replay m dialect start history) :=
      hperm.mem_iff.mp ((Catalog.sortIds_perm _).mem_iff.mp (List.mem_of_getLast? hlast))
    have hsimple := hsound.simple_of_mem hmem
    obtain rfl : (Deed.mk .down p).id = last := planned_id hsimple hplanned
    have hdeed : j.deed? j.files .down (Deed.mk .down p).id = some ⟨.down, p⟩ := by
      unfold deed?
      rw [show j.files = (j.session d).files from rfl, hplanned]
    dsimp only
    rw [hdeed, Option.toList_some]
    refine ⟨?_, hsound.snoc hkeeping ?_ hsimple (iff_of_false (by simp) (not_not.mpr hmem))⟩
    · rw [Standing.eq_of_saved_none hsaved, hdurable, replay_append, hfits.speaks]
      simp [replay, Deed.writes]
    · intro st hst
      exact (hfits.downs _ p hplanned st hst).2

theorem perform_spec (hkeeping : Keeping m dialect) (hfits : j.Fits m view sight dialect)
    (h : Extends m view dialect start history d) :
    Extends m view dialect start (history ++ j.deeds d) (j.perform d) := by
  have hidle : (view d).saved = none := by
    rw [h.1]
    rfl
  have hstays : ∀ {α : Type} {body : RunAction δ α}, Preserves (Stays view (view d)) body → ∀ {next : δ},
      next = ((j.runner.command body).start (j.session d)).2.2.database →
      Extends m view dialect start (history ++ []) next := by
    rintro α body hbody next rfl
    obtain ⟨hsaved, hdurable⟩ := Runner.command_stays (s := j.session d) hfits.law hbody
    exact extends_of_unchanged h (hsaved hfits.discards) hdurable
  cases hdry : j.runner.dryRun with
  | true =>
    have hdeeds : j.deeds d = [] := by simp [deeds, hdry]
    have hpermits : j.runner.Permits (Stays view (view d)) := Runner.permits_of_dryRun hfits.law hdry hidle
    rw [hdeeds]
    cases hverb : j.verb with
    | migrate => exact hstays (Runner.migrateBody_preserves hpermits) (by simp [perform, hverb]; rfl)
    | rollback => exact hstays (Runner.rollbackBody_preserves hpermits) (by simp [perform, hverb]; rfl)
    | status =>
      exact hstays (Runner.statusBody_stays hfits.law hidle) (by simp [perform, hverb]; rfl)
  | false =>
    cases hverb : j.verb with
    | migrate => exact migrate_extends hkeeping hfits hdry hverb h
    | rollback => exact rollback_extends hkeeping hfits hdry hverb h
    | status =>
      have hdeeds : j.deeds d = [] := by simp [deeds, hdry, hverb]
      rw [hdeeds]
      exact hstays (Runner.statusBody_stays hfits.law hidle) (by simp [perform, hverb]; rfl)

end Job

/-! ## Any number of commands -/

section Jobs

variable {δ γ σ : Type} {m : Semantics γ} {view : δ → Standing γ} {sight : FileTree → σ}
variable {dialect : Dialect} {start : γ}

def Job.history : List (Job δ) → δ → List Deed
  | [], _ => []
  | j :: rest, d => j.deeds d ++ history rest (j.perform d)

def Job.performAll : List (Job δ) → δ → δ
  | [], d => d
  | j :: rest, d => performAll rest (j.perform d)

theorem performAll_spec (hkeeping : Keeping m dialect) {jobs : List (Job δ)}
    (hfits : ∀ j ∈ jobs, j.Fits m view sight dialect) {before : List Deed} {d : δ}
    (h : Job.Extends m view dialect start before d) :
    Job.Extends m view dialect start (before ++ Job.history jobs d) (Job.performAll jobs d) := by
  induction jobs generalizing before d with
  | nil => simpa [Job.history, Job.performAll] using h
  | cons j rest ih =>
    have hnext := Job.perform_spec hkeeping (hfits j List.mem_cons_self) h
    have hlast := ih (fun k hk => hfits k (List.mem_cons_of_mem _ hk)) hnext
    rwa [List.append_assoc] at hlast

/-- From an empty ledger, whatever fails on the way: the database is what its history
makes of it, the ledger holds no id twice, up and down take turns for every id, the ledger
holds the ids whose last migration was up, and each migration was up for an id that was
not in the ledger, or down for one that was. -/
theorem ledger_follows_history (hkeeping : Keeping m dialect) {jobs : List (Job δ)}
    (hfits : ∀ j ∈ jobs, j.Fits m view sight dialect) {d : δ} (hidle : (view d).saved = none)
    (hempty : m.ledger (view d).contents = []) :
    (view (Job.performAll jobs d)).durable =
        replay m dialect (view d).contents (Job.history jobs d) ∧
      (m.ledger (view (Job.performAll jobs d)).durable).Nodup ∧
      (∀ id, Alternates (directionsOf id (Job.history jobs d)) ∧
        (id ∈ m.ledger (view (Job.performAll jobs d)).durable ↔
          (directionsOf id (Job.history jobs d)).getLast? = some .up)) ∧
      ∀ before deed after, Job.history jobs d = before ++ deed :: after →
        (deed.direction = .up ↔
          deed.id ∉ m.ledger (replay m dialect (view d).contents before)) := by
  have hstart : Job.Extends m view dialect (view d).contents [] d :=
    ⟨Standing.eq_idle hidle, .nil hempty⟩
  obtain ⟨hcontents, hsound⟩ := performAll_spec hkeeping hfits hstart
  rw [List.nil_append] at hcontents hsound
  rw [hcontents, Standing.durable_idle]
  exact ⟨rfl, hsound.nodup, fun id => ⟨hsound.alternates id, hsound.applied id⟩, hsound.guarded⟩

end Jobs

/-! ## A table that is made twice -/

open Runner

/-- The database refuses to commit at first. -/
def madeTwice : List (Job Rehearsal.Book) := [
  { verb := .migrate, runner := oneTableRunner refusesCommit },
  { verb := .migrate, runner := oneTableRunner fun _ _ => none },
  { verb := .rollback, runner := oneTableRunner fun _ _ => none },
  { verb := .migrate, runner := oneTableRunner fun _ _ => none }]

theorem oneTable_harmless (st : Statement)
    (h : st.sql = "CREATE TABLE t (x)" ∨ st.sql = "DROP TABLE t") :
    ¬ Rehearsal.controls st.sql ∧
      (Rehearsal.semantics (oneTableScript refusesCommit)).SparesLedger st := by
  have hcontrol : ¬ Rehearsal.controls st.sql := by
    rcases h with h | h <;> rw [h] <;> decide +kernel
  refine ⟨hcontrol, Rehearsal.spares_of_plain _ hcontrol ?_ ?_ ?_⟩
  all_goals rcases h with h | h <;> rw [h] <;> decide +kernel

theorem oneTable_fits (verb : Verb) (refuses : List Call → Call → Option MigrationError) :
    Job.Fits { verb, runner := oneTableRunner refuses }
      (Rehearsal.semantics (oneTableScript refusesCommit)) Rehearsal.Book.standing id .sqlite where
  law := Rehearsal.adapter_lawful (oneTableScript refuses) rfl
  transactional := rfl
  discards := Rehearsal.adapter_discards (oneTableScript refuses) rfl
  speaks := rfl
  keyed := List.pairwise_singleton _ _
  distinct := .nil
  shown := Catalog.shownBy_id _ _
  prepared := Catalog.shownBy_id _ _
  noSlash ids hids id hid := by
    have hdiscovered : oneTable.discover {} = .ok ["lipgrade_1"] := by
      decide +kernel
    obtain rfl : ["lipgrade_1"] = ids := Except.ok.inj (hdiscovered.symm.trans hids)
    obtain rfl := List.mem_singleton.mp hid
    decide
  ups := (oneTable_sends _ .up).mono oneTable_harmless
  downs := (oneTable_sends _ .down).mono oneTable_harmless

theorem ledger_follows_history_madeTwice :
    directionsOf "lipgrade_1" (Job.history madeTwice {}) = [.up, .down, .up] ∧
      "lipgrade_1" ∈ (Job.performAll madeTwice {}).standing.durable.ledger := by
  have hdirections : directionsOf "lipgrade_1" (Job.history madeTwice {}) = [.up, .down, .up] := by
    decide +kernel
  have hfits : ∀ j ∈ madeTwice, j.Fits (Rehearsal.semantics (oneTableScript refusesCommit))
      Rehearsal.Book.standing id .sqlite := by
    intro j hj
    simp only [madeTwice, List.mem_cons, List.not_mem_nil, or_false] at hj
    rcases hj with rfl | rfl | rfl | rfl <;> exact oneTable_fits _ _
  have h := ledger_follows_history (Rehearsal.semantics_keeping _) hfits (d := {}) rfl rfl
  exact ⟨hdirections, (h.2.2.1 "lipgrade_1").2.mpr (by rw [hdirections]; rfl)⟩

end SchemaMigration
