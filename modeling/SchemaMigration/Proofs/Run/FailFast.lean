import SchemaMigration.Proofs.Run.Survey
import SchemaMigration.Proofs.Run.Migrate

/-!
# What cannot be planned is not begun

All of a batch is planned before anything of it is sent. If one of its migrations cannot be
loaded, or one of its operations cannot be written as SQL, the command fails as the first of
them does.
-/

namespace SchemaMigration

/-! ## The first failure of a plan -/

theorem Operation.planned_eq_error_iff {dialect : Dialect} {op : Operation} {e : MigrationError} :
    op.planned dialect = .error e ↔ op.statement dialect = .error e := by
  unfold planned
  rw [bind_eq_error]
  simp [pure, Except.pure]

theorem Operation.planned_succeeds_iff {dialect : Dialect} {op : Operation} :
    (∃ step, op.planned dialect = .ok step) ↔ ∃ st, op.statement dialect = .ok st := by
  unfold planned
  cases op.statement dialect with
  | error e => simp [bind, Except.bind]
  | ok st => simp [bind, Except.bind, pure, Except.pure]

namespace Catalog

section Plans

variable (c : Catalog) (dialect : Dialect) (tree : Files.FileTree) (direction : Direction)

/-- The migration of the id can be loaded, and each of its operations written as SQL. -/
def Plannable (id : String) : Prop :=
  ∃ m, c.load tree id = .ok m ∧ ∀ op ∈ m.operations direction, ∃ st, op.statement dialect = .ok st

/-- The error is that of the first id whose migration cannot be planned: it cannot be loaded,
or this is the first of its operations that cannot be written as SQL. -/
inductive FirstFailure : List String → MigrationError → Prop
  | unloaded {before rest : List String} {id : String} {e : MigrationError}
      (earlier : ∀ other ∈ before, c.Plannable dialect tree direction other)
      (unloaded : c.load tree id = .error e) : FirstFailure (before ++ id :: rest) e
  | unwritten {before rest : List String} {id : String} {m : Migration} {first later : List Operation}
      {op : Operation} {e : MigrationError}
      (earlier : ∀ other ∈ before, c.Plannable dialect tree direction other)
      (loaded : c.load tree id = .ok m) (cut : m.operations direction = first ++ op :: later)
      (written : ∀ other ∈ first, ∃ st, other.statement dialect = .ok st)
      (unwritten : op.statement dialect = .error e) : FirstFailure (before ++ id :: rest) e

end Plans

variable {c : Catalog} {dialect : Dialect} {tree : Files.FileTree} {direction : Direction}
variable {id : String} {ids : List String} {e : MigrationError}

theorem plannable_iff :
    c.Plannable dialect tree direction id ↔ ∃ p, c.planned dialect tree direction id = .ok p := by
  unfold Plannable planned
  cases c.load tree id with
  | error e => simp [bind, Except.bind]
  | ok m =>
    have hsteps : (∃ steps, (m.operations direction).mapM (Operation.planned dialect) = .ok steps) ↔
        ∀ op ∈ m.operations direction, ∃ st, op.statement dialect = .ok st := by
      simp only [mapM_succeeds_iff, Operation.planned_succeeds_iff]
    constructor
    · rintro ⟨_, hm, hops⟩
      obtain rfl := Except.ok.inj hm
      obtain ⟨steps, hsteps⟩ := hsteps.mpr hops
      exact ⟨⟨m.id, steps⟩, bind_eq_ok.mpr ⟨m, rfl, bind_eq_ok.mpr ⟨steps, hsteps, rfl⟩⟩⟩
    · rintro ⟨p, hp⟩
      obtain ⟨_, hm, hp⟩ := bind_eq_ok.mp hp
      obtain rfl := Except.ok.inj hm
      obtain ⟨steps, hok, -⟩ := bind_eq_ok.mp hp
      exact ⟨m, rfl, hsteps.mp ⟨steps, hok⟩⟩

theorem planned_eq_error_iff : c.planned dialect tree direction id = .error e ↔
    c.load tree id = .error e ∨ ∃ m first op later, c.load tree id = .ok m ∧
      m.operations direction = first ++ op :: later ∧
      (∀ other ∈ first, ∃ st, other.statement dialect = .ok st) ∧ op.statement dialect = .error e := by
  unfold planned
  simp only [bind_eq_error, mapM_eq_error_iff, Operation.planned_eq_error_iff,
    Operation.planned_succeeds_iff]
  simp [pure, Except.pure]

theorem mapM_planned_eq_error_iff : ids.mapM (c.planned dialect tree direction) = .error e ↔
    c.FirstFailure dialect tree direction ids e := by
  simp only [mapM_eq_error_iff, ← plannable_iff, planned_eq_error_iff]
  constructor
  · rintro ⟨before, id, rest, rfl, hearlier, hunloaded | ⟨m, first, op, later, hloaded, hcut, hwritten, h⟩⟩
    · exact .unloaded hearlier hunloaded
    · exact .unwritten hearlier hloaded hcut hwritten h
  · rintro (⟨hearlier, hunloaded⟩ | ⟨hearlier, hloaded, hcut, hwritten, h⟩)
    · exact ⟨_, _, _, rfl, hearlier, .inl hunloaded⟩
    · exact ⟨_, _, _, rfl, hearlier, .inr ⟨_, _, _, _, hloaded, hcut, hwritten, h⟩⟩

theorem exists_firstFailure (h : ∃ id ∈ ids, ¬ c.Plannable dialect tree direction id) :
    ∃ e, ids.mapM (c.planned dialect tree direction) = .error e := by
  cases hplans : ids.mapM (c.planned dialect tree direction) with
  | error e => exact ⟨e, rfl⟩
  | ok batch =>
    obtain ⟨id, hid, hbad⟩ := h
    exact absurd (plannable_iff.mpr (mapM_succeeds_iff.mp ⟨batch, hplans⟩ id hid)) hbad

end Catalog

/-! ## Commands that fail fast -/

namespace Runner

variable {δ α : Type} {a : Adapter δ} {r : Runner (Traced δ)} {s : Session (Traced δ)}

/-- The command fails with the error, and all its calls before the cleanup are those of the
script, of which none fails. -/
def FailsWith (e : MigrationError) (script : List AdapterCall) (s : Session (Traced δ))
    (finished : Except MigrationError α × RunState × Session (Traced δ)) : Prop :=
  finished.1 = .error e ∧ ∃ released disconnected, finished.2.2.database.calls =
    s.database.calls ++ allMade script ++ [(.releaseClient, released), (.disconnect, disconnected)]

/-- A command either has the plan of all its migrations or sends nothing of them. -/
structure FailsFast (r : Runner (Traced δ)) (direction : Direction) (s : Session (Traced δ))
    (finished : Except MigrationError α × RunState × Session (Traced δ)) : Prop where
  mismatched : r.catalog.dialect ≠ r.adapter.dialect →
    FailsWith (.configuration (.dialectMismatch r.catalog.dialect r.adapter.dialect)) [] s finished
  undiscovered : ∀ e, r.catalog.dialect = r.adapter.dialect →
    r.catalog.discovery (r.makesDirectory direction) s.files = .error e →
    FailsWith e [] s finished
  /-- The ledger cannot be read. -/
  unread : ∀ e mid, (r.survey direction).run { session := s } = (.error e, mid) →
    finished.1 = .error e ∧ ∃ log released disconnected, finished.2.2.database.calls =
      s.database.calls ++ log ++ [(.releaseClient, released), (.disconnect, disconnected)] ∧
      ∀ call ∈ log, call.1 ∈ r.surveyScript
  unplanned : ∀ found mid, (r.survey direction).run { session := s } = (.ok found, mid) →
    r.catalog.discovery (r.makesDirectory direction) s.files = .ok found.1 ∧
    (targets direction found).Pairwise (· ≤ ·) ∧
    ((∃ id ∈ targets direction found,
        ¬ r.catalog.Plannable r.adapter.dialect mid.session.files direction id) →
      ∃ e, r.catalog.FirstFailure r.adapter.dialect mid.session.files direction
          (targets direction found) e ∧ FailsWith e r.surveyScript s finished)

theorem command_failsWith (hr : r.adapter = a.traced) {body : RunAction (Traced δ) α}
    {e : MigrationError} {script : List AdapterCall} (h : Ends body { session := s } fun result next =>
      result = .error e ∧ next.calls = s.database.calls ++ allMade script) :
    FailsWith e script s ((r.command body).start s) := by
  obtain ⟨mid, released, disconnected, ⟨hresult, hmid⟩, hcalls⟩ := command_calls hr h
  rw [hmid] at hcalls
  exact ⟨hresult, released, disconnected, hcalls⟩

theorem command_failsFast (hr : r.adapter = a.traced) {direction : Direction}
    {carry : List String × List String → RunAction (Traced δ) α}
    {outcome : List String → α} (hcarry : ∀ found,
      r.CarriesOut direction (targets direction found) (outcome (targets direction found)) (carry found)) :
    FailsFast r direction s ((r.command (r.survey direction >>= carry)).start s) := by
  have hsurvey := survey_calls hr direction { session := s }
  refine ⟨fun hdialect => ?_, fun e hdialect he => ?_, fun e mid h => ?_, fun found mid h => ?_⟩
  · have hfailed : Ends (r.survey direction) { session := s } _ := survey_mismatch hdialect
    refine command_failsWith hr (hfailed.bind ?_ ?_)
    · rintro found next ⟨-, hok⟩
      simp at hok
    · rintro e next ⟨rfl, he⟩
      exact ⟨congrArg _ (Except.error.inj he), (List.append_nil _).symm⟩
  · have hfailed : Ends (r.survey direction) { session := s } _ := survey_undiscovered hdialect he
    refine command_failsWith hr (hfailed.bind ?_ ?_)
    · rintro found next ⟨hok, -⟩
      simp at hok
    · rintro other next ⟨hother, hd⟩
      refine ⟨congrArg _ (Except.error.inj hother), ?_⟩
      rw [Run.calls, hd]
      exact (List.append_nil _).symm
  · rw [Ends, h] at hsurvey
    obtain ⟨log, hmid, hscript⟩ := hsurvey
    have hbody : Ends (r.survey direction >>= carry) { session := s } fun result next =>
        result = .error e ∧ next = mid := by
      rw [Ends, run_bind, h]
      exact ⟨rfl, rfl⟩
    obtain ⟨_, released, disconnected, ⟨hresult, rfl⟩, hcalls⟩ := command_calls hr hbody
    exact ⟨hresult, log, released, disconnected, hmid ▸ hcalls, hscript⟩
  · rw [Ends, h] at hsurvey
    obtain ⟨log, hmid, hdialect, hall, rfl⟩ := hsurvey
    refine ⟨hall, r.targets_sorted hall, fun hbad => ?_⟩
    obtain ⟨e, he⟩ := Catalog.exists_firstFailure hbad
    refine ⟨e, Catalog.mapM_planned_eq_error_iff.mp he, command_failsWith hr ?_⟩
    have hcarried := hcarry found mid
    rw [he, hmid] at hcarried
    rw [Ends, run_bind, h]
    exact hcarried

/-- If the dialects differ, or the migrations cannot be discovered, a migrate or a rollback
makes no call but those of its cleanup. If one of its migrations cannot be planned it reads
the ledger at most, and fails as the first of them in order does. -/
theorem fails_before_sending (a : Adapter δ) (c : Catalog) (dryRun : Bool) (s : Session (Traced δ)) :
    let r : Runner (Traced δ) := ⟨a.traced, c, dryRun⟩
    FailsFast r .up s (r.migrate.start s) ∧ FailsFast r .down s (r.rollback.start s) := by
  intro r
  constructor
  · rw [migrate, migrateBody_eq]
    exact command_failsFast (a := a) rfl fun found => applyPending_carriesOut (a := a) rfl _
  · rw [rollback, rollbackBody_eq]
    exact command_failsFast (a := a) rfl fun found => revertLast_carriesOut (a := a) rfl found

/-- The last operation of the second migration is of an unknown kind. -/
def unknownAtLast : Catalog where
  dialect := .sqlite
  registered := [
    { id := "lipgrade_1", up := [.raw { sql := some "CREATE TABLE a (x)" }] },
    { id := "lipgrade_2", up := [.raw { sql := some "CREATE TABLE b (x)" }, .unknown "fillTable"] }]

theorem fails_before_sending_unknownAtLast :
    let r := watching (Rehearsal.adapter acceptsAll) unknownAtLast
    let s : Session (Traced Rehearsal.Book) := ⟨{}, [], { inner := {} }⟩
    ∃ e, unknownAtLast.FirstFailure .sqlite {} .up ["lipgrade_1", "lipgrade_2"] e ∧
      FailsWith e r.readingScript s (r.migrate.start s) := by
  intro r s
  have hfound : ((r.survey .up).run { session := s }).1 = .ok (["lipgrade_1", "lipgrade_2"], []) := by
    decide +kernel
  have hfiles : ((r.survey .up).run { session := s }).2.session.files = {} := by decide +kernel
  have hbad : unknownAtLast.planned .sqlite {} .up "lipgrade_2" =
      .error (.unsupported "fillTable" .sqlite none) := by decide +kernel
  obtain ⟨hmigrate, -⟩ := fails_before_sending (Rehearsal.adapter acceptsAll) unknownAtLast false s
  generalize hsurvey : (r.survey .up).run { session := s } = finished at hfound hfiles
  obtain ⟨result, mid⟩ := finished
  obtain rfl : result = .ok (["lipgrade_1", "lipgrade_2"], []) := hfound
  obtain ⟨-, -, hfails⟩ := hmigrate.unplanned _ mid hsurvey
  rw [show mid.session.files = {} from hfiles] at hfails
  refine hfails ⟨"lipgrade_2", by decide, fun hplannable => ?_⟩
  obtain ⟨p, hp⟩ := Catalog.plannable_iff.mp hplannable
  have hnone : (Except.error _ : Except MigrationError PlannedMigration) = .ok p := hbad.symm.trans hp
  simp at hnone

end Runner

end SchemaMigration
