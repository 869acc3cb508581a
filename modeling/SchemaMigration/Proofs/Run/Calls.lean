import SchemaMigration.Proofs.Database.Traced

/-!
# Which calls a run makes

A batch has a script: the calls it makes if none of them fails. It follows the script up
to the first call that fails, and then only gives its transaction up.
-/

namespace SchemaMigration

variable {δ α β : Type}

/-- Calls in the order in which they were made, each with its failure. -/
abbrev Log := List (AdapterCall × Option MigrationError)

def allMade (calls : List AdapterCall) : Log := calls.map (·, none)

@[simp] theorem allMade_append (first rest : List AdapterCall) :
    allMade (first ++ rest) = allMade first ++ allMade rest := List.map_append

@[simp] theorem map_fst_allMade (calls : List AdapterCall) : (allMade calls).map (·.1) = calls := by
  unfold allMade
  rw [List.map_map]
  exact List.map_id calls

/-- The calls are those of the script up to the first that fails. Its failure is the
result, and the calls after it are those that `recovery` makes of the ones before it. -/
inductive Performs (recovery : List AdapterCall → List AdapterCall) (script : List AdapterCall) :
    Except MigrationError α → Log → Prop
  | through (x : α) : Performs recovery script (.ok x) (allMade script)
  | broken {before rest : List AdapterCall} {call : AdapterCall} {e : MigrationError}
      {recovered : Log} (cut : script = before ++ call :: rest)
      (recovers : recovered.map (·.1) = recovery before) :
      Performs recovery script (.error e) (allMade before ++ (call, some e) :: recovered)

theorem performs_first {recovery : List AdapterCall → List AdapterCall} {call : AdapterCall}
    {rest : List AdapterCall} {e : MigrationError} {recovered : Log}
    (hrecovers : recovered.map (·.1) = recovery []) :
    Performs recovery (call :: rest) (.error e : Except MigrationError α)
      ((call, some e) :: recovered) :=
  .broken (List.nil_append _).symm hrecovers

theorem Performs.after {recovery : List AdapterCall → List AdapterCall}
    {first rest : List AdapterCall} {result : Except MigrationError α} {log : Log}
    (h : Performs (fun before => recovery (first ++ before)) rest result log) :
    Performs recovery (first ++ rest) result (allMade first ++ log) := by
  cases h with
  | through x =>
    rw [← allMade_append]
    exact .through x
  | broken hcut hrecovers =>
    rw [← List.append_assoc, ← allMade_append]
    exact .broken (by rw [hcut, List.append_assoc]) hrecovers

theorem Performs.unfinished {recovery recovery' : List AdapterCall → List AdapterCall}
    {first : List AdapterCall} {e : MigrationError} {log : Log}
    (h : Performs recovery first (.error e : Except MigrationError α) log)
    (heq : ∀ before, before <+: first → recovery before = recovery' before)
    (rest : List AdapterCall) :
    Performs recovery' (first ++ rest) (.error e : Except MigrationError β) log := by
  cases h with
  | broken hcut hrecovers =>
    exact .broken (by rw [hcut, List.append_assoc]; rfl) (hrecovers.trans (heq _ ⟨_, hcut.symm⟩))

theorem Performs.congr {recovery recovery' : List AdapterCall → List AdapterCall}
    {script : List AdapterCall} {result : Except MigrationError α} {log : Log}
    (h : Performs recovery script result log)
    (heq : ∀ before, before <+: script → recovery before = recovery' before) :
    Performs recovery' script result log := by
  cases h with
  | through x => exact .through x
  | broken hcut hrecovers => exact .broken hcut (hrecovers.trans (heq _ ⟨_, hcut.symm⟩))

theorem Performs.map {recovery : List AdapterCall → List AdapterCall} {script : List AdapterCall}
    {result : Except MigrationError α} {log : Log} (h : Performs recovery script result log)
    (f : α → β) : Performs recovery script (result.map f) log := by
  cases h with
  | through x => exact .through (f x)
  | broken hcut hrecovers => exact .broken hcut hrecovers

/-- No call failed. -/
def Clean (log : Log) : Prop := ∀ call ∈ log, call.2 = none

instance (log : Log) : Decidable (Clean log) :=
  inferInstanceAs (Decidable (∀ call ∈ log, call.2 = none))

theorem clean_append {first rest : Log} : Clean (first ++ rest) ↔ Clean first ∧ Clean rest :=
  List.forall_mem_append

theorem Performs.of_clean {recovery : List AdapterCall → List AdapterCall}
    {script : List AdapterCall} {result : Except MigrationError α} {log : Log}
    (h : Performs recovery script result log) (hclean : Clean log) :
    log = allMade script ∧ ∃ x, result = .ok x := by
  cases h with
  | through x => exact ⟨rfl, x, rfl⟩
  | @broken before rest call e recovered hcut hrecovers =>
    have hfailed := hclean (call, some e) (List.mem_append_right _ List.mem_cons_self)
    simp at hfailed

theorem Performs.calls_prefix {script : List AdapterCall} {result : Except MigrationError α}
    {log : Log} (h : Performs (fun _ => []) script result log) : log.map (·.1) <+: script := by
  cases h with
  | through x => exact ⟨[], by simp⟩
  | broken hcut hrecovers =>
    obtain rfl := List.map_eq_nil_iff.mp hrecovers
    rw [hcut, List.map_append, map_fst_allMade]
    exact ⟨_, (List.append_cons _ _ _).symm⟩

theorem Performs.mem_script {script : List AdapterCall} {result : Except MigrationError α}
    {log : Log} (h : Performs (fun _ => []) script result log) : ∀ call ∈ log, call.1 ∈ script :=
  fun _ hcall => h.calls_prefix.subset (List.mem_map_of_mem hcall)

def Follows (recovery : List AdapterCall → List AdapterCall) (script : List AdapterCall)
    (a : RunAction (Traced δ) α) : Prop :=
  ∀ run, Ends a run fun result next =>
    ∃ log, next.calls = run.calls ++ log ∧ Performs recovery script result log

namespace Follows

variable {recovery recovery' : List AdapterCall → List AdapterCall}
variable {script first rest : List AdapterCall}
variable {a : RunAction (Traced δ) α} {f : α → RunAction (Traced δ) β}

theorem bind (ha : Follows recovery first a)
    (hf : ∀ x, Follows (fun before => recovery (first ++ before)) rest (f x)) :
    Follows recovery (first ++ rest) (a >>= f) := by
  intro run
  refine (ha run).bind ?_ ?_
  · rintro x mid ⟨_, hmid, hperforms⟩
    cases hperforms
    refine (hf x mid).mono ?_
    rintro result next ⟨log, hnext, hrest⟩
    exact ⟨allMade first ++ log, by rw [hnext, hmid, List.append_assoc], hrest.after⟩
  · rintro e next ⟨log, hnext, hperforms⟩
    exact ⟨log, hnext, hperforms.unfinished (fun _ _ => rfl) rest⟩

theorem of_quiet_bind {q : RunAction (Traced δ) Unit} {f : Unit → RunAction (Traced δ) β}
    (hq : Quiet q) (hf : Follows recovery script (f ())) : Follows recovery script (q >>= f) := by
  intro run
  refine ends_of_quiet hq fun mid hmid => (hf mid).mono ?_
  rintro result next ⟨log, hnext, hperforms⟩
  exact ⟨log, by rw [hnext, calls_of_sameWorld hmid], hperforms⟩

theorem of_quiet {q : RunAction (Traced δ) Unit} (hq : Quiet q) : Follows recovery [] q := by
  intro run
  refine (hq run).mono ?_
  rintro result next ⟨rfl, hnext⟩
  exact ⟨[], by rw [calls_of_sameWorld hnext, List.append_nil], .through ()⟩

theorem congr (h : Follows recovery script a)
    (heq : ∀ before, before <+: script → recovery before = recovery' before) :
    Follows recovery' script a := fun run =>
  (h run).mono fun _ _ ⟨log, hnext, hperforms⟩ => ⟨log, hnext, hperforms.congr heq⟩

theorem of_adds {call : AdapterCall} (hnothing : recovery [] = [])
    (h : ∀ run, Ends a run fun result next => Adds call run result next) :
    Follows recovery [call] a := by
  intro run
  refine (h run).mono ?_
  rintro (e | x) next hadds
  · exact ⟨_, hadds, performs_first hnothing.symm⟩
  · exact ⟨_, hadds, .through x⟩

end Follows

/-! ## Scripts -/

namespace AdapterCall

def send (options : QueryOptions) (st : Statement) : AdapterCall := .query st.sql st.params options

/-- A statement of the runner's own transaction. -/
def control (sql : String) : AdapterCall := .query sql [] { pinned := true }

def begin : AdapterCall := control "BEGIN"

def commit : AdapterCall := control "COMMIT"

def rollback : AdapterCall := control "ROLLBACK"

end AdapterCall

namespace Runner

variable (r : Runner δ)

/-- What is sent for a migration; a dry run leaves the ledger alone. -/
def sent (direction : Direction) (p : PlannedMigration) : List Statement :=
  p.statements ++ if r.dryRun then [] else [Ledger.entry r.adapter.dialect direction p.id]

def batchScript (direction : Direction) (batch : List PlannedMigration) : List AdapterCall :=
  (batch.flatMap (r.sent direction)).map (.send r.batchOptions)

def openingScript : List AdapterCall :=
  (if r.dryRun then [] else [.getClient]) ++ if r.transactional then [.begin] else []

def closingScript : List AdapterCall := if r.transactional then [.commit] else []

def readingScript : List AdapterCall :=
  (if r.transactional then [.getClient] else []) ++
    [.query (Ledger.createSql r.adapter.dialect) [] r.batchOptions,
      .query Ledger.selectSql [] r.batchOptions]

/-- What is left to do after a failure: an open transaction is given up. -/
def rescue (before : List AdapterCall) : List AdapterCall :=
  if .begin ∈ before then [.rollback] else []

end Runner

namespace Runner

variable {a : Adapter δ} {r : Runner (Traced δ)} {recovery : List AdapterCall → List AdapterCall}

/-! ## Single calls -/

theorem getClient_follows (hr : r.adapter = a.traced) (hnothing : recovery [] = []) :
    Follows recovery [.getClient] (RunAction.ofAction r.adapter.getClient) := by
  rw [hr]
  exact .of_adds hnothing fun run => rfl

theorem dropAll_follows (hr : r.adapter = a.traced) (hnothing : recovery [] = [])
    (options : QueryOptions) :
    Follows recovery [.dropAll options] (RunAction.ofAction (r.adapter.dropAll options)) := by
  rw [hr]
  exact .of_adds hnothing fun run => rfl

theorem record_map_adds {call : AdapterCall} {x : Action δ α} {f : α → β} (run : Run (Traced δ)) :
    Ends (RunAction.ofAction (Traced.record call x >>= fun y => pure (f y))) run
      fun result next => Adds call run result next := by
  have hcall : Ends (x >>= fun y => pure (f y)) run.session.untraced fun _ _ => True := trivial
  exact ends_ofAction.mpr ((record_map_spec hcall).mono fun _ _ h => h.2)

theorem execute_adds (hr : r.adapter = a.traced) (sql : String) (params : List SqlValue)
    (options : QueryOptions) (run : Run (Traced δ)) :
    Ends (RunAction.ofAction (r.adapter.execute sql params options)) run fun result next =>
      Adds (.query sql params options) run result next := by
  rw [hr]
  exact record_map_adds run

theorem execute_follows (hr : r.adapter = a.traced) (hnothing : recovery [] = []) (sql : String)
    (params : List SqlValue) (options : QueryOptions) :
    Follows recovery [.query sql params options]
      (RunAction.ofAction (r.adapter.execute sql params options)) :=
  .of_adds hnothing (execute_adds hr sql params options)

theorem ensureLedger_follows (hr : r.adapter = a.traced) (hnothing : recovery [] = [])
    (options : QueryOptions) :
    Follows recovery [.query (Ledger.createSql r.adapter.dialect) [] options]
      (RunAction.ofAction (r.adapter.ensureLedger options)) :=
  execute_follows hr hnothing _ _ _

theorem selectLedger_follows (hr : r.adapter = a.traced) (hnothing : recovery [] = [])
    (options : QueryOptions) :
    Follows recovery [.query Ledger.selectSql [] options]
      (RunAction.ofAction (r.adapter.readLedger options)) := by
  rw [hr]
  exact .of_adds hnothing fun run => record_map_adds run

/-! ## Batches -/

theorem ledger_ne_begin (dialect : Dialect) :
    Ledger.createSql dialect ≠ "BEGIN" ∧ Ledger.selectSql ≠ "BEGIN" := by
  cases dialect <;> decide +kernel

theorem begin_not_mem_readingScript : .begin ∉ r.readingScript := by
  obtain ⟨hcreate, hselect⟩ := ledger_ne_begin r.adapter.dialect
  unfold readingScript
  split <;> simp [AdapterCall.begin, AdapterCall.control, hcreate.symm, hselect.symm]

theorem rescue_append {first : List AdapterCall} (hbegin : .begin ∉ first)
    (before : List AdapterCall) : rescue (first ++ before) = rescue before := by
  simp [rescue, hbegin]

theorem readLedger_follows (hr : r.adapter = a.traced) :
    Follows (fun _ => []) r.readingScript r.readLedger := by
  have hread : Follows (fun _ => [])
      [.query (Ledger.createSql r.adapter.dialect) [] r.batchOptions,
        .query Ledger.selectSql [] r.batchOptions]
      (RunAction.ofAction (r.adapter.ensureLedger r.batchOptions) >>= fun _ =>
        RunAction.ofAction (r.adapter.readLedger r.batchOptions)) :=
    (ensureLedger_follows hr rfl _).bind fun _ => selectLedger_follows hr rfl _
  unfold readLedger readingScript
  cases r.transactional with
  | true => exact (getClient_follows hr rfl).bind fun _ => hread
  | false => exact hread

theorem sendSteps_follows (hr : r.adapter = a.traced) (steps : List Step) :
    Follows (fun _ => []) ((steps.map (·.statement)).map (.send r.batchOptions))
      (r.sendSteps steps) := by
  induction steps with
  | nil => exact .of_quiet quiet_pure
  | cons s rest ih =>
    refine .of_quiet_bind (quiet_print _) ?_
    exact (execute_follows hr rfl _ _ _).bind fun _ => ih

theorem writeLedger_follows (hr : r.adapter = a.traced) (direction : Direction) (id : String) :
    Follows (fun _ => [])
      ((if r.dryRun then [] else [Ledger.entry r.adapter.dialect direction id]).map
        (.send r.batchOptions))
      (r.writeLedger direction id) := by
  unfold writeLedger
  cases r.dryRun with
  | true => exact .of_quiet quiet_pure
  | false =>
    cases direction with
    | up => exact execute_follows hr rfl _ _ _
    | down => exact execute_follows hr rfl _ _ _

theorem applyAll_follows (hr : r.adapter = a.traced) (direction : Direction) (number : Nat)
    (batch : List PlannedMigration) :
    Follows (fun _ => []) (r.batchScript direction batch) (r.applyAll direction number batch) := by
  induction batch generalizing number with
  | nil => exact .of_quiet quiet_pure
  | cons p rest ih =>
    have hscript : r.batchScript direction (p :: rest) = p.statements.map (.send r.batchOptions) ++
        ((if r.dryRun then [] else [Ledger.entry r.adapter.dialect direction p.id]).map
          (.send r.batchOptions) ++ r.batchScript direction rest) := by
      simp [batchScript, sent]
    rw [hscript]
    refine .of_quiet_bind (quiet_enter r _) (.of_quiet_bind (quiet_print _) ?_)
    refine (sendSteps_follows hr p.steps).bind fun _ => ?_
    refine (writeLedger_follows hr direction p.id).bind fun _ => ?_
    exact .of_quiet_bind (quiet_print _) (ih (number + 1))

/-! ## The transaction -/

theorem pinned_batchOptions (htx : r.transactional = true) :
    Adapter.pinned r.batchOptions = { pinned := true } := by
  have hdry : r.dryRun = false := by
    simp only [transactional, Bool.and_eq_true, Bool.not_eq_true'] at htx
    exact htx.2
  simp [Adapter.pinned, batchOptions, hdry]

theorem control_adds (hr : r.adapter = a.traced) (htx : r.transactional = true) (sql : String)
    (run : Run (Traced δ)) :
    Ends (RunAction.ofAction (r.adapter.execute sql [] (Adapter.pinned r.batchOptions))) run
      fun result next => Adds (.control sql) run result next := by
  have h := execute_adds hr sql [] (Adapter.pinned r.batchOptions) run
  rwa [pinned_batchOptions htx] at h ⊢

/-- The calls that give an open transaction up. -/
def rollbackScript (r : Runner δ) : List AdapterCall := if r.transactional then [.rollback] else []

theorem abort_calls (hr : r.adapter = a.traced) (run : Run (Traced δ)) :
    Ends r.abort run fun result next => result = .ok () ∧ ∃ recovered,
      next.calls = run.calls ++ recovered ∧ recovered.map (·.1) = r.rollbackScript := by
  have henter : ∀ mid : Run (Traced δ), Ends (r.enter .rolledBack) mid fun result next =>
      result = .ok () ∧ next.calls = mid.calls :=
    fun mid => (quiet_enter r _ mid).mono fun _ _ h => ⟨h.1, calls_of_sameWorld h.2⟩
  unfold abort rollbackScript
  cases htx : r.transactional with
  | false =>
    refine (henter run).mono ?_
    rintro result next ⟨rfl, hnext⟩
    exact ⟨rfl, [], by rw [hnext, List.append_nil], rfl⟩
  | true =>
    refine Ends.bind (p := fun result mid => (∃ x, result = .ok x) ∧ ∃ failure,
      mid.calls = run.calls ++ [(.rollback, failure)]) ?_ ?_ ?_
    · exact ends_outcome.mpr ((control_adds hr htx _ run).mono fun result mid h => ⟨⟨_, rfl⟩, _, h⟩)
    · rintro (e | _) mid ⟨-, failure, hmid⟩
      · refine ends_of_quiet (quiet_tell _) fun told htold => (henter told).mono ?_
        rintro result next ⟨rfl, hnext⟩
        exact ⟨rfl, _, by rw [hnext, calls_of_sameWorld htold, hmid], rfl⟩
      · refine (henter mid).mono ?_
        rintro result next ⟨rfl, hnext⟩
        exact ⟨rfl, _, by rw [hnext, hmid], rfl⟩
    · rintro e mid ⟨⟨x, hx⟩, -⟩
      simp at hx

theorem commit_follows (hr : r.adapter = a.traced) :
    Follows (fun _ => r.rollbackScript) r.closingScript r.commit := by
  unfold commit closingScript
  cases htx : r.transactional with
  | false => exact .of_quiet quiet_pure
  | true =>
    intro run
    refine Ends.bind (p := fun result mid => match result with
      | .ok inner => mid.calls = run.calls ++ [(.commit, failure? inner)]
      | .error _ => False) ?_ ?_ ?_
    · exact ends_outcome.mpr ((control_adds hr htx _ run).mono fun _ _ h => h)
    · rintro (e | _) mid hmid
      · refine (abort_calls hr mid).bind ?_ ?_
        · rintro _ next ⟨-, recovered, hnext, hrecovered⟩
          refine ⟨_, ?_, performs_first hrecovered⟩
          show next.calls = _
          rw [hnext, hmid, List.append_assoc]
          rfl
        · rintro failed next ⟨hfailed, -⟩
          simp at hfailed
      · exact ⟨_, hmid, .through ()⟩
    · rintro e mid hmid
      exact hmid.elim

theorem carried_follows (hr : r.adapter = a.traced) (direction : Direction)
    (batch : List PlannedMigration) :
    Follows (fun _ => r.rollbackScript) (r.batchScript direction batch ++ r.closingScript) (do
      match ← RunAction.outcome (r.applyAll direction 0 batch) with
      | .ok _ =>
        r.commit
        r.enter .committed
      | .error e =>
        RunAction.tell (event .error "migration failed" [("error", .shown e.message)])
        r.abort
        throw e) := by
  intro run
  refine Ends.bind (p := fun result mid => match result with
    | .ok inner => ∃ log, mid.calls = run.calls ++ log ∧
      Performs (fun _ => []) (r.batchScript direction batch) inner log
    | .error _ => False) ?_ ?_ ?_
  · exact ends_outcome.mpr ((applyAll_follows hr direction 0 batch run).mono fun _ _ h => h)
  · rintro (e | _) mid ⟨log, hmid, hperforms⟩
    · cases hperforms with
      | broken hcut hrecovers =>
      obtain rfl := List.map_eq_nil_iff.mp hrecovers
      refine ends_of_quiet (quiet_tell _) fun told htold => ?_
      refine (abort_calls hr told).bind ?_ ?_
      · rintro _ next ⟨-, recovered, hnext, hrecovered⟩
        refine ⟨_, ?_, .broken (by rw [hcut, List.append_assoc]; rfl) hrecovered⟩
        show next.calls = _
        rw [hnext, calls_of_sameWorld htold, hmid]
        simp
      · rintro failed next ⟨hfailed, -⟩
        simp at hfailed
    · cases hperforms
      have hcommit : Follows (fun _ => r.rollbackScript) (r.closingScript ++ [])
          (r.commit >>= fun _ => r.enter .committed) :=
        (commit_follows hr).bind fun _ => .of_quiet (quiet_enter r _)
      rw [List.append_nil] at hcommit
      refine (hcommit mid).mono ?_
      rintro result next ⟨log, hnext, hperforms⟩
      exact ⟨_, by rw [hnext, hmid, List.append_assoc], hperforms.after⟩
  · rintro e mid hmid
    exact hmid.elim

theorem begin_not_mem_batchScript (htx : r.transactional = false) (direction : Direction)
    (batch : List PlannedMigration) : .begin ∉ r.batchScript direction batch := by
  intro hmem
  obtain ⟨st, -, hst⟩ := List.mem_map.mp hmem
  have hpinned : r.batchOptions.pinned = true := by
    injection hst with _ _ hoptions
    rw [hoptions]
  simp [batchOptions, htx] at hpinned

theorem runBatch_plain (hr : r.adapter = a.traced) (htx : r.transactional = false)
    (direction : Direction) (batch : List PlannedMigration) :
    Follows (fun _ => []) (r.openingScript ++ (r.batchScript direction batch ++ r.closingScript))
      (r.runBatch direction batch) := by
  have hcarried := carried_follows hr direction batch
  rw [show r.rollbackScript = [] by simp [rollbackScript, htx]] at hcarried
  unfold runBatch openingScript
  rw [htx]
  cases r.dryRun with
  | true => exact hcarried
  | false => exact (getClient_follows hr rfl).bind fun _ => hcarried

theorem runBatch_follows (hr : r.adapter = a.traced) (direction : Direction)
    (batch : List PlannedMigration) :
    Follows rescue (r.openingScript ++ (r.batchScript direction batch ++ r.closingScript))
      (r.runBatch direction batch) := by
  cases htx : r.transactional with
  | false =>
    refine (runBatch_plain hr htx direction batch).congr fun before hbefore => ?_
    have hbegin : .begin ∉ before := by
      intro hmem
      have hscript := hbefore.subset hmem
      have hopening : .begin ∉ r.openingScript := by
        cases hdry : r.dryRun <;> simp [openingScript, htx, hdry, AdapterCall.begin, AdapterCall.control]
      simp [closingScript, htx, hopening, begin_not_mem_batchScript htx] at hscript
    simp [rescue, hbegin]
  | true =>
    have hdry : r.dryRun = false := by
      simp only [transactional, Bool.and_eq_true, Bool.not_eq_true'] at htx
      exact htx.2
    have hcarried := carried_follows hr direction batch
    rw [show r.rollbackScript = [.rollback] by simp [rollbackScript, htx]] at hcarried
    have hbegin : Follows (fun before => rescue ([.getClient] ++ before))
        ([.begin] ++ (r.batchScript direction batch ++ r.closingScript)) _ :=
      (Follows.of_adds rfl (control_adds hr htx "BEGIN")).bind fun _ => hcarried.congr fun before _ => by
        simp [rescue, AdapterCall.begin]
    unfold runBatch openingScript
    rw [htx, hdry]
    exact (getClient_follows hr rfl).bind fun _ => hbegin

end Runner

end SchemaMigration
