import SchemaMigration.Proofs.Migration.Catalog
import SchemaMigration.Proofs.Run.Calls

/-!
# What a command finds out first

A migrate or a rollback begins with a survey: which migrations there are, and which of them
are applied. Of these two lists it makes a plan, and the plan it carries out as one batch.
-/

namespace SchemaMigration.Runner

open Console

variable {δ : Type}

/-! ## The parts of a command -/

section Parts

variable (r : Runner δ)

/-- Only a migrate makes the directory of the migrations, and only if it is no dry run. -/
def makesDirectory : Direction → Bool
  | .up => !r.dryRun
  | .down => false

/-- What a dry run takes the ledger to hold, of all migrations that there are. -/
def assumedLedger : Direction → List String → List String
  | .up, _ => []
  | .down, all => all

/-- Finds all migrations and those that are applied. -/
def survey (direction : Direction) : RunAction δ (List String × List String) := do
  r.checkDialect
  let all ← r.discover (r.makesDirectory direction)
  r.announceDryRun
  r.enter .diffing
  let completed ← if r.dryRun then pure (assumedLedger direction all) else r.readLedger
  return (all, completed)

/-- The migrations to be carried out: those that are not applied yet, or the greatest of
those that are. -/
def targets : Direction → List String × List String → List String
  | .up, found => found.1.filter (· ∉ found.2)
  | .down, found => (Catalog.sortIds found.2).getLast?.toList

def applyPending (pending : List String) : RunAction δ MigrateOutcome := do
  if pending = [] then
    RunAction.print (success "Database is up to date.")
    return .upToDate
  RunAction.print (info ("Found " ++ toString pending.length ++ " pending migrations."))
  let batch ← r.planBatch .up pending
  r.runBatch .up batch
  RunAction.print (success "All migrations completed successfully.")
  return .applied pending

def revertLast (completed : List String) : RunAction δ RollbackOutcome :=
  match (Catalog.sortIds completed).getLast? with
  | none => do
    RunAction.print (warning "There are no applied migrations to roll back.")
    return .nothingToRollback
  | some last => do
    let planned ← r.planMigration .down last
    r.runBatch .down [planned]
    return .rolledBack last

theorem targets_sorted {direction : Direction} {found : List String × List String}
    {createMissing : Bool} {tree : Files.FileTree}
    (h : r.catalog.discovery createMissing tree = .ok found.1) :
    (targets direction found).Pairwise (· ≤ ·) := by
  cases direction with
  | up =>
    obtain ⟨⟨files, -, hall⟩, -⟩ := Catalog.discover_spec (discover_of_discovery h)
    have hsorted : found.1.Pairwise (· ≤ ·) := hall ▸ Catalog.sortIds_sorted _
    exact hsorted.filter _
  | down =>
    unfold targets
    cases (Catalog.sortIds found.2).getLast? <;> simp

theorem targets_congr {direction : Direction} {all completed other : List String}
    (h : ∀ id, id ∈ completed ↔ id ∈ other) :
    targets direction (all, completed) = targets direction (all, other) := by
  cases direction with
  | up => simp only [targets, h]
  | down => simp only [targets, Catalog.getLast?_sortIds_congr h]

theorem migrateBody_eq : r.migrateBody =
    r.survey .up >>= fun found => r.applyPending (targets .up found) := by
  unfold migrateBody survey makesDirectory assumedLedger targets
  simp only [bind_assoc, pure_bind]
  cases r.dryRun with
  | true => rfl
  | false =>
    simp only [Bool.false_eq_true, if_false, bind_assoc, pure_bind]
    rfl

theorem rollbackBody_eq : r.rollbackBody =
    r.survey .down >>= fun found => r.revertLast found.2 := by
  unfold rollbackBody survey makesDirectory assumedLedger
  simp only [bind_assoc, pure_bind]
  cases r.dryRun with
  | true => rfl
  | false =>
    simp only [Bool.false_eq_true, if_false, bind_assoc, pure_bind]
    rfl

end Parts

/-! ## The survey -/

section Survey

variable {r : Runner δ} {run : Run δ} {direction : Direction}
variable {post : Except MigrationError (List String × List String) → Run δ → Prop}

theorem survey_rule
    (hmismatch : r.catalog.dialect ≠ r.adapter.dialect →
      post (.error (.configuration (.dialectMismatch r.catalog.dialect r.adapter.dialect))) run)
    (hundiscovered : ∀ e next, r.catalog.dialect = r.adapter.dialect →
      r.catalog.discovery (r.makesDirectory direction) run.session.files = .error e →
      next.session.database = run.session.database → post (.error e) next)
    (hread : ∀ all next, r.catalog.dialect = r.adapter.dialect →
      r.catalog.discovery (r.makesDirectory direction) run.session.files = .ok all →
      next.session.files = (if r.makesDirectory direction then r.catalog.prepared run.session.files
        else run.session.files) →
      next.session.database = run.session.database →
      Ends (if r.dryRun then pure (assumedLedger direction all) else r.readLedger) next fun result last =>
        post (result.map (all, ·)) last) :
    Ends (r.survey direction) run post := by
  unfold survey
  refine checkDialect_spec.bind ?_ ?_
  swap
  · rintro e next ⟨rfl, he⟩
    split at he
    · simp at he
    · next hdialect =>
      obtain rfl := Except.error.inj he
      exact hmismatch hdialect
  rintro _ run₀ ⟨rfl, hok⟩
  have hdialect : r.catalog.dialect = r.adapter.dialect := by
    by_contra hne
    simp [hne] at hok
  refine (discover_spec _).bind ?_ ?_
  swap
  · rintro e next ⟨he, -, hd⟩
    exact hundiscovered e next hdialect he.symm hd
  rintro all run₁ ⟨hall, hf₁, hd₁⟩
  refine ends_of_quiet (quiet_announceDryRun r) fun run₂ h₂ => ?_
  refine ends_of_quiet (quiet_enter r _) fun run₃ h₃ => ?_
  have hfiles := h₃.files.trans (h₂.files.trans hf₁)
  have hdatabase := h₃.database.trans (h₂.database.trans hd₁)
  have hlast := hread all run₃ hdialect hall.symm hfiles hdatabase
  -- The two ways to get the ids go on alike, so the branch does not matter here.
  cases hdry : r.dryRun with
  | true =>
    rw [hdry] at hlast
    exact hlast
  | false =>
    rw [hdry] at hlast
    exact hlast.bind (fun _ _ h => h) fun _ _ h => h

theorem survey_mismatch (hdialect : r.catalog.dialect ≠ r.adapter.dialect) :
    Ends (r.survey direction) run fun result next => next = run ∧
      result = .error (.configuration (.dialectMismatch r.catalog.dialect r.adapter.dialect)) :=
  survey_rule (fun _ => ⟨rfl, rfl⟩) (fun _ _ h => absurd h hdialect) fun _ _ h => absurd h hdialect

theorem survey_undiscovered (hdialect : r.catalog.dialect = r.adapter.dialect) {e : MigrationError}
    (he : r.catalog.discovery (r.makesDirectory direction) run.session.files = .error e) :
    Ends (r.survey direction) run fun result next =>
      result = .error e ∧ next.session.database = run.session.database := by
  refine survey_rule (fun h => absurd hdialect h) (fun other next _ hother hd => ?_) ?_
  · obtain rfl := Except.error.inj (he.symm.trans hother)
    exact ⟨rfl, hd⟩
  · intro all next _ hall
    simp [he] at hall

end Survey

section Traced

variable {α : Type} {a : Adapter δ} {r : Runner (Traced δ)} {run : Run (Traced δ)}

/-- The calls of a survey: a dry run makes none. -/
def surveyScript (r : Runner δ) : List AdapterCall := if r.dryRun then [] else r.readingScript

theorem survey_calls (hr : r.adapter = a.traced) (direction : Direction) (run : Run (Traced δ)) :
    Ends (r.survey direction) run fun result next =>
      ∃ log, next.calls = run.calls ++ log ∧ match result with
        | .ok found => r.catalog.dialect = r.adapter.dialect ∧
          r.catalog.discovery (r.makesDirectory direction) run.session.files = .ok found.1 ∧
          log = allMade r.surveyScript
        | .error _ => ∀ call ∈ log, call.1 ∈ r.surveyScript := by
  refine survey_rule (fun _ => ⟨[], by simp⟩) (fun e next _ _ hd => ?_) ?_
  · exact ⟨[], by rw [List.append_nil]; exact congrArg Traced.calls hd, by simp⟩
  intro all next hdialect hall _ hd
  have hcalls : next.calls = run.calls := congrArg Traced.calls hd
  cases hdry : r.dryRun with
  | true =>
    have hscript : r.surveyScript = [] := by simp [surveyScript, hdry]
    exact ⟨[], by rw [List.append_nil]; exact hcalls, hdialect, hall, by rw [hscript]; rfl⟩
  | false =>
    have hscript : r.surveyScript = r.readingScript := by simp [surveyScript, hdry]
    rw [hscript, ← hcalls]
    refine (readLedger_follows hr next).mono ?_
    rintro (e | completed) last ⟨log, hlast, hperforms⟩
    · exact ⟨log, hlast, hperforms.mem_script⟩
    · cases hperforms
      exact ⟨_, hlast, hdialect, hall, rfl⟩

theorem survey_reads {γ σ : Type} {m : Semantics γ} {view : δ → Standing γ}
    {sight : Files.FileTree → σ} {g : γ} (hlaw : Lawful a m view sight)
    (hr : r.adapter = a.traced) (hdry : r.dryRun = false)
    (direction : Direction) {all : List String} (hspeaks : r.catalog.dialect = r.adapter.dialect)
    (hall : r.catalog.discovery (r.makesDirectory direction) run.session.files = .ok all)
    (hv : view run.session.database.inner = .idle g) :
    Ends (r.survey direction) run fun result next =>
      sight next.session.files = sight (if r.makesDirectory direction then
        r.catalog.prepared run.session.files else run.session.files) ∧
      view next.session.database.inner = .idle g ∧
      (∃ log, next.calls = run.calls ++ log ∧ Performs (fun _ => []) r.readingScript result log) ∧
      ∀ found, result = .ok found → found.1 = all ∧ found.2.Perm (m.ledger g) := by
  have htraced : Lawful r.adapter m (fun d => view d.inner) sight := hr ▸ hlaw.traced
  refine survey_rule (fun h => absurd hspeaks h) (fun e _ _ he _ => by simp [hall] at he) ?_
  intro all' next _ hall' hf hd
  obtain rfl : all = all' := Except.ok.inj (hall.symm.trans hall')
  have hcalls : next.calls = run.calls := congrArg Traced.calls hd
  rw [hdry, if_neg (by simp), ← hcalls]
  refine (Ends.and (readLedger_spec htraced hdry (by rw [hd, hv])) (readLedger_follows hr next)).mono ?_
  rintro result last ⟨⟨hkept, hw, hperm⟩, log, hlog, hperforms⟩
  refine ⟨by rw [hkept, hf], hw, ⟨log, hlog, hperforms.map _⟩, fun found hfound => ?_⟩
  obtain ⟨completed, rfl, rfl⟩ := map_eq_ok.mp hfound
  exact ⟨rfl, hperm completed rfl⟩

/-! ## The plan -/

/-- The calls for a batch, unless there is nothing to do. -/
def carryScript (r : Runner δ) (direction : Direction) (batch : List PlannedMigration) :
    List AdapterCall :=
  if batch = [] then [] else r.openingScript ++ (r.batchScript direction batch ++ r.closingScript)

/-- The migrations are planned, and if all of them can be, they are carried out as one
batch. -/
def CarriesOut (r : Runner (Traced δ)) (direction : Direction) (ids : List String) (outcome : α)
    (x : RunAction (Traced δ) α) : Prop :=
  ∀ run, Ends x run fun result next =>
    match ids.mapM (r.catalog.planned r.adapter.dialect run.session.files direction) with
    | .error e => result = .error e ∧ next.calls = run.calls
    | .ok batch => ∃ log, next.calls = run.calls ++ log ∧
      Performs rescue (r.carryScript direction batch) result log ∧
      ∀ y, result = .ok y → y = outcome

theorem carriesOut_nothing {finish : RunAction (Traced δ) α} {outcome : α} (direction : Direction)
    (h : ∀ run, Gives finish (.ok outcome) run) : r.CarriesOut direction [] outcome finish := by
  intro run
  refine (h run).mono ?_
  rintro result next ⟨rfl, hnext⟩
  refine ⟨[], by rw [calls_of_sameWorld hnext, List.append_nil], .through _, fun y hy => ?_⟩
  exact (Except.ok.inj hy).symm

theorem runBatch_finish (hr : r.adapter = a.traced) (direction : Direction)
    {batch : List PlannedMigration} (hbatch : batch ≠ []) {finish : RunAction (Traced δ) α}
    {outcome : α} (hfinish : ∀ run, Gives finish (.ok outcome) run) :
    Ends (r.runBatch direction batch >>= fun _ => finish) run fun result next =>
      ∃ log, next.calls = run.calls ++ log ∧
        Performs rescue (r.carryScript direction batch) result log ∧
        ∀ y, result = .ok y → y = outcome := by
  rw [carryScript, if_neg hbatch]
  refine (runBatch_follows hr direction batch run).bind ?_ ?_
  · rintro _ mid ⟨log, hmid, hperforms⟩
    refine (hfinish mid).mono ?_
    rintro result next ⟨rfl, hnext⟩
    refine ⟨log, by rw [calls_of_sameWorld hnext, hmid], hperforms.map fun _ => outcome, ?_⟩
    exact fun y hy => (Except.ok.inj hy).symm
  · rintro e next ⟨log, hnext, hperforms⟩
    exact ⟨log, hnext, hperforms.map fun _ => outcome, fun y hy => by simp at hy⟩

theorem ne_nil_of_mapM {ε β : Type} {f : α → Except ε β} {xs : List α} {ys : List β}
    (h : xs.mapM f = .ok ys) (hxs : xs ≠ []) : ys ≠ [] := by
  rintro rfl
  exact hxs (List.forall₂_nil_right_iff.mp (forall₂_of_mapM h))

/-- What a migrate of the given migrations reports. -/
def appliedOutcome (ids : List String) : MigrateOutcome :=
  if ids = [] then .upToDate else .applied ids

theorem applyPending_carriesOut (hr : r.adapter = a.traced) (pending : List String) :
    r.CarriesOut .up pending (appliedOutcome pending) (r.applyPending pending) := by
  unfold applyPending
  by_cases hnone : pending = []
  · rw [if_pos hnone, appliedOutcome, if_pos hnone, hnone]
    exact carriesOut_nothing .up fun _ => gives_of_quiet (quiet_print _) fun _ _ => gives_pure _
  rw [if_neg hnone, appliedOutcome, if_neg hnone]
  intro run
  refine ends_of_quiet (quiet_print _) fun told htold => ?_
  refine Ends.bind (r.planBatch_spec .up pending) ?_ ?_
  · rintro batch next ⟨hbatch, hnext⟩
    rw [← htold.files, ← hbatch, ← calls_of_sameWorld (htold.trans hnext)]
    refine runBatch_finish hr .up (ne_nil_of_mapM hbatch.symm hnone) fun _ => ?_
    exact gives_of_quiet (quiet_print _) fun _ _ => gives_pure _
  · rintro e next ⟨he, hnext⟩
    rw [← htold.files, ← he]
    exact ⟨rfl, calls_of_sameWorld (htold.trans hnext)⟩

/-- What a rollback of the given migrations, one or none, reports. -/
def revertedOutcome (ids : List String) : RollbackOutcome :=
  match ids.head? with
  | none => .nothingToRollback
  | some id => .rolledBack id

theorem revertLast_carriesOut (hr : r.adapter = a.traced) (found : List String × List String) :
    r.CarriesOut .down (targets .down found) (revertedOutcome (targets .down found))
      (r.revertLast found.2) := by
  have htargets : targets .down found = (Catalog.sortIds found.2).getLast?.toList := rfl
  rw [htargets]
  unfold revertLast
  cases (Catalog.sortIds found.2).getLast? with
  | none => exact carriesOut_nothing .down fun _ =>
      gives_of_quiet (quiet_print _) fun _ _ => gives_pure _
  | some last =>
    intro run
    rw [Option.toList_some, mapM_singleton]
    refine Ends.bind (r.planMigration_spec .down last) ?_ ?_
    · rintro p next ⟨hp, hnext⟩
      rw [← hp, ← calls_of_sameWorld hnext]
      exact runBatch_finish hr .down (List.cons_ne_nil p []) fun _ => gives_pure _
    · rintro e next ⟨he, hnext⟩
      rw [← he]
      exact ⟨rfl, calls_of_sameWorld hnext⟩

end Traced

end SchemaMigration.Runner
