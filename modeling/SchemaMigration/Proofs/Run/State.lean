import SchemaMigration.Proofs.Run.Survey

/-!
# The state of a run

Calls and output leave the state of a run as it is. A survey ends in a state that the catalog and
the files decide, and what follows the opening of a batch is either committed or rolled back.
-/

namespace SchemaMigration

variable {δ α β : Type}

/-- However the action ends, the run is in the state it was in. -/
def KeepsState (x : RunAction δ α) : Prop :=
  ∀ run, Ends x run fun _ next => next.state = run.state

namespace KeepsState

variable {x : RunAction δ α} {f : α → RunAction δ β}

theorem ofAction (call : Action δ α) : KeepsState (RunAction.ofAction call) := fun _ => rfl

theorem pure (v : α) : KeepsState (pure v : RunAction δ α) := fun _ => rfl

theorem throw (e : MigrationError) : KeepsState (throw e : RunAction δ α) := fun _ => rfl

theorem print (o : Console.Output) : KeepsState (RunAction.print o : RunAction δ Unit) :=
  .ofAction _

theorem outcome (h : KeepsState x) : KeepsState (RunAction.outcome x) :=
  fun run => ends_outcome.mpr (h run)

theorem bind (hx : KeepsState x) (hf : ∀ v, KeepsState (f v)) : KeepsState (x >>= f) := by
  intro run
  refine (hx run).bind ?_ ?_
  · intro v mid hmid
    exact (hf v mid).mono fun _ _ hnext => hnext.trans hmid
  · intro e next hnext
    exact hnext

theorem when_bind {c : Prop} [Decidable c] {x : RunAction δ Unit} {f : Unit → RunAction δ β}
    (hx : KeepsState x) (hf : KeepsState (f ())) : KeepsState (if c then x >>= f else f ()) := by
  split
  · exact hx.bind fun _ => hf
  · exact hf

theorem warnings (events : List Console.Event) :
    KeepsState (forIn events PUnit.unit fun e _ => do
      RunAction.tell (δ := δ) e
      Pure.pure (ForInStep.yield PUnit.unit)) := by
  induction events with
  | nil => exact .pure _
  | cons e rest ih =>
    rw [List.forIn_cons, bind_assoc]
    exact (print _).bind fun _ => ih

end KeepsState

theorem ends_print {run : Run δ} {o : Console.Output} {f : Unit → RunAction δ α}
    {post : Except MigrationError α → Run δ → Prop}
    (h : ∀ next, SameWorld run next → next.state = run.state → Ends (f ()) next post) :
    Ends (RunAction.print o >>= f) run post :=
  h _ ⟨rfl, rfl⟩ rfl

namespace Runner

variable {r : Runner δ} {run : Run δ}

/-! ## What keeps the state -/

theorem readLedger_keepsState : KeepsState r.readLedger := by
  unfold readLedger
  exact .when_bind (.ofAction _) ((KeepsState.ofAction _).bind fun _ => .ofAction _)

theorem planSteps_keepsState (id : String) (ops : List Operation) :
    KeepsState (r.planSteps id ops) := by
  induction ops with
  | nil => exact .pure _
  | cons op rest ih =>
    have hstep : KeepsState (r.planStep id op) := by
      unfold planStep
      refine (KeepsState.warnings _).bind fun _ => ?_
      cases op.statement r.adapter.dialect with
      | ok statement => exact .pure _
      | error e => exact (KeepsState.print _).bind fun _ => .throw e
    exact hstep.bind fun step => ih.bind fun steps => .pure _

theorem planMigration_keepsState (direction : Direction) (id : String) :
    KeepsState (r.planMigration direction id) := by
  unfold planMigration
  refine (KeepsState.ofAction _).bind fun tree => (KeepsState.ofAction _).bind fun m => ?_
  exact (planSteps_keepsState m.id _).bind fun steps => .pure _

theorem planBatch_keepsState (direction : Direction) (ids : List String) :
    KeepsState (r.planBatch direction ids) := by
  induction ids with
  | nil => exact .pure _
  | cons id rest ih =>
    exact (planMigration_keepsState direction id).bind fun p => ih.bind fun batch => .pure _

theorem tolerate_keepsState (complaint : String) (call : Action δ Unit) :
    KeepsState (tolerate complaint call) := by
  refine (KeepsState.ofAction call).outcome.bind ?_
  rintro (e | _)
  · exact .print _
  · exact .pure ()

theorem cleanup_keepsState : KeepsState r.cleanup :=
  (tolerate_keepsState _ _).bind fun _ => tolerate_keepsState _ _

/-! ## What enters a state -/

theorem enter_state (state : RunState) :
    Ends (r.enter state) run fun result next => result = .ok () ∧ next.state = state := ⟨rfl, rfl⟩

theorem discover_state (createMissing : Bool) :
    Ends (r.discover createMissing) run fun _ next => next.state = .discovering := by
  refine (enter_state .discovering).bind ?_ ?_
  · rintro _ mid ⟨-, hmid⟩
    exact (KeepsState.ofAction _ mid).mono fun _ _ hnext => hnext.trans hmid
  · rintro e next ⟨-, hnext⟩
    exact hnext

/-- The state in which a survey of these files ends that begins in the given one. -/
def surveyState (r : Runner δ) (createMissing : Bool) (tree : Files.FileTree) (state : RunState) :
    RunState :=
  if r.catalog.dialect = r.adapter.dialect then
    match r.catalog.discovery createMissing tree with
    | .ok _ => .diffing
    | .error _ => .discovering
  else state

section SurveyState

variable {createMissing : Bool} {tree : Files.FileTree} {state : RunState}

theorem surveyState_mismatched (hdiffer : r.catalog.dialect ≠ r.adapter.dialect) :
    r.surveyState createMissing tree state = state := if_neg hdiffer

theorem surveyState_undiscovered {e : MigrationError}
    (hagree : r.catalog.dialect = r.adapter.dialect)
    (hfailed : r.catalog.discovery createMissing tree = .error e) :
    r.surveyState createMissing tree state = .discovering := by
  rw [surveyState, if_pos hagree, hfailed]

theorem surveyState_discovered {all : List String}
    (hagree : r.catalog.dialect = r.adapter.dialect)
    (hdiscovered : r.catalog.discovery createMissing tree = .ok all) :
    r.surveyState createMissing tree state = .diffing := by
  rw [surveyState, if_pos hagree, hdiscovered]

end SurveyState

theorem discovery_state (createMissing : Bool) {f : List String → RunAction δ α}
    (hf : ∀ all mid, Ends (f all) mid fun _ next => next.state = .diffing) :
    Ends (r.checkDialect >>= fun _ => r.discover createMissing >>= f) run fun _ next =>
      next.state = r.surveyState createMissing run.session.files run.state := by
  refine checkDialect_spec.bind ?_ ?_
  swap
  · rintro e next ⟨rfl, he⟩
    split at he
    · simp at he
    · next hdiffer => exact (surveyState_mismatched hdiffer).symm
  rintro _ mid ⟨rfl, hok⟩
  have hagree : r.catalog.dialect = r.adapter.dialect := by
    by_contra hdiffer
    simp [hdiffer] at hok
  refine ((discover_spec createMissing).and (discover_state createMissing)).bind ?_ ?_
  · rintro all next ⟨⟨hall, -⟩, -⟩
    rw [surveyState_discovered hagree hall.symm]
    exact hf all next
  · rintro e next ⟨⟨he, -⟩, hnext⟩
    rw [surveyState_undiscovered hagree he.symm]
    exact hnext

theorem enter_then {state : RunState} {f : Unit → RunAction δ α} (hf : KeepsState (f ())) :
    Ends (r.enter state >>= f) run fun _ next => next.state = state := by
  refine (enter_state state).bind ?_ ?_
  · rintro _ mid ⟨-, hmid⟩
    exact (hf mid).mono fun _ _ hnext => hnext.trans hmid
  · rintro e next ⟨-, hnext⟩
    exact hnext

theorem survey_state (direction : Direction) :
    Ends (r.survey direction) run fun _ next => next.state =
      r.surveyState (r.makesDirectory direction) run.session.files run.state := by
  unfold survey
  refine discovery_state _ fun all mid => ?_
  refine ends_of_quiet (quiet_announceDryRun r) fun told _ => enter_then ?_
  dsimp only
  split
  · exact .pure _
  · exact readLedger_keepsState.bind fun completed => .pure _

theorem statusBody_state :
    Ends r.statusBody run fun _ next =>
      next.state = r.surveyState false run.session.files run.state := by
  unfold statusBody
  refine discovery_state false fun all mid => enter_then ?_
  refine (KeepsState.ofAction _).bind fun _ => (KeepsState.ofAction _).bind fun completed => ?_
  exact .pure _

/-! ## Batches -/

theorem abort_state :
    Ends r.abort run fun result next => result = .ok () ∧ next.state = .rolledBack := by
  unfold abort
  cases r.transactional with
  | false => exact enter_state _
  | true =>
    refine Ends.bind (p := fun result _ => ∃ x, result = .ok x) (ends_outcome.mpr ⟨_, rfl⟩) ?_ ?_
    · rintro (e | _) mid -
      · exact ends_of_quiet (quiet_tell _) fun told _ => enter_state _
      · exact enter_state _
    · rintro e next ⟨x, hx⟩
      simp at hx

theorem commit_state :
    Ends r.commit run fun result next => ∀ e, result = .error e → next.state = .rolledBack := by
  unfold commit
  cases r.transactional with
  | false => exact ends_pure.mpr fun e he => by simp at he
  | true =>
    refine Ends.bind (p := fun result _ => ∃ x, result = .ok x) (ends_outcome.mpr ⟨_, rfl⟩) ?_ ?_
    · rintro (e | _) mid -
      · refine abort_state.bind ?_ ?_
        · rintro _ next ⟨-, hnext⟩ _ -
          exact hnext
        · rintro _ next ⟨-, hnext⟩ _ -
          exact hnext
      · exact ends_pure.mpr fun e he => by simp at he
    · rintro e next ⟨x, hx⟩
      simp at hx

/-- Acquires the client of a batch and begins its transaction. -/
def openBatch (r : Runner δ) : RunAction δ Unit := do
  if !r.dryRun then RunAction.ofAction r.adapter.getClient
  if r.transactional then RunAction.ofAction (r.adapter.begin r.batchOptions)

/-- What follows the opening of a batch. -/
def carryBatch (r : Runner δ) (direction : Direction) (batch : List PlannedMigration) :
    RunAction δ Unit := do
  match ← RunAction.outcome (r.applyAll direction 0 batch) with
  | .ok _ =>
    r.commit
    r.enter .committed
  | .error e =>
    RunAction.tell (event .error "migration failed" [("error", .shown e.message)])
    r.abort
    throw e

theorem runBatch_eq (direction : Direction) (batch : List PlannedMigration) :
    r.runBatch direction batch = r.openBatch >>= fun _ => r.carryBatch direction batch := by
  unfold runBatch openBatch carryBatch
  cases r.dryRun with
  | true => cases r.transactional <;> rfl
  | false =>
    simp only [Bool.not_false, if_true, bind_assoc]
    cases r.transactional <;> rfl

theorem openBatch_keepsState : KeepsState r.openBatch := by
  unfold openBatch
  refine .when_bind (.ofAction _) ?_
  split
  · exact .ofAction _
  · exact .pure _

theorem carryBatch_state (direction : Direction) (batch : List PlannedMigration) :
    Ends (r.carryBatch direction batch) run fun result next =>
      next.state = match result with
        | .ok _ => .committed
        | .error _ => .rolledBack := by
  unfold carryBatch
  refine Ends.bind (p := fun result _ => ∃ x, result = .ok x) (ends_outcome.mpr ⟨_, rfl⟩) ?_ ?_
  swap
  · rintro e next ⟨x, hx⟩
    simp at hx
  rintro (e | _) mid -
  · refine ends_of_quiet (quiet_tell _) fun told _ => abort_state.bind ?_ ?_
    · rintro _ next ⟨-, hnext⟩
      exact hnext
    · rintro _ next ⟨-, hnext⟩
      exact hnext
  · refine commit_state.bind ?_ ?_
    · intro _ next _
      exact (enter_state .committed).mono fun _ last ⟨hok, hlast⟩ => by rw [hok, hlast]
    · intro e next hnext
      exact hnext e rfl

end Runner

end SchemaMigration
