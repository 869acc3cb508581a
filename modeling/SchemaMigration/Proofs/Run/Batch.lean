import SchemaMigration.Proofs.Database.Contract
import SchemaMigration.Proofs.Run.Plan

/-!
# What a batch does to the database

One spec for each part of a batch. Inside a transaction a batch that fails leaves what is
durable alone; a batch that succeeds leaves the effects of all its statements.
-/

namespace SchemaMigration

namespace PlannedMigration

def statements (p : PlannedMigration) : List Statement := p.steps.map (·.statement)

/-- All that is sent for the migration, the write to the ledger last. -/
def writes (dialect : Dialect) (direction : Direction) (p : PlannedMigration) : List Statement :=
  p.statements ++ [Ledger.entry dialect direction p.id]

end PlannedMigration

/-! ## What a part of a run leaves behind -/

section Leaves

variable {δ γ σ α β : Type} {view : δ → Standing γ} {sight : Files.FileTree → σ} {run : Run δ}
variable {a : RunAction δ α}

/-- The files in sight stay as they are, and `post` holds of the result and of the database. -/
def Leaves (view : δ → Standing γ) (sight : Files.FileTree → σ) (a : RunAction δ α) (run : Run δ)
    (post : Except MigrationError α → Standing γ → Prop) : Prop :=
  Ends a run fun result next =>
    sight next.session.files = sight run.session.files ∧ post result (view next.session.database)

theorem Leaves.mono {post post' : Except MigrationError α → Standing γ → Prop}
    (h : Leaves view sight a run post) (himp : ∀ result w, post result w → post' result w) :
    Leaves view sight a run post' :=
  Ends.mono h fun _ _ ⟨hf, hp⟩ => ⟨hf, himp _ _ hp⟩

theorem Leaves.bind {f : α → RunAction δ β} {p : Except MigrationError α → Standing γ → Prop}
    {post : Except MigrationError β → Standing γ → Prop} (h : Leaves view sight a run p)
    (hok : ∀ x next, sight next.session.files = sight run.session.files →
      p (.ok x) (view next.session.database) → Leaves view sight (f x) next post)
    (herror : ∀ e w, p (.error e) w → post (.error e) w) :
    Leaves view sight (a >>= f) run post := by
  refine Ends.bind h ?_ ?_
  · rintro x next ⟨hf, hmid⟩
    exact Ends.mono (hok x next hf hmid) fun result last ⟨hf', hpost⟩ => ⟨hf'.trans hf, hpost⟩
  · rintro e next ⟨hf, hmid⟩
    exact ⟨hf, herror e _ hmid⟩

theorem leaves_of_quiet {q : RunAction δ Unit} {f : Unit → RunAction δ α}
    {post : Except MigrationError α → Standing γ → Prop} (hq : Quiet q)
    (h : ∀ next, SameWorld run next → Leaves view sight (f ()) next post) :
    Leaves view sight (q >>= f) run post :=
  ends_of_quiet hq fun next hnext =>
    Ends.mono (h next hnext) fun _ _ ⟨hf, hp⟩ => ⟨hf.trans (congrArg sight hnext.files), hp⟩

theorem leaves_of_gives {x : Except MigrationError α} (h : Runner.Gives a x run) :
    Leaves view sight a run fun result w => result = x ∧ w = view run.session.database :=
  Ends.mono h fun _ _ ⟨hx, hw⟩ => ⟨congrArg sight hw.files, hx, congrArg view hw.database⟩

theorem Quiet.leaves {q : RunAction δ Unit} (hq : Quiet q) :
    Leaves view sight q run fun result w => result = .ok () ∧ w = view run.session.database :=
  leaves_of_gives (hq run)

theorem leaves_outcome {post : Except MigrationError (Except MigrationError α) → Standing γ → Prop} :
    Leaves view sight (RunAction.outcome a) run post ↔
      Leaves view sight a run fun result w => post (.ok result) w := Iff.rfl

theorem leaves_pure {x : α} {post : Except MigrationError α → Standing γ → Prop}
    (h : post (.ok x) (view run.session.database)) : Leaves view sight (pure x) run post := ⟨rfl, h⟩

theorem leaves_throw {e : MigrationError} {post : Except MigrationError α → Standing γ → Prop}
    (h : post (.error e) (view run.session.database)) : Leaves view sight (throw e) run post :=
  ⟨rfl, h⟩

theorem leaves_of_changes {change : Standing γ → Standing γ} {call : Action δ α} {v : Standing γ}
    (hv : view run.session.database = v) (h : Changes view sight change call run.session) :
    Leaves view sight (RunAction.ofAction call) run fun
      | .ok _, w => w = change v
      | .error _, w => v.Spares w := by
  subst hv
  refine ends_ofAction.mpr (Ends.mono h ?_)
  rintro (e | x) t ⟨hf, hw⟩
  · exact ⟨hf, hw⟩
  · exact ⟨hf, hw⟩

end Leaves

namespace Runner

variable {δ γ σ : Type} {m : Semantics γ} {view : δ → Standing γ} {sight : Files.FileTree → σ}
variable {run : Run δ} {v : Standing γ} {r : Runner δ}

theorem batchOptions_eq (hdry : r.dryRun = false) : r.batchOptions = r.adapter.batchOptions := by
  simp [batchOptions, Adapter.batchOptions, transactional, hdry]

/-! ## Statements and ledger writes -/

theorem sendSteps_spec (hlaw : Lawful r.adapter m view sight) (hdry : r.dryRun = false)
    (steps : List Step) (hsteps : ∀ s ∈ steps, ¬ m.control s.statement.sql)
    (hv : view run.session.database = v) :
    Leaves view sight (r.sendSteps steps) run fun
      | .ok _, w => w = v.change (m.run (steps.map (·.statement)))
      | .error _, w => ∃ done, done <+: steps.map (·.statement) ∧ (v.change (m.run done)).Spares w := by
  induction steps generalizing run v with
  | nil => exact leaves_pure (hv.trans (Standing.change_id v).symm)
  | cons s rest ih =>
    have hcontrol := hsteps s List.mem_cons_self
    refine leaves_of_quiet (quiet_print _) fun next hnext => ?_
    rw [batchOptions_eq hdry]
    have hv' : view next.session.database = v := by rw [hnext.database, hv]
    refine (leaves_of_changes hv' (hlaw.execute _ s.statement hcontrol)).bind ?_ ?_
    · intro _ last _ hlast
      refine (ih (fun s hs => hsteps s (List.mem_cons_of_mem _ hs)) hlast).mono ?_
      rintro (e | _) w hw
      · obtain ⟨done, hdone, hw⟩ := hw
        rw [Standing.change_change] at hw
        exact ⟨s.statement :: done, by simpa using hdone, hw⟩
      · rw [hw, Standing.change_change]
        rfl
    · intro e w hw
      exact ⟨[], List.nil_prefix, by rwa [show m.run [] = id from rfl, Standing.change_id]⟩

theorem writeLedger_spec (hlaw : Lawful r.adapter m view sight) (hdry : r.dryRun = false)
    (direction : Direction) (id : String) (hv : view run.session.database = v) :
    Leaves view sight (r.writeLedger direction id) run fun
      | .ok _, w => w = v.change (m.effect (Ledger.entry r.adapter.dialect direction id))
      | .error _, w => v.Spares w := by
  unfold writeLedger
  rw [hdry, batchOptions_eq hdry, if_neg (by simp)]
  cases direction with
  | up =>
    refine (leaves_of_changes hv (hlaw.recordId run.session id)).mono ?_
    rintro (e | _) w hw <;> exact hw
  | down =>
    refine (leaves_of_changes hv (hlaw.removeId run.session id)).mono ?_
    rintro (e | _) w hw <;> exact hw

theorem applyAll_spec (hlaw : Lawful r.adapter m view sight) (hdry : r.dryRun = false)
    (direction : Direction) (number : Nat) (batch : List PlannedMigration)
    (hbatch : ∀ p ∈ batch, ∀ st ∈ p.statements, ¬ m.control st.sql)
    (hv : view run.session.database = v) :
    Leaves view sight (r.applyAll direction number batch) run fun
      | .ok _, w =>
        w = v.change (m.run (batch.flatMap (·.writes r.adapter.dialect direction)))
      | .error _, w => ∃ done, done <+: batch.flatMap (·.writes r.adapter.dialect direction) ∧
        (v.change (m.run done)).Spares w := by
  induction batch generalizing run v number with
  | nil => exact leaves_pure (hv.trans (Standing.change_id v).symm)
  | cons p rest ih =>
    have hsteps : ∀ s ∈ p.steps, ¬ m.control s.statement.sql := fun s hs =>
      hbatch p List.mem_cons_self _ (List.mem_map_of_mem hs)
    refine leaves_of_quiet (quiet_enter r _) fun next₁ h₁ => ?_
    refine leaves_of_quiet (quiet_print _) fun next₂ h₂ => ?_
    have hv₂ : view next₂.session.database = v := by rw [h₂.database, h₁.database, hv]
    refine (sendSteps_spec hlaw hdry p.steps hsteps hv₂).bind ?_ ?_
    · intro _ next₃ _ hv₃
      refine (writeLedger_spec hlaw hdry direction p.id hv₃).bind ?_ ?_
      · intro _ next₄ _ hv₄
        refine leaves_of_quiet (quiet_print _) fun next₅ h₅ => ?_
        have hv₅ : view next₅.session.database =
            v.change (m.run (p.writes r.adapter.dialect direction)) := by
          rw [h₅.database, hv₄, PlannedMigration.writes, Semantics.change_run_append]
          rfl
        refine (ih _ (fun q hq => hbatch q (List.mem_cons_of_mem _ hq)) hv₅).mono ?_
        rintro (e | _) w hw
        · obtain ⟨done, hdone, hw⟩ := hw
          refine ⟨p.writes r.adapter.dialect direction ++ done, ?_, ?_⟩
          · simpa using hdone
          · rwa [Semantics.change_run_append]
        · rw [List.flatMap_cons, Semantics.change_run_append]
          exact hw
      · intro e w hw
        refine ⟨p.statements, ?_, hw⟩
        simp [PlannedMigration.writes, List.append_assoc]
    · rintro e w ⟨done, hdone, hw⟩
      refine ⟨done, hdone.trans ?_, hw⟩
      simp [PlannedMigration.writes, PlannedMigration.statements, List.append_assoc]

/-! ## The transaction -/

theorem transactional_eq (htx : r.adapter.transactional = true) (hdry : r.dryRun = false) :
    r.transactional = true := by
  simp [transactional, htx, hdry]

theorem abort_spec (hlaw : Lawful r.adapter m view sight) (htx : r.adapter.transactional = true)
    (hdry : r.dryRun = false) {g : γ} (hv : (view run.session.database).saved = some g) :
    Leaves view sight r.abort run fun result w => result = .ok () ∧ w.durable = g := by
  have hdurable : (view run.session.database).durable = g := Standing.durable_of_saved hv
  unfold abort
  rw [transactional_eq htx hdry, batchOptions_eq hdry, if_pos rfl]
  refine Leaves.bind (p := fun result w => (∃ x, result = .ok x) ∧ w.durable = g) ?_ ?_ ?_
  · refine leaves_outcome.mpr ((leaves_of_changes rfl (hlaw.rollback _ (by simp [hv]))).mono ?_)
    rintro (e | _) w hw
    · exact ⟨⟨_, rfl⟩, hw.durable_eq.trans hdurable⟩
    · exact ⟨⟨_, rfl⟩, by rw [hw, Standing.durable_giveUp, hdurable]⟩
  · rintro (e | _) next - ⟨-, hw⟩
    · refine leaves_of_quiet (quiet_tell _) fun last hlast => ?_
      refine (quiet_enter r _).leaves.mono ?_
      rintro result w ⟨rfl, rfl⟩
      exact ⟨rfl, by rw [hlast.database, hw]⟩
    · refine (quiet_enter r _).leaves.mono ?_
      rintro result w ⟨rfl, rfl⟩
      exact ⟨rfl, hw⟩
  · rintro e w ⟨⟨x, hx⟩, -⟩
    simp at hx

theorem commit_spec (hlaw : Lawful r.adapter m view sight) (htx : r.adapter.transactional = true)
    (hdry : r.dryRun = false) {c g : γ} (hv : view run.session.database = .within c g) :
    Leaves view sight r.commit run fun
      | .ok _, w => w = .idle c
      | .error _, w => w.durable = g := by
  unfold commit
  rw [transactional_eq htx hdry, batchOptions_eq hdry, if_pos rfl]
  refine Leaves.bind (p := fun
    | .ok (.ok _), w => w = .idle c
    | .ok (.error _), w => w.saved = some g
    | .error _, _ => False) ?_ ?_ ?_
  · refine leaves_outcome.mpr ((leaves_of_changes hv (hlaw.commit _ c g hv)).mono ?_)
    rintro (e | _) w hw
    · exact hw.saved_eq
    · exact hw
  · rintro (e | _) next - hw
    · refine (abort_spec hlaw htx hdry hw).bind ?_ ?_
      · rintro _ last - ⟨-, hlast⟩
        exact leaves_throw hlast
      · rintro e w ⟨he, -⟩
        simp at he
    · exact leaves_pure hw
  · rintro e w h
    exact h.elim

/-- A batch in a transaction: all of it, or nothing. -/
theorem runBatch_spec (hlaw : Lawful r.adapter m view sight) (htx : r.adapter.transactional = true)
    (hdry : r.dryRun = false) (direction : Direction) (batch : List PlannedMigration)
    (hbatch : ∀ p ∈ batch, ∀ st ∈ p.statements, ¬ m.control st.sql) {g : γ}
    (hv : view run.session.database = .idle g) :
    Leaves view sight (r.runBatch direction batch) run fun
      | .ok _, w =>
        w = .idle (m.run (batch.flatMap (·.writes r.adapter.dialect direction)) g)
      | .error _, w => w.durable = g := by
  unfold runBatch
  rw [transactional_eq htx hdry, hdry, batchOptions_eq hdry]
  refine (leaves_of_changes hv (hlaw.getClient _)).bind ?_ ?_
  · rintro _ next₁ - hv₁
    rw [id] at hv₁
    refine (leaves_of_changes hv₁ (hlaw.begin _ (by rw [hv₁]; rfl))).bind ?_ ?_
    · rintro _ next₂ - hv₂
      refine Leaves.bind (p := fun
        | .ok (.ok _), w =>
          w = .within (m.run (batch.flatMap (·.writes r.adapter.dialect direction)) g) g
        | .ok (.error _), w => w.saved = some g
        | .error _, _ => False) ?_ ?_ ?_
      · refine leaves_outcome.mpr ((applyAll_spec hlaw hdry direction 0 batch hbatch hv₂).mono ?_)
        rintro (e | _) w hw
        · obtain ⟨done, -, hw⟩ := hw
          exact hw.saved_eq
        · exact hw
      · rintro (e | _) next₃ - hv₃
        · refine leaves_of_quiet (quiet_tell _) fun next₄ h₄ => ?_
          refine (abort_spec hlaw htx hdry (g := g) (by rw [h₄.database]; exact hv₃)).bind ?_ ?_
          · rintro _ next₅ - ⟨-, h₅⟩
            exact leaves_throw h₅
          · rintro e w ⟨he, -⟩
            simp at he
        · refine (commit_spec hlaw htx hdry hv₃).bind ?_ ?_
          · rintro _ next₄ - hv₄
            refine (quiet_enter r _).leaves.mono ?_
            rintro result w ⟨rfl, rfl⟩
            exact hv₄
          · rintro e w hw
            exact hw
      · rintro e w h
        exact h.elim
    · rintro e w hw
      exact hw.durable_eq
  · rintro e w hw
    exact hw.durable_eq

/-- A batch without a transaction: what was done stays done. -/
theorem runBatch_direct (hlaw : Lawful r.adapter m view sight) (htx : r.transactional = false)
    (hdry : r.dryRun = false) (direction : Direction) (batch : List PlannedMigration)
    (hbatch : ∀ p ∈ batch, ∀ st ∈ p.statements, ¬ m.control st.sql) {g : γ}
    (hv : view run.session.database = .idle g) :
    Leaves view sight (r.runBatch direction batch) run fun
      | .ok _, w => w = .idle (m.run (batch.flatMap (·.writes r.adapter.dialect direction)) g)
      | .error _, w => ∃ done, done <+: batch.flatMap (·.writes r.adapter.dialect direction) ∧
        w = .idle (m.run done g) := by
  unfold runBatch abort commit
  rw [htx, hdry]
  refine (leaves_of_changes hv (hlaw.getClient _)).bind ?_ ?_
  · rintro _ next₁ - hv₁
    rw [id] at hv₁
    refine Leaves.bind (p := fun
      | .ok (.ok _), w =>
        w = .idle (m.run (batch.flatMap (·.writes r.adapter.dialect direction)) g)
      | .ok (.error _), w => ∃ done,
        done <+: batch.flatMap (·.writes r.adapter.dialect direction) ∧ w = .idle (m.run done g)
      | .error _, _ => False) ?_ ?_ ?_
    · refine leaves_outcome.mpr ((applyAll_spec hlaw hdry direction 0 batch hbatch hv₁).mono ?_)
      rintro (e | _) w hw
      · obtain ⟨done, hdone, hw⟩ := hw
        exact ⟨done, hdone, Standing.spares_idle.mp hw⟩
      · exact hw
    · rintro (e | _) next₂ - hv₂
      · refine leaves_of_quiet (quiet_tell _) fun next₃ h₃ => ?_
        refine leaves_of_quiet (quiet_enter r _) fun next₄ h₄ => leaves_throw ?_
        rw [h₄.database, h₃.database]
        exact hv₂
      · refine leaves_of_quiet quiet_pure fun next₃ h₃ => ?_
        refine (quiet_enter r _).leaves.mono ?_
        rintro result w ⟨rfl, rfl⟩
        rw [h₃.database]
        exact hv₂
    · rintro e w h
      exact h.elim
  · rintro e w hw
    exact ⟨[], List.nil_prefix, Standing.spares_idle.mp hw⟩

theorem runBatch_leaves (hlaw : Lawful r.adapter m view sight) (hdry : r.dryRun = false)
    (direction : Direction) (batch : List PlannedMigration)
    (hbatch : ∀ p ∈ batch, ∀ st ∈ p.statements, ¬ m.control st.sql) {g : γ}
    (hv : view run.session.database = .idle g) :
    Leaves view sight (r.runBatch direction batch) run fun result w => ∀ x, result = .ok x →
      w = .idle (m.run (batch.flatMap (·.writes r.adapter.dialect direction)) g) := by
  cases htx : r.adapter.transactional with
  | true =>
    refine (runBatch_spec hlaw htx hdry direction batch hbatch hv).mono ?_
    rintro (e | _) w hw x hx
    · simp at hx
    · exact hw
  | false =>
    have hdirect : r.transactional = false := by simp [transactional, htx]
    refine (runBatch_direct hlaw hdirect hdry direction batch hbatch hv).mono ?_
    rintro (e | _) w hw x hx
    · simp at hx
    · exact hw

end Runner

end SchemaMigration
