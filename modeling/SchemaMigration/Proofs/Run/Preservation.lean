import SchemaMigration.Proofs.Run.Commands

/-!
# What whole runs preserve

A run is made of calls of the adapter. What every call preserves, all bodies of commands
preserve, however they end.
-/

namespace SchemaMigration

variable {δ α β : Type} {R : Run δ → Run δ → Prop}

/-- A relation between the run before and the run after, in which only the files and the
database count. -/
class Frame (R : Run δ → Run δ → Prop) : Prop where
  same : ∀ {run next}, SameWorld run next → R run next
  trans : ∀ {first second third}, R first second → R second third → R first third

/-- The files do not count. -/
def Fileless (R : Run δ → Run δ → Prop) : Prop :=
  ∀ run next, next.session.database = run.session.database → R run next

/-- However the action ends, the runs before and after it are related. -/
def Preserves (R : Run δ → Run δ → Prop) (a : RunAction δ α) : Prop :=
  ∀ run, Ends a run fun _ next => R run next

namespace Preserves

theorem outcome {a : RunAction δ α} (h : Preserves R a) : Preserves R (RunAction.outcome a) :=
  fun run => ends_outcome.mpr (h run)

theorem of_rows {call : Action δ α} {f : α → Action δ β}
    (h : Preserves R (RunAction.ofAction call)) (hf : ∀ x, ∃ y, f x = Pure.pure y) :
    Preserves R (RunAction.ofAction (call >>= f)) := by
  intro run
  refine ends_ofAction.mpr ((ends_ofAction.mp (h run)).bind ?_ ?_)
  · intro x t ht
    obtain ⟨y, hy⟩ := hf x
    rw [hy]
    exact ht
  · intro e t ht
    exact ht

variable [hR : Frame R]

theorem bind {a : RunAction δ α} {f : α → RunAction δ β} (ha : Preserves R a)
    (hf : ∀ x, Preserves R (f x)) : Preserves R (a >>= f) := by
  intro run
  refine (ha run).bind ?_ ?_
  · intro x next hnext
    exact (hf x next).mono fun _ _ hlast => hR.trans hnext hlast
  · intro e next hnext
    exact hnext

theorem ite_bind {c : Prop} [Decidable c] {a a' : RunAction δ α} {f : α → RunAction δ β}
    (ha : c → Preserves R a) (ha' : ¬c → Preserves R a') (hf : ∀ x, Preserves R (f x)) :
    Preserves R (if c then a >>= f else a' >>= f) := by
  split
  · next hc => exact (ha hc).bind hf
  · next hc => exact (ha' hc).bind hf

theorem when_bind {c : Prop} [Decidable c] {a : RunAction δ Unit} {f : Unit → RunAction δ β}
    (ha : c → Preserves R a) (hf : Preserves R (f ())) :
    Preserves R (if c then a >>= f else f ()) := by
  split
  · next hc => exact (ha hc).bind fun _ => hf
  · exact hf

theorem pure (x : α) : Preserves R (pure x : RunAction δ α) :=
  fun run => hR.same (.refl run)

theorem throw (e : MigrationError) : Preserves R (throw e : RunAction δ α) :=
  fun run => hR.same (.refl run)

theorem of_quiet {a : RunAction δ Unit} (h : Quiet a) : Preserves R a := fun run =>
  (h run).mono fun _ _ ⟨_, hnext⟩ => hR.same hnext

theorem of_gives {a : RunAction δ α} {x : Run δ → Except MigrationError α}
    (h : ∀ run, Runner.Gives a (x run) run) : Preserves R a := fun run =>
  (h run).mono fun _ _ ⟨_, hnext⟩ => hR.same hnext

end Preserves

namespace Runner

variable {r : Runner δ}

/-- The options of a statement of a batch: of a dry run if the runner makes one, and
pinned in a transaction. -/
structure Suits (r : Runner δ) (options : QueryOptions) : Prop where
  dryRun : options.dryRun = r.dryRun
  pinned : r.transactional = true → options.pinned = true

theorem suits_batchOptions : r.Suits r.batchOptions := ⟨rfl, id⟩

theorem suits_pinned : r.Suits (Adapter.pinned r.batchOptions) := ⟨rfl, fun _ => rfl⟩

/-- Whatever the runner does before its cleanup preserves the relation. A dry run makes no
directory and acquires no client. -/
structure Permits (r : Runner δ) (R : Run δ → Run δ → Prop) : Prop where
  files : r.dryRun = false → Fileless R
  getClient : r.dryRun = false → Preserves R (RunAction.ofAction r.adapter.getClient)
  query : ∀ sql params options, r.Suits options →
    Preserves R (RunAction.ofAction (r.adapter.query sql params options))

theorem execute_preserves (h : r.Permits R) (sql : String) (params : List SqlValue)
    {options : QueryOptions} (hoptions : r.Suits options) :
    Preserves R (RunAction.ofAction (r.adapter.execute sql params options)) :=
  (h.query sql params options hoptions).of_rows fun _ => ⟨(), rfl⟩

variable [hR : Frame R]

theorem checkDialect_preserves : Preserves R r.checkDialect := fun run =>
  checkDialect_spec.mono fun _ _ ⟨hnext, _⟩ => hR.same (hnext ▸ .refl run)

theorem discover_preserves {createMissing : Bool} (hfiles : createMissing = true → Fileless R) :
    Preserves R (r.discover createMissing) := by
  refine fun run => (discover_spec createMissing).mono ?_
  rintro result next ⟨-, hf, hd⟩
  cases createMissing with
  | true => exact hfiles rfl run next hd
  | false => exact hR.same ⟨hf, hd⟩

theorem readLedger_preserves (h : r.Permits R) : Preserves R r.readLedger := by
  unfold readLedger
  refine Preserves.when_bind (fun htx => ?_) ?_
  · have hdry : r.dryRun = false := by
      simp only [transactional, Bool.and_eq_true, Bool.not_eq_true'] at htx
      exact htx.2
    exact h.getClient hdry
  · exact (execute_preserves h _ _ suits_batchOptions).bind fun _ =>
      (h.query _ _ _ suits_batchOptions).of_rows fun _ => ⟨_, rfl⟩

/-! ## Batches -/

theorem sendSteps_preserves (h : r.Permits R) (steps : List Step) :
    Preserves R (r.sendSteps steps) := by
  induction steps with
  | nil => exact .pure ()
  | cons s rest ih =>
    refine (Preserves.of_quiet (quiet_print _)).bind fun _ => ?_
    exact (execute_preserves h _ _ suits_batchOptions).bind fun _ => ih

theorem writeLedger_preserves (h : r.Permits R) (direction : Direction) (id : String) :
    Preserves R (r.writeLedger direction id) := by
  unfold writeLedger
  split
  · exact .pure ()
  · cases direction with
    | up => exact execute_preserves h _ _ suits_batchOptions
    | down => exact execute_preserves h _ _ suits_batchOptions

theorem applyAll_preserves (h : r.Permits R) (direction : Direction) (number : Nat)
    (batch : List PlannedMigration) : Preserves R (r.applyAll direction number batch) := by
  induction batch generalizing number with
  | nil => exact .pure ()
  | cons p rest ih =>
    refine (Preserves.of_quiet (quiet_enter r _)).bind fun _ => ?_
    refine (Preserves.of_quiet (quiet_print _)).bind fun _ => ?_
    refine (sendSteps_preserves h p.steps).bind fun _ => ?_
    refine (writeLedger_preserves h direction p.id).bind fun _ => ?_
    exact (Preserves.of_quiet (quiet_print _)).bind fun _ => ih _

theorem abort_preserves (h : r.Permits R) : Preserves R r.abort := by
  have henter : Preserves R (r.enter .rolledBack) := .of_quiet (quiet_enter r _)
  unfold abort
  cases r.transactional with
  | true =>
    refine Preserves.bind (execute_preserves h _ _ suits_pinned).outcome ?_
    rintro (e | _)
    · exact (Preserves.of_quiet (quiet_tell _)).bind fun _ => henter
    · exact henter
  | false => exact henter

theorem commit_preserves (h : r.Permits R) : Preserves R r.commit := by
  unfold commit
  split
  · refine Preserves.bind (execute_preserves h _ _ suits_pinned).outcome ?_
    rintro (e | _)
    · exact (abort_preserves h).bind fun _ => .throw e
    · exact .pure ()
  · exact .pure ()

theorem runBatch_preserves (h : r.Permits R) (direction : Direction) (batch : List PlannedMigration) :
    Preserves R (r.runBatch direction batch) := by
  unfold runBatch
  refine Preserves.when_bind (fun hdry => h.getClient (by simpa using hdry)) ?_
  refine Preserves.when_bind (fun _ => execute_preserves h _ _ suits_pinned) ?_
  refine (applyAll_preserves h direction 0 batch).outcome.bind ?_
  rintro (e | _)
  · refine (Preserves.of_quiet (quiet_tell _)).bind fun _ => ?_
    exact (abort_preserves h).bind fun _ => .throw e
  · exact (commit_preserves h).bind fun _ => .of_quiet (quiet_enter r _)

/-! ## Bodies -/

theorem migrateBody_preserves (h : r.Permits R) : Preserves R r.migrateBody := by
  unfold migrateBody
  refine checkDialect_preserves.bind fun _ => ?_
  refine (discover_preserves fun hmakes => h.files (by simpa using hmakes)).bind fun all => ?_
  refine (Preserves.of_quiet (quiet_announceDryRun r)).bind fun _ => ?_
  refine (Preserves.of_quiet (quiet_enter r _)).bind fun _ => ?_
  refine Preserves.ite_bind (fun _ => .pure []) (fun _ => readLedger_preserves h) fun completed => ?_
  dsimp only
  split
  · exact (Preserves.of_quiet (quiet_print _)).bind fun _ => .pure _
  · refine (Preserves.of_quiet (quiet_print _)).bind fun _ => ?_
    refine (Preserves.of_gives fun run => r.planBatch_spec .up _).bind fun batch => ?_
    refine (runBatch_preserves h .up batch).bind fun _ => ?_
    exact (Preserves.of_quiet (quiet_print _)).bind fun _ => .pure _

theorem rollbackBody_preserves (h : r.Permits R) : Preserves R r.rollbackBody := by
  unfold rollbackBody
  refine checkDialect_preserves.bind fun _ => (discover_preserves (by simp)).bind fun all => ?_
  refine (Preserves.of_quiet (quiet_announceDryRun r)).bind fun _ => ?_
  refine (Preserves.of_quiet (quiet_enter r _)).bind fun _ => ?_
  refine Preserves.ite_bind (fun _ => .pure all) (fun _ => readLedger_preserves h) fun completed => ?_
  dsimp only
  split
  · exact (Preserves.of_quiet (quiet_print _)).bind fun _ => .pure _
  · next last _ =>
    refine (Preserves.of_gives fun run => r.planMigration_spec .down last).bind fun p => ?_
    exact (runBatch_preserves h .down [p]).bind fun _ => .pure _

theorem resetBody_preserves (h : r.Permits R)
    (hdrop : Preserves R (RunAction.ofAction (r.adapter.dropAll r.options))) :
    Preserves R r.resetBody := by
  unfold resetBody
  refine checkDialect_preserves.bind fun _ => ?_
  refine (Preserves.of_quiet (quiet_print _)).bind fun _ => ?_
  refine (Preserves.of_quiet (quiet_print _)).bind fun _ => hdrop.bind fun _ => ?_
  refine (Preserves.of_quiet (quiet_print _)).bind fun _ => ?_
  refine (Preserves.of_quiet (quiet_print _)).bind fun _ => ?_
  refine (migrateBody_preserves h).bind fun _ => ?_
  exact (Preserves.of_quiet (quiet_print _)).bind fun _ => .pure _

theorem command_preserves {body : RunAction δ α} (hbody : Preserves R body)
    (hrelease : Preserves R (RunAction.ofAction r.adapter.releaseClient))
    (hdisconnect : Preserves R (RunAction.ofAction r.adapter.disconnect)) :
    Preserves R (r.command body) := by
  have htolerate : ∀ complaint (call : Action δ Unit), Preserves R (RunAction.ofAction call) →
      Preserves R (tolerate complaint call) := by
    intro complaint call hcall
    refine hcall.outcome.bind ?_
    rintro (e | _)
    · exact .of_quiet (quiet_tell _)
    · exact .pure ()
  refine hbody.outcome.bind fun result => ?_
  refine ((htolerate _ _ hrelease).bind fun _ => htolerate _ _ hdisconnect).bind fun _ => ?_
  exact fun run => hR.same (.refl run)

end Runner

end SchemaMigration
