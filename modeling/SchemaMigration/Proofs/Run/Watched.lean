import SchemaMigration.Proofs.Database.Traced

/-!
# Writing calls down changes no run

A command on an adapter whose calls are written down ends as the same command on the
adapter itself, once what was written down is forgotten.
-/

namespace SchemaMigration

section Forgets

variable {σ τ α β : Type} {forget : σ → τ}
variable {x x' : ExceptT MigrationError (StateM σ) α} {y y' : ExceptT MigrationError (StateM τ) α}
variable {f : α → ExceptT MigrationError (StateM σ) β} {g : α → ExceptT MigrationError (StateM τ) β}

/-- Once something of the state is forgotten, the first computation is the second. -/
def Forgets (forget : σ → τ) (x : ExceptT MigrationError (StateM σ) α)
    (y : ExceptT MigrationError (StateM τ) α) : Prop :=
  ∀ s, y.run (forget s) = ((x.run s).1, forget (x.run s).2)

namespace Forgets

theorem bind (h : Forgets forget x y) (hf : ∀ v, Forgets forget (f v) (g v)) :
    Forgets forget (x >>= f) (y >>= g) := by
  intro s
  rw [run_bind, run_bind, h s]
  rcases x.run s with ⟨e | v, t⟩
  · rfl
  · exact hf v t

theorem pure (v : α) : Forgets forget (pure v) (pure v) := fun _ => rfl

theorem throw (e : MigrationError) :
    Forgets (α := α) forget (throw e) (throw e) := fun _ => rfl

theorem ite {c : Prop} [Decidable c] (h : Forgets forget x y) (h' : Forgets forget x' y') :
    Forgets forget (if c then x else x') (if c then y else y') := by
  split
  · exact h
  · exact h'

theorem ite_bind {c : Prop} [Decidable c] (h : Forgets forget x y) (h' : Forgets forget x' y')
    (hf : ∀ v, Forgets forget (f v) (g v)) :
    Forgets forget (if c then x >>= f else x' >>= f) (if c then y >>= g else y' >>= g) :=
  .ite (h.bind hf) (h'.bind hf)

theorem when_bind {c : Prop} [Decidable c] {x : ExceptT MigrationError (StateM σ) Unit}
    {y : ExceptT MigrationError (StateM τ) Unit} {f : Unit → ExceptT MigrationError (StateM σ) β}
    {g : Unit → ExceptT MigrationError (StateM τ) β} (h : Forgets forget x y)
    (hf : Forgets forget (f ()) (g ())) :
    Forgets forget (if c then x >>= f else f ()) (if c then y >>= g else g ()) :=
  .ite (h.bind fun _ => hf) hf

end Forgets

end Forgets

/-! ## Sessions and runs -/

variable {δ α β : Type}

def Run.untraced (run : Run (Traced δ)) : Run δ :=
  { session := run.session.untraced, state := run.state }

/-- The action of a session is the same once the calls are forgotten. -/
abbrev SameAction (x : Action (Traced δ) α) (y : Action δ α) : Prop := Forgets Session.untraced x y

/-- The part of a run is the same once the calls are forgotten. -/
abbrev SameRun (x : RunAction (Traced δ) α) (y : RunAction δ α) : Prop := Forgets Run.untraced x y

theorem SameAction.lift {x : Action (Traced δ) α} {y : Action δ α} (h : SameAction x y) :
    SameRun (RunAction.ofAction x) (RunAction.ofAction y) := by
  intro run
  show ((y.run run.session.untraced).1, (⟨(y.run run.session.untraced).2, run.state⟩ : Run δ)) = _
  rw [h run.session]
  rfl

theorem SameRun.outcome {x : RunAction (Traced δ) α} {y : RunAction δ α} (h : SameRun x y) :
    SameRun (RunAction.outcome x) (RunAction.outcome y) := by
  intro run
  show (Except.ok (y.run run.untraced).1, (y.run run.untraced).2) = _
  rw [h run]
  rfl

theorem sameRun_print (o : Console.Output) :
    SameRun (δ := δ) (RunAction.print o) (RunAction.print o) := fun _ => rfl

theorem sameRun_ofExcept (x : Except MigrationError α) :
    SameRun (δ := δ) (RunAction.ofExcept x) (RunAction.ofExcept x) := fun _ => rfl

theorem sameAction_createDirectories (path : Files.Path) :
    SameAction (δ := δ) (Action.createDirectories path) (Action.createDirectories path) := by
  unfold Action.createDirectories
  refine .bind (fun _ => rfl) fun tree => ?_
  rcases tree.createDirectories path with ⟨_ | e, made⟩
  · exact .bind (fun _ => rfl) fun _ => .pure ()
  · exact .bind (fun _ => rfl) fun _ => .throw _

theorem sameAction_makeDirectory (c : Catalog) :
    SameAction (δ := δ) c.makeDirectory c.makeDirectory := by
  unfold Catalog.makeDirectory
  refine .bind (fun _ => rfl) fun tree => ?_
  cases c.missingDirectory tree with
  | none => exact .pure ()
  | some directory => exact (sameAction_createDirectories directory).bind fun _ _ => rfl

theorem sameAction_discoverFiles (c : Catalog) (createMissing : Bool) :
    SameAction (δ := δ) (c.discoverFiles createMissing) (c.discoverFiles createMissing) := by
  unfold Catalog.discoverFiles
  refine .bind (fun _ => rfl) fun tree => ?_
  cases createMissing with
  | true => exact (sameAction_makeDirectory c).bind fun _ _ => rfl
  | false => exact fun _ => rfl

section Adapters

variable (a : Adapter δ)

theorem sameAction_execute (sql : String) (params : List SqlValue) (options : QueryOptions) :
    SameAction (a.traced.execute sql params options) (a.execute sql params options) :=
  .bind (fun _ => rfl) fun _ => .pure ()

theorem sameAction_readLedger (options : QueryOptions) :
    SameAction (a.traced.readLedger options) (a.readLedger options) :=
  .bind (fun _ => rfl) fun _ => .pure _

end Adapters

namespace Runner

/-! ## The parts of a command -/

variable (a : Adapter δ) (c : Catalog) (dry : Bool)

theorem sameRun_enter (state : RunState) :
    SameRun ((Runner.mk a.traced c dry).enter state) ((Runner.mk a c dry).enter state) := fun _ => rfl

theorem sameRun_checkDialect :
    SameRun (Runner.mk a.traced c dry).checkDialect (Runner.mk a c dry).checkDialect :=
  .ite (.pure ()) (.throw _)

theorem sameRun_announceDryRun :
    SameRun (Runner.mk a.traced c dry).announceDryRun (Runner.mk a c dry).announceDryRun :=
  .ite (sameRun_print _) (.pure ())

theorem sameRun_discover (createMissing : Bool) :
    SameRun ((Runner.mk a.traced c dry).discover createMissing)
      ((Runner.mk a c dry).discover createMissing) :=
  (sameRun_enter a c dry _).bind fun _ => (sameAction_discoverFiles c createMissing).lift

theorem sameRun_readLedger :
    SameRun (Runner.mk a.traced c dry).readLedger (Runner.mk a c dry).readLedger := by
  unfold readLedger
  refine .when_bind (fun _ => rfl) ?_
  exact (sameAction_execute a _ _ _).lift.bind fun _ => (sameAction_readLedger a _).lift

theorem sameRun_planStep (id : String) (op : Operation) :
    SameRun ((Runner.mk a.traced c dry).planStep id op) ((Runner.mk a c dry).planStep id op) := by
  have hwarnings : ∀ events : List Console.Event, SameRun
      (forIn events PUnit.unit fun e _ => do
        RunAction.tell (δ := Traced δ) e
        pure (ForInStep.yield PUnit.unit))
      (forIn events PUnit.unit fun e _ => do
        RunAction.tell (δ := δ) e
        pure (ForInStep.yield PUnit.unit)) := by
    intro events
    induction events with
    | nil => exact .pure _
    | cons e rest ih =>
      rw [List.forIn_cons, List.forIn_cons, bind_assoc, bind_assoc]
      exact .bind (sameRun_print _) fun _ => ih
  unfold planStep
  refine (hwarnings _).bind fun _ => ?_
  dsimp only [Adapter.traced]
  cases op.statement a.dialect with
  | ok statement => exact .pure _
  | error e => exact .bind (sameRun_print _) fun _ => .throw e

theorem sameRun_planSteps (id : String) (ops : List Operation) :
    SameRun ((Runner.mk a.traced c dry).planSteps id ops) ((Runner.mk a c dry).planSteps id ops) := by
  induction ops with
  | nil => exact .pure _
  | cons op rest ih => exact (sameRun_planStep a c dry id op).bind fun _ => ih.bind fun _ => .pure _

theorem sameRun_planMigration (direction : Direction) (id : String) :
    SameRun ((Runner.mk a.traced c dry).planMigration direction id)
      ((Runner.mk a c dry).planMigration direction id) := by
  refine .bind (fun _ => rfl) fun tree => .bind (sameRun_ofExcept _) fun m => ?_
  exact (sameRun_planSteps a c dry m.id _).bind fun _ => .pure _

theorem sameRun_planBatch (direction : Direction) (ids : List String) :
    SameRun ((Runner.mk a.traced c dry).planBatch direction ids)
      ((Runner.mk a c dry).planBatch direction ids) := by
  induction ids with
  | nil => exact .pure _
  | cons id rest ih =>
    exact (sameRun_planMigration a c dry direction id).bind fun _ => ih.bind fun _ => .pure _

theorem sameRun_sendSteps (steps : List Step) :
    SameRun ((Runner.mk a.traced c dry).sendSteps steps) ((Runner.mk a c dry).sendSteps steps) := by
  induction steps with
  | nil => exact .pure ()
  | cons s rest ih =>
    exact .bind (sameRun_print _) fun _ => (sameAction_execute a _ _ _).lift.bind fun _ => ih

theorem sameRun_writeLedger (direction : Direction) (id : String) :
    SameRun ((Runner.mk a.traced c dry).writeLedger direction id)
      ((Runner.mk a c dry).writeLedger direction id) := by
  cases direction with
  | up => exact .ite (.pure ()) (sameAction_execute a _ _ _).lift
  | down => exact .ite (.pure ()) (sameAction_execute a _ _ _).lift

theorem sameRun_applyAll (direction : Direction) (number : Nat) (batch : List PlannedMigration) :
    SameRun ((Runner.mk a.traced c dry).applyAll direction number batch)
      ((Runner.mk a c dry).applyAll direction number batch) := by
  induction batch generalizing number with
  | nil => exact .pure ()
  | cons p rest ih =>
    refine (sameRun_enter a c dry _).bind fun _ => .bind (sameRun_print _) fun _ => ?_
    refine (sameRun_sendSteps a c dry p.steps).bind fun _ => ?_
    refine (sameRun_writeLedger a c dry direction p.id).bind fun _ => ?_
    exact .bind (sameRun_print _) fun _ => ih (number + 1)

theorem sameRun_abort : SameRun (Runner.mk a.traced c dry).abort (Runner.mk a c dry).abort := by
  have henter := sameRun_enter a c dry .rolledBack
  unfold abort
  refine .ite (.bind (sameAction_execute a _ _ _).lift.outcome ?_) henter
  rintro (e | _)
  · exact .bind (sameRun_print _) fun _ => henter
  · exact henter

theorem sameRun_commit : SameRun (Runner.mk a.traced c dry).commit (Runner.mk a c dry).commit := by
  unfold commit
  refine .ite (.bind (sameAction_execute a _ _ _).lift.outcome ?_) (.pure ())
  rintro (e | _)
  · exact (sameRun_abort a c dry).bind fun _ => .throw e
  · exact .pure ()

theorem sameRun_runBatch (direction : Direction) (batch : List PlannedMigration) :
    SameRun ((Runner.mk a.traced c dry).runBatch direction batch)
      ((Runner.mk a c dry).runBatch direction batch) := by
  unfold runBatch
  refine .when_bind (fun _ => rfl) (.when_bind (sameAction_execute a _ _ _).lift ?_)
  refine (sameRun_applyAll a c dry direction 0 batch).outcome.bind ?_
  rintro (e | _)
  · exact .bind (sameRun_print _) fun _ => (sameRun_abort a c dry).bind fun _ => .throw e
  · exact (sameRun_commit a c dry).bind fun _ => sameRun_enter a c dry _

/-! ## The commands -/

theorem sameRun_migrateBody :
    SameRun (Runner.mk a.traced c dry).migrateBody (Runner.mk a c dry).migrateBody := by
  unfold migrateBody
  refine (sameRun_checkDialect a c dry).bind fun _ => (sameRun_discover a c dry _).bind fun all => ?_
  refine (sameRun_announceDryRun a c dry).bind fun _ => (sameRun_enter a c dry _).bind fun _ => ?_
  refine .ite_bind (.pure []) (sameRun_readLedger a c dry) fun completed => ?_
  refine .ite (.bind (sameRun_print _) fun _ => .pure _) (.bind (sameRun_print _) fun _ => ?_)
  refine (sameRun_planBatch a c dry .up _).bind fun batch => ?_
  exact (sameRun_runBatch a c dry .up batch).bind fun _ => .bind (sameRun_print _) fun _ => .pure _

theorem sameRun_rollbackBody :
    SameRun (Runner.mk a.traced c dry).rollbackBody (Runner.mk a c dry).rollbackBody := by
  unfold rollbackBody
  refine (sameRun_checkDialect a c dry).bind fun _ => (sameRun_discover a c dry _).bind fun all => ?_
  refine (sameRun_announceDryRun a c dry).bind fun _ => (sameRun_enter a c dry _).bind fun _ => ?_
  refine .ite_bind (.pure all) (sameRun_readLedger a c dry) fun completed => ?_
  dsimp only
  cases (Catalog.sortIds completed).getLast? with
  | none => exact .bind (sameRun_print _) fun _ => .pure _
  | some last =>
    refine (sameRun_planMigration a c dry .down last).bind fun p => ?_
    exact (sameRun_runBatch a c dry .down [p]).bind fun _ => .pure _

theorem sameRun_statusBody :
    SameRun (Runner.mk a.traced c dry).statusBody (Runner.mk a c dry).statusBody := by
  unfold statusBody
  refine (sameRun_checkDialect a c dry).bind fun _ => (sameRun_discover a c dry _).bind fun all => ?_
  refine (sameRun_enter a c dry _).bind fun _ => (sameAction_execute a _ _ _).lift.bind fun _ => ?_
  exact (sameAction_readLedger a _).lift.bind fun _ => .pure _

theorem sameRun_resetBody :
    SameRun (Runner.mk a.traced c dry).resetBody (Runner.mk a c dry).resetBody := by
  unfold resetBody
  refine (sameRun_checkDialect a c dry).bind fun _ => .bind (sameRun_print _) fun _ => ?_
  refine .bind (sameRun_print _) fun _ => .bind (fun _ => rfl) fun _ => ?_
  refine .bind (sameRun_print _) fun _ => .bind (sameRun_print _) fun _ => ?_
  exact (sameRun_migrateBody a c dry).bind fun _ => .bind (sameRun_print _) fun _ => .pure _

variable {a c dry}

theorem sameRun_command {x : RunAction (Traced δ) α} {y : RunAction δ α} (h : SameRun x y) :
    SameRun ((Runner.mk a.traced c dry).command x) ((Runner.mk a c dry).command y) := by
  have htolerate : ∀ complaint call (action : Action δ Unit),
      SameRun (tolerate complaint (Traced.record call action)) (tolerate complaint action) := by
    intro complaint call action
    refine .bind (SameRun.outcome fun _ => rfl) ?_
    rintro (e | _)
    · exact sameRun_print _
    · exact .pure ()
  have hcleanup : SameRun (Runner.mk a.traced c dry).cleanup (Runner.mk a c dry).cleanup :=
    (htolerate _ _ _).bind fun _ => htolerate _ _ _
  exact h.outcome.bind fun result => hcleanup.bind fun _ => sameRun_ofExcept result

/-- What a run on the traced adapter comes to is what the run comes to. -/
def Comes (watched : Except MigrationError α × RunState × Session (Traced δ))
    (plain : Except MigrationError α × RunState × Session δ) : Prop :=
  plain = (watched.1, watched.2.1, watched.2.2.untraced)

theorem start_watched {x : RunAction (Traced δ) α} {y : RunAction δ α} (h : SameRun x y)
    (s : Session δ) : Comes (x.start s.watched) (y.start s) := by
  have hrun : y.run { session := s } =
      ((x.run { session := s.watched }).1, (x.run { session := s.watched }).2.untraced) :=
    h { session := s.watched }
  rw [Comes, start_eq, start_eq, hrun]
  rfl

/-- Every command ends with the same outcome, in the same state and with the same session,
whether its calls are written down or not. -/
theorem watched_same (a : Adapter δ) (c : Catalog) (dry : Bool) (s : Session δ) :
    let watching : Runner (Traced δ) := ⟨a.traced, c, dry⟩
    let plain : Runner δ := ⟨a, c, dry⟩
    Comes (watching.migrate.start s.watched) (plain.migrate.start s) ∧
      Comes (watching.rollback.start s.watched) (plain.rollback.start s) ∧
      Comes (watching.status.start s.watched) (plain.status.start s) ∧
      Comes (watching.reset.start s.watched) (plain.reset.start s) := by
  refine ⟨start_watched (sameRun_command ?_) s, start_watched (sameRun_command ?_) s,
    start_watched (sameRun_command ?_) s, start_watched (sameRun_command ?_) s⟩
  · exact sameRun_migrateBody a c dry
  · exact sameRun_rollbackBody a c dry
  · exact sameRun_statusBody a c dry
  · exact sameRun_resetBody a c dry

end Runner

end SchemaMigration
