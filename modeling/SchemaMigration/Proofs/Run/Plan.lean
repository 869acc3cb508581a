import SchemaMigration.Proofs.Fallible
import SchemaMigration.Proofs.Run.Outcome

/-!
# What planning gives

Planning reads the files and prints. Its result is a function of the catalog, the
dialect and the files, and the database is not touched.
-/

namespace SchemaMigration

def Operation.planned (dialect : Dialect) (op : Operation) : Except MigrationError Step := do
  let statement ← op.statement dialect
  return ⟨op.describe, statement⟩

/-- The statements of the migration of an id, on the given files. -/
def Catalog.planned (c : Catalog) (dialect : Dialect) (tree : Files.FileTree)
    (direction : Direction) (id : String) : Except MigrationError PlannedMigration := do
  let m ← c.load tree id
  let steps ← (m.operations direction).mapM (Operation.planned dialect)
  return ⟨m.id, steps⟩

/-! ## What a catalog sees of the files -/

/-- The catalog finds the same migrations in both trees. -/
structure Catalog.Agrees (c : Catalog) (tree other : Files.FileTree) : Prop where
  directory : c.missingDirectory other = c.missingDirectory tree
  discover : c.discover other = c.discover tree
  /-- What was discovered is loaded in the same way. -/
  found : ∀ ids, c.discover tree = .ok ids → ∀ id ∈ ids, c.load other id = c.load tree id
  /-- What was not discovered may fail to load in another way. -/
  load : ∀ id mig, c.load other id = .ok mig ↔ c.load tree id = .ok mig

/-- The catalog finds the same in all trees that look like this one. -/
def Catalog.ShownBy {σ : Type} (c : Catalog) (sight : Files.FileTree → σ) (tree : Files.FileTree) :
    Prop := ∀ other, sight other = sight tree → c.Agrees tree other

/-- All that the catalog finds. -/
def Catalog.sight (c : Catalog) (tree : Files.FileTree) :
    Option Files.Path × Except MigrationError (List String) ×
      Except MigrationError (List (Except MigrationError Migration)) × (String → Option Migration) :=
  (c.missingDirectory tree, c.discover tree, (c.discover tree).map (·.map (c.load tree)),
    fun id => (c.load tree id).toOption)

namespace Catalog

variable {c : Catalog} {dialect : Dialect} {direction : Direction} {tree other : Files.FileTree}

theorem Agrees.refl (c : Catalog) (tree : Files.FileTree) : c.Agrees tree tree :=
  ⟨rfl, rfl, fun _ _ _ _ => rfl, fun _ _ => Iff.rfl⟩

theorem shownBy_id (c : Catalog) (tree : Files.FileTree) : c.ShownBy id tree := by
  rintro other rfl
  exact .refl c other

theorem toOption_eq_some_iff {α : Type} {x : Except MigrationError α} {a : α} :
    x.toOption = some a ↔ x = .ok a := by
  cases x <;> simp [Except.toOption]

theorem sight_eq_iff : c.sight other = c.sight tree ↔ c.Agrees tree other := by
  unfold sight
  rw [Prod.mk.injEq, Prod.mk.injEq, Prod.mk.injEq]
  constructor
  · rintro ⟨hdirectory, hdiscover, hfound, hload⟩
    refine ⟨hdirectory, hdiscover, fun ids hids => ?_, fun id mig => ?_⟩
    · rw [hdiscover, hids] at hfound
      exact List.map_inj_left.mp (Except.ok.inj hfound)
    · rw [← toOption_eq_some_iff, ← toOption_eq_some_iff, congrFun hload id]
  · intro h
    refine ⟨h.directory, h.discover, ?_, funext fun id => Option.ext fun mig => ?_⟩
    · rw [h.discover]
      cases hids : c.discover tree with
      | error e => rfl
      | ok ids => exact congrArg Except.ok (List.map_congr_left (h.found ids hids))
    · rw [toOption_eq_some_iff, toOption_eq_some_iff, h.load]

theorem shownBy_sight (c : Catalog) (tree : Files.FileTree) : c.ShownBy c.sight tree :=
  fun _ => sight_eq_iff.mp

theorem ShownBy.congr {σ : Type} {sight : Files.FileTree → σ} (h : c.ShownBy sight tree)
    (hother : sight other = sight tree) : c.ShownBy sight other := by
  intro third hthird
  have hagrees := h other hother
  have hagrees' := h third (hthird.trans hother)
  refine ⟨hagrees'.directory.trans hagrees.directory.symm,
    hagrees'.discover.trans hagrees.discover.symm, fun ids hids id hid => ?_, fun id mig => ?_⟩
  · rw [hagrees.discover] at hids
    rw [hagrees.found ids hids id hid, hagrees'.found ids hids id hid]
  · rw [hagrees.load, hagrees'.load]

theorem Agrees.planned_iff (h : c.Agrees tree other) {id : String} {p : PlannedMigration} :
    c.planned dialect other direction id = .ok p ↔ c.planned dialect tree direction id = .ok p := by
  unfold planned
  rw [bind_eq_ok, bind_eq_ok]
  exact exists_congr fun mig => and_congr_left fun _ => h.load id mig

theorem Agrees.mapM_planned_iff (h : c.Agrees tree other) {ids : List String}
    {batch : List PlannedMigration} :
    ids.mapM (c.planned dialect other direction) = .ok batch ↔
      ids.mapM (c.planned dialect tree direction) = .ok batch := by
  constructor
  · intro hbatch
    exact mapM_of_forall₂ ((forall₂_of_mapM hbatch).imp fun _ _ hp => h.planned_iff.mp hp)
  · intro hbatch
    exact mapM_of_forall₂ ((forall₂_of_mapM hbatch).imp fun _ _ hp => h.planned_iff.mpr hp)

theorem Agrees.mapM_planned_found (h : c.Agrees tree other) {all ids : List String}
    (hall : c.discover tree = .ok all) (hids : ids ⊆ all) :
    ids.mapM (c.planned dialect other direction) = ids.mapM (c.planned dialect tree direction) := by
  induction ids with
  | nil => rfl
  | cons id rest ih =>
    obtain ⟨hid, hrest⟩ := List.cons_subset.mp hids
    have hsame : c.planned dialect other direction id = c.planned dialect tree direction id := by
      unfold planned
      rw [h.found all hall id hid]
    rw [List.mapM_cons, List.mapM_cons, hsame, ih hrest]

end Catalog

namespace Runner

variable {δ : Type} {run : Run δ} (r : Runner δ)

/-- The action gives the result and only prints. -/
def Gives {α : Type} (a : RunAction δ α) (x : Except MigrationError α) (run : Run δ) : Prop :=
  Ends a run fun result next => result = x ∧ SameWorld run next

theorem gives_pure {α : Type} (x : α) : Gives (pure x) (.ok x) run := ⟨rfl, .refl run⟩

theorem Gives.bind {α β : Type} {a : RunAction δ α} {x : Except MigrationError α}
    {f : α → RunAction δ β} {y : α → Except MigrationError β} (h : Gives a x run)
    (hnext : ∀ v next, SameWorld run next → Gives (f v) (y v) next) :
    Gives (a >>= f) (x >>= y) run := by
  refine Ends.bind h ?_ ?_
  · rintro v t ⟨rfl, ht⟩
    exact (hnext v t ht).mono fun result next h => ⟨h.1, ht.trans h.2⟩
  · rintro e t ⟨rfl, ht⟩
    exact ⟨rfl, ht⟩

theorem gives_of_quiet {α : Type} {a : RunAction δ Unit} {f : Unit → RunAction δ α}
    {x : Except MigrationError α} (ha : Quiet a)
    (h : ∀ next, SameWorld run next → Gives (f ()) x next) : Gives (a >>= f) x run :=
  ends_of_quiet ha fun next hnext => (h next hnext).mono fun _ _ h => ⟨h.1, hnext.trans h.2⟩

theorem quiet_warnings (events : List Console.Event) :
    Quiet (forIn events PUnit.unit fun e _ => do
      RunAction.tell (δ := δ) e
      pure (ForInStep.yield PUnit.unit)) := by
  induction events with
  | nil => exact quiet_pure
  | cons e rest ih =>
    rw [List.forIn_cons, bind_assoc]
    exact (quiet_tell e).bind ih

theorem planStep_spec (id : String) (op : Operation) :
    Gives (r.planStep id op) (op.planned r.adapter.dialect) run := by
  unfold planStep Operation.planned
  refine gives_of_quiet (quiet_warnings _) fun next _ => ?_
  cases op.statement r.adapter.dialect with
  | ok statement => exact ⟨rfl, .refl next⟩
  | error e => exact gives_of_quiet (quiet_tell _) fun last _ => ⟨rfl, .refl last⟩

theorem planSteps_spec (id : String) (ops : List Operation) :
    Gives (r.planSteps id ops) (ops.mapM (Operation.planned r.adapter.dialect)) run := by
  induction ops generalizing run with
  | nil => exact ⟨rfl, .refl run⟩
  | cons op rest ih =>
    rw [List.mapM_cons]
    refine (r.planStep_spec id op).bind fun step next _ => ?_
    exact ih.bind fun steps last _ => ⟨rfl, .refl last⟩

theorem planMigration_spec (direction : Direction) (id : String) :
    Gives (r.planMigration direction id)
      (r.catalog.planned r.adapter.dialect run.session.files direction id) run := by
  unfold planMigration Catalog.planned
  refine Ends.bind (p := fun result next =>
    result = .ok run.session.files ∧ SameWorld run next) ⟨rfl, .refl run⟩ ?_ ?_
  · rintro tree next ⟨htree, hnext⟩
    obtain rfl : tree = run.session.files := by simpa using htree
    have hload : Gives (RunAction.ofExcept (r.catalog.load run.session.files id))
        (r.catalog.load run.session.files id) next := ⟨rfl, .refl next⟩
    refine (hload.bind fun m last _ => ?_).mono fun result last h => ⟨h.1, hnext.trans h.2⟩
    exact (r.planSteps_spec m.id _).bind fun steps final _ => ⟨rfl, .refl final⟩
  · rintro e next ⟨he, -⟩
    simp at he

theorem planBatch_spec (direction : Direction) (ids : List String) :
    Gives (r.planBatch direction ids)
      (ids.mapM (r.catalog.planned r.adapter.dialect run.session.files direction)) run := by
  induction ids generalizing run with
  | nil => exact ⟨rfl, .refl run⟩
  | cons id rest ih =>
    rw [List.mapM_cons]
    refine (r.planMigration_spec direction id).bind fun planned next hnext => ?_
    rw [← hnext.files]
    exact ih.bind fun batch last _ => ⟨rfl, .refl last⟩

end Runner

end SchemaMigration
