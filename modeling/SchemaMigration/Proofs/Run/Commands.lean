import SchemaMigration.Proofs.Fallible
import SchemaMigration.Proofs.Migration.Discovery
import SchemaMigration.Proofs.Run.Batch

/-!
# What the commands do to the database

Specs of the bodies of the commands in a database with transactions, and of the cleanup
that ends every command.
-/

namespace SchemaMigration

/-- Discovers all migrations and plans each of them. -/
def Catalog.validation (c : Catalog) (dialect : Dialect) (createMissing : Bool)
    (tree : Files.FileTree) : Except MigrationError (List PlannedMigration) := do
  let ids ← c.discovery createMissing tree
  ids.mapM (c.planned dialect (if createMissing then c.prepared tree else tree) .up)

theorem Catalog.planned_loads {c : Catalog} {dialect : Dialect} {tree : Files.FileTree}
    {direction : Direction} {id : String} {p : PlannedMigration}
    (h : c.planned dialect tree direction id = .ok p) :
    ∃ mig, c.load tree id = .ok mig ∧ p.id = mig.id ∧
      (mig.operations direction).mapM (·.statement dialect) = .ok p.statements := by
  obtain ⟨mig, hmig, h⟩ := bind_eq_ok.mp h
  obtain ⟨steps, hsteps, h⟩ := bind_eq_ok.mp h
  obtain rfl : ⟨mig.id, steps⟩ = p := Except.ok.inj h
  refine ⟨mig, hmig, rfl, mapM_of_forall₂ (List.forall₂_map_right_iff.mpr ?_)⟩
  refine (forall₂_of_mapM hsteps).imp fun op step hop => ?_
  obtain ⟨statement, hstatement, hstep⟩ := bind_eq_ok.mp hop
  obtain rfl : ⟨op.describe, statement⟩ = step := Except.ok.inj hstep
  exact hstatement

theorem Catalog.ids_of_planned {c : Catalog} {dialect : Dialect} {tree : Files.FileTree}
    {direction : Direction} {ids : List String} {plans : List PlannedMigration}
    (hid : ∀ id ∈ ids, ∀ p, c.planned dialect tree direction id = .ok p → p.id = id)
    (h : ids.mapM (c.planned dialect tree direction) = .ok plans) : plans.map (·.id) = ids := by
  have hall := forall₂_of_mapM h
  clear h
  induction hall with
  | nil => rfl
  | @cons id p rest others hp _ ih =>
    rw [List.map_cons, hid id List.mem_cons_self p hp,
      ih fun other hother => hid other (List.mem_cons_of_mem _ hother)]

/-- Every statement of a migration of the catalog is as `ok` says. -/
def Catalog.SendsOnly (c : Catalog) (dialect : Dialect) (tree : Files.FileTree)
    (direction : Direction) (ok : Statement → Prop) : Prop :=
  ∀ id p, c.planned dialect tree direction id = .ok p → ∀ st ∈ p.statements, ok st

theorem Catalog.SendsOnly.mono {c : Catalog} {dialect : Dialect} {tree : Files.FileTree}
    {direction : Direction} {ok ok' : Statement → Prop} (h : c.SendsOnly dialect tree direction ok)
    (himp : ∀ st, ok st → ok' st) : c.SendsOnly dialect tree direction ok' :=
  fun id p hp st hst => himp st (h id p hp st hst)

theorem sendsOnly_of_registered {c : Catalog} (hroot : c.root = none) {dialect : Dialect}
    {tree : Files.FileTree} {direction : Direction} {ok : Statement → Prop}
    (h : ∀ mig ∈ c.registered, ∀ op ∈ mig.operations direction, ∀ st,
      op.statement dialect = .ok st → ok st) : c.SendsOnly dialect tree direction ok := by
  intro id p hp st hst
  have hdirectory : c.directory = none := by simp [Catalog.directory, hroot]
  obtain ⟨mig, hmig, -, hstatements⟩ := Catalog.planned_loads hp
  have hregistered : mig ∈ c.registered := by
    unfold Catalog.load at hmig
    rw [hdirectory] at hmig
    cases hfound : c.registered? id with
    | none => simp [hfound] at hmig
    | some found =>
      obtain rfl : found = mig := by simpa [hfound] using hmig
      exact List.mem_of_find?_eq_some hfound
  obtain ⟨op, hop, hstatement⟩ := exists_of_mapM hstatements hst
  exact h mig hregistered op hop st hstatement

namespace Runner

variable {δ γ σ α : Type} {m : Semantics γ} {view : δ → Standing γ} {sight : Files.FileTree → σ}
variable {run : Run δ} {g : γ} {r : Runner δ}

theorem statements_of_planned {dialect : Dialect} {tree : Files.FileTree} {direction : Direction}
    {ids : List String} {batch : List PlannedMigration} {ok : Statement → Prop}
    (hsends : r.catalog.SendsOnly dialect tree direction ok)
    (hbatch : ids.mapM (r.catalog.planned dialect tree direction) = .ok batch) :
    ∀ p ∈ batch, ∀ st ∈ p.statements, ok st := by
  intro p hp
  obtain ⟨id, -, hid⟩ := exists_of_mapM hbatch hp
  exact hsends id p hid

/-! ## Before the batch -/

theorem checkDialect_spec :
    Ends r.checkDialect run fun result next => next = run ∧
      result = if r.catalog.dialect = r.adapter.dialect then .ok ()
        else .error (.configuration (.dialectMismatch r.catalog.dialect r.adapter.dialect)) := by
  unfold checkDialect
  split
  · exact ⟨rfl, rfl⟩
  · exact ⟨rfl, rfl⟩

theorem discover_spec (createMissing : Bool) :
    Ends (r.discover createMissing) run fun result next =>
      result = r.catalog.discovery createMissing run.session.files ∧
        next.session.files =
          (if createMissing then r.catalog.prepared run.session.files else run.session.files) ∧
        next.session.database = run.session.database := by
  refine ends_of_quiet (quiet_enter r _) fun next hnext => ?_
  rw [← hnext.files, ← hnext.database]
  exact discoverFiles_spec r.catalog createMissing

theorem readLedger_spec (hlaw : Lawful r.adapter m view sight) (hdry : r.dryRun = false)
    (hv : view run.session.database = .idle g) :
    Leaves view sight r.readLedger run fun result w =>
      w = .idle g ∧ ∀ ids, result = .ok ids → ids.Perm (m.ledger g) := by
  have hread : ∀ next : Run δ, view next.session.database = .idle g →
      Leaves view sight (RunAction.ofAction (r.adapter.ensureLedger r.adapter.batchOptions) >>= fun _ =>
        RunAction.ofAction (r.adapter.readLedger r.adapter.batchOptions)) next
        fun result w => w = .idle g ∧ ∀ ids, result = .ok ids → ids.Perm (m.ledger g) := by
    intro next hnext
    have hidle : (view next.session.database).saved = none := by rw [hnext]; rfl
    refine (leaves_of_changes hnext (hlaw.ensureLedger _ _ rfl hidle)).bind ?_ ?_
    · rintro _ last - hlast
      rw [id] at hlast
      obtain ⟨hchange, hids⟩ :=
        hlaw.readLedger last.session r.adapter.batchOptions rfl (by rw [hlast]; rfl)
      refine ends_ofAction.mpr ((Ends.and (hchange.stays_idle hlast) hids).mono ?_)
      rintro result t ⟨⟨hf, ht⟩, hperm⟩
      rw [hlast] at hperm
      exact ⟨hf, ht, hperm⟩
    · intro e w hw
      exact ⟨Standing.spares_idle.mp hw, fun ids h => by simp at h⟩
  unfold readLedger
  rw [batchOptions_eq hdry]
  split
  · refine (leaves_of_changes hv (hlaw.getClient _)).bind ?_ ?_
    · rintro _ next - hnext
      exact hread next hnext
    · intro e w hw
      exact ⟨Standing.spares_idle.mp hw, fun ids h => by simp at h⟩
  · exact hread run hv

/-! ## The bodies -/

/-- What applying the pending migrations comes to, on the files in `tree`. `ids` were
applied, `batch` is what was sent for them, and the ledger held `completed`. -/
structure Applies (r : Runner δ) (m : Semantics γ) (tree : Files.FileTree) (g : γ)
    (ids completed : List String) (batch : List PlannedMigration) : Prop where
  read : completed.Perm (m.ledger g)
  discovered : ∃ all, r.catalog.discover tree = .ok all ∧ ids = all.filter (· ∉ completed)
  planned : ids.mapM (r.catalog.planned r.adapter.dialect (r.catalog.prepared tree) .up) = .ok batch

theorem migrateBody_spec (hlaw : Lawful r.adapter m view sight) (htx : r.adapter.transactional = true)
    (hdry : r.dryRun = false)
    (hshown : r.catalog.ShownBy sight (r.catalog.prepared run.session.files))
    (hsends : r.catalog.SendsOnly r.adapter.dialect (r.catalog.prepared run.session.files) .up
      fun st => ¬ m.control st.sql)
    (hv : view run.session.database = .idle g) :
    Ends r.migrateBody run fun result next =>
      match result with
      | .error _ => (view next.session.database).durable = g
      | .ok .upToDate => view next.session.database = .idle g
      | .ok (.applied ids) => ∃ completed batch,
        r.Applies m run.session.files g ids completed batch ∧
          view next.session.database =
            .idle (m.run (batch.flatMap (·.writes r.adapter.dialect .up)) g) := by
  unfold migrateBody
  refine checkDialect_spec.bind ?_ ?_
  swap
  · rintro e next ⟨rfl, -⟩
    simp [hv]
  rintro _ run₀ ⟨rfl, -⟩
  refine (discover_spec _).bind ?_ ?_
  swap
  · rintro e next ⟨-, -, hd⟩
    simp [hd, hv]
  rintro all run₁ ⟨hall, hf₁, hd₁⟩
  have hdiscovered := discover_of_discovery hall.symm
  rw [hdry, Bool.not_false, if_pos rfl] at hf₁
  refine ends_of_quiet (quiet_announceDryRun r) fun run₂ h₂ => ?_
  refine ends_of_quiet (quiet_enter r _) fun run₃ h₃ => ?_
  have hv₃ : view run₃.session.database = .idle g := by rw [h₃.database, h₂.database, hd₁, hv]
  have hf₃ : run₃.session.files = r.catalog.prepared run₀.session.files := by
    rw [h₃.files, h₂.files, hf₁]
  rw [hdry, if_neg (by simp)]
  refine Ends.bind (readLedger_spec hlaw hdry hv₃) ?_ ?_
  swap
  · rintro e run₄ ⟨-, hw, -⟩
    simp [hw]
  rintro completed run₄ ⟨hf₄, hv₄, hperm⟩
  specialize hperm completed rfl
  dsimp only
  split
  · exact ends_of_quiet (quiet_print _) fun run₅ h₅ => by
      rw [ends_pure, h₅.database]; exact hv₄
  refine ends_of_quiet (quiet_print _) fun run₅ h₅ => ?_
  have hagrees : r.catalog.Agrees (r.catalog.prepared run₀.session.files) run₅.session.files :=
    hshown _ (by rw [h₅.files, hf₄, hf₃])
  refine Ends.bind (r.planBatch_spec .up _) ?_ ?_
  swap
  · rintro e run₆ ⟨-, h₆⟩
    simp [h₆.database, h₅.database, hv₄]
  rintro batch run₆ ⟨hplanned, h₆⟩
  have hbatch := hagrees.mapM_planned_iff.mp hplanned.symm
  have hv₆ : view run₆.session.database = .idle g := by rw [h₆.database, h₅.database, hv₄]
  have hcontrol := statements_of_planned hsends hbatch
  refine Ends.bind (runBatch_spec hlaw htx hdry .up batch hcontrol hv₆) ?_ ?_
  swap
  · rintro e run₇ ⟨-, hw⟩
    exact hw
  rintro _ run₇ ⟨-, hw⟩
  refine ends_of_quiet (quiet_print _) fun run₈ h₈ => ?_
  rw [ends_pure, h₈.database]
  exact ⟨completed, batch, ⟨hperm, ⟨all, hdiscovered, rfl⟩, hbatch⟩, hw⟩

/-- What reverting the last migration comes to. -/
structure Reverts (r : Runner δ) (m : Semantics γ) (tree : Files.FileTree) (g : γ) (last : String)
    (completed : List String) (p : PlannedMigration) : Prop where
  read : completed.Perm (m.ledger g)
  greatest : (Catalog.sortIds completed).getLast? = some last
  planned : r.catalog.planned r.adapter.dialect tree .down last = .ok p

theorem rollbackBody_spec (hlaw : Lawful r.adapter m view sight) (htx : r.adapter.transactional = true)
    (hdry : r.dryRun = false) (hshown : r.catalog.ShownBy sight run.session.files)
    (hsends : r.catalog.SendsOnly r.adapter.dialect run.session.files .down
      fun st => ¬ m.control st.sql)
    (hv : view run.session.database = .idle g) :
    Ends r.rollbackBody run fun result next =>
      match result with
      | .error _ => (view next.session.database).durable = g
      | .ok .nothingToRollback => view next.session.database = .idle g
      | .ok (.rolledBack last) => ∃ completed p,
        r.Reverts m run.session.files g last completed p ∧
          view next.session.database = .idle (m.run (p.writes r.adapter.dialect .down) g) := by
  unfold rollbackBody
  refine checkDialect_spec.bind ?_ ?_
  swap
  · rintro e next ⟨rfl, -⟩
    simp [hv]
  rintro _ run₀ ⟨rfl, -⟩
  refine (discover_spec _).bind ?_ ?_
  swap
  · rintro e next ⟨-, -, hd⟩
    simp [hd, hv]
  rintro all run₁ ⟨-, hf₁, hd₁⟩
  rw [if_neg (by simp)] at hf₁
  refine ends_of_quiet (quiet_announceDryRun r) fun run₂ h₂ => ?_
  refine ends_of_quiet (quiet_enter r _) fun run₃ h₃ => ?_
  have hv₃ : view run₃.session.database = .idle g := by rw [h₃.database, h₂.database, hd₁, hv]
  rw [hdry, if_neg (by simp)]
  refine Ends.bind (readLedger_spec hlaw hdry hv₃) ?_ ?_
  swap
  · rintro e run₄ ⟨-, hw, -⟩
    simp [hw]
  rintro completed run₄ ⟨hf₄, hv₄, hperm⟩
  specialize hperm completed rfl
  have hagrees : r.catalog.Agrees run₀.session.files run₄.session.files :=
    hshown _ (by rw [hf₄, h₃.files, h₂.files, hf₁])
  dsimp only
  split
  · exact ends_of_quiet (quiet_print _) fun run₅ h₅ => by
      rw [ends_pure, h₅.database]; exact hv₄
  next last hlast =>
  refine Ends.bind (r.planMigration_spec .down last) ?_ ?_
  swap
  · rintro e run₅ ⟨-, h₅⟩
    simp [h₅.database, hv₄]
  rintro p run₅ ⟨hplanned, h₅⟩
  have hp := hagrees.planned_iff.mp hplanned.symm
  have hcontrol : ∀ q ∈ [p], ∀ st ∈ q.statements, ¬ m.control st.sql := by
    simpa using hsends last p hp
  refine Ends.bind (runBatch_spec hlaw htx hdry .down [p] hcontrol
    (by rw [h₅.database]; exact hv₄)) ?_ ?_
  swap
  · rintro e run₆ ⟨-, hw⟩
    exact hw
  rintro _ run₆ ⟨-, hw⟩
  rw [List.flatMap_singleton] at hw
  exact ⟨completed, p, ⟨hperm, hlast, hp⟩, hw⟩

/-! ## Cleanup -/

theorem tolerate_spec (complaint : String) {call : Action δ Unit} {post : Session δ → Prop}
    (h : Ends call run.session fun _ t => post t) :
    Ends (tolerate complaint call) run fun result next => result = .ok () ∧
      ∃ t, post t ∧ next.session.files = t.files ∧ next.session.database = t.database := by
  unfold tolerate
  refine Ends.bind (p := fun result mid => (∃ x, result = .ok x) ∧ post mid.session) ?_ ?_ ?_
  · exact ends_outcome.mpr (ends_ofAction.mpr (h.mono fun result t ht => ⟨⟨result, rfl⟩, ht⟩))
  · rintro (e | _) mid ⟨-, hmid⟩
    · exact (quiet_tell _ mid).mono fun result next hnext =>
        ⟨hnext.1, mid.session, hmid, hnext.2.files, hnext.2.database⟩
    · exact ⟨rfl, mid.session, hmid, rfl, rfl⟩
  · rintro e mid ⟨⟨x, hx⟩, -⟩
    simp at hx

theorem cleanup_spec (hlaw : Lawful r.adapter m view sight) :
    Leaves view sight r.cleanup run fun result w => result = .ok () ∧
      (w = view run.session.database ∨ w = (view run.session.database).giveUp) ∧
      (Discards r.adapter view → w.saved = none) := by
  unfold cleanup
  refine Ends.bind (tolerate_spec _ (hlaw.releaseClient run.session)) ?_ ?_
  swap
  · rintro e next ⟨he, -⟩
    simp at he
  rintro _ next₁ ⟨-, t₁, ⟨hf₁, hw₁⟩, hf₁', hd₁⟩
  have hclose : Ends r.adapter.disconnect next₁.session fun _ t =>
      (sight t.files = sight next₁.session.files ∧ (view t.database = view next₁.session.database ∨
        view t.database = (view next₁.session.database).giveUp)) ∧
      (Discards r.adapter view → (view t.database).saved = none) :=
    (hlaw.disconnect next₁.session).and fun hdiscards => hdiscards next₁.session
  refine (tolerate_spec _ hclose).mono ?_
  rintro result next₂ ⟨rfl, t₂, ⟨⟨hf₂, hw₂⟩, hsaved⟩, hf₂', hd₂⟩
  refine ⟨by rw [hf₂', hf₂, hf₁', hf₁], rfl, ?_, by rw [hd₂]; exact hsaved⟩
  rw [hd₁] at hw₂
  rw [hd₂]
  rcases hw₁ with hw₁ | hw₁
  · rwa [hw₁] at hw₂
  · rw [hw₁, Standing.giveUp_giveUp, or_self] at hw₂
    exact .inr hw₂

/-- A command ends as its body does. `final` holds between the ends of the body and of the
cleanup. -/
theorem command_rule {body : RunAction δ α} {post : Except MigrationError α → Run δ → Prop}
    {final : Run δ → Run δ → Prop} (hbody : Ends body run post)
    (hcleanup : ∀ mid, Ends r.cleanup mid fun result next => result = .ok () ∧ final mid next) :
    Ends (r.command body) run fun result next => ∃ mid, post result mid ∧ final mid next := by
  unfold command
  refine Ends.bind (p := fun result mid => ∃ x, result = .ok x ∧ post x mid) ?_ ?_ ?_
  · exact ends_outcome.mpr (hbody.mono fun result mid hmid => ⟨result, rfl, hmid⟩)
  · rintro result mid ⟨x, hx, hmid⟩
    obtain rfl : result = x := Except.ok.inj hx
    refine (hcleanup mid).bind ?_ ?_
    · rintro _ next ⟨-, hfinal⟩
      exact ends_ofExcept.mpr ⟨mid, hmid, hfinal⟩
    · rintro e next ⟨he, -⟩
      simp at he
  · rintro e mid ⟨x, hx, -⟩
    simp at hx

theorem command_spec (hlaw : Lawful r.adapter m view sight) {body : RunAction δ α}
    {post : Except MigrationError α → Run δ → Prop} (h : Ends body run post) :
    Ends (r.command body) run fun result next => ∃ mid, post result mid ∧
      (sight next.session.files = sight mid.session.files ∧ ((view mid.session.database).saved = none →
        (view next.session.database).saved = none)) ∧
      (view next.session.database).durable = (view mid.session.database).durable ∧
      (Discards r.adapter view → (view next.session.database).saved = none) := by
  refine command_rule h fun mid => Ends.mono (cleanup_spec hlaw) ?_
  rintro result next ⟨hf, rfl, hclosed, hsaved⟩
  refine ⟨rfl, ⟨hf, fun hidle => ?_⟩, ?_, hsaved⟩
  · rcases hclosed with hclosed | hclosed <;> rw [hclosed]
    · exact hidle
    · rfl
  · rcases hclosed with hclosed | hclosed <;> rw [hclosed]
    rfl

/-- What the cleanup makes of the database, if it is known what its two calls make of it. -/
theorem command_closes {release close : δ → δ}
    (hrelease : ∀ s, Ends r.adapter.releaseClient s fun _ t =>
      t.files = s.files ∧ t.database = release s.database)
    (hclose : ∀ s, Ends r.adapter.disconnect s fun _ t =>
      t.files = s.files ∧ t.database = close s.database)
    {body : RunAction δ α} {post : Except MigrationError α → Run δ → Prop} (h : Ends body run post) :
    Ends (r.command body) run fun result next => ∃ mid, post result mid ∧
      next.session.files = mid.session.files ∧
      next.session.database = close (release mid.session.database) := by
  refine command_rule h fun mid => ?_
  refine (tolerate_spec _ (hrelease mid.session)).bind ?_ ?_
  · rintro _ released ⟨-, t, ⟨hf, hd⟩, hf', hd'⟩
    refine (tolerate_spec _ (hclose released.session)).mono ?_
    rintro result next ⟨rfl, u, ⟨hf₂, hd₂⟩, hf₂', hd₂'⟩
    exact ⟨rfl, by rw [hf₂', hf₂, hf', hf], by rw [hd₂', hd₂, hd', hd]⟩
  · rintro e next ⟨he, -⟩
    simp at he

end Runner

theorem start_eq {δ α : Type} (a : RunAction δ α) (s : Session δ) :
    a.start s = ((a.run { session := s }).1, (a.run { session := s }).2.state,
      (a.run { session := s }).2.session) := rfl

end SchemaMigration
