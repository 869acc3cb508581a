import SchemaMigration.Proofs.Run.Atomicity
import SchemaMigration.Proofs.Run.Course
import SchemaMigration.Proofs.Run.FirstError

/-!
# What the last state of a run tells

The state in which a command ends tells what became of it: whether the dialects differ, the
migrations could not be discovered, nothing of a batch was begun, the batch was given up, or it was
carried out.
-/

namespace SchemaMigration.Runner

variable {δ α : Type} {a : Adapter δ} {r : Runner (Traced δ)} {run : Run (Traced δ)}
variable {direction : Direction} {s : Session (Traced δ)} {Done : α → Prop}

/-! ## What the state tells -/

section Tells

variable (r : Runner (Traced δ)) (direction : Direction) (s : Session (Traced δ))

/-- The migrations that were found are planned as this batch, and there are some. -/
def Plans (batch : List PlannedMigration) : Prop :=
  ∃ ids tree, r.Finds direction s ids tree ∧ ids ≠ [] ∧
    ids.mapM (r.catalog.planned r.adapter.dialect tree direction) = .ok batch

/-- Why nothing of a batch was sent, although the migrations were discovered. -/
inductive Unbegun (log : Log) : Prop
  /-- The ledger cannot be read. -/
  | unread (failed : FailsIn [] r.surveyScript log)
  | nothing {tree : Files.FileTree} (finds : r.Finds direction s [] tree)
  | unplanned {ids : List String} {tree : Files.FileTree} {e : MigrationError}
      (finds : r.Finds direction s ids tree)
      (first : r.catalog.FirstFailure r.adapter.dialect tree direction ids e)
  /-- The client cannot be acquired, or the transaction not be begun. -/
  | unopened (failed : FailsIn r.surveyScript r.openingScript log)

/-- A statement of a batch, a row of its ledger or its commit failed. -/
def Breaks (log : Log) : Prop :=
  ∃ batch, r.Plans direction s batch ∧
    FailsIn (r.surveyScript ++ r.openingScript)
      (r.batchScript direction batch ++ r.closingScript) log

end Tells

/-- What every command tells by its last state. -/
structure Begins (r : Runner δ) (createMissing : Bool) (tree : Files.FileTree) (state : RunState) :
    Prop where
  settled : ∀ number, state ≠ .applying number
  idle : state = .idle ↔ r.catalog.dialect ≠ r.adapter.dialect
  discovering : state = .discovering ↔ r.catalog.dialect = r.adapter.dialect ∧
    ∃ e, r.catalog.discovery createMissing tree = .error e

/-- What a migrate or a rollback tells by its last state. -/
structure Tells (r : Runner (Traced δ)) (direction : Direction) (s : Session (Traced δ)) (log : Log)
    (changed : Prop) (state : RunState) : Prop
    extends r.Begins (r.makesDirectory direction) s.files state where
  diffing : state = .diffing ↔ r.Unbegun direction s log
  rolledBack : state = .rolledBack ↔ r.Breaks direction s log
  committed : state = .committed ↔ changed

section Exclusion

variable {ids : List String} {tree : Files.FileTree} {batch : List PlannedMigration} {log : Log}
variable {changed : Prop} {state : RunState}

theorem Finds.discovered (hr : r.adapter = a.traced) (h : r.Finds direction s ids tree) :
    r.catalog.dialect = r.adapter.dialect ∧
      ∃ all, r.catalog.discovery (r.makesDirectory direction) s.files = .ok all := by
  obtain ⟨found, mid, hrun, -, -⟩ := h
  have hsurvey := survey_calls hr direction { session := s }
  rw [Ends, hrun] at hsurvey
  obtain ⟨log, -, hagree, hdiscovered, -⟩ := hsurvey
  exact ⟨hagree, _, hdiscovered⟩

theorem Finds.unique {ids' : List String} {tree' : Files.FileTree}
    (h : r.Finds direction s ids tree) (h' : r.Finds direction s ids' tree') :
    ids = ids' ∧ tree = tree' := by
  obtain ⟨found, mid, hrun, rfl, rfl⟩ := h
  obtain ⟨found', mid', hrun', rfl, rfl⟩ := h'
  obtain ⟨hfound, rfl⟩ := Prod.mk.inj (hrun.symm.trans hrun')
  obtain rfl := Except.ok.inj hfound
  exact ⟨rfl, rfl⟩

theorem Unbegun.of_plans (h : r.Unbegun direction s log) (hplans : r.Plans direction s batch) :
    FailsIn [] r.surveyScript log ∨ FailsIn r.surveyScript r.openingScript log := by
  obtain ⟨ids, tree, hfinds, hsome, hplanned⟩ := hplans
  cases h with
  | unread hfailed => exact .inl hfailed
  | nothing hfinds' => exact absurd (hfinds.unique hfinds').1 hsome
  | unplanned hfinds' hfirst =>
    obtain ⟨rfl, rfl⟩ := hfinds.unique hfinds'
    have herror := Catalog.mapM_planned_eq_error_iff.mpr hfirst
    cases hplanned.symm.trans herror
  | unopened hfailed => exact .inr hfailed

theorem Breaks.not_clean (h : r.Breaks direction s log) : ¬Clean log := by
  obtain ⟨batch, -, hfailed⟩ := h
  exact hfailed.not_clean

theorem Breaks.not_before {first script : List AdapterCall} (h : r.Breaks direction s log)
    (hle : first.length + script.length ≤ (r.surveyScript ++ r.openingScript).length) :
    ¬FailsIn first script log := by
  obtain ⟨batch, -, hfailed⟩ := h
  exact fun hbefore => hbefore.apart hfailed hle

theorem Begins.of_mismatched {r : Runner δ} {createMissing : Bool}
    (hdiffer : r.catalog.dialect ≠ r.adapter.dialect) : r.Begins createMissing tree .idle where
  settled := by simp
  idle := iff_of_true rfl hdiffer
  discovering := iff_of_false (by simp) fun h => hdiffer h.1

theorem Begins.of_undiscovered {r : Runner δ} {createMissing : Bool} {e : MigrationError}
    (hagree : r.catalog.dialect = r.adapter.dialect)
    (hfailed : r.catalog.discovery createMissing tree = .error e) :
    r.Begins createMissing tree .discovering where
  settled := by simp
  idle := iff_of_false (by simp) (not_not.mpr hagree)
  discovering := iff_of_true rfl ⟨hagree, e, hfailed⟩

theorem Begins.of_discovered {r : Runner δ} {createMissing : Bool}
    (hagree : r.catalog.dialect = r.adapter.dialect)
    (hdiscovered : ∃ all, r.catalog.discovery createMissing tree = .ok all)
    (hstate : state = .diffing ∨ state = .rolledBack ∨ state = .committed) :
    r.Begins createMissing tree state := by
  obtain ⟨all, hdiscovered⟩ := hdiscovered
  have hfailed : ¬∃ e, r.catalog.discovery createMissing tree = .error e := by
    rintro ⟨e, hfailed'⟩
    cases hdiscovered.symm.trans hfailed'
  refine ⟨fun number => ?_, iff_of_false ?_ (not_not.mpr hagree),
    iff_of_false ?_ fun h => hfailed h.2⟩
  all_goals rcases hstate with rfl | rfl | rfl <;> simp

theorem Tells.congr {changed' : Prop} (h : r.Tells direction s log changed state)
    (hchanged : changed ↔ changed') : r.Tells direction s log changed' state :=
  { h with committed := h.committed.trans hchanged }

theorem tells_early (hbegins : r.Begins (r.makesDirectory direction) s.files state)
    (hearly : state = .idle ∨ state = .discovering)
    (hfinds : ∀ ids tree, ¬r.Finds direction s ids tree) (hunchanged : ¬changed) :
    r.Tells direction s [] changed state := by
  have hclean : Clean ([] : Log) := clean_allMade []
  have hunbegun : ¬r.Unbegun direction s [] := by
    rintro (hfailed | hfinds' | ⟨hfinds', -⟩ | hfailed)
    · exact hfailed.not_clean hclean
    · exact hfinds _ _ hfinds'
    · exact hfinds _ _ hfinds'
    · exact hfailed.not_clean hclean
  refine ⟨hbegins, iff_of_false ?_ hunbegun, iff_of_false ?_ fun h => h.not_clean hclean,
    iff_of_false ?_ hunchanged⟩
  all_goals rcases hearly with rfl | rfl <;> simp

theorem tells_diffing (hbegins : r.Begins (r.makesDirectory direction) s.files .diffing)
    (hunbegun : r.Unbegun direction s log) (hunbroken : ¬r.Breaks direction s log)
    (hunchanged : ¬changed) : r.Tells direction s log changed .diffing where
  toBegins := hbegins
  diffing := iff_of_true rfl hunbegun
  rolledBack := iff_of_false (by simp) hunbroken
  committed := iff_of_false (by simp) hunchanged

theorem Halts.tells (hr : r.adapter = a.traced) (h : r.Halts direction s state log)
    (hunchanged : ¬changed) : r.Tells direction s log changed state := by
  cases h with
  | mismatched hdiffer =>
    exact tells_early (.of_mismatched hdiffer) (.inl rfl)
      (fun _ _ hfinds => hdiffer (hfinds.discovered hr).1) hunchanged
  | undiscovered hagree hfailed =>
    refine tells_early (.of_undiscovered hagree hfailed) (.inr rfl) (fun _ _ hfinds => ?_) hunchanged
    obtain ⟨-, all, hdiscovered⟩ := hfinds.discovered hr
    cases hdiscovered.symm.trans hfailed
  | unread hagree hdiscovered hfailed =>
    exact tells_diffing (.of_discovered hagree ⟨_, hdiscovered⟩ (.inl rfl)) (.unread hfailed)
      (fun h => h.not_before (by simp) hfailed) hunchanged

theorem PlanCourse.tells {result : Except MigrationError α} (hr : r.adapter = a.traced)
    (hfinds : r.Finds direction s ids tree)
    (h : r.PlanCourse direction tree ids Done .diffing result state log) :
    r.Tells direction s (allMade r.surveyScript ++ log) (∃ x, result = .ok x ∧ Done x) state := by
  obtain ⟨hagree, hdiscovered⟩ := hfinds.discovered hr
  have hsurveyed : Clean (allMade r.surveyScript ++ []) := by
    rw [List.append_nil]
    exact clean_allMade _
  cases h with
  | nothing hnone hundone =>
    refine tells_diffing (.of_discovered hagree hdiscovered (.inl rfl)) (.nothing (hnone ▸ hfinds))
      (fun h => h.not_clean hsurveyed) ?_
    rintro ⟨x, hx, hdone⟩
    exact hundone (Except.ok.inj hx ▸ hdone)
  | unplanned hfirst =>
    exact tells_diffing (.of_discovered hagree hdiscovered (.inl rfl)) (.unplanned hfinds hfirst)
      (fun h => h.not_clean hsurveyed) (by simp)
  | unopened hsome hplanned hfailed' =>
    have hopening := hfailed'.after r.surveyScript
    rw [List.append_nil] at hopening
    exact tells_diffing (.of_discovered hagree hdiscovered (.inl rfl)) (.unopened hopening)
      (fun h => h.not_before (by simp) hopening) (by simp)
  | broken hsome hplanned hfailed' =>
    have hplans : r.Plans direction s _ := ⟨_, _, hfinds, hsome, hplanned⟩
    have hbreaks : r.Breaks direction s _ := ⟨_, hplans, hfailed'.after r.surveyScript⟩
    refine ⟨.of_discovered hagree hdiscovered (.inr (.inl rfl)), iff_of_false (by simp) fun h => ?_,
      iff_of_true rfl hbreaks, iff_of_false (by simp) (by simp)⟩
    -- Too many calls succeeded for one before the batch to be the first that failed.
    rcases h.of_plans hplans with hbefore | hbefore
    · exact hbreaks.not_before (by simp) hbefore
    · exact hbreaks.not_before (by simp) hbefore
  | through hsome hplanned hdone hclean' =>
    have hplans : r.Plans direction s _ := ⟨_, _, hfinds, hsome, hplanned⟩
    have hclean := clean_append.mpr ⟨clean_allMade r.surveyScript, hclean'⟩
    refine ⟨.of_discovered hagree hdiscovered (.inr (.inr rfl)), iff_of_false (by simp) fun h => ?_,
      iff_of_false (by simp) fun h => h.not_clean hclean, iff_of_true rfl ⟨_, rfl, hdone⟩⟩
    rcases h.of_plans hplans with hfailed | hfailed
    · exact hfailed.not_clean hclean
    · exact hfailed.not_clean hclean

theorem Course.tells {result : Except MigrationError α} (hr : r.adapter = a.traced)
    (h : r.Course direction s Done result state log) :
    r.Tells direction s log (∃ x, result = .ok x ∧ Done x) state := by
  cases h with
  | halted halts => exact halts.tells hr (by simp)
  | surveyed hfinds hcourse => exact hcourse.tells hr hfinds

end Exclusion

theorem exists_ok_made {β : Type} {result : Except MigrationError α} {made : β → α} :
    (∃ x, result = .ok x ∧ ∃ y, x = made y) ↔ ∃ y, result = .ok (made y) := by
  constructor
  · rintro ⟨_, hresult, y, rfl⟩
    exact ⟨y, hresult⟩
  · rintro ⟨y, hresult⟩
    exact ⟨_, hresult, y, rfl⟩

/-! ## Whole commands -/

/-- The calls of a command: those of the log, and the two of the cleanup. -/
def Calls (s : Session (Traced δ))
    (finished : Except MigrationError α × RunState × Session (Traced δ)) (log : Log) : Prop :=
  ∃ released disconnected, finished.2.2.database.calls =
    s.database.calls ++ log ++ [(.releaseClient, released), (.disconnect, disconnected)]

theorem command_state {r : Runner δ} {run : Run δ} (body : RunAction δ α) :
    Ends (r.command body) run fun _ next => next.state = (body.run run).2.state := by
  have hbody : Ends body run fun _ mid => mid.state = (body.run run).2.state := rfl
  have hcleanup : ∀ mid, Ends r.cleanup mid fun result next =>
      result = .ok () ∧ next.state = mid.state :=
    fun mid => Ends.and (cleanup_succeeds r mid) (cleanup_keepsState mid)
  refine (command_rule hbody hcleanup).mono ?_
  rintro result next ⟨mid, hmid, hnext⟩
  exact hnext.trans hmid

theorem command_comes (hr : r.adapter = a.traced) {body : RunAction (Traced δ) α}
    (post : Except MigrationError α → RunState → Log → Prop)
    (hbody : Ends body { session := s } fun result next =>
      ∃ log, next.calls = s.database.calls ++ log ∧ post result next.state log) :
    ∃ log, Calls s ((r.command body).start s) log ∧
      post ((r.command body).start s).1 ((r.command body).start s).2.1 log := by
  have hstate : Ends body { session := s } fun _ mid =>
      mid.state = (body.run { session := s }).2.state := rfl
  obtain ⟨mid, released, disconnected, ⟨⟨log, hmid, hpost⟩, hkept⟩, hcalls⟩ :=
    command_calls hr (hbody.and hstate)
  have hlast : ((r.command body).start s).2.1 = mid.state := (command_state body).trans hkept.symm
  rw [hmid] at hcalls
  exact ⟨log, ⟨released, disconnected, hcalls⟩, hlast ▸ hpost⟩

/-! ## Status and reset -/

/-- What a status tells by its last state. -/
structure StatusTells (r : Runner δ) (tree : Files.FileTree) (state : RunState) : Prop
    extends r.Begins false tree state where
  diffing : state = .diffing ↔ r.catalog.dialect = r.adapter.dialect ∧
    ∃ all, r.catalog.discovery false tree = .ok all

theorem surveyState_tells (r : Runner δ) (tree : Files.FileTree) :
    r.StatusTells tree (r.surveyState false tree .idle) := by
  by_cases hagree : r.catalog.dialect = r.adapter.dialect
  · cases hfound : r.catalog.discovery false tree with
    | ok all =>
      rw [surveyState_discovered hagree hfound]
      exact ⟨.of_discovered hagree ⟨all, hfound⟩ (.inl rfl), iff_of_true rfl ⟨hagree, all, hfound⟩⟩
    | error e =>
      rw [surveyState_undiscovered hagree hfound]
      refine ⟨.of_undiscovered hagree hfound, iff_of_false (by simp) ?_⟩
      rintro ⟨-, all, hdiscovered⟩
      cases hfound.symm.trans hdiscovered
  · rw [surveyState_mismatched hagree]
    exact ⟨.of_mismatched hagree, iff_of_false (by simp) fun h => hagree h.1⟩

theorem status_tells (r : Runner δ) (s : Session δ) :
    r.StatusTells s.files (r.status.start s).2.1 := by
  have hbody : Ends r.statusBody { session := s } fun _ next =>
      next.state = r.surveyState false s.files .idle := statusBody_state
  have hstate : (r.status.start s).2.1 = _ := (command_state r.statusBody).trans hbody
  rw [hstate]
  exact surveyState_tells r s.files

section Reset

variable {log : Log} {changed : Prop} {state : RunState}

def dropEverything (r : Runner δ) : RunAction δ Unit := do
  r.checkDialect
  RunAction.print (Console.warning "ATTENTION: This will delete ALL data in your database.")
  RunAction.print (Console.running "Dropping all tables...")
  RunAction.ofAction (r.adapter.dropAll r.options)
  RunAction.print (Console.success "All tables dropped.")
  RunAction.print (Console.running "Re-running all migrations...")

theorem resetBody_eq (r : Runner δ) : r.resetBody = r.dropEverything >>= fun _ => r.migrateBody >>=
    fun outcome => do
      RunAction.print (Console.success "Database reset and migrated successfully.")
      return outcome := by
  unfold resetBody dropEverything
  simp only [bind_assoc]

theorem dropEverything_keepsState {r : Runner δ} : KeepsState r.dropEverything := by
  have hdialect : KeepsState r.checkDialect := by
    unfold checkDialect
    split
    · exact .pure ()
    · exact .throw _
  refine hdialect.bind fun _ => ?_
  refine (KeepsState.print _).bind fun _ => (KeepsState.print _).bind fun _ => ?_
  exact (KeepsState.ofAction _).bind fun _ => (KeepsState.print _).bind fun _ => .print _

theorem dropEverything_calls (hr : r.adapter = a.traced) :
    Ends r.dropEverything run fun result next => match result with
      | .ok _ => r.catalog.dialect = r.adapter.dialect ∧
        next.calls = run.calls ++ [(.dropAll r.options, none)]
      | .error e => r.catalog.dialect ≠ r.adapter.dialect ∧ next.calls = run.calls ∨
        r.catalog.dialect = r.adapter.dialect ∧
          next.calls = run.calls ++ [(.dropAll r.options, some e)] := by
  have hdrop : Follows (fun _ => []) [.dropAll r.options] (do
      RunAction.ofAction (r.adapter.dropAll r.options)
      RunAction.print (Console.success "All tables dropped.")
      RunAction.print (Console.running "Re-running all migrations...")) :=
    (dropAll_follows hr rfl r.options).bind fun _ =>
      .of_quiet ((quiet_print _).bind (quiet_print _))
  unfold dropEverything
  refine checkDialect_spec.bind ?_ ?_
  swap
  · rintro e next ⟨rfl, he⟩
    split at he
    · simp at he
    · next hdiffer => exact .inl ⟨hdiffer, rfl⟩
  rintro _ mid ⟨rfl, hok⟩
  have hagree : r.catalog.dialect = r.adapter.dialect := by
    by_contra hdiffer
    simp [hdiffer] at hok
  refine ends_of_quiet (quiet_print _) fun first hfirst => ?_
  refine ends_of_quiet (quiet_print _) fun second hsecond => ?_
  rw [← calls_of_sameWorld (hfirst.trans hsecond)]
  refine (hdrop second).mono ?_
  rintro (e | _) next ⟨log, hnext, hperforms⟩
  · cases hperforms with
    | broken hcut hrecovers =>
      obtain rfl := List.map_eq_nil_iff.mp hrecovers
      obtain ⟨rfl, hcall⟩ := List.cons_eq_append_iff.mp hcut |>.resolve_right (by simp)
      cases hcall
      exact .inr ⟨hagree, hnext⟩
  · cases hperforms
    exact ⟨hagree, hnext⟩

def Drops (r : Runner δ) (s t : Session δ) : Prop :=
  r.dropEverything.run { session := s } = (.ok (), { session := t })

/-- What a reset tells by its last state: what a migrate does, if everything was dropped. -/
structure ResetTells (r : Runner (Traced δ)) (s : Session (Traced δ)) (log : Log) (changed : Prop)
    (state : RunState) : Prop where
  settled : ∀ number, state ≠ .applying number
  idle : state = .idle ↔ r.catalog.dialect ≠ r.adapter.dialect ∨
    ∃ e, log = [(.dropAll r.options, some e)]
  reached : state ≠ .idle → ∃ t, r.Drops s t
  dropped : ∀ t, r.Drops s t → ∃ rest, log = (.dropAll r.options, none) :: rest ∧
    r.Tells .up t rest changed state
  committed : state = .committed ↔ changed

theorem migrateBody_tells (hr : r.adapter = a.traced) :
    Ends r.migrateBody { session := s } fun result next =>
      ∃ log, next.calls = s.database.calls ++ log ∧
        r.Tells .up s log (∃ ids, result = .ok (.applied ids)) next.state := by
  rw [migrateBody_eq]
  refine (body_course hr fun found => applyPending_takes hr _).mono ?_
  rintro result next ⟨log, hnext, hcourse⟩
  exact ⟨log, hnext, (hcourse.tells hr).congr exists_ok_made⟩

theorem rollbackBody_tells (hr : r.adapter = a.traced) :
    Ends r.rollbackBody { session := s } fun result next =>
      ∃ log, next.calls = s.database.calls ++ log ∧
        r.Tells .down s log (∃ id, result = .ok (.rolledBack id)) next.state := by
  rw [rollbackBody_eq]
  refine (body_course hr fun found => revertLast_takes hr found).mono ?_
  rintro result next ⟨log, hnext, hcourse⟩
  exact ⟨log, hnext, (hcourse.tells hr).congr exists_ok_made⟩

theorem resetTells_undropped (hcause : r.catalog.dialect ≠ r.adapter.dialect ∨
      ∃ e, log = [(.dropAll r.options, some e)]) (hdrops : ∀ t, ¬r.Drops s t)
    (hunchanged : ¬changed) : r.ResetTells s log changed .idle where
  settled := by simp
  idle := iff_of_true rfl hcause
  reached h := absurd rfl h
  dropped t h := absurd h (hdrops t)
  committed := iff_of_false (by simp) hunchanged

theorem resetTells_dropped {t : Session (Traced δ)} (hagree : r.catalog.dialect = r.adapter.dialect)
    (hdrops : r.Drops s t) (h : r.Tells .up t log changed state) :
    r.ResetTells s ((.dropAll r.options, none) :: log) changed state where
  settled := h.settled
  idle := by
    refine iff_of_false (fun hidle => h.idle.mp hidle hagree) ?_
    rintro (hdiffer | ⟨e, he⟩)
    · exact hdiffer hagree
    · simp at he
  reached _ := ⟨t, hdrops⟩
  dropped t' h' := by
    obtain rfl : t = t' := congrArg (·.2.session) (hdrops.symm.trans h')
    exact ⟨log, rfl, h⟩
  committed := h.committed

theorem remigrate_tells (hr : r.adapter = a.traced) (o : Console.Output) :
    Ends (r.migrateBody >>= fun outcome => do RunAction.print o; return outcome) { session := s }
      fun result next => ∃ log, next.calls = s.database.calls ++ log ∧
        r.Tells .up s log (∃ ids, result = .ok (.applied ids)) next.state := by
  refine (migrateBody_tells hr).bind ?_ ?_
  · rintro outcome mid ⟨log, hmid, htells⟩
    refine ends_print fun next hnext hstate => ends_pure.mpr ⟨log, ?_, ?_⟩
    · rw [calls_of_sameWorld hnext, hmid]
    · rw [hstate]
      exact htells.congr (by simp)
  · rintro e next ⟨log, hnext, htells⟩
    exact ⟨log, hnext, htells.congr (by simp)⟩

theorem resetBody_tells (hr : r.adapter = a.traced) :
    Ends r.resetBody { session := s } fun result next =>
      ∃ log, next.calls = s.database.calls ++ log ∧
        r.ResetTells s log (∃ ids, result = .ok (.applied ids)) next.state := by
  have hkept := r.dropEverything_keepsState { session := s }
  have hcalls : Ends r.dropEverything { session := s } _ := dropEverything_calls hr
  rw [resetBody_eq]
  refine ends_bind.mpr ?_
  rcases hrun : r.dropEverything.run { session := s } with ⟨e | _, t, state⟩ <;>
    rw [Ends, hrun] at hkept hcalls ⊢ <;> obtain rfl : state = .idle := hkept
  · have hdrops : ∀ t, ¬r.Drops s t := by
      intro t hdrops
      cases hrun.symm.trans hdrops
    rcases hcalls with ⟨hdiffer, hcalls⟩ | ⟨-, hcalls⟩
    · exact ⟨[], by rw [List.append_nil]; exact hcalls,
        resetTells_undropped (.inl hdiffer) hdrops (by simp)⟩
    · exact ⟨_, hcalls, resetTells_undropped (.inr ⟨e, rfl⟩) hdrops (by simp)⟩
  · obtain ⟨hagree, hcalls⟩ := hcalls
    refine Ends.mono (remigrate_tells hr _) ?_
    rintro result next ⟨log, hnext, htells⟩
    refine ⟨_, ?_, resetTells_dropped hagree hrun htells⟩
    rw [hnext, show t.database.calls = _ from hcalls, List.append_assoc]
    rfl

end Reset

/-- The last state of a run tells what became of it. It never is in the middle of a batch. It is
idle if the dialects differ, or if a reset could not drop everything, and discovering if the
migrations could not be discovered. A batch that was carried out is committed, and one of which
any call failed is rolled back. In all other cases the state is diffing. -/
theorem state_tells_outcome (a : Adapter δ) (c : Catalog) (dryRun : Bool) (s : Session (Traced δ)) :
    let r : Runner (Traced δ) := ⟨a.traced, c, dryRun⟩
    (∃ log, Calls s (r.migrate.start s) log ∧ r.Tells .up s log
      (∃ ids, (r.migrate.start s).1 = .ok (.applied ids)) (r.migrate.start s).2.1) ∧
    (∃ log, Calls s (r.rollback.start s) log ∧ r.Tells .down s log
      (∃ id, (r.rollback.start s).1 = .ok (.rolledBack id)) (r.rollback.start s).2.1) ∧
    r.StatusTells s.files (r.status.start s).2.1 ∧
    ∃ log, Calls s (r.reset.start s) log ∧ r.ResetTells s log
      (∃ ids, (r.reset.start s).1 = .ok (.applied ids)) (r.reset.start s).2.1 := by
  intro r
  have hr : r.adapter = a.traced := rfl
  refine ⟨?_, ?_, status_tells r s, ?_⟩
  · exact command_comes hr (fun (result : Except _ MigrateOutcome) state log =>
      r.Tells .up s log (∃ ids, result = .ok (.applied ids)) state) (migrateBody_tells hr)
  · exact command_comes hr (fun (result : Except _ RollbackOutcome) state log =>
      r.Tells .down s log (∃ id, result = .ok (.rolledBack id)) state) (rollbackBody_tells hr)
  · exact command_comes hr (fun (result : Except _ MigrateOutcome) state log =>
      r.ResetTells s log (∃ ids, result = .ok (.applied ids)) state) (resetBody_tells hr)

/-- Neither a commit nor a rollback goes through. -/
def refusesControl (_ : List Call) (call : Call) : Option MigrationError :=
  if call = .query "COMMIT" [] { pinned := true } ∨
      call = .query "ROLLBACK" [] { pinned := true } then
    some (.execution "COMMIT" "busy")
  else none

theorem state_tells_outcome_refusesControl :
    let r := watching (Rehearsal.adapter (oneTableScript refusesControl)) oneTable
    let s : Session (Traced Rehearsal.Book) := ⟨{}, [], { inner := {} }⟩
    (r.migrate.start s).2.1 = .rolledBack ∧
      ∃ log, Calls s (r.migrate.start s) log ∧ r.Breaks .up s log := by
  intro r s
  obtain ⟨⟨log, hcalls, htells⟩, -⟩ :=
    state_tells_outcome (Rehearsal.adapter (oneTableScript refusesControl)) oneTable false s
  have hstate : (r.migrate.start s).2.1 = .rolledBack := by decide +kernel
  exact ⟨hstate, log, hcalls, htells.rolledBack.mp hstate⟩

end SchemaMigration.Runner
