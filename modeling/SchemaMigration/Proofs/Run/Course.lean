import SchemaMigration.Proofs.Run.FailFast
import SchemaMigration.Proofs.Run.State

/-!
# How far a command comes

The calls of a migrate or a rollback are those of its survey, of the opening of its batch and of the
batch. The first of them that fails, or what there is to do, decides in which state it ends.
-/

namespace SchemaMigration

variable {δ α : Type}

/-! ## Where the first call failed -/

/-- The calls in `first` succeeded, and one of those in the script after it failed. -/
def FailsIn (first script : List AdapterCall) (log : Log) : Prop :=
  ∃ done call rest e recovered, script = done ++ call :: rest ∧
    log = allMade (first ++ done) ++ (call, some e) :: recovered

/-- How many calls succeeded before the first that failed. -/
def succeeded (log : Log) : Nat := (log.takeWhile (·.2 = none)).length

theorem succeeded_failed (made : List AdapterCall) (call : AdapterCall) (e : MigrationError)
    (recovered : Log) : succeeded (allMade made ++ (call, some e) :: recovered) = made.length := by
  unfold succeeded allMade
  rw [List.takeWhile_append_of_pos (by simp), List.takeWhile_cons_of_neg (by simp)]
  simp

namespace FailsIn

variable {first script : List AdapterCall} {log : Log}

theorem bounds (h : FailsIn first script log) :
    first.length ≤ succeeded log ∧ succeeded log < first.length + script.length := by
  obtain ⟨done, call, rest, e, recovered, rfl, rfl⟩ := h
  rw [succeeded_failed]
  simp only [List.length_append, List.length_cons]
  omega

theorem not_clean (h : FailsIn first script log) : ¬Clean log := by
  obtain ⟨done, call, rest, e, recovered, rfl, rfl⟩ := h
  intro hclean
  have hfailed := hclean (call, some e) (List.mem_append_right _ List.mem_cons_self)
  cases hfailed

theorem after (h : FailsIn first script log) (earlier : List AdapterCall) :
    FailsIn (earlier ++ first) script (allMade earlier ++ log) := by
  obtain ⟨done, call, rest, e, recovered, rfl, rfl⟩ := h
  exact ⟨done, call, rest, e, recovered, rfl, by simp⟩

theorem apart {later other : List AdapterCall} (h : FailsIn first script log)
    (h' : FailsIn later other log) (hle : first.length + script.length ≤ later.length) : False := by
  have hbefore := h.bounds
  have hafter := h'.bounds
  omega

end FailsIn

theorem Performs.failsIn {recovery : List AdapterCall → List AdapterCall}
    {script : List AdapterCall} {e : MigrationError} {log : Log}
    (h : Performs recovery script (.error e : Except MigrationError α) log) :
    FailsIn [] script log := by
  cases h with
  | @broken before rest call _ recovered hcut _ => exact ⟨before, call, rest, e, recovered, hcut, rfl⟩

theorem clean_allMade (calls : List AdapterCall) : Clean (allMade calls) := by
  intro call hcall
  obtain ⟨made, -, rfl⟩ := List.mem_map.mp hcall
  rfl

namespace Runner

variable {a : Adapter δ} {r : Runner (Traced δ)} {run : Run (Traced δ)}
variable {direction : Direction} {s : Session (Traced δ)}

/-! ## Batches -/

theorem openBatch_follows (hr : r.adapter = a.traced) :
    Follows (fun _ => []) r.openingScript r.openBatch := by
  have hbegin : Follows (fun _ => []) (if r.transactional then [.begin] else [])
      (if r.transactional then RunAction.ofAction (r.adapter.begin r.batchOptions)
      else pure ()) := by
    cases htx : r.transactional with
    | true => exact .of_adds rfl (control_adds hr htx "BEGIN")
    | false => exact .of_quiet quiet_pure
  unfold openBatch openingScript
  cases r.dryRun with
  | true => exact hbegin
  | false => exact (getClient_follows hr rfl).bind fun _ => hbegin

/-- A batch is committed, or fails at its opening and keeps the state, or fails later and is
given up. -/
theorem runBatch_state (hr : r.adapter = a.traced) (direction : Direction)
    (batch : List PlannedMigration) :
    Ends (r.runBatch direction batch) run fun result next =>
      ∃ log, next.calls = run.calls ++ log ∧ match result with
        | .ok _ => Clean log ∧ next.state = .committed
        | .error _ => FailsIn [] r.openingScript log ∧ next.state = run.state ∨
          FailsIn r.openingScript (r.batchScript direction batch ++ r.closingScript) log ∧
            next.state = .rolledBack := by
  rw [runBatch_eq]
  refine (Ends.and (openBatch_follows hr run) (openBatch_keepsState run)).bind ?_ ?_
  swap
  · rintro e next ⟨⟨log, hlog, hperforms⟩, hstate⟩
    exact ⟨log, hlog, .inl ⟨hperforms.failsIn, hstate⟩⟩
  rintro _ mid ⟨⟨_, hmid, hopened⟩, -⟩
  cases hopened
  -- The calls of the opening precede those of the batch, and all of them succeeded.
  have hcarried := carried_follows hr direction batch mid
  refine (Ends.and hcarried (carryBatch_state direction batch)).mono ?_
  rintro (e | _) next ⟨⟨log, hnext, hperforms⟩, hstate⟩
  · have hfailed := hperforms.failsIn.after r.openingScript
    rw [List.append_nil] at hfailed
    exact ⟨_, by rw [hnext, hmid, List.append_assoc], .inr ⟨hfailed, hstate⟩⟩
  · cases hperforms
    refine ⟨_, by rw [hnext, hmid, List.append_assoc], ?_, hstate⟩
    exact clean_append.mpr ⟨clean_allMade _, clean_allMade _⟩

/-! ## The course of a command -/

section Course

variable (r : Runner (Traced δ)) (direction : Direction)

/-- How a command goes on from the ids that it found: its result, its state and its calls. -/
inductive PlanCourse (tree : Files.FileTree) (ids : List String) (Done : α → Prop)
    (state : RunState) : Except MigrationError α → RunState → Log → Prop
  | nothing {x : α} (none : ids = []) (undone : ¬Done x) :
      PlanCourse tree ids Done state (.ok x) state []
  | unplanned {e : MigrationError}
      (first : r.catalog.FirstFailure r.adapter.dialect tree direction ids e) :
      PlanCourse tree ids Done state (.error e) state []
  | unopened {batch : List PlannedMigration} {e : MigrationError} {log : Log} (some : ids ≠ [])
      (planned : ids.mapM (r.catalog.planned r.adapter.dialect tree direction) = .ok batch)
      (failed : FailsIn [] r.openingScript log) :
      PlanCourse tree ids Done state (.error e) state log
  | broken {batch : List PlannedMigration} {e : MigrationError} {log : Log} (some : ids ≠ [])
      (planned : ids.mapM (r.catalog.planned r.adapter.dialect tree direction) = .ok batch)
      (failed : FailsIn r.openingScript (r.batchScript direction batch ++ r.closingScript) log) :
      PlanCourse tree ids Done state (.error e) .rolledBack log
  | through {batch : List PlannedMigration} {x : α} {log : Log} (some : ids ≠ [])
      (planned : ids.mapM (r.catalog.planned r.adapter.dialect tree direction) = .ok batch)
      (done : Done x) (clean : Clean log) : PlanCourse tree ids Done state (.ok x) .committed log

/-- Why a survey fails. -/
inductive Halts (s : Session (Traced δ)) : RunState → Log → Prop
  | mismatched (differ : r.catalog.dialect ≠ r.adapter.dialect) : Halts s .idle []
  | undiscovered {e : MigrationError} (agree : r.catalog.dialect = r.adapter.dialect)
      (failed : r.catalog.discovery (r.makesDirectory direction) s.files = .error e) :
      Halts s .discovering []
  | unread {all : List String} {log : Log} (agree : r.catalog.dialect = r.adapter.dialect)
      (discovered : r.catalog.discovery (r.makesDirectory direction) s.files = .ok all)
      (failed : FailsIn [] r.surveyScript log) : Halts s .diffing log

/-- The survey finds these ids to be carried out, and leaves these files. -/
def Finds (s : Session (Traced δ)) (ids : List String) (tree : Files.FileTree) : Prop :=
  ∃ found mid, (r.survey direction).run { session := s } = (.ok found, mid) ∧
    targets direction found = ids ∧ mid.session.files = tree

inductive Course (s : Session (Traced δ)) (Done : α → Prop) :
    Except MigrationError α → RunState → Log → Prop
  | halted {e : MigrationError} {state : RunState} {log : Log}
      (halts : r.Halts direction s state log) : Course s Done (.error e) state log
  | surveyed {ids : List String} {tree : Files.FileTree} {result : Except MigrationError α}
      {state : RunState} {log : Log} (finds : r.Finds direction s ids tree)
      (course : r.PlanCourse direction tree ids Done .diffing result state log) :
      Course s Done result state (allMade r.surveyScript ++ log)

/-- However the action ends, it takes one of the courses that the ids allow. -/
def Takes (ids : List String) (Done : α → Prop) (x : RunAction (Traced δ) α) : Prop :=
  ∀ run, Ends x run fun result next => ∃ log, next.calls = run.calls ++ log ∧
    r.PlanCourse direction run.session.files ids Done run.state result next.state log

end Course

variable {Done : α → Prop}

theorem runBatch_takes (hr : r.adapter = a.traced) {ids : List String} {tree : Files.FileTree}
    {batch : List PlannedMigration} (hsome : ids ≠ [])
    (hplanned : ids.mapM (r.catalog.planned r.adapter.dialect tree direction) = .ok batch)
    {finish : RunAction (Traced δ) α} (hfinish : ∀ run, Ends finish run fun result next =>
      (∃ x, result = .ok x ∧ Done x) ∧ next.state = run.state ∧ next.calls = run.calls) :
    Ends (r.runBatch direction batch >>= fun _ => finish) run fun result next =>
      ∃ log, next.calls = run.calls ++ log ∧
        r.PlanCourse direction tree ids Done run.state result next.state log := by
  refine (runBatch_state hr direction batch).bind ?_ ?_
  · rintro _ mid ⟨log, hmid, hclean, hstate⟩
    refine (hfinish mid).mono ?_
    rintro result next ⟨⟨x, rfl, hdone⟩, hkept, hcalls⟩
    refine ⟨log, by rw [hcalls, hmid], ?_⟩
    rw [hkept, hstate]
    exact .through hsome hplanned hdone hclean
  · rintro e next ⟨log, hnext, ⟨hfailed, hstate⟩ | ⟨hfailed, hstate⟩⟩
    · rw [hstate]
      exact ⟨log, hnext, .unopened hsome hplanned hfailed⟩
    · rw [hstate]
      exact ⟨log, hnext, .broken hsome hplanned hfailed⟩

theorem applyPending_takes (hr : r.adapter = a.traced) (pending : List String) :
    r.Takes .up pending (fun x => ∃ ids, x = .applied ids) (r.applyPending pending) := by
  intro run
  unfold applyPending
  split
  · next hnone =>
    exact ends_print fun next hnext hstate => ends_pure.mpr
      ⟨[], by rw [calls_of_sameWorld hnext, List.append_nil], hstate ▸ .nothing hnone (by simp)⟩
  next hsome =>
  refine ends_print fun told htold hstate => ?_
  refine ((r.planBatch_spec .up pending).and (planBatch_keepsState .up pending told)).bind ?_ ?_
  · rintro batch next ⟨⟨hbatch, hnext⟩, hkept⟩
    rw [← hstate, ← hkept, ← calls_of_sameWorld (htold.trans hnext), ← htold.files]
    refine runBatch_takes hr hsome hbatch.symm fun mid => ?_
    exact ends_print fun last hlast hkept => ⟨⟨_, rfl, _, rfl⟩, hkept, calls_of_sameWorld hlast⟩
  · rintro e next ⟨⟨he, hnext⟩, hkept⟩
    refine ⟨[], by rw [calls_of_sameWorld (htold.trans hnext), List.append_nil], ?_⟩
    rw [hkept, hstate, ← htold.files]
    exact .unplanned (Catalog.mapM_planned_eq_error_iff.mp he.symm)

theorem revertLast_takes (hr : r.adapter = a.traced) (found : List String × List String) :
    r.Takes .down (targets .down found) (fun x => ∃ id, x = .rolledBack id)
      (r.revertLast found.2) := by
  have htargets : targets .down found = (Catalog.sortIds found.2).getLast?.toList := rfl
  intro run
  rw [htargets]
  unfold revertLast
  cases (Catalog.sortIds found.2).getLast? with
  | none =>
    exact ends_print fun next hnext hstate => ends_pure.mpr
      ⟨[], by rw [calls_of_sameWorld hnext, List.append_nil], hstate ▸ .nothing rfl (by simp)⟩
  | some last =>
    have hsome : [last] ≠ [] := List.cons_ne_nil _ _
    rw [Option.toList_some]
    have hkeeps := planMigration_keepsState (r := r) .down last run
    refine ((r.planMigration_spec .down last).and hkeeps).bind ?_ ?_
    · rintro p next ⟨⟨hp, hnext⟩, hkept⟩
      rw [← hkept, ← calls_of_sameWorld hnext]
      refine runBatch_takes hr hsome (by rw [mapM_singleton, ← hp]; rfl) fun mid => ?_
      exact ⟨⟨_, rfl, _, rfl⟩, rfl, rfl⟩
    · rintro e next ⟨⟨he, hnext⟩, hkept⟩
      refine ⟨[], by rw [calls_of_sameWorld hnext, List.append_nil], ?_⟩
      rw [hkept]
      exact .unplanned (Catalog.mapM_planned_eq_error_iff.mp (by rw [mapM_singleton, ← he]; rfl))

theorem survey_log (hr : r.adapter = a.traced) (direction : Direction) :
    Ends (r.survey direction) { session := s } fun result next =>
      ∃ log, next.calls = s.database.calls ++ log ∧ match result with
        | .ok _ => log = allMade r.surveyScript ∧
          r.surveyState (r.makesDirectory direction) s.files .idle = .diffing
        | .error _ =>
          r.Halts direction s (r.surveyState (r.makesDirectory direction) s.files .idle) log := by
  refine survey_rule (fun hdiffer => ?_) (fun e next hagree hfailed hd => ?_) ?_
  · refine ⟨[], (List.append_nil _).symm, ?_⟩
    rw [surveyState_mismatched hdiffer]
    exact .mismatched hdiffer
  · refine ⟨[], by rw [Run.calls, hd, List.append_nil], ?_⟩
    rw [surveyState_undiscovered hagree hfailed]
    exact .undiscovered hagree hfailed
  · intro all next hagree hdiscovered _ hd
    have hcalls : next.calls = s.database.calls := congrArg Traced.calls hd
    rw [surveyState_discovered hagree hdiscovered]
    cases hdry : r.dryRun with
    | true =>
      have hscript : r.surveyScript = [] := by simp [surveyScript, hdry]
      exact ⟨[], by rw [List.append_nil]; exact hcalls, by rw [hscript]; rfl, rfl⟩
    | false =>
      have hscript : r.surveyScript = r.readingScript := by simp [surveyScript, hdry]
      refine (readLedger_follows hr next).mono ?_
      rintro (e | completed) last ⟨log, hlast, hperforms⟩
      · exact ⟨log, by rw [hlast, hcalls], .unread hagree hdiscovered (hscript ▸ hperforms.failsIn)⟩
      · cases hperforms
        exact ⟨_, by rw [hlast, hcalls], by rw [hscript], rfl⟩

theorem survey_course (hr : r.adapter = a.traced) (direction : Direction) :
    Ends (r.survey direction) { session := s } fun result next =>
      ∃ log, next.calls = s.database.calls ++ log ∧ match result with
        | .ok _ => log = allMade r.surveyScript ∧ next.state = .diffing
        | .error _ => r.Halts direction s next.state log := by
  refine (Ends.and (survey_log hr direction) (survey_state direction)).mono ?_
  rintro (e | found) next ⟨⟨log, hnext, hcourse⟩, hstate⟩
  · exact ⟨log, hnext, hstate ▸ hcourse⟩
  · exact ⟨log, hnext, hcourse.1, hstate.trans hcourse.2⟩

theorem body_course (hr : r.adapter = a.traced)
    {carry : List String × List String → RunAction (Traced δ) α}
    (hcarry : ∀ found, r.Takes direction (targets direction found) Done (carry found)) :
    Ends (r.survey direction >>= carry) { session := s } fun result next =>
      ∃ log, next.calls = s.database.calls ++ log ∧
        r.Course direction s Done result next.state log := by
  have hsurvey := survey_course (s := s) hr direction
  rcases hrun : (r.survey direction).run { session := s } with ⟨e | found, mid⟩
  · rw [Ends, hrun] at hsurvey
    obtain ⟨log, hmid, halts⟩ := hsurvey
    rw [Ends, run_bind, hrun]
    exact ⟨log, hmid, .halted halts⟩
  · rw [Ends, hrun] at hsurvey
    obtain ⟨_, hmid, rfl, hstate⟩ := hsurvey
    rw [Ends, run_bind, hrun]
    obtain ⟨log, hnext, hcourse⟩ := hcarry found mid
    refine ⟨_, by rw [hnext, hmid, List.append_assoc], .surveyed ⟨found, mid, hrun, rfl, rfl⟩ ?_⟩
    rw [hstate] at hcourse
    exact hcourse

end Runner

end SchemaMigration
