import SchemaMigration.Proofs.Run.Calls

/-!
# The first failure is the outcome

Whatever fails, a command ends with the failure of the first call that failed, and its last
two calls release the client and disconnect. What becomes of them does not matter.
-/

namespace SchemaMigration

variable {δ α β : Type}

/-! ## What the calls say about the outcome -/

/-- If a call failed, the first failure is the outcome, and all that comes after it gives
up a transaction that the runner has begun. -/
inductive Settled (result : Except MigrationError α) : Log → Prop
  | calm {made : List AdapterCall} (plain : ∀ call ∈ made, call.isCleanup = false) :
      Settled result (allMade made)
  | failed {before : List AdapterCall} {call : AdapterCall} {e : MigrationError} {recovered : Log}
      (plain : ∀ made ∈ before ++ [call], made.isCleanup = false) (first : result = .error e)
      (recovers : recovered.map (·.1) = Runner.rescue before) :
      Settled result (allMade before ++ (call, some e) :: recovered)

theorem settled_nil (result : Except MigrationError α) : Settled result [] :=
  have hnone : ∀ call ∈ ([] : List AdapterCall), call.isCleanup = false := by simp
  .calm hnone

theorem Settled.after {result : Except MigrationError α} {log : Log} {first : List AdapterCall}
    (h : Settled result log) (hplain : ∀ call ∈ first, call.isCleanup = false)
    (hbegin : .begin ∉ first) : Settled result (allMade first ++ log) := by
  cases h with
  | calm hplain' =>
    rw [← allMade_append]
    refine .calm fun call hcall => ?_
    rcases List.mem_append.mp hcall with hfirst | hmade
    · exact hplain call hfirst
    · exact hplain' call hmade
  | failed hplain' hfirst' hrecovers =>
    rw [← List.append_assoc, ← allMade_append]
    refine .failed (fun made hmade => ?_) hfirst' (hrecovers.trans ?_)
    · rw [List.append_assoc] at hmade
      rcases List.mem_append.mp hmade with hfirst | hmade
      · exact hplain made hfirst
      · exact hplain' made hmade
    · simp [Runner.rescue, hbegin]

theorem Performs.settled {script : List AdapterCall} {result : Except MigrationError α} {log : Log}
    (h : Performs Runner.rescue script result log) (hplain : ∀ call ∈ script, call.isCleanup = false) :
    Settled result log := by
  cases h with
  | through x => exact .calm hplain
  | broken hcut hrecovers =>
    refine .failed (fun made hmade => hplain made ?_) rfl hrecovers
    rw [hcut, List.append_cons]
    exact List.mem_append_left _ hmade

/-- However the part of a run ends, its calls settle the outcome. -/
def Settles (a : RunAction (Traced δ) α) : Prop :=
  ∀ run, Ends a run fun result next =>
    ∃ log, next.calls = run.calls ++ log ∧ Settled result log

def SameCalls (run next : Run (Traced δ)) : Prop := next.calls = run.calls

instance : Frame (SameCalls (δ := δ)) where
  same h := calls_of_sameWorld h
  trans h h' := h'.trans h

namespace Settles

variable {a : RunAction (Traced δ) α} {f : α → RunAction (Traced δ) β}

theorem of_silent (h : Preserves SameCalls a) : Settles a := fun run =>
  (h run).mono fun _ _ hnext =>
    ⟨[], by rw [hnext, List.append_nil], settled_nil _⟩

theorem of_follows {script : List AdapterCall} (h : Follows Runner.rescue script a)
    (hplain : ∀ call ∈ script, call.isCleanup = false) : Settles a := fun run =>
  (h run).mono fun _ _ ⟨log, hnext, hperforms⟩ => ⟨log, hnext, hperforms.settled hplain⟩

theorem bind_silent (ha : Preserves SameCalls a) (hf : ∀ x, Settles (f x)) : Settles (a >>= f) := by
  intro run
  refine (ha run).bind ?_ ?_
  · intro x mid hmid
    refine (hf x mid).mono ?_
    rintro result next ⟨log, hnext, hsettled⟩
    exact ⟨log, by rw [hnext, hmid], hsettled⟩
  · intro e next hnext
    exact ⟨[], by rw [hnext, List.append_nil], settled_nil _⟩

theorem bind_follows {script : List AdapterCall} (ha : Follows (fun _ => []) script a)
    (hplain : ∀ call ∈ script, call.isCleanup = false) (hbegin : .begin ∉ script)
    (hf : ∀ x, Settles (f x)) : Settles (a >>= f) := by
  intro run
  refine (ha run).bind ?_ ?_
  · rintro x mid ⟨_, hmid, hperforms⟩
    cases hperforms
    refine (hf x mid).mono ?_
    rintro result next ⟨log, hnext, hsettled⟩
    exact ⟨_, by rw [hnext, hmid, List.append_assoc], hsettled.after hplain hbegin⟩
  · rintro e next ⟨log, hnext, hperforms⟩
    refine ⟨log, hnext, ?_⟩
    cases hperforms with
    | broken hcut hrecovers =>
      refine .failed (fun made hmade => hplain made ?_) rfl ?_
      · rw [hcut, List.append_cons]
        exact List.mem_append_left _ hmade
      · rw [hrecovers, Runner.rescue, if_neg]
        intro hmem
        exact hbegin (hcut ▸ List.mem_append_left _ hmem)

theorem then_silent (ha : Settles a) (hf : ∀ x, Preserves SameCalls (f x)) : Settles (a >>= f) := by
  intro run
  refine (ha run).bind ?_ ?_
  · rintro x mid ⟨log, hmid, hsettled⟩
    refine (hf x mid).mono fun result next hnext => ⟨log, by rw [hnext, hmid], ?_⟩
    cases hsettled with
    | calm hplain => exact .calm hplain
    | failed _ hfirst _ => simp at hfirst
  · rintro e next ⟨log, hnext, hsettled⟩
    refine ⟨log, hnext, ?_⟩
    cases hsettled with
    | calm hplain => exact .calm hplain
    | failed hplain hfirst hrecovers => exact .failed hplain (Except.error.inj hfirst ▸ rfl) hrecovers

end Settles

/-! ## The bodies -/

namespace Runner

variable {a : Adapter δ} {r : Runner (Traced δ)}

theorem discover_silent (createMissing : Bool) : Preserves SameCalls (r.discover createMissing) :=
  discover_preserves fun _ _ _ hd => congrArg Traced.calls hd

theorem readingScript_plain : ∀ call ∈ r.readingScript, call.isCleanup = false := by
  unfold readingScript
  split <;> simp [AdapterCall.isCleanup]

theorem runBatch_settles (hr : r.adapter = a.traced) (direction : Direction)
    (batch : List PlannedMigration) : Settles (r.runBatch direction batch) := by
  refine .of_follows (runBatch_follows hr direction batch) fun call hcall => ?_
  simp only [List.mem_append] at hcall
  rcases hcall with hopening | hbatch | hclosing
  · simp only [openingScript, List.mem_append, List.mem_ite_nil_left, List.mem_ite_nil_right,
      List.mem_singleton] at hopening
    rcases hopening with ⟨-, rfl⟩ | ⟨-, rfl⟩ <;> rfl
  · obtain ⟨st, -, rfl⟩ := List.mem_map.mp hbatch
    rfl
  · simp only [closingScript, List.mem_ite_nil_right, List.mem_singleton] at hclosing
    rw [hclosing.2]
    rfl

theorem completed_settles (hr : r.adapter = a.traced) (assumed : List String)
    {f : List String → RunAction (Traced δ) α} (hf : ∀ completed, Settles (f completed)) :
    Settles (if r.dryRun = true then pure assumed >>= f else r.readLedger >>= f) := by
  split
  · exact .bind_silent (.pure assumed) hf
  · exact .bind_follows (readLedger_follows hr) readingScript_plain begin_not_mem_readingScript hf

theorem migrateBody_settles (hr : r.adapter = a.traced) : Settles r.migrateBody := by
  unfold migrateBody
  refine .bind_silent checkDialect_preserves fun _ => ?_
  refine .bind_silent (discover_silent _) fun all => ?_
  refine .bind_silent (.of_quiet (quiet_announceDryRun r)) fun _ => ?_
  refine .bind_silent (.of_quiet (quiet_enter r _)) fun _ => ?_
  refine completed_settles hr [] fun completed => ?_
  dsimp only
  split
  · exact .bind_silent (.of_quiet (quiet_print _)) fun _ => .of_silent (.pure _)
  · refine .bind_silent (.of_quiet (quiet_print _)) fun _ => ?_
    refine .bind_silent (.of_gives fun run => r.planBatch_spec .up _) fun batch => ?_
    refine .then_silent (runBatch_settles hr .up batch) fun _ => ?_
    exact (Preserves.of_quiet (quiet_print _)).bind fun _ => .pure _

theorem rollbackBody_settles (hr : r.adapter = a.traced) : Settles r.rollbackBody := by
  unfold rollbackBody
  refine .bind_silent checkDialect_preserves fun _ => ?_
  refine .bind_silent (discover_silent _) fun all => ?_
  refine .bind_silent (.of_quiet (quiet_announceDryRun r)) fun _ => ?_
  refine .bind_silent (.of_quiet (quiet_enter r _)) fun _ => ?_
  refine completed_settles hr all fun completed => ?_
  dsimp only
  split
  · exact .bind_silent (.of_quiet (quiet_print _)) fun _ => .of_silent (.pure _)
  · next last _ =>
    refine .bind_silent (.of_gives fun run => r.planMigration_spec .down last) fun p => ?_
    exact .then_silent (runBatch_settles hr .down [p]) fun _ => .pure _

theorem statusBody_settles (hr : r.adapter = a.traced) : Settles r.statusBody := by
  obtain ⟨hcreate, hselect⟩ := ledger_ne_begin r.adapter.dialect
  unfold statusBody
  refine .bind_silent checkDialect_preserves fun _ => ?_
  refine .bind_silent (discover_silent _) fun all => ?_
  refine .bind_silent (.of_quiet (quiet_enter r _)) fun _ => ?_
  refine .bind_follows (ensureLedger_follows hr rfl {}) ?_ ?_ fun _ => ?_
  · simp [AdapterCall.isCleanup]
  · simp [AdapterCall.begin, AdapterCall.control]
  refine .bind_follows (selectLedger_follows hr rfl {}) ?_ ?_ fun completed => .of_silent (.pure _)
  · simp [AdapterCall.isCleanup]
  · simp [AdapterCall.begin, AdapterCall.control]

theorem resetBody_settles (hr : r.adapter = a.traced) : Settles r.resetBody := by
  unfold resetBody
  refine .bind_silent checkDialect_preserves fun _ => ?_
  refine .bind_silent (.of_quiet (quiet_print _)) fun _ => ?_
  refine .bind_silent (.of_quiet (quiet_print _)) fun _ => ?_
  refine .bind_follows (dropAll_follows hr rfl r.options) ?_ ?_ fun _ => ?_
  · simp [AdapterCall.isCleanup]
  · simp [AdapterCall.begin, AdapterCall.control]
  refine .bind_silent (.of_quiet (quiet_print _)) fun _ => ?_
  refine .bind_silent (.of_quiet (quiet_print _)) fun _ => ?_
  refine .then_silent (migrateBody_settles hr) fun _ => ?_
  exact (Preserves.of_quiet (quiet_print _)).bind fun _ => .pure _

/-! ## The cleanup does not matter -/

section Closing

variable (r : Runner δ) (release disconnect : Action δ Unit)

/-- The runner with another way to release the client and to disconnect. -/
def closing : Runner δ :=
  { r with adapter := { r.adapter with releaseClient := release, disconnect } }

theorem sendSteps_closing (steps : List Step) :
    (r.closing release disconnect).sendSteps steps = r.sendSteps steps := by
  induction steps with
  | nil => rfl
  | cons s rest ih =>
    simp only [sendSteps, ih]
    rfl

theorem applyAll_closing (direction : Direction) (number : Nat) (batch : List PlannedMigration) :
    (r.closing release disconnect).applyAll direction number batch =
      r.applyAll direction number batch := by
  induction batch generalizing number with
  | nil => rfl
  | cons p rest ih =>
    simp only [applyAll, ih, sendSteps_closing]
    rfl

theorem runBatch_closing (direction : Direction) (batch : List PlannedMigration) :
    (r.closing release disconnect).runBatch direction batch = r.runBatch direction batch := by
  simp only [runBatch, applyAll_closing]
  rfl

theorem planSteps_closing (id : String) (ops : List Operation) :
    (r.closing release disconnect).planSteps id ops = r.planSteps id ops := by
  induction ops with
  | nil => rfl
  | cons op rest ih =>
    simp only [planSteps, ih]
    rfl

theorem planMigration_closing (direction : Direction) (id : String) :
    (r.closing release disconnect).planMigration direction id = r.planMigration direction id := by
  simp only [planMigration, planSteps_closing]
  rfl

theorem planBatch_closing (direction : Direction) (ids : List String) :
    (r.closing release disconnect).planBatch direction ids = r.planBatch direction ids := by
  induction ids with
  | nil => rfl
  | cons id rest ih => simp only [planBatch, ih, planMigration_closing]

theorem migrateBody_closing : (r.closing release disconnect).migrateBody = r.migrateBody := by
  simp only [migrateBody, planBatch_closing, runBatch_closing]
  rfl

theorem rollbackBody_closing : (r.closing release disconnect).rollbackBody = r.rollbackBody := by
  simp only [rollbackBody, planMigration_closing, runBatch_closing]
  rfl

theorem resetBody_closing : (r.closing release disconnect).resetBody = r.resetBody := by
  simp only [resetBody, migrateBody_closing]
  rfl

end Closing

theorem tolerate_succeeds (complaint : String) (call : Action δ Unit) (run : Run δ) :
    Ends (tolerate complaint call) run fun result _ => result = .ok () := by
  have hcall : Ends call run.session fun _ _ => True := trivial
  exact (tolerate_spec complaint hcall).mono fun _ _ h => h.1

theorem cleanup_succeeds (r : Runner δ) (run : Run δ) :
    Ends r.cleanup run fun result _ => result = .ok () := by
  refine (tolerate_succeeds _ _ run).bind (fun _ next _ => tolerate_succeeds _ _ next) ?_
  intro e next he
  simp at he

theorem command_result (r : Runner δ) (body : RunAction δ α) (run : Run δ) :
    ((r.command body).run run).1 = (body.run run).1 := by
  have hbody : Ends body run fun result _ => result = (body.run run).1 := rfl
  have hcleanup : ∀ mid, Ends r.cleanup mid fun result _ => result = .ok () ∧ True :=
    fun mid => (cleanup_succeeds r mid).mono fun _ _ h => ⟨h, trivial⟩
  obtain ⟨-, hresult, -⟩ := command_rule hbody hcleanup
  exact hresult

/-! ## The commands -/

/-- Behind the calls that settle the outcome come the two of the cleanup. -/
def CleansUp (s : Session (Traced δ))
    (finished : Except MigrationError α × RunState × Session (Traced δ)) : Prop :=
  ∃ log released disconnected, Settled finished.1 log ∧
    finished.2.2.database.calls =
      s.database.calls ++ log ++ [(.releaseClient, released), (.disconnect, disconnected)]

theorem command_cleansUp (hr : r.adapter = a.traced) {body : RunAction (Traced δ) α}
    (hbody : Settles body) (s : Session (Traced δ)) : CleansUp s ((r.command body).start s) := by
  obtain ⟨mid, released, disconnected, ⟨log, hmid, hsettled⟩, hnext⟩ :=
    command_calls hr (hbody { session := s })
  rw [hmid] at hnext
  exact ⟨log, released, disconnected, hsettled, hnext⟩

theorem start_closing {body body' : RunAction δ α} (hbody : body' = body) (r r' : Runner δ)
    (s : Session δ) : ((r'.command body').start s).1 = ((r.command body).start s).1 := by
  rw [start_eq, start_eq, command_result, command_result, hbody]

/-- Whichever calls fail: the first failure before the cleanup is the outcome of a command.
After it a transaction that was begun is given up, and nothing else is done. The last two
calls, and no others, release the client and disconnect; no outcome depends on them. -/
theorem first_error_wins (a : Adapter δ) (c : Catalog) (dryRun : Bool) (s : Session (Traced δ)) :
    let r : Runner (Traced δ) := ⟨a.traced, c, dryRun⟩
    (CleansUp s (r.migrate.start s) ∧ CleansUp s (r.rollback.start s) ∧
      CleansUp s (r.status.start s) ∧ CleansUp s (r.reset.start s)) ∧
    ∀ release disconnect, let other := r.closing release disconnect
      (other.migrate.start s).1 = (r.migrate.start s).1 ∧
      (other.rollback.start s).1 = (r.rollback.start s).1 ∧
      (other.status.start s).1 = (r.status.start s).1 ∧
      (other.reset.start s).1 = (r.reset.start s).1 := by
  intro r
  refine ⟨⟨?_, ?_, ?_, ?_⟩, fun release disconnect => ⟨?_, ?_, ?_, ?_⟩⟩
  · exact command_cleansUp rfl (migrateBody_settles rfl) s
  · exact command_cleansUp rfl (rollbackBody_settles rfl) s
  · exact command_cleansUp rfl (statusBody_settles rfl) s
  · exact command_cleansUp rfl (resetBody_settles rfl) s
  · exact start_closing (migrateBody_closing r release disconnect) r _ s
  · exact start_closing (rollbackBody_closing r release disconnect) r _ s
  · exact start_closing (show (r.closing release disconnect).statusBody = r.statusBody from rfl) r _ s
  · exact start_closing (resetBody_closing r release disconnect) r _ s

end Runner

end SchemaMigration
