import SchemaMigration.Proofs.Run.Calls

/-!
# What a batch executes

Outside of transactions the contents after a batch are what the executed statements make
of the contents before it, and the executed statements are a prefix of those of the batch.
-/

namespace SchemaMigration

variable {δ γ σ α : Type} {m : Semantics γ} {view : δ → Standing γ} {sight : Files.FileTree → σ}
variable {a : Adapter δ} {g : γ}

/-- The statement of a call that succeeded. -/
def executed? : AdapterCall × Option MigrationError → Option Statement
  | (.query sql params _, none) => some ⟨sql, params⟩
  | _ => none

def executed (log : Log) : List Statement := log.filterMap executed?

@[simp] theorem executed_append (log more : Log) :
    executed (log ++ more) = executed log ++ executed more := List.filterMap_append

theorem executed_send (options : QueryOptions) (statements : List Statement) :
    executed (allMade (statements.map (.send options))) = statements := by
  unfold executed allMade
  rw [List.map_map, List.filterMap_map]
  exact List.filterMap_some

theorem executed_prefix {before script : List AdapterCall} (h : before <+: script) :
    executed (allMade before) <+: executed (allMade script) :=
  (h.map (·, none)).filterMap _

theorem executed_failure (call : AdapterCall) (e : MigrationError) :
    executed [(call, some e)] = [] := by
  cases call <;> rfl

theorem Performs.executed_prefix {script : List AdapterCall} {result : Except MigrationError α}
    {log : Log} (h : Performs (fun _ => []) script result log) :
    executed log <+: executed (allMade script) ∧
      ∀ x, result = .ok x → executed log = executed (allMade script) := by
  cases h with
  | through x => exact ⟨List.prefix_refl _, fun _ _ => rfl⟩
  | broken hcut hrecovers =>
    obtain rfl := List.map_eq_nil_iff.mp hrecovers
    refine ⟨?_, fun x hx => by simp at hx⟩
    rw [executed_append, executed_failure, List.append_nil]
    exact SchemaMigration.executed_prefix ⟨_, hcut.symm⟩

/-! ## Statements outside of transactions -/

/-- The statement is an ordinary one, or one that writes the ledger. -/
def Ordinary (m : Semantics γ) (dialect : Dialect) (st : Statement) : Prop :=
  ¬ m.control st.sql ∨ ∃ direction id, st = Ledger.entry dialect direction id

theorem Lawful.ordinary (hlaw : Lawful a m view sight) {st : Statement} (h : Ordinary m a.dialect st)
    (s : Session δ) :
    Changes view sight (.change (m.effect st)) (a.execute st.sql st.params a.batchOptions) s := by
  rcases h with hcontrol | ⟨direction, id, rfl⟩
  · exact hlaw.execute s _ hcontrol
  · cases direction with
    | up => exact hlaw.recordId s id
    | down => exact hlaw.removeId s id

/-- The call acquires the client, or it sends an ordinary statement of a batch. -/
def Sends (a : Adapter δ) (m : Semantics γ) (call : AdapterCall) : Prop :=
  call = .getClient ∨ ∃ st, call = .send a.batchOptions st ∧ Ordinary m a.dialect st

/-- Outside of transactions: if the calls in between only send statements, the contents after
them are what the executed statements make of the contents before. -/
def Reflects (a : Adapter δ) (m : Semantics γ) (view : δ → Standing γ)
    (run next : Run (Traced δ)) : Prop :=
  ∃ log, next.calls = run.calls ++ log ∧ ((∀ call ∈ log, Sends a m call.1) →
    ∀ g, view run.session.database.inner = .idle g →
      view next.session.database.inner = .idle (m.run (executed log) g))

theorem fileless_reflects : Fileless (Reflects a m view) := by
  intro run next h
  have hcalls : next.calls = run.calls := congrArg Traced.calls h
  exact ⟨[], by rw [hcalls, List.append_nil], fun _ g hg => by rw [h]; exact hg⟩

instance : Frame (Reflects a m view) where
  same h := fileless_reflects _ _ h.database
  trans := by
    rintro first second third ⟨log, hsecond, hreflects⟩ ⟨more, hthird, hmore⟩
    refine ⟨log ++ more, by rw [hthird, hsecond, List.append_assoc], fun hsends g hg => ?_⟩
    rw [hmore (fun call hcall => hsends call (List.mem_append_right _ hcall)) _
      (hreflects (fun call hcall => hsends call (List.mem_append_left _ hcall)) g hg)]
    simp

namespace Runner

variable {r : Runner (Traced δ)} {run : Run (Traced δ)}

theorem reflects_permits (hlaw : Lawful a m view sight) (hr : r.adapter = a.traced) :
    r.Permits (Reflects a m view) where
  files _ := fileless_reflects
  getClient _ := by
    intro run
    rw [hr]
    have hstays : Ends a.getClient run.session.untraced fun _ t =>
        ∀ g, view run.session.untraced.database = .idle g → view t.database = .idle g :=
      fun _ hg => ((hlaw.getClient _).stays_idle hg).2
    refine (traced_getClient hstays).mono ?_
    rintro result next ⟨hidle, hadds⟩
    exact ⟨_, hadds, fun _ => hidle⟩
  query sql params options _ := by
    intro run
    rw [hr]
    refine ends_ofAction.mpr ?_
    by_cases hsends : Sends a m (.query sql params options)
    · obtain ⟨st, hcall, hordinary⟩ := hsends.resolve_left (by simp)
      obtain ⟨rfl, rfl, rfl⟩ := AdapterCall.query.inj hcall
      have hexecutes : Ends (a.execute st.sql st.params a.batchOptions) run.session.untraced
          fun result t => ∀ g, view run.session.untraced.database = .idle g →
            view t.database = .after (.change (m.effect st)) g result :=
        fun _ hg => ((hlaw.ordinary hordinary _).of_idle hg).2
      refine (record_spec (ends_bind.mp hexecutes)).mono ?_
      rintro (e | rows) t ⟨hidle, hcalls⟩
      · exact ⟨_, hcalls, fun _ => hidle⟩
      · exact ⟨_, hcalls, fun _ => hidle⟩
    · exact ⟨_, rfl, fun h => absurd (h _ List.mem_cons_self) hsends⟩

theorem batchScript_eq (hdry : r.dryRun = false) (direction : Direction)
    (batch : List PlannedMigration) :
    r.batchScript direction batch =
      (batch.flatMap (·.writes r.adapter.dialect direction)).map (.send r.adapter.batchOptions) := by
  have hsent : r.sent direction = (·.writes r.adapter.dialect direction) := by
    funext p
    simp [sent, hdry, PlannedMigration.writes]
  rw [batchScript, hsent, batchOptions_eq hdry]

theorem ordinary_of_writes {dialect : Dialect} {direction : Direction}
    {batch : List PlannedMigration}
    (hbatch : ∀ p ∈ batch, ∀ st ∈ p.statements, ¬ m.control st.sql) {st : Statement}
    (hst : st ∈ batch.flatMap (·.writes dialect direction)) : Ordinary m dialect st := by
  obtain ⟨p, hp, hwrites⟩ := List.mem_flatMap.mp hst
  rcases List.mem_append.mp hwrites with hstatement | hentry
  · exact .inl (hbatch p hp st hstatement)
  · exact .inr ⟨direction, p.id, List.mem_singleton.mp hentry⟩

theorem runBatch_executes (hlaw : Lawful a m view sight) (hr : r.adapter = a.traced)
    (htx : r.transactional = false) (hdry : r.dryRun = false) (direction : Direction)
    (batch : List PlannedMigration)
    (hbatch : ∀ p ∈ batch, ∀ st ∈ p.statements, ¬ m.control st.sql)
    (hv : view run.session.database.inner = .idle g) :
    Ends (r.runBatch direction batch) run fun _ next => ∃ log, next.calls = run.calls ++ log ∧
      executed log <+: batch.flatMap (·.writes a.dialect direction) ∧
      view next.session.database.inner = .idle (m.run (executed log) g) := by
  have hscript : r.openingScript ++ (r.batchScript direction batch ++ r.closingScript) =
      .getClient :: (batch.flatMap (·.writes a.dialect direction)).map (.send a.batchOptions) := by
    rw [batchScript_eq hdry, hr]
    simp [openingScript, closingScript, htx, hdry]
    rfl
  have hfollows := runBatch_plain hr htx direction batch run
  rw [hscript] at hfollows
  refine (hfollows.and (runBatch_preserves (reflects_permits hlaw hr) direction batch run)).mono ?_
  rintro result next ⟨⟨log, hcalls, hperforms⟩, log', hcalls', hreflects⟩
  obtain rfl : log = log' := List.append_cancel_left (hcalls.symm.trans hcalls')
  have hexecuted := hperforms.executed_prefix.1
  refine ⟨log, hcalls, ?_, hreflects (fun call hcall => ?_) g hv⟩
  · rwa [← executed_send a.batchOptions (batch.flatMap _)]
  · have hmem := hperforms.mem_script call hcall
    rcases List.mem_cons.mp hmem with hclient | hsent
    · exact .inl hclient
    · obtain ⟨st, hst, hcall⟩ := List.mem_map.mp hsent
      exact .inr ⟨st, hcall.symm, ordinary_of_writes hbatch hst⟩

end Runner

end SchemaMigration
