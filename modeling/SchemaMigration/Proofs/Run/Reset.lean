import SchemaMigration.Proofs.Database.Rehearsal
import SchemaMigration.Proofs.Database.Traced

/-!
# A reset drops before it looks

The first call of a reset drops all tables. Only then are the migrations discovered,
loaded and planned.
-/

namespace SchemaMigration

variable {δ α : Type} {a : Adapter δ} {empty : δ → Prop}

/-- After everything is dropped the ledger reads as empty until something is written into
it; the files are left alone. -/
structure Empties (a : Adapter δ) (empty : δ → Prop) : Prop where
  dropAll : ∀ s options, Ends (a.dropAll options) s fun result t =>
    t.files = s.files ∧ (options.dryRun = false → result = .ok () → empty t.database)
  getClient : ∀ s, empty s.database → Ends a.getClient s fun _ t =>
    t.files = s.files ∧ empty t.database
  ensureLedger : ∀ s options, empty s.database → Ends (a.ensureLedger options) s fun _ t =>
    t.files = s.files ∧ empty t.database
  readLedger : ∀ s options, empty s.database → Ends (a.readLedger options) s fun result t =>
    t.files = s.files ∧ ∀ ids, result = .ok ids → ids = []

/-! ## A rehearsal is empty after a reset -/

namespace Rehearsal

variable {script : Script} {s : Session Book}

theorem query_harmless {sql : String} {params : List SqlValue} {options : QueryOptions}
    (h : ∀ b : Book, (b.execute script sql params).2 = b) :
    Ends (query script sql params options) s fun _ t =>
      t.files = s.files ∧ t.database.standing = s.database.standing := by
  cases hdry : options.dryRun with
  | true => exact (query_shown sql params hdry).mono fun _ _ ht => ⟨ht.1, ht.2.1⟩
  | false =>
    refine (query_spec sql params hdry).mono ?_
    rintro result t ⟨hf, ⟨-, hb⟩ | ⟨b, hb, -, hd⟩⟩
    · exact ⟨hf, hb⟩
    · exact ⟨hf, by rw [hd, h, hb]⟩

theorem dropAll_empties (options : QueryOptions) :
    Ends ((adapter script).dropAll options) s fun result t => t.files = s.files ∧
      (options.dryRun = false → result = .ok () → t.database.store.ledger = []) := by
  unfold adapter
  dsimp only
  split
  · cases hdry : options.dryRun with
    | true =>
      refine (query_shown dropAllSql [] hdry).bind ?_ ?_
      · rintro _ t ⟨hf, -⟩
        exact ends_pure.mpr ⟨hf, fun h => by simp at h⟩
      · rintro e t ⟨hf, -⟩
        exact ⟨hf, fun h => by simp at h⟩
    | false =>
      refine (query_spec dropAllSql [] hdry).bind ?_ ?_
      · rintro rows t ⟨hf, ⟨⟨e, he⟩, -⟩ | ⟨b, -, -, hd⟩⟩
        · simp at he
        · exact ends_pure.mpr ⟨hf, fun _ _ => by rw [hd, execute_dropAll]⟩
      · rintro e t ⟨hf, -⟩
        exact ⟨hf, fun _ h => by simp at h⟩
  · exact ends_throw.mpr ⟨rfl, fun _ h => by simp at h⟩
  · exact ends_throw.mpr ⟨rfl, fun _ h => by simp at h⟩

theorem dropAll_accepted (hdialect : script.dialect = .postgresql)
    (haccepts : ∀ calls call, script.refuses calls call = none) :
    Ends ((adapter script).dropAll {}) s fun result t =>
      t.files = s.files ∧ result = .ok () ∧ t.database.store.ledger = [] := by
  unfold adapter
  rw [hdialect]
  refine (query_accepted dropAllSql [] rfl haccepts).bind ?_ ?_
  · rintro rows t ⟨hf, b, -, -, hd⟩
    rw [execute_dropAll] at hd
    exact ends_pure.mpr ⟨hf, rfl, by rw [hd]⟩
  · rintro e t ⟨-, b, -, hresult, -⟩
    simp [execute_dropAll] at hresult

theorem adapter_empties (script : Script) (hrows : script.extraRows.filterMap Adapter.idOfRow? = []) :
    Empties (adapter script) fun b => b.store.ledger = [] where
  dropAll s options := dropAll_empties options
  getClient s hempty := by
    refine (note_spec _).mono ?_
    rintro _ t rfl
    exact ⟨rfl, hempty⟩
  ensureLedger s options hempty := by
    have hcreate : Ends (query script (Ledger.createSql script.dialect) [] options) s fun _ t =>
        t.files = s.files ∧ t.database.standing = s.database.standing :=
      query_harmless fun b => by rw [execute_create]
    have hstore : ∀ {t : Session Book}, t.database.standing = s.database.standing →
        t.database.store.ledger = [] := by
      intro t h
      have hcontents : t.database.store = s.database.store := by simpa using congrArg Standing.contents h
      rw [hcontents, hempty]
    refine hcreate.bind ?_ ?_
    · rintro _ t ⟨hf, hd⟩
      exact ends_pure.mpr ⟨hf, hstore hd⟩
    · rintro e t ⟨hf, hd⟩
      exact ⟨hf, hstore hd⟩
  readLedger s options hempty := by
    cases hdry : options.dryRun with
    | true =>
      refine (query_shown Ledger.selectSql [] hdry).bind ?_ ?_
      · rintro rows t ⟨hf, -, hrows⟩
        refine ends_pure.mpr ⟨hf, fun ids h => ?_⟩
        obtain rfl := Except.ok.inj h
        rw [hrows rows rfl, List.filterMap_nil]
      · rintro e t ⟨hf, -⟩
        exact ⟨hf, fun ids h => by simp at h⟩
    | false =>
      refine (readLedger_spec hrows hdry).mono ?_
      rintro result t ⟨hf, -, hids⟩
      refine ⟨hf, fun ids h => ?_⟩
      have hperm := hids ids h
      rw [hempty] at hperm
      exact hperm.eq_nil

end Rehearsal

/-- The failure is `e`, or that of a call which was made before the cleanup. -/
def Blames (e : MigrationError) (result : Except MigrationError α)
    (calls : List (AdapterCall × Option MigrationError)) : Prop :=
  ∃ failed, result = .error failed ∧
    (failed = e ∨ ∃ call, call.isCleanup = false ∧ (call, some failed) ∈ calls)

theorem Blames.mono {e : MigrationError} {result : Except MigrationError α}
    {calls more : List (AdapterCall × Option MigrationError)} (h : Blames e result calls)
    (hmore : calls ⊆ more) : Blames e result more := by
  obtain ⟨failed, hresult, hfailed | ⟨call, hcall, hmem⟩⟩ := h
  · exact ⟨failed, hresult, .inl hfailed⟩
  · exact ⟨failed, hresult, .inr ⟨call, hcall, hmore hmem⟩⟩

theorem Adds.blames {e failed : MigrationError} {call : AdapterCall} {run next : Run (Traced δ)}
    (h : Adds call run (.error failed : Except MigrationError α) next)
    (hcall : call.isCleanup = false) {β : Type} :
    Blames e (.error failed : Except MigrationError β) next.calls := by
  refine ⟨failed, rfl, .inr ⟨call, hcall, ?_⟩⟩
  rw [h]
  exact List.mem_append_right _ (List.mem_singleton.mpr rfl)

namespace Runner

variable {r : Runner (Traced δ)} {run : Run (Traced δ)}

theorem readLedger_blames (hempties : Empties a empty) (hr : r.adapter = a.traced)
    (hempty : empty run.session.database.inner) (e : MigrationError) :
    Ends r.readLedger run fun result next => next.session.files = run.session.files ∧
      (result = .ok [] ∨ Blames e result next.calls) := by
  have hread : ∀ mid : Run (Traced δ), empty mid.session.database.inner →
      Ends (do
        RunAction.ofAction (r.adapter.ensureLedger r.batchOptions)
        RunAction.ofAction (r.adapter.readLedger r.batchOptions)) mid fun result next =>
        next.session.files = mid.session.files ∧ (result = .ok [] ∨ Blames e result next.calls) := by
    intro mid hmid
    rw [hr]
    refine (traced_ensureLedger (hempties.ensureLedger _ _ hmid)).bind ?_ ?_
    · rintro _ next ⟨⟨hf, hnext⟩, -⟩
      refine (traced_readLedger (hempties.readLedger _ _ hnext)).mono ?_
      rintro (failed | ids) last ⟨⟨hf', hids⟩, hadds⟩
      · exact ⟨hf'.trans hf, .inr (hadds.blames rfl)⟩
      · exact ⟨hf'.trans hf, .inl (by rw [hids ids rfl])⟩
    · rintro failed next ⟨⟨hf, -⟩, hadds⟩
      exact ⟨hf, .inr (hadds.blames rfl)⟩
  unfold readLedger
  split
  · refine Ends.bind (by rw [hr]; exact traced_getClient (hempties.getClient _ hempty)) ?_ ?_
    · rintro _ mid ⟨⟨hf, hmid⟩, -⟩
      exact (hread mid hmid).mono fun result next h => ⟨h.1.trans hf, h.2⟩
    · rintro failed next ⟨⟨hf, -⟩, hadds⟩
      exact ⟨hf, .inr (hadds.blames rfl)⟩
  · exact hread run hempty

theorem migrateBody_blames (hempties : Empties a empty) (hr : r.adapter = a.traced)
    (hdialect : r.catalog.dialect = r.adapter.dialect)
    (hempty : r.dryRun = false → empty run.session.database.inner) {e : MigrationError}
    (he : r.catalog.validation r.adapter.dialect (!r.dryRun) run.session.files = .error e) :
    Ends r.migrateBody run fun result next => Blames e result next.calls := by
  have hown : ∀ calls, Blames e (.error e : Except MigrationError MigrateOutcome) calls :=
    fun calls => ⟨e, rfl, .inl rfl⟩
  unfold migrateBody
  refine checkDialect_spec.bind ?_ ?_
  swap
  · rintro failed run₀ ⟨-, hfailed⟩
    simp [hdialect] at hfailed
  rintro _ run₀ ⟨rfl, -⟩
  refine (discover_spec _).bind ?_ ?_
  swap
  · rintro failed run₁ ⟨hfailed, -, -⟩
    obtain rfl : failed = e := by
      simpa [Catalog.validation, ← hfailed, bind, Except.bind] using he
    exact hown _
  rintro all run₁ ⟨hall, hf₁, hd₁⟩
  have hplan : all.mapM (r.catalog.planned r.adapter.dialect run₁.session.files .up) = .error e := by
    rw [hf₁]
    simpa [Catalog.validation, ← hall, bind, Except.bind] using he
  have hall_ne : all ≠ [] := by
    rintro rfl
    simp [pure, Except.pure] at hplan
  refine ends_of_quiet (quiet_announceDryRun r) fun run₂ h₂ => ?_
  refine ends_of_quiet (quiet_enter r _) fun run₃ h₃ => ?_
  have hf₃ : run₃.session.files = run₁.session.files := by rw [h₃.files, h₂.files]
  have hfilter : all.filter (· ∉ ([] : List String)) = all := by simp
  have hbatch : ∀ run₄ : Run (Traced δ), run₄.session.files = run₁.session.files →
      Ends (do
        RunAction.print (Console.info ("Found " ++ toString all.length ++ " pending migrations."))
        let batch ← r.planBatch .up all
        r.runBatch .up batch
        RunAction.print (Console.success "All migrations completed successfully.")
        return MigrateOutcome.applied all) run₄ fun result next => Blames e result next.calls := by
    intro run₄ hf₄
    refine ends_of_quiet (quiet_print _) fun run₅ h₅ => ?_
    refine Ends.bind (r.planBatch_spec .up all) ?_ ?_
    · rintro batch run₆ ⟨hok, -⟩
      rw [h₅.files, hf₄, hplan] at hok
      simp at hok
    · rintro failed run₆ ⟨hfailed, -⟩
      rw [h₅.files, hf₄, hplan] at hfailed
      obtain rfl := Except.error.inj hfailed
      exact hown _
  split
  · rw [pure_bind]
    dsimp only
    rw [hfilter, if_neg hall_ne]
    exact hbatch run₃ hf₃
  · next hdry =>
    have hempty₃ : empty run₃.session.database.inner := by
      rw [h₃.database, h₂.database, hd₁]
      exact hempty (by simpa using hdry)
    refine (readLedger_blames hempties hr hempty₃ e).bind ?_ ?_
    · rintro completed run₄ ⟨hf₄, hok | ⟨failed, hfailed, -⟩⟩
      · obtain rfl : completed = [] := Except.ok.inj hok
        dsimp only
        rw [hfilter, if_neg hall_ne]
        exact hbatch run₄ (hf₄.trans hf₃)
      · simp at hfailed
    · rintro failed run₄ ⟨-, hok | ⟨other, hother, hblame⟩⟩
      · simp at hok
      · obtain rfl : failed = other := Except.error.inj hother
        exact ⟨failed, rfl, hblame⟩

theorem migrateBody_undiscovered {δ : Type} {r : Runner δ} {run : Run δ}
    (hdialect : r.catalog.dialect = r.adapter.dialect) {e : MigrationError}
    (he : r.catalog.discovery (!r.dryRun) run.session.files = .error e) :
    Ends r.migrateBody run fun result next =>
      result = .error e ∧ next.session.database = run.session.database := by
  unfold migrateBody
  refine checkDialect_spec.bind ?_ ?_
  · rintro _ run₀ ⟨rfl, -⟩
    refine (discover_spec _).bind ?_ ?_
    · rintro all run₁ ⟨hall, -, -⟩
      simp [he] at hall
    · rintro failed run₁ ⟨hfailed, -, hd⟩
      obtain rfl := Except.error.inj (hfailed.trans he)
      exact ⟨rfl, hd⟩
  · rintro failed run₀ ⟨-, hfailed⟩
    simp [hdialect] at hfailed

/-! ## The body of a reset -/

theorem resetBody_rule {post : Except MigrationError MigrateOutcome → Run (Traced δ) → Prop}
    (hdialect : r.catalog.dialect = r.adapter.dialect)
    (h : ∀ before, SameWorld run before →
      Ends (RunAction.ofAction (r.adapter.dropAll r.options)) before fun
        | .error e, next => post (.error e) next
        | .ok _, dropped => ∀ next, SameWorld dropped next → Ends r.migrateBody next fun
          | .error e, last => post (.error e) last
          | .ok outcome, migrated => ∀ last, SameWorld migrated last → post (.ok outcome) last) :
    Ends r.resetBody run post := by
  unfold resetBody
  refine checkDialect_spec.bind ?_ ?_
  swap
  · rintro failed run₀ ⟨-, hfailed⟩
    simp [hdialect] at hfailed
  rintro _ run₀ ⟨rfl, -⟩
  refine ends_of_quiet (quiet_print _) fun run₁ h₁ => ?_
  refine ends_of_quiet (quiet_print _) fun run₂ h₂ => ?_
  refine (h run₂ (h₁.trans h₂)).bind ?_ ?_
  · intro _ run₃ h₃
    refine ends_of_quiet (quiet_print _) fun run₄ h₄ => ?_
    refine ends_of_quiet (quiet_print _) fun run₅ h₅ => ?_
    refine (h₃ run₅ (h₄.trans h₅)).bind ?_ ?_
    · intro outcome run₆ h₆
      exact ends_of_quiet (quiet_print _) fun run₇ h₇ => h₆ run₇ h₇
    · intro e run₆ h₆
      exact h₆
  · intro e run₃ h₃
    exact h₃

/-- The first call drops all tables. Where nothing can be discovered it is the only one. -/
theorem resetBody_spec (hempties : Empties a empty) (hr : r.adapter = a.traced)
    (hdialect : r.catalog.dialect = a.dialect) (hcalls : run.calls = []) :
    Ends r.resetBody run fun result next =>
      (∃ failure rest, next.calls = (.dropAll r.options, failure) :: rest ∧
        ∀ e, r.catalog.discovery (!r.dryRun) run.session.files = .error e →
          result = .error (failure.getD e) ∧ rest = []) ∧
      ∀ e, r.catalog.validation a.dialect (!r.dryRun) run.session.files = .error e →
        Blames e result next.calls := by
  have hspeaks : r.catalog.dialect = r.adapter.dialect := by rw [hr, hdialect]; rfl
  refine resetBody_rule hspeaks fun before hbefore => ?_
  have hdrop := traced_dropAll (hempties.dropAll before.session.untraced r.options)
  rw [← hr] at hdrop
  refine hdrop.mono ?_
  have hfirst : ∀ {α : Type} {result : Except MigrationError α} {dropped : Run (Traced δ)},
      Adds (.dropAll r.options) before result dropped →
      dropped.calls = [(.dropAll r.options, failure? result)] := by
    intro α result dropped hadds
    rw [hadds, calls_of_sameWorld hbefore, hcalls]
    rfl
  rintro (failed | _) dropped ⟨⟨hf, hempty⟩, hadds⟩
  · exact ⟨⟨some failed, [], hfirst hadds, fun e _ => ⟨rfl, rfl⟩⟩, fun e _ => hadds.blames rfl⟩
  intro next hnext
  have hcalls' : next.calls = [(.dropAll r.options, none)] := by
    rw [calls_of_sameWorld hnext, hfirst hadds]
    rfl
  have hfiles : next.session.files = run.session.files := by
    rw [hnext.files, ← hbefore.files]
    exact hf
  have hempty' : r.dryRun = false → empty next.session.database.inner := by
    rw [hnext.database]
    exact fun hdry => hempty hdry rfl
  have hundiscovered : Ends r.migrateBody next fun result last => ∀ e,
      r.catalog.discovery (!r.dryRun) run.session.files = .error e →
        result = .error e ∧ last.calls = next.calls := by
    intro e he
    rw [← hfiles] at he
    obtain ⟨hresult, hd⟩ := migrateBody_undiscovered hspeaks he
    exact ⟨hresult, congrArg Traced.calls hd⟩
  have hblames : Ends r.migrateBody next fun result last => ∀ e,
      r.catalog.validation a.dialect (!r.dryRun) run.session.files = .error e →
        Blames e result last.calls := by
    intro e he
    rw [← hfiles, show a.dialect = r.adapter.dialect by rw [hr]; rfl] at he
    exact migrateBody_blames hempties hr hspeaks hempty' he
  have hgrows := migrateBody_preserves (permits_of_traced hr) next
  have hlast : ∀ {result : Except MigrationError MigrateOutcome} {last : Run (Traced δ)},
      Grows next last →
      (∀ e, r.catalog.discovery (!r.dryRun) run.session.files = .error e →
        result = .error e ∧ last.calls = next.calls) →
      ∃ failure rest, last.calls = (.dropAll r.options, failure) :: rest ∧
        ∀ e, r.catalog.discovery (!r.dryRun) run.session.files = .error e →
          result = .error (failure.getD e) ∧ rest = [] := by
    rintro result last ⟨rest, hrest⟩ hnothing
    refine ⟨none, rest, by rw [← hrest, hcalls']; rfl, fun e he => ?_⟩
    obtain ⟨hresult, hsame⟩ := hnothing e he
    exact ⟨hresult, List.append_cancel_left (hrest.trans (hsame.trans (List.append_nil _).symm))⟩
  refine ((hgrows.and hundiscovered).and hblames).mono ?_
  rintro (failed | outcome) migrated ⟨⟨hmore, hnothing⟩, hblame⟩
  · exact ⟨hlast hmore hnothing, hblame⟩
  · intro last hsame
    rw [calls_of_sameWorld hsame]
    exact ⟨hlast hmore hnothing, hblame⟩

theorem resetBody_undiscovered (post : δ → Prop) (hr : r.adapter = a.traced)
    (hdialect : r.catalog.dialect = a.dialect) (hdrop : ∀ s, Ends (a.dropAll r.options) s
      fun result t => t.files = s.files ∧ result = .ok () ∧ post t.database) {e : MigrationError}
    (he : r.catalog.discovery (!r.dryRun) run.session.files = .error e) :
    Ends r.resetBody run fun result next => result = .error e ∧
      next.calls = run.calls ++ [(.dropAll r.options, none)] ∧ post next.session.database.inner := by
  have hspeaks : r.catalog.dialect = r.adapter.dialect := by rw [hr, hdialect]; rfl
  refine resetBody_rule hspeaks fun before hbefore => ?_
  have hdropped := traced_dropAll (hdrop before.session.untraced)
  rw [← hr] at hdropped
  refine hdropped.mono ?_
  rintro (failed | _) dropped ⟨⟨hf, hok, hpost⟩, hadds⟩
  · simp at hok
  intro next hnext
  have hfiles : next.session.files = run.session.files := by
    rw [hnext.files, ← hbefore.files]
    exact hf
  refine (migrateBody_undiscovered hspeaks (hfiles ▸ he)).mono ?_
  rintro (failed | outcome) last ⟨hfailed, hd⟩
  · refine ⟨Except.error.inj hfailed ▸ rfl, ?_, ?_⟩
    · rw [show last.calls = next.calls from congrArg Traced.calls hd, calls_of_sameWorld hnext, hadds,
        calls_of_sameWorld hbefore]
      rfl
    · rw [hd, hnext.database]
      exact hpost
  · simp at hfailed

theorem resetBody_mismatch (hdialect : r.catalog.dialect ≠ r.adapter.dialect) :
    Ends r.resetBody run fun _ next => next = run := by
  unfold resetBody
  refine checkDialect_spec.bind ?_ ?_
  · rintro _ run₀ ⟨-, hok⟩
    simp [hdialect] at hok
  · rintro failed run₀ ⟨rfl, -⟩
    rfl

/-- A reset makes no call before its cleanup only if the dialects differ. Otherwise its
first call drops all tables, whatever is wrong with the catalog. Only then it fails, as
its migrations cannot be discovered or planned, or as a call failed. -/
theorem reset_drops_first (hempties : Empties a empty) (c : Catalog) (dryRun : Bool)
    {s t : Session (Traced δ)} (hcalls : s.database.calls = [])
    {result : Except MigrationError MigrateOutcome} {state : RunState}
    (hrun : (Runner.mk a.traced c dryRun).reset.start s = (result, state, t)) :
    ((∀ call ∈ t.database.calls, call.1.isCleanup = true) ↔ c.dialect ≠ a.dialect) ∧
      (c.dialect = a.dialect →
        (∃ failure rest, t.database.calls = (.dropAll { dryRun }, failure) :: rest ∧
          ∀ e, c.discovery (!dryRun) s.files = .error e →
            result = .error (failure.getD e) ∧ rest.map (·.1) = [.releaseClient, .disconnect]) ∧
        ∀ e, c.validation a.dialect (!dryRun) s.files = .error e →
          Blames e result t.database.calls) := by
  rw [start_eq, Prod.mk.injEq, Prod.mk.injEq] at hrun
  obtain ⟨rfl, -, rfl⟩ := hrun
  by_cases hdialect : c.dialect = a.dialect
  · have hbody : Ends (Runner.mk a.traced c dryRun).resetBody { session := s } _ :=
      resetBody_spec hempties rfl hdialect hcalls
    obtain ⟨mid, released, disconnected, ⟨⟨failure, rest, hfirst, hnothing⟩, hblame⟩, hnext⟩ :=
      command_calls (r := Runner.mk a.traced c dryRun) rfl hbody
    unfold Run.calls at hnext hfirst hblame
    unfold reset
    rw [hnext]
    refine ⟨iff_of_false ?_ (not_not.mpr hdialect), fun _ => ⟨⟨failure, _, by rw [hfirst]; rfl, ?_⟩, ?_⟩⟩
    · intro hcleanup
      have hdrop := hcleanup (.dropAll _, failure) (by rw [hfirst]; exact List.mem_cons_self)
      simp [AdapterCall.isCleanup] at hdrop
    · intro e he
      obtain ⟨hresult, rfl⟩ := hnothing e he
      exact ⟨hresult, rfl⟩
    · exact fun e he => (hblame e he).mono (List.subset_append_left _ _)
  · have hbody : Ends (Runner.mk a.traced c dryRun).resetBody { session := s } _ :=
      resetBody_mismatch hdialect
    obtain ⟨mid, released, disconnected, rfl, hnext⟩ :=
      command_calls (r := Runner.mk a.traced c dryRun) rfl hbody
    unfold Run.calls at hnext
    unfold reset
    refine ⟨iff_of_true ?_ hdialect, fun h => absurd h hdialect⟩
    rw [hnext, hcalls]
    simp [AdapterCall.isCleanup]

/-! ## A catalog with a bad name -/

def postgresqlScript : Rehearsal.Script where
  dialect := .postgresql
  transactional := true

/-- Resets a database with a catalog whose only migration is misnamed. -/
def misnamed : Runner (Traced Rehearsal.Book) where
  adapter := (Rehearsal.adapter postgresqlScript).traced
  catalog := {
    dialect := .postgresql
    registered := [{ id := "bad", up := [.raw { sql := some "SELECT 1" }] }] }

theorem misnamed_discovery : misnamed.catalog.discovery true {} = .error (.namingConvention "bad") := by
  decide +kernel

/-- The name is refused only after everything is dropped. -/
theorem misnamed_drops :
    misnamed.catalog.discovery true {} = .error (.namingConvention "bad") ∧
      ∃ state t released disconnected,
        misnamed.reset.start ⟨{}, [], { inner := { store := { ledger := ["lipgrade_1"] } } }⟩ =
            (.error (.namingConvention "bad"), state, t) ∧
          t.database.calls =
            [(.dropAll {}, none), (.releaseClient, released), (.disconnect, disconnected)] := by
  have hdrop : ∀ s, Ends ((Rehearsal.adapter postgresqlScript).dropAll misnamed.options) s
      fun result t => t.files = s.files ∧ result = .ok () ∧ t.database.store.ledger = [] :=
    fun s => Rehearsal.dropAll_accepted rfl fun _ _ => rfl
  have hbody : Ends misnamed.resetBody { session :=
      ⟨{}, [], { inner := { store := { ledger := ["lipgrade_1"] } } }⟩ } _ :=
    resetBody_undiscovered (·.store.ledger = []) rfl rfl hdrop misnamed_discovery
  have hcommand := command_calls (r := misnamed) rfl hbody
  unfold reset
  rw [start_eq]
  unfold Ends at hcommand
  generalize (misnamed.command misnamed.resetBody).run _ = finished at hcommand ⊢
  obtain ⟨result, next⟩ := finished
  obtain ⟨mid, released, disconnected, ⟨rfl, hcalls, -⟩, hnext⟩ := hcommand
  refine ⟨misnamed_discovery, next.state, next.session, released, disconnected, rfl, ?_⟩
  rw [show next.session.database.calls = next.calls from rfl, hnext, hcalls]
  rfl

theorem reset_drops_first_misnamed : ∃ result state t,
    misnamed.reset.start ⟨{}, [], { inner := {} }⟩ = (result, state, t) ∧
      Blames (.namingConvention "bad") result t.database.calls := by
  generalize hrun : misnamed.reset.start ⟨{}, [], { inner := {} }⟩ = finished
  obtain ⟨result, state, t⟩ := finished
  have hempties := Rehearsal.adapter_empties postgresqlScript rfl
  have h := reset_drops_first hempties misnamed.catalog false rfl hrun
  exact ⟨result, state, t, rfl, (h.2 rfl).2 _ (by decide +kernel)⟩

end Runner

end SchemaMigration
