import SchemaMigration.Proofs.Run.FailFast

/-!
# Rolling back

A rollback in which no call fails reverts the greatest id of the ledger, and nothing else.
One after the other, rollbacks take back in reverse order what a migrate has applied.
-/

namespace SchemaMigration

open Files

variable {δ γ σ : Type} {m : Semantics γ} {view : δ → Standing γ} {sight : FileTree → σ}
variable {a : Adapter δ} {c : Catalog} {g : γ} {s : Session δ} {all : List String}
variable {dialect : Dialect} {tree : FileTree} {id : String}

/-! ## The migration to be reverted -/

/-- The last of the texts in the order of their bytes. -/
def Files.Greatest (texts : List String) (last : String) : Prop :=
  last ∈ texts ∧ ∀ text ∈ texts, text ≠ last → utf8Bytes text < utf8Bytes last

namespace Catalog

theorem getLast?_sortIds_eq_some_iff {ids : List String} {last : String} :
    (sortIds ids).getLast? = some last ↔ Greatest ids last := by
  rw [getLast?_sortIds_iff]
  refine and_congr_right fun _ => forall₂_congr fun id _ => ?_
  rw [utf8Bytes_lt_iff]
  constructor
  · exact fun hle hne => Std.lt_of_le_of_ne hle hne
  · intro hlt
    by_cases heq : id = last
    · exact heq ▸ String.le_refl id
    · exact le_of_lt (hlt heq)

theorem getLast?_sortIds_eq_none_iff {ids : List String} :
    (sortIds ids).getLast? = none ↔ ids = [] := by
  rw [List.getLast?_eq_none_iff]
  constructor
  · intro hnil
    exact List.perm_nil.mp (hnil ▸ (sortIds_perm ids).symm)
  · rintro rfl
    exact sortIds_nil

/-- The statements are what the operations to revert the migration translate to. -/
def Undoes (c : Catalog) (dialect : Dialect) (tree : FileTree) (id : String)
    (statements : List Statement) : Prop :=
  ∃ mig, c.load tree id = .ok mig ∧ mig.down.mapM (·.statement dialect) = .ok statements

theorem undoes_of_planned {p : PlannedMigration} (h : c.planned dialect tree .down id = .ok p) :
    c.Undoes dialect tree id p.statements := by
  obtain ⟨mig, hmig, -, hstatements⟩ := planned_loads h
  exact ⟨mig, hmig, hstatements⟩

theorem Undoes.planned {statements : List Statement} (h : c.Undoes dialect tree id statements) :
    ∃ p, c.planned dialect tree .down id = .ok p ∧ p.statements = statements := by
  obtain ⟨mig, hmig, hstatements⟩ := h
  have hall := mapM_succeeds_iff.mp ⟨statements, hstatements⟩
  have hplannable : c.Plannable dialect tree .down id := ⟨mig, hmig, hall⟩
  obtain ⟨p, hp⟩ := plannable_iff.mp hplannable
  obtain ⟨mig', hmig', -, hsame⟩ := planned_loads hp
  obtain rfl : mig = mig' := Except.ok.inj (hmig.symm.trans hmig')
  exact ⟨p, hp, Except.ok.inj (hsame.symm.trans hstatements)⟩

end Catalog

/-! ## The body of a rollback -/

namespace Runner

section Body

variable {r : Runner (Traced δ)} {run : Run (Traced δ)} {completed : List String} {last : String}

theorem revertLast_nothing (hnone : (Catalog.sortIds completed).getLast? = none) :
    Ends (r.revertLast completed) run fun result next =>
      result = .ok .nothingToRollback ∧ SameWorld run next := by
  unfold revertLast
  rw [hnone]
  exact ends_of_quiet (quiet_print _) fun next hnext => ⟨rfl, hnext⟩

theorem revertLast_refused (hlast : (Catalog.sortIds completed).getLast? = some last)
    {e : MigrationError}
    (he : r.catalog.planned r.adapter.dialect run.session.files .down last = .error e) :
    Ends (r.revertLast completed) run fun result next => result = .error e ∧ SameWorld run next := by
  unfold revertLast
  rw [hlast]
  refine Ends.bind (r.planMigration_spec .down last) ?_ ?_
  · rintro p next ⟨hp, -⟩
    simp [he] at hp
  · rintro e' next ⟨he', hnext⟩
    obtain rfl : e' = e := Except.error.inj (he'.trans he)
    exact ⟨rfl, hnext⟩

theorem revertLast_reverts (hlaw : Lawful a m view sight) (hr : r.adapter = a.traced)
    (hdry : r.dryRun = false) (hlast : (Catalog.sortIds completed).getLast? = some last)
    {p : PlannedMigration}
    (hp : r.catalog.planned r.adapter.dialect run.session.files .down last = .ok p)
    (hv : view run.session.database.inner = .idle g) :
    Ends (r.revertLast completed) run fun result next => Clean next.calls →
      result = .ok (.rolledBack last) ∧
        next.calls = run.calls ++ allMade (r.carryScript .down [p]) ∧
        ((∀ st ∈ p.statements, ¬ m.control st.sql) →
          sight next.session.files = sight run.session.files ∧ view next.session.database.inner =
            .idle (m.run (p.writes r.adapter.dialect .down) g)) := by
  have htraced : Lawful r.adapter m (fun d => view d.inner) sight := hr ▸ hlaw.traced
  unfold revertLast
  rw [hlast]
  refine Ends.bind (r.planMigration_spec .down last) ?_ ?_
  swap
  · rintro e next ⟨he, -⟩
    simp [hp] at he
  rintro p' mid ⟨hp', hmid⟩
  obtain rfl : p' = p := Except.ok.inj (hp'.trans hp)
  have hv' : view mid.session.database.inner = .idle g := by rw [hmid.database, hv]
  have hleaves : Ends (r.runBatch .down [p']) mid fun result next =>
      (∀ st ∈ p'.statements, ¬ m.control st.sql) →
        sight next.session.files = sight mid.session.files ∧
        ∀ x, result = .ok x → view next.session.database.inner =
          .idle (m.run (p'.writes r.adapter.dialect .down) g) := by
    intro hplain
    have hbatch := runBatch_leaves htraced hdry .down [p'] (by simpa using hplain) hv'
    rw [List.flatMap_singleton] at hbatch
    exact hbatch
  refine Ends.bind ((runBatch_follows hr .down [p'] mid).and hleaves) ?_ ?_
  · rintro _ next ⟨⟨log, hlog, hperforms⟩, hview⟩ -
    cases hperforms
    refine ⟨rfl, ?_, fun hplain => ?_⟩
    · rw [carryScript, if_neg (List.cons_ne_nil p' []), ← calls_of_sameWorld hmid]
      exact hlog
    · obtain ⟨hf, hw⟩ := hview hplain
      exact ⟨hf.trans (congrArg sight hmid.files), hw () rfl⟩
  · rintro e next ⟨⟨log, hlog, hperforms⟩, -⟩ hclean
    rw [hlog] at hclean
    obtain ⟨-, x, hx⟩ := hperforms.of_clean (clean_append.mp hclean).2
    simp at hx

end Body

/-! ## A rollback -/

/-- The calls of a rollback of a migration that is reverted by the given statements. -/
def revertScript (r : Runner δ) (id : String) (statements : List Statement) : List AdapterCall :=
  r.readingScript ++ (r.openingScript ++
    ((statements ++ [Ledger.deletion r.adapter.dialect id]).map (.send r.batchOptions) ++
      r.closingScript)) ++ cleanupScript

/-- A rollback in which no call fails. -/
structure RollsBack (m : Semantics γ) (view : δ → Standing γ) (sight : FileTree → σ)
    (a : Adapter δ) (c : Catalog) (s : Session δ) (result : Except MigrationError RollbackOutcome)
    (t : Session (Traced δ)) : Prop where
  law : Lawful a m view sight
  speaks : c.dialect = a.dialect
  ran : ∃ state, (watching a c).rollback.start s.watched = (result, state, t)
  clean : Clean t.database.calls

namespace RollsBack

variable {result : Except MigrationError RollbackOutcome} {t : Session (Traced δ)}

/-- The ledger was read, without a failure and without a change. -/
structure Read (m : Semantics γ) (view : δ → Standing γ) (sight : FileTree → σ) (a : Adapter δ)
    (c : Catalog) (s : Session δ) (completed : List String) (next : Run (Traced δ)) : Prop where
  ids : completed.Perm (m.ledger (view s.database).contents)
  files : sight next.session.files = sight s.files
  contents : view next.session.database.inner = .idle (view s.database).contents
  calls : next.calls = allMade (watching a c).readingScript

theorem rule (h : RollsBack m view sight a c s result t) (hidle : (view s.database).saved = none)
    (hall : c.discover s.files = .ok all)
    (post : Except MigrationError RollbackOutcome → Run (Traced δ) → Prop)
    (hpost : ∀ completed next, Read m view sight a c s completed next →
      Ends ((watching a c).revertLast completed) next fun result last =>
        Clean last.calls → post result last) :
    ∃ last : Run (Traced δ), post result last ∧
      t.database.calls.map (·.1) = last.calls.map (·.1) ++ cleanupScript ∧
      sight t.files = sight last.session.files ∧
      ∀ g, view last.session.database.inner = .idle g → view t.database.inner = .idle g := by
  obtain ⟨hlaw, hspeaks, ⟨state, hrun⟩, hclean⟩ := h
  have hv := Standing.eq_idle hidle
  have hbody : Ends (watching a c).rollbackBody { session := s.watched } fun result last =>
      Clean last.calls → post result last := by
    have hsurvey : Ends ((watching a c).survey .down) { session := s.watched } _ :=
      survey_reads hlaw rfl rfl .down hspeaks hall hv
    rw [rollbackBody_eq]
    refine hsurvey.bind ?_ ?_
    · rintro found mid ⟨hf, hw, ⟨log, hlog, hperforms⟩, hfound⟩
      cases hperforms
      exact hpost found.2 mid ⟨(hfound found rfl).2, hf, hw, hlog⟩
    · rintro e mid ⟨-, -, ⟨log, hlog, hperforms⟩, -⟩ hclean
      have hlog' : mid.calls = log := hlog
      obtain ⟨-, x, hx⟩ := hperforms.of_clean (hlog' ▸ hclean)
      simp at hx
  exact command_clean hlaw rfl hbody hrun hclean

theorem idle (h : RollsBack m view sight a c s result t) (hidle : (view s.database).saved = none)
    (hall : c.discover s.files = .ok all) (outcome : Except MigrationError RollbackOutcome → Prop)
    (hpost : ∀ completed next, Read m view sight a c s completed next →
      Ends ((watching a c).revertLast completed) next fun result last =>
        outcome result ∧ SameWorld next last) :
    outcome result ∧ t.database.calls.map (·.1) = (watching a c).readingScript ++ cleanupScript ∧
      sight t.files = sight s.files ∧ view t.database.inner = view s.database := by
  have hv := Standing.eq_idle hidle
  have hended : ∀ completed next, Read m view sight a c s completed next →
      Ends ((watching a c).revertLast completed) next fun result last => Clean last.calls →
        outcome result ∧ ∃ completed next, Read m view sight a c s completed next ∧ SameWorld next last := by
    intro completed next hread
    refine (hpost completed next hread).mono fun result last hlast _ => ?_
    exact ⟨hlast.1, completed, next, hread, hlast.2⟩
  obtain ⟨last, ⟨houtcome, completed, next, hread, hsame⟩, hscript, hf, hkept⟩ :=
    h.rule hidle hall _ hended
  refine ⟨houtcome, ?_, by rw [hf, hsame.files, hread.files], ?_⟩
  · rw [hscript, calls_of_sameWorld hsame, hread.calls, map_fst_allMade]
  · rw [hv]
    exact hkept _ (by rw [hsame.database, hread.contents])

theorem greatest_read {completed : List String} {next : Run (Traced δ)}
    (hread : Read m view sight a c s completed next) {last : String}
    (hlast : Greatest (m.ledger (view s.database).contents) last) :
    (Catalog.sortIds completed).getLast? = some last := by
  rw [Catalog.getLast?_sortIds_congr fun id => hread.ids.mem_iff]
  exact Catalog.getLast?_sortIds_eq_some_iff.mpr hlast

theorem nothing (h : RollsBack m view sight a c s result t) (hidle : (view s.database).saved = none)
    (hall : c.discover s.files = .ok all) (hempty : m.ledger (view s.database).contents = []) :
    result = .ok .nothingToRollback ∧
      t.database.calls.map (·.1) = (watching a c).readingScript ++ cleanupScript ∧
      sight t.files = sight s.files ∧ view t.database.inner = view s.database := by
  refine h.idle hidle hall (· = .ok .nothingToRollback) fun completed next hread => ?_
  have hnone : (Catalog.sortIds completed).getLast? = none := by
    have hids := hread.ids
    rw [hempty, List.perm_nil] at hids
    exact Catalog.getLast?_sortIds_eq_none_iff.mpr hids
  exact revertLast_nothing hnone

theorem refused (h : RollsBack m view sight a c s result t) (hidle : (view s.database).saved = none)
    (hshown : c.ShownBy sight s.files) (hall : c.discover s.files = .ok all) {last : String}
    (hlast : Greatest (m.ledger (view s.database).contents) last)
    (hunplanned : ¬ c.Plannable c.dialect s.files .down last) :
    (∃ e, result = .error e) ∧
      t.database.calls.map (·.1) = (watching a c).readingScript ++ cleanupScript ∧
      sight t.files = sight s.files ∧ view t.database.inner = view s.database := by
  refine h.idle hidle hall (fun result => ∃ e, result = .error e) fun completed next hread => ?_
  cases hplan : c.planned a.dialect next.session.files .down last with
  | ok p =>
    rw [(hshown _ hread.files).planned_iff, ← h.speaks] at hplan
    exact absurd (Catalog.plannable_iff.mpr ⟨p, hplan⟩) hunplanned
  | error e =>
    refine (revertLast_refused (greatest_read hread hlast) hplan).mono fun result last hend => ?_
    exact ⟨⟨e, hend.1⟩, hend.2⟩

theorem reverted (h : RollsBack m view sight a c s result t) (hkeeping : Keeping m c.dialect)
    (hidle : (view s.database).saved = none) (hshown : c.ShownBy sight s.files)
    (hall : c.discover s.files = .ok all) {last : String}
    (hlast : Greatest (m.ledger (view s.database).contents) last)
    (hid : ∀ mig, c.load s.files last = .ok mig → mig.id = last) {statements : List Statement}
    (hundoes : c.Undoes c.dialect s.files last statements) :
    result = .ok (.rolledBack last) ∧
      t.database.calls.map (·.1) = (watching a c).revertScript last statements ∧
      ((∀ st ∈ statements, m.Harmless st) → sight t.files = sight s.files ∧
        (view t.database.inner).saved = none ∧
        (m.ledger (view t.database.inner).contents).Perm
          ((m.ledger (view s.database).contents).filter (· ≠ last))) := by
  obtain ⟨p, hp, rfl⟩ := hundoes.planned
  obtain ⟨mig, hmig, hpid, -⟩ := Catalog.planned_loads hp
  obtain rfl : p.id = last := hpid.trans (hid mig hmig)
  have hended : ∀ completed next, Read m view sight a c s completed next →
      Ends ((watching a c).revertLast completed) next fun result final => Clean final.calls →
        result = .ok (.rolledBack p.id) ∧
        final.calls =
          allMade ((watching a c).readingScript ++ (watching a c).carryScript .down [p]) ∧
        ((∀ st ∈ p.statements, ¬ m.control st.sql) → sight final.session.files = sight s.files ∧
          view final.session.database.inner =
            .idle (m.run (p.writes c.dialect .down) (view s.database).contents)) := by
    intro completed next hread
    have hplan : c.planned a.dialect next.session.files .down p.id = .ok p := by
      rw [(hshown _ hread.files).planned_iff, ← h.speaks]
      exact hp
    have hreverts := revertLast_reverts h.law rfl rfl (r := watching a c)
      (greatest_read hread hlast) hplan hread.contents
    refine hreverts.mono fun result final hfinal hclean => ?_
    obtain ⟨rfl, hcalls, hview⟩ := hfinal hclean
    refine ⟨rfl, by rw [hcalls, hread.calls, allMade_append], fun hplain => ?_⟩
    obtain ⟨hf, hw⟩ := hview hplain
    rw [h.speaks]
    exact ⟨hf.trans hread.files, hw⟩
  obtain ⟨final, ⟨rfl, hcalls, hview⟩, hscript, hfiles, hkept⟩ := h.rule hidle hall _ hended
  refine ⟨rfl, ?_, fun hharmless => ?_⟩
  · rw [hscript, hcalls, map_fst_allMade, carryScript, if_neg (List.cons_ne_nil p []), revertScript]
    simp [batchScript, sent, watching, Ledger.entry]
  · obtain ⟨hf, hw⟩ := hview fun st hst => (hharmless st hst).1
    rw [hkept _ hw]
    refine ⟨hfiles.trans hf, rfl, ?_⟩
    have hspared := Semantics.ledger_run (fun st hst => (hharmless st hst).2) (view s.database).contents
    have hdeleted := hkeeping.deletion p.id (m.run p.statements (view s.database).contents)
    rw [hspared] at hdeleted
    rw [PlannedMigration.writes, Semantics.run_append]
    exact hdeleted

end RollsBack

end Runner

end SchemaMigration
