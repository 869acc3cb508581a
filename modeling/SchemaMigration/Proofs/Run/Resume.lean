import SchemaMigration.Proofs.Run.Migrate

/-!
# Failing and going on

Without transactions a migrate that is cut short has carried out the first of the pending
migrations, and a part of the next one that the ledger does not know of. The next migrate
goes on with that one.
-/

namespace SchemaMigration

variable {δ γ σ : Type} {m : Semantics γ} {view : δ → Standing γ} {sight : Files.FileTree → σ}
variable {a : Adapter δ} {c : Catalog} {dialect : Dialect} {plans : List PlannedMigration} {g : γ}

/-- The operations of the first migration of a batch. -/
def headStatements : List PlannedMigration → List Statement
  | [] => []
  | p :: _ => p.statements

theorem headStatements_subset {rest : List PlannedMigration} {st : Statement}
    (h : st ∈ headStatements rest) : ∃ p ∈ rest, st ∈ p.statements := by
  cases rest with
  | nil => simp [headStatements] at h
  | cons p others => exact ⟨p, List.mem_cons_self, h⟩

theorem exists_done {batch : List PlannedMigration} {carried : List Statement}
    (h : carried <+: batch.flatMap (·.writes dialect .up)) :
    ∃ done rest begun, batch = done ++ rest ∧ begun <+: headStatements rest ∧
      carried = done.flatMap (·.writes dialect .up) ++ begun := by
  induction batch generalizing carried with
  | nil => exact ⟨[], [], [], rfl, List.prefix_refl _, List.prefix_nil.mp h⟩
  | cons p others ih =>
    rw [List.flatMap_cons] at h
    rcases List.prefix_or_prefix_of_prefix h (List.prefix_append (p.writes dialect .up) _) with
      hwithin | ⟨more, rfl⟩
    · -- Of the writes of a migration only all of them include its entry in the ledger.
      rcases List.prefix_concat_iff.mp hwithin with hwhole | hbegun
      · refine ⟨[p], others, [], rfl, List.nil_prefix, ?_⟩
        rw [hwhole, List.flatMap_singleton, List.append_nil]
        rfl
      · exact ⟨[], p :: others, carried, rfl, hbegun, rfl⟩
    · obtain ⟨done, rest, begun, rfl, hbegun, rfl⟩ := ih ((List.prefix_append_right_inj _).mp h)
      exact ⟨p :: done, rest, begun, rfl, hbegun, by simp⟩

theorem ledger_begun {done rest : List PlannedMigration} {begun : List Statement}
    (hbegun : begun <+: headStatements rest)
    (hspares : ∀ p ∈ rest, ∀ st ∈ p.statements, m.SparesLedger st) :
    m.ledger (m.run (done.flatMap (·.writes dialect .up) ++ begun) g) =
      m.ledger (m.run (done.flatMap (·.writes dialect .up)) g) := by
  rw [Semantics.run_append]
  refine Semantics.ledger_run (fun st hst => ?_) _
  obtain ⟨p, hp, hst⟩ := headStatements_subset (hbegun.subset hst)
  exact hspares p hp st hst

namespace Runner

variable {result : Except MigrationError MigrateOutcome} {state : RunState}
variable {s : Session δ} {t : Session (Traced δ)}
variable {done rest : List PlannedMigration} {all ledger : List String}

/-- What a migrate without transactions leaves behind, wherever it is cut short. -/
theorem cut_short (hlaw : Lawful a m view sight) (hspeaks : c.dialect = a.dialect)
    (htx : a.transactional = false) (hkeeping : Keeping m c.dialect)
    (hready : c.Ready c.dialect s.files plans) (hshown : c.ShownBy sight (c.prepared s.files))
    (hidle : (view s.database).saved = none)
    (hharmless : ∀ p ∈ pendingPlans plans (m.ledger (view s.database).contents),
      ∀ st ∈ p.statements, m.Harmless st)
    (hrun : (watching a c).migrate.start s.watched = (result, state, t)) :
    sight t.untraced.files = sight (c.prepared s.files) ∧ (view t.untraced.database).saved = none ∧
      ∃ done rest opening begun,
        pendingPlans plans (m.ledger (view s.database).contents) = done ++ rest ∧
        opening <+: [⟨Ledger.createSql c.dialect, []⟩, ⟨Ledger.selectSql, []⟩] ∧
        begun <+: headStatements rest ∧
        executed t.database.calls = opening ++ (done.flatMap (·.writes c.dialect .up) ++ begun) ∧
        (m.ledger (view t.database.inner).contents).Perm
          (done.map (·.id) ++ m.ledger (view s.database).contents) := by
  have hv := Standing.eq_idle hidle
  obtain ⟨hfiles, opening, carried, hexecuted, hopening, hcarried, hview⟩ := ends_start
    (migrate_executes hlaw htx (hspeaks ▸ hready) hshown hv fun p hp st hst => (hharmless p hp st hst).1)
    hrun
  rw [← hspeaks] at hopening hcarried
  obtain ⟨done, rest, begun, hcut, hbegun, rfl⟩ := exists_done hcarried
  refine ⟨hfiles, congrArg Standing.saved hview, done, rest, opening, begun, hcut, hopening, hbegun,
    hexecuted, ?_⟩
  rw [hcut] at hharmless
  rw [hview, Standing.contents_idle, ledger_begun hbegun fun p hp st hst =>
    (hharmless p (List.mem_append_right done hp) st hst).2]
  exact hready.ledger_done hkeeping hcut fun p hp st hst =>
    (hharmless p (List.mem_append_left rest hp) st hst).2

theorem Undisturbed.goes_on (h : Undisturbed m view sight a c s result t) (hkeeping : Keeping m c.dialect)
    (hready : c.Ready c.dialect s.files plans) (hshown : c.ShownBy sight (c.prepared s.files))
    (hidle : (view s.database).saved = none)
    (hcut : pendingPlans plans ledger = done ++ rest)
    (hledger : (m.ledger (view s.database).contents).Perm (done.map (·.id) ++ ledger))
    (hharmless : ∀ p ∈ rest, ∀ st ∈ p.statements, m.Harmless st) :
    result = .ok (migrateOutcome rest) ∧
      t.database.calls.map (·.1) = (watching a c).migrateScript rest ++ cleanupScript ∧
      (m.ledger (view t.database.inner).contents).Perm ((done ++ rest).map (·.id) ++ ledger) := by
  have hrest := pendingPlans_rest hready.nodup hcut hledger
  obtain ⟨hresult, hcalls, -⟩ := h.spec hready hshown hidle hrest
  refine ⟨hresult, hcalls, ?_⟩
  have hadded := h.ledger_spec hkeeping hready hshown hidle hrest hharmless
  rw [List.map_append, List.append_assoc]
  exact hadded.trans ((hledger.append_left _).trans (List.perm_append_comm_assoc ..))

/-- Without transactions, whichever calls fail: the first of the pending migrations are in
the ledger and were carried out whole and in order, of the next one some statements were
executed, and of the others none. A migrate after it in which no call fails begins with
that next one, and ends with the ledger of a single migrate in which none fails, unless the
directory that was made for the migrations shows more of them. -/
theorem resumes_where_cut (hlaw : Lawful a m view sight) (hspeaks : c.dialect = a.dialect)
    (htx : a.transactional = false) (hkeeping : Keeping m c.dialect) (hkeyed : c.Keyed)
    (htree : s.files.WellNamed) (hshown : c.ShownBy sight (c.prepared s.files))
    (hall : c.discovery true s.files = .ok all)
    (hplans : all.mapM (c.planned c.dialect (c.prepared s.files) .up) = .ok plans)
    (hidle : (view s.database).saved = none)
    (hharmless : ∀ p ∈ pendingPlans plans (m.ledger (view s.database).contents),
      ∀ st ∈ p.statements, m.Harmless st)
    (hrun : (watching a c).migrate.start s.watched = (result, state, t)) :
    let ledger := m.ledger (view s.database).contents
    let pending := all.filter (· ∉ ledger)
    Files.Ascending all ∧ ∃ done rest opening begun,
      List.Forall₂ (c.Translates c.dialect (c.prepared s.files)) pending (done ++ rest) ∧
      opening <+: [⟨Ledger.createSql c.dialect, []⟩, ⟨Ledger.selectSql, []⟩] ∧
      begun <+: headStatements rest ∧
      executed t.database.calls = opening ++ (done.flatMap (·.writes c.dialect .up) ++ begun) ∧
      (m.ledger (view t.database.inner).contents).Perm (done.map (·.id) ++ ledger) ∧
      (c.discover (c.prepared s.files) = .ok all →
        ∀ b second u, Undisturbed m view sight b c t.untraced second u →
          second = .ok (migrateOutcome rest) ∧
          u.database.calls.map (·.1) = (watching b c).migrateScript rest ++ cleanupScript ∧
          (m.ledger (view u.database.inner).contents).Perm (pending ++ ledger) ∧
          ∀ b' single v, Undisturbed m view sight b' c s single v →
            (m.ledger (view u.database.inner).contents).Perm
              (m.ledger (view v.database.inner).contents)) := by
  intro ledger pending
  have hready : c.Ready c.dialect s.files plans :=
    Catalog.ready_of_validation hkeyed htree rfl (bind_eq_ok.mpr ⟨all, hall, hplans⟩)
  have hids : plans.map (·.id) = all := Except.ok.inj (hready.discovered.symm.trans hall)
  obtain ⟨hfiles, hidle', done, rest, opening, begun, hcut, hopening, hbegun, hexecuted, hledger⟩ :=
    cut_short hlaw hspeaks htx hkeeping hready hshown hidle hharmless hrun
  have hpending : pending = (done ++ rest).map (·.id) := by
    show all.filter (· ∉ ledger) = _
    rw [← hids, filter_map_id, hcut]
  have hsub : done ++ rest ⊆ plans := hcut ▸ (pendingPlans_sublist plans ledger).subset
  refine ⟨Files.ascending_iff.mpr (hids ▸ hready.sorted), done, rest, opening, begun,
    hpending ▸ hready.translates hsub, hopening, hbegun, hexecuted, hledger,
    fun hsame b second u hsecond => ?_⟩
  rw [hcut] at hharmless
  obtain ⟨hready', hshown'⟩ := hready.after hshown hfiles (hids ▸ hsame)
  obtain ⟨hresult, hcalls, hlast⟩ := hsecond.goes_on hkeeping hready' hshown' hidle' hcut hledger
    fun p hp => hharmless p (List.mem_append_right done hp)
  refine ⟨hresult, hcalls, hpending ▸ hlast, fun b' single v hsingle => ?_⟩
  exact hlast.trans (hsingle.ledger_spec hkeeping hready hshown hidle hcut hharmless).symm

/-! ## Going on, rehearsed -/

/-- A database without transactions that refuses a table when it is first made. -/
def refusesOnce : Rehearsal.Script where
  dialect := .sqlite
  transactional := false
  refuses before call :=
    if call = .query "CREATE TABLE c (x)" [] {} ∧ call ∉ before then
      some (.execution "CREATE TABLE c (x)" "busy")
    else none

theorem resumes_where_cut_refused :
    (rehearse refusesOnce threeTables gaps).1 = .error (.execution "CREATE TABLE c (x)" "busy") ∧
      ∃ done rest : List PlannedMigration,
        (rehearse refusesOnce threeTables gaps).2.2.database.inner.store.ledger.Perm
          (done.map (·.id) ++ ["lipgrade_2", "lipgrade_0"]) ∧
        (rehearse refusesOnce threeTables
          (rehearse refusesOnce threeTables gaps).2.2.untraced).1 = .ok (migrateOutcome rest) ∧
        migrateOutcome rest = .applied ["lipgrade_3"] ∧
        (rehearse refusesOnce threeTables (rehearse refusesOnce threeTables
          gaps).2.2.untraced).2.2.database.inner.store.ledger.Perm
            ["lipgrade_1", "lipgrade_3", "lipgrade_2", "lipgrade_0"] := by
  have hfails : (rehearse refusesOnce threeTables gaps).1 =
      .error (.execution "CREATE TABLE c (x)" "busy") := by decide +kernel
  have happlies : (rehearse refusesOnce threeTables
      (rehearse refusesOnce threeTables gaps).2.2.untraced).1 = .ok (.applied ["lipgrade_3"]) := by
    decide +kernel
  have hplans : ["lipgrade_1", "lipgrade_2", "lipgrade_3"].mapM
      (threeTables.planned .sqlite (threeTables.prepared {}) .up) = .ok threePlans := by
    decide +kernel
  have hplain : ∀ p ∈ pendingPlans threePlans ["lipgrade_2", "lipgrade_0"],
      ∀ st ∈ p.statements, Rehearsal.Plain refusesOnce st := by decide +kernel
  have hsecond := rehearse_undisturbed refusesOnce threeTables
    (rehearse refusesOnce threeTables gaps).2.2.untraced rfl rfl (by decide +kernel)
  obtain ⟨-, done, rest, -, -, -, -, -, -, hledger, hagain⟩ := resumes_where_cut
    (Rehearsal.adapter_lawful refusesOnce rfl) rfl rfl (Rehearsal.semantics_keeping refusesOnce)
    (by decide +kernel) (s := gaps) Files.FileTree.wellNamed_empty (Catalog.shownBy_id _ _)
    (by decide +kernel) hplans rfl
    (fun p hp st hst => Rehearsal.harmless_of_plain refusesOnce (hplain p hp st hst))
    (t := (rehearse refusesOnce threeTables gaps).2.2) rfl
  obtain ⟨hresult, -, hlast, -⟩ := hagain (by decide +kernel) _ _ _ hsecond
  rw [Rehearsal.Book.contents_standing] at hledger hlast
  exact ⟨hfails, done, rest, hledger, hresult, Except.ok.inj (hresult.symm.trans happlies), hlast⟩

/-- A missing directory and files behind it, and a table in code. -/
def uncoveringLate : Catalog :=
  { uncovering with registered := (inCode [("lipgrade_2", ["CREATE TABLE c (x)"])]).registered }

/-- The second migration takes back what was done in the transaction of the first. -/
def takingBackLate : Catalog :=
  inCode [("lipgrade_1", ["BEGIN"]), ("lipgrade_2", ["ROLLBACK"]), ("lipgrade_3", ["CREATE TABLE c (x)"])]

/-- The next migrate does not begin where the first was cut short if making the directory
uncovers files, and the ledger skips a migration if operations begin and end a transaction. -/
theorem resumes_elsewhere :
    (uncoveringLate.validation .sqlite true behindMissing.files =
        .ok [planOf "lipgrade_2" ["CREATE TABLE c (x)"]] ∧
      (rehearse refusesOnce uncoveringLate behindMissing).1 =
        .error (.execution "CREATE TABLE c (x)" "busy") ∧
      (rehearse refusesOnce uncoveringLate
        (rehearse refusesOnce uncoveringLate behindMissing).2.2.untraced).1 =
          .ok (.applied ["lipgrade_1.json", "lipgrade_2"])) ∧
    takingBackLate.validation .sqlite true {} =
      .ok [planOf "lipgrade_1" ["BEGIN"], planOf "lipgrade_2" ["ROLLBACK"],
        planOf "lipgrade_3" ["CREATE TABLE c (x)"]] ∧
    (∀ sql ∈ ["BEGIN", "ROLLBACK", "CREATE TABLE c (x)"],
      (Rehearsal.semantics refusesOnce).SparesLedger ⟨sql, []⟩) ∧
    (rehearse refusesOnce takingBackLate ⟨{}, [], {}⟩).1 =
      .error (.execution "CREATE TABLE c (x)" "busy") ∧
    (rehearse refusesOnce takingBackLate ⟨{}, [], {}⟩).2.2.database.inner.store.ledger =
      ["lipgrade_2"] := by
  have huncovered : uncoveringLate.validation .sqlite true behindMissing.files =
        .ok [planOf "lipgrade_2" ["CREATE TABLE c (x)"]] ∧
      (rehearse refusesOnce uncoveringLate behindMissing).1 =
        .error (.execution "CREATE TABLE c (x)" "busy") ∧
      (rehearse refusesOnce uncoveringLate
        (rehearse refusesOnce uncoveringLate behindMissing).2.2.untraced).1 =
          .ok (.applied ["lipgrade_1.json", "lipgrade_2"]) := by decide +kernel
  refine ⟨huncovered, by decide +kernel, fun sql hsql => ?_, by decide +kernel⟩
  have hplain : Rehearsal.Plain refusesOnce ⟨"CREATE TABLE c (x)", []⟩ := by decide +kernel
  simp only [List.mem_cons, List.not_mem_nil, or_false] at hsql
  rcases hsql with rfl | rfl | rfl
  · exact fun store => rfl
  · exact fun store => rfl
  · exact (Rehearsal.harmless_of_plain refusesOnce hplain).2

end Runner

end SchemaMigration
