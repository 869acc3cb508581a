import SchemaMigration.Proofs.Migration.Union
import SchemaMigration.Proofs.Run.FailFast

/-!
# Reports

A report tells the ids that were discovered apart by the ledger, and the ids of the ledger by
what was discovered. To make one only the ledger is read. What is pending by the report is
what a migrate right after it applies.
-/

namespace SchemaMigration

open Files

/-! ## The parts of a report -/

namespace StatusReport

variable {all ledger completed : List String}

/-- The ids that are not applied yet. -/
def pendingIds (report : StatusReport) : List String :=
  (report.entries.filter (·.2 = .pending)).map (·.1)

theorem compare_applied (all completed : List String) :
    (compare all completed).appliedCount = (all.filter (· ∈ completed)).length := by
  unfold appliedCount count compare
  rw [List.filter_map, List.length_map]
  congr 1
  refine List.filter_congr fun id _ => ?_
  by_cases hid : id ∈ completed <;> simp [hid]

theorem compare_pendingIds (all completed : List String) :
    (compare all completed).pendingIds = all.filter (· ∉ completed) := by
  unfold pendingIds compare
  rw [List.filter_map, List.map_map]
  refine (List.map_id _).trans (List.filter_congr fun id _ => ?_)
  by_cases hid : id ∈ completed <;> simp [hid]

theorem compare_pending (all completed : List String) :
    (compare all completed).pendingCount = (all.filter (· ∉ completed)).length := by
  rw [← compare_pendingIds, pendingIds, List.length_map]
  rfl

theorem compare_discovered (all completed : List String) :
    (compare all completed).appliedCount + (compare all completed).pendingCount = all.length := by
  have hsplit := List.length_eq_length_filter_add (l := all) (· ∈ completed)
  rw [compare_applied, compare_pending, hsplit]
  simp only [decide_not]

theorem compare_ledger (hall : all.Nodup) (hcompleted : completed.Nodup) :
    (compare all completed).appliedCount + (compare all completed).orphaned.length =
      completed.length := by
  have hperm : (all.filter (· ∈ completed)).Perm (completed.filter (· ∈ all)) := by
    refine (List.perm_ext_iff_of_nodup (hall.filter _) (hcompleted.filter _)).mpr fun id => ?_
    simp [and_comm]
  have hsplit := List.length_eq_length_filter_add (l := completed) (· ∈ all)
  rw [compare_applied, hperm.length_eq, hsplit]
  simp only [compare, decide_not]

end StatusReport

namespace Runner

variable {δ γ σ : Type} {m : Semantics γ} {view : δ → Standing γ} {sight : FileTree → σ}
variable {a : Adapter δ} {c : Catalog} {g : γ} {s : Session δ} {all : List String}

/-! ## Making a report -/

section Body

variable {r : Runner (Traced δ)} {run : Run (Traced δ)}

/-- The only calls for a report. -/
def reportScript (dialect : Dialect) : List AdapterCall :=
  [.query (Ledger.createSql dialect) [] {}, .query Ledger.selectSql [] {}]

/-- The ids are what the adapter gives for the ledger in a database that is seen as `v`. -/
def ReadsAs (a : Adapter δ) (view : δ → Standing γ) (v : Standing γ) (ids : List String) : Prop :=
  ∃ mid : Session δ, view mid.database = v ∧ ((a.readLedger {}).run mid).1 = .ok ids

theorem ReadsAs.perm (hlaw : Lawful a m view sight) {ids : List String}
    (h : ReadsAs a view (.idle g) ids) : ids.Perm (m.ledger g) := by
  obtain ⟨mid, hmid, hread⟩ := h
  have hperm := (hlaw.readLedger mid {} rfl (by rw [hmid]; rfl)).2 ids hread
  rwa [hmid] at hperm

theorem statusBody_spec (hlaw : Lawful a m view sight) (hr : r.adapter = a.traced)
    (hv : view run.session.database.inner = .idle g) :
    Ends r.statusBody run fun result next =>
      sight next.session.files = sight run.session.files ∧
      view next.session.database.inner = .idle g ∧
      ∃ log, next.calls = run.calls ++ log ∧ log.map (·.1) <+: reportScript a.dialect ∧
        (Clean log → r.catalog.dialect = a.dialect →
          ∀ all, r.catalog.discover run.session.files = .ok all →
            ∃ completed, result = .ok (.compare all completed) ∧
              ReadsAs a view (.idle g) completed) := by
  have hcreate : r.adapter.ensureLedger {} = a.traced.ensureLedger {} := by rw [hr]
  have hselect : r.adapter.readLedger {} = a.traced.readLedger {} := by rw [hr]
  have hdialect : r.adapter.dialect = a.dialect := by rw [hr]; rfl
  unfold statusBody
  rw [hcreate, hselect]
  refine checkDialect_spec.bind ?_ ?_
  swap
  · rintro e next ⟨rfl, he⟩
    refine ⟨rfl, hv, [], by simp, List.nil_prefix, fun _ hspeaks => ?_⟩
    simp [hspeaks, hdialect] at he
  rintro _ run₀ ⟨rfl, -⟩
  refine (discover_spec false).bind ?_ ?_
  swap
  · rintro e next ⟨he, hf, hd⟩
    have hcalls : next.calls = run₀.calls := congrArg Traced.calls hd
    refine ⟨congrArg sight hf, by rw [hd, hv], [], by rw [hcalls, List.append_nil], List.nil_prefix, ?_⟩
    intro _ _ all hall
    have hfound : .error e = Except.ok all := he.trans hall
    simp at hfound
  rintro found run₁ ⟨hfound, hf₁, hd₁⟩
  refine ends_of_quiet (quiet_enter r _) fun run₂ h₂ => ?_
  have hf₂ : sight run₂.session.files = sight run₀.session.files :=
    congrArg sight (h₂.files.trans hf₁)
  have hd₂ : run₂.session.database = run₀.session.database := h₂.database.trans hd₁
  have hv₂ : view run₂.session.untraced.database = .idle g := by
    rw [← hv, ← hd₂]
    rfl
  have hcalls₂ : run₂.calls = run₀.calls := congrArg Traced.calls hd₂
  have hensured := (hlaw.ensureLedger _ {} rfl (by rw [hv₂]; rfl)).stays_idle hv₂
  refine (traced_ensureLedger hensured).bind ?_ ?_
  swap
  · rintro e run₃ ⟨⟨hf₃, hv₃⟩, hadds⟩
    refine ⟨hf₃.trans hf₂, hv₃, _, by rw [hadds, hcalls₂], ?_, fun hclean => ?_⟩
    · exact ⟨[.query Ledger.selectSql [] {}], rfl⟩
    · have hfailed := hclean _ List.mem_cons_self
      simp [failure?] at hfailed
  rintro _ run₃ ⟨⟨hf₃, hv₃⟩, hadds₃⟩
  have hread : Ends (a.readLedger {}) run₃.session.untraced fun result t =>
      (sight t.files = sight run₃.session.untraced.files ∧ view t.database = .idle g) ∧
        ∀ ids, result = .ok ids → ReadsAs a view (.idle g) ids := by
    have hchange := (hlaw.readLedger run₃.session.untraced {} rfl (by rw [hv₃]; rfl)).1
    exact ⟨hchange.stays_idle hv₃, fun ids hids => ⟨_, hv₃, hids⟩⟩
  have hcalls : ∀ {failure failure' : Option MigrationError} {next : Run (Traced δ)},
      run₃.calls = run₂.calls ++ [(.query (Ledger.createSql a.dialect) [] {}, failure)] →
      next.calls = run₃.calls ++ [(.query Ledger.selectSql [] {}, failure')] →
      next.calls = run₀.calls ++ [(.query (Ledger.createSql a.dialect) [] {}, failure),
        (.query Ledger.selectSql [] {}, failure')] := by
    intro failure failure' next h₃ hnext
    rw [hnext, h₃, hcalls₂, List.append_assoc]
    rfl
  refine (traced_readLedger hread).bind ?_ ?_
  swap
  · rintro e run₄ ⟨⟨⟨hf₄, hv₄⟩, -⟩, hadds₄⟩
    refine ⟨hf₄.trans (hf₃.trans hf₂), hv₄, _, hcalls hadds₃ hadds₄, List.prefix_refl _, ?_⟩
    intro hclean
    have hfailed := hclean _ (List.mem_cons_of_mem _ List.mem_cons_self)
    simp [failure?] at hfailed
  rintro completed run₄ ⟨⟨⟨hf₄, hv₄⟩, hids⟩, hadds₄⟩
  refine ⟨hf₄.trans (hf₃.trans hf₂), hv₄, _, hcalls hadds₃ hadds₄, List.prefix_refl _, ?_⟩
  intro _ _ all hall
  obtain rfl : found = all := Except.ok.inj (hfound.trans hall)
  exact ⟨completed, rfl, hids completed rfl⟩

end Body

/-! ## The migrate after it -/

/-- What a migrate in which no call fails reports: what is pending, as long as that can be
planned. What else there is in the catalog does not matter. -/
theorem Undisturbed.reports {result : Except MigrationError MigrateOutcome} {t : Session (Traced δ)}
    (h : Undisturbed m view sight a c s result t) (hall : c.discovery true s.files = .ok all)
    (hshown : c.ShownBy sight (c.prepared s.files)) (hv : view s.database = .idle g)
    (hplannable : ∀ id ∈ all.filter (· ∉ m.ledger g),
      c.Plannable c.dialect (c.prepared s.files) .up id) :
    result = .ok (appliedOutcome (all.filter (· ∉ m.ledger g))) := by
  obtain ⟨hlaw, hspeaks, ⟨state, hrun⟩, hclean⟩ := h
  have hbody : Ends (watching a c).migrateBody { session := s.watched } fun result next =>
      Clean next.calls → result = .ok (appliedOutcome (all.filter (· ∉ m.ledger g))) := by
    rw [migrateBody_eq]
    refine (survey_reads hlaw rfl rfl .up hspeaks hall hv).bind ?_ ?_
    swap
    · rintro e next ⟨-, -, ⟨log, hlog, hperforms⟩, -⟩ hclean
      obtain ⟨-, found, hfound⟩ := hperforms.of_clean (by rwa [hlog] at hclean)
      simp at hfound
    rintro found mid ⟨hf, -, ⟨log, hlog, -⟩, hfound⟩
    obtain ⟨rfl, hperm⟩ := hfound found rfl
    have hpending : targets .up found = found.1.filter (· ∉ m.ledger g) :=
      (targets_congr fun id => hperm.mem_iff)
    rw [hpending]
    refine (applyPending_carriesOut rfl (found.1.filter (· ∉ m.ledger g)) mid).mono ?_
    intro result next hnext hclean
    have hplans : ∃ batch, (found.1.filter (· ∉ m.ledger g)).mapM
        (c.planned a.dialect mid.session.files .up) = .ok batch := by
      obtain ⟨batch, hbatch⟩ :=
        mapM_succeeds_iff.mpr fun id hid => Catalog.plannable_iff.mp (hplannable id hid)
      rw [hspeaks] at hbatch
      exact ⟨batch, (hshown _ hf).mapM_planned_iff.mpr hbatch⟩
    obtain ⟨batch, hbatch⟩ := hplans
    have hbatch' : (found.1.filter (· ∉ m.ledger g)).mapM ((watching a c).catalog.planned
        (watching a c).adapter.dialect mid.session.files .up) = .ok batch := hbatch
    rw [hbatch'] at hnext
    obtain ⟨log', hlog', hperforms, houtcome⟩ := hnext
    rw [hlog'] at hclean
    obtain ⟨-, outcome, rfl⟩ := hperforms.of_clean (clean_append.mp hclean).2
    rw [houtcome outcome rfl]
  obtain ⟨last, hlast, -⟩ := command_clean hlaw rfl hbody hrun hclean
  exact hlast

/-! ## The report -/

/-- Whatever fails, a report only reads the ledger and changes nothing. If no call fails, it
is exact, and what is pending by it is what a migrate right after it applies. -/
theorem status_reports (dryRun : Bool) {result : Except MigrationError StatusReport}
    {state : RunState} {t : Session (Traced δ)} (hlaw : Lawful a m view sight)
    (hidle : (view s.database).saved = none)
    (hrun : (Runner.mk a.traced c dryRun).status.start s.watched = (result, state, t)) :
    let ledger := m.ledger (view s.database).contents
    (∃ log released disconnected,
      t.database.calls = log ++ [(.releaseClient, released), (.disconnect, disconnected)] ∧
        log.map (·.1) <+:
          [.query (Ledger.createSql a.dialect) [] {}, .query Ledger.selectSql [] {}]) ∧
    sight t.files = sight s.files ∧ view t.database.inner = view s.database ∧
    (c.dialect = a.dialect → c.Keyed → s.files.Distinct → ledger.Nodup → Clean t.database.calls →
      ∀ all, c.discover s.files = .ok all → ∃ report completed, result = .ok report ∧
        ReadsAs a view (view s.database) completed ∧ completed.Perm ledger ∧
        report.entries.map (·.1) = all ∧ Ascending all ∧
        (∀ entry ∈ report.entries, entry.2 = .applied ↔ entry.1 ∈ ledger) ∧
        report.orphaned = completed.filter (· ∉ all) ∧
        report.appliedCount + report.pendingCount = all.length ∧
        report.appliedCount + report.orphaned.length = ledger.length ∧
        ∀ b second u, Undisturbed m view sight b c t.untraced second u →
          c.ShownBy sight s.files → c.ShownBy sight (c.prepared t.files) → c.CanMake t.files →
          (∀ id ∈ report.pendingIds, c.Plannable c.dialect (c.prepared t.files) .up id) →
          second = .ok (if report.pendingIds = [] then .upToDate else .applied report.pendingIds)) := by
  intro ledger
  have hv := Standing.eq_idle hidle
  have hbody : Ends (Runner.mk a.traced c dryRun).statusBody { session := s.watched } _ :=
    statusBody_spec hlaw rfl hv
  obtain ⟨mid, released, disconnected, ⟨hf, hw, log, hlog, hscript, hexact⟩, hcalls, hfiles, hkept⟩ :=
    ends_start (command_traced hlaw rfl hbody) hrun
  have hlog' : mid.calls = log := hlog
  have hcalls' : t.database.calls =
      log ++ [(.releaseClient, released), (.disconnect, disconnected)] := hlog' ▸ hcalls
  have hfiles' : sight t.files = sight s.files := hfiles.trans hf
  have hview : view t.database.inner = view s.database := (hkept _ hw).trans hv.symm
  refine ⟨⟨log, released, disconnected, hcalls', hscript⟩, hfiles', hview, ?_⟩
  intro hspeaks hkeyed htree hnodup hclean all hall
  rw [hcalls'] at hclean
  obtain ⟨completed, rfl, hread⟩ := hexact (clean_append.mp hclean).1 hspeaks all hall
  have hperm : completed.Perm ledger := hread.perm hlaw
  have hallNodup := Catalog.discover_nodup hkeyed htree hall
  have hpending : (StatusReport.compare all completed).pendingIds = all.filter (· ∉ ledger) := by
    rw [StatusReport.compare_pendingIds]
    have hsame : targets .up (all, completed) = targets .up (all, ledger) :=
      targets_congr fun id => hperm.mem_iff
    exact hsame
  refine ⟨.compare all completed, completed, rfl, hv ▸ hread, hperm, ?_, ?_, ?_, rfl, ?_, ?_, ?_⟩
  · unfold StatusReport.compare
    rw [List.map_map]
    exact List.map_id all
  · exact ascending_iff.mpr (Catalog.discover_sorted hkeyed htree hall)
  · intro entry hentry
    obtain ⟨id, -, rfl⟩ := List.mem_map.mp hentry
    rw [← hperm.mem_iff]
    by_cases hid : id ∈ completed <;> simp [hid]
  · exact StatusReport.compare_discovered all completed
  · rw [StatusReport.compare_ledger hallNodup (hperm.nodup_iff.mpr hnodup), hperm.length_eq]
  · intro b second u hnext hshown hshown' hmake hplannable
    rw [hpending] at hplannable ⊢
    have hdiscovery : c.discovery true t.files = .ok all :=
      (Catalog.discovery_of_canMake fun _ => hmake).trans ((hshown _ hfiles').discover.trans hall)
    exact hnext.reports hdiscovery hshown' (hview.trans hv) hplannable

/-- The report of a catalog on a rehearsal. -/
def inspect (script : Rehearsal.Script) (c : Catalog) (s : Session Rehearsal.Book) :
    Except MigrationError StatusReport × RunState × Session (Traced Rehearsal.Book) :=
  (watching (Rehearsal.adapter script) c).status.start s.watched

theorem status_reports_gaps :
    (inspect acceptsAll threeTables gaps).1 = .ok
        { entries := [("lipgrade_1", .pending), ("lipgrade_2", .applied), ("lipgrade_3", .pending)]
          orphaned := ["lipgrade_0"] } ∧
      (inspect acceptsAll threeTables gaps).2.2.database.inner.standing = gaps.database.standing ∧
      (rehearse acceptsAll threeTables (inspect acceptsAll threeTables gaps).2.2.untraced).1 =
        .ok (.applied ["lipgrade_1", "lipgrade_3"]) := by
  have hreport : (inspect acceptsAll threeTables gaps).1 = .ok
      { entries := [("lipgrade_1", .pending), ("lipgrade_2", .applied), ("lipgrade_3", .pending)]
        orphaned := ["lipgrade_0"] } := by
    decide +kernel
  have hmake : ∀ tree, threeTables.CanMake tree := by
    intro tree directory hdirectory
    simp [Catalog.directory, threeTables, inCode] at hdirectory
  have hplannable : ∀ tree, tree = gaps.files → ∀ id ∈ ["lipgrade_1", "lipgrade_3"],
      threeTables.Plannable .sqlite (threeTables.prepared tree) .up id := by
    rintro tree rfl id hid
    refine Catalog.plannable_iff.mpr (mapM_succeeds_iff.mp ⟨?_, ?_⟩ id hid)
    · exact [planOf "lipgrade_1" ["CREATE TABLE a (x)", "CREATE TABLE aa (x)"],
        planOf "lipgrade_3" ["CREATE TABLE c (x)"]]
    · decide +kernel
  obtain ⟨-, hfiles, hview, hexact⟩ := status_reports (s := gaps) (c := threeTables) false
    (Rehearsal.adapter_lawful acceptsAll rfl) rfl rfl
  obtain ⟨report, completed, hresult, -, -, -, -, -, -, -, -, hnext⟩ := hexact rfl (by decide +kernel)
    .nil (by decide +kernel) (by decide +kernel) ["lipgrade_1", "lipgrade_2", "lipgrade_3"]
    (by decide +kernel)
  obtain rfl := Except.ok.inj (hreport.symm.trans hresult)
  have hsecond := rehearse_undisturbed acceptsAll threeTables
    (inspect acceptsAll threeTables gaps).2.2.untraced rfl rfl (by decide +kernel)
  exact ⟨hreport, hview, hnext _ _ _ hsecond (Catalog.shownBy_id _ _) (Catalog.shownBy_id _ _)
    (hmake _) (hplannable _ hfiles)⟩

end Runner

end SchemaMigration
