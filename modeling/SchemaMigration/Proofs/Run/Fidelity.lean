import SchemaMigration.Proofs.Run.DryRun

/-!
# A dry run shows what a real run does

If the ledger holds what a dry run assumes, and no call fails, a real run sends the very
statements that the dry run shows, and both report the same.
-/

namespace SchemaMigration.Runner

variable {δ ε γ σ α : Type} {m : Semantics γ} {view : δ → Standing γ} {sight : Files.FileTree → σ}
variable {a : Adapter δ} {g : γ}

section Traced

variable {r : Runner (Traced δ)} {run : Run (Traced δ)} {direction : Direction} {s : Session δ}
variable {carry : List String × List String → RunAction (Traced δ) α} {outcome : List String → α}

/-- The real run makes no directory, and the ledger holds what a dry run assumes. -/
structure Assumed (r : Runner δ) (direction : Direction) (tree : Files.FileTree)
    (ledger : List String) : Prop where
  directory : r.makesDirectory direction = true → r.catalog.missingDirectory tree = none
  ledger : ∀ all, r.catalog.discover tree = .ok all →
    ∀ id, id ∈ ledger ↔ id ∈ assumedLedger direction all

theorem targets_subset (direction : Direction) (all : List String) :
    targets direction (all, assumedLedger direction all) ⊆ all := by
  cases direction with
  | up => exact List.filter_subset_self all
  | down =>
    intro id hid
    exact (Catalog.sortIds_perm all).mem_iff.mp (List.mem_of_getLast? (Option.mem_toList.mp hid))

theorem foresees_real (hlaw : Lawful a m view sight) (hr : r.adapter = a.traced)
    (hdry : r.dryRun = false) (hshown : r.catalog.ShownBy sight run.session.files)
    (hv : view run.session.database.inner = .idle g)
    (hassumed : r.Assumed direction run.session.files (m.ledger g)) :
    r.Foresees direction run fun e next =>
      next.calls = run.calls ∧
        r.catalog.prospect r.adapter.dialect run.session.files direction = .error e ∨
      ∃ log, next.calls = run.calls ++ log ∧ ¬ Clean log := by
  have htraced : Lawful r.adapter m (fun d => view d.inner) sight := hr ▸ hlaw.traced
  have hscript : r.surveyScript = r.readingScript := by simp [surveyScript, hdry]
  have hdiscovery : r.catalog.discovery (r.makesDirectory direction) run.session.files =
        r.catalog.discover run.session.files ∧
      (if r.makesDirectory direction then r.catalog.prepared run.session.files
        else run.session.files) = run.session.files := by
    unfold Catalog.discovery Catalog.prepared
    cases hmakes : r.makesDirectory direction with
    | true => simp [hassumed.directory hmakes]
    | false => simp
  rw [Foresees, hscript]
  refine survey_rule ?_ ?_ ?_
  · exact fun hdialect => .inl ⟨rfl, prospect_mismatch hdialect _ _⟩
  · intro e next hdialect he hd
    rw [hdiscovery.1] at he
    exact .inl ⟨congrArg Traced.calls hd, by rw [prospect_eq hdialect, he]; rfl⟩
  · intro all next hdialect hall hf hd
    rw [hdiscovery.1] at hall
    rw [hdiscovery.2] at hf
    have hcalls : next.calls = run.calls := congrArg Traced.calls hd
    have hv' : view next.session.database.inner = .idle g := by rw [hd, hv]
    rw [hdry, ← hcalls]
    refine (Ends.and (readLedger_spec htraced hdry hv') (readLedger_follows hr next)).mono ?_
    rintro (e | completed) last ⟨⟨hkept, -, hperm⟩, log, hlast, hperforms⟩
    · refine .inr ⟨log, hlast, fun hclean => ?_⟩
      obtain ⟨-, x, hx⟩ := hperforms.of_clean hclean
      simp at hx
    · cases hperforms
      have htargets : targets direction (all, completed) =
          targets direction (all, assumedLedger direction all) :=
        targets_congr fun id => (hperm completed rfl).mem_iff.trans (hassumed.ledger all hall id)
      refine ⟨hlast, ?_⟩
      have hagrees := hshown last.session.files (hkept.trans (congrArg sight hf))
      rw [prospect_eq hdialect, hall, htargets,
        hagrees.mapM_planned_found hall (targets_subset direction all)]
      rfl

/-- None of the calls before the two of the cleanup failed. -/
def Unfailing (t : Session (Traced δ)) : Prop := Clean t.database.calls.dropLast.dropLast

instance (t : Session (Traced δ)) : Decidable (Unfailing t) :=
  inferInstanceAs (Decidable (Clean t.database.calls.dropLast.dropLast))

/-- A command without a failing call carries out the plan. If there is none, its calls before
the cleanup are one of the lists in `unplanned`. -/
def Realizes (plan : Except MigrationError (List String × List PlannedMigration))
    (outcome : List String → α) (unplanned : List (List AdapterCall))
    (planned : List PlannedMigration → List AdapterCall)
    (finished : Except MigrationError α × RunState × Session (Traced δ)) : Prop :=
  match plan with
  | .error e => finished.1 = .error e ∧
    ∃ calls ∈ unplanned, finished.2.2.database.calls.map (·.1) = calls ++ cleanupScript
  | .ok (ids, batch) => finished.1 = .ok (outcome ids) ∧
    finished.2.2.database.calls.map (·.1) = planned batch ++ cleanupScript

theorem Realizes.mono {plan : Except MigrationError (List String × List PlannedMigration)}
    {unplanned unplanned' : List (List AdapterCall)}
    {planned : List PlannedMigration → List AdapterCall}
    {finished : Except MigrationError α × RunState × Session (Traced δ)}
    (h : Realizes plan outcome unplanned planned finished) (hsub : unplanned ⊆ unplanned') :
    Realizes plan outcome unplanned' planned finished := by
  cases plan with
  | error e =>
    obtain ⟨hresult, calls, hcalls, hnames⟩ := h
    exact ⟨hresult, calls, hsub hcalls, hnames⟩
  | ok plan => exact h

theorem realizes_of_foresees (hr : r.adapter = a.traced)
    (hforesees : r.Foresees direction { session := s.watched } fun e next =>
      next.calls = [] ∧ r.catalog.prospect r.adapter.dialect s.files direction = .error e ∨
        ¬ Clean next.calls)
    (hcarry : ∀ found,
      r.CarriesOut direction (targets direction found) (outcome (targets direction found)) (carry found))
    (hclean : Unfailing ((r.command (r.survey direction >>= carry)).start s.watched).2.2) :
    Realizes (r.catalog.prospect r.adapter.dialect s.files direction) outcome [[], r.surveyScript]
      (fun batch => r.surveyScript ++ r.carryScript direction batch)
      ((r.command (r.survey direction >>= carry)).start s.watched) := by
  obtain ⟨mid, released, disconnected, hmid, hcalls⟩ := command_calls hr (hforesees.body hcarry)
  rw [start_eq] at hclean ⊢
  generalize (r.command (r.survey direction >>= carry)).run { session := s.watched } = finished
    at hmid hcalls hclean ⊢
  obtain ⟨result, last⟩ := finished
  have hlast : last.session.database.calls =
      mid.calls ++ [(.releaseClient, released), (.disconnect, disconnected)] := hcalls
  have hbefore : Clean mid.calls := by
    simpa only [Unfailing, hlast, List.dropLast_append_cons, List.dropLast_cons_cons,
      List.dropLast_singleton, List.append_nil] using hclean
  have hnames : last.session.database.calls.map (·.1) = mid.calls.map (·.1) ++ cleanupScript := by
    rw [hlast, List.map_append]
    rfl
  unfold Realizes
  rcases hmid with ⟨e, hresult, ⟨hnone, hprospect⟩ | hfailed⟩ | hplanned
  · rw [hprospect]
    exact ⟨hresult, [], List.mem_cons_self, by rw [hnames, hnone]; rfl⟩
  · exact absurd hbefore hfailed
  · split at hplanned
    · next e hprospect =>
      obtain ⟨hresult, hmid⟩ := hplanned
      rw [show r.catalog.prospect r.adapter.dialect s.files direction = .error e from hprospect]
      refine ⟨hresult, r.surveyScript, by simp, ?_⟩
      rw [hnames, hmid, List.map_append, map_fst_allMade]
      rfl
    · next ids batch hprospect =>
      obtain ⟨log, hmid, hperforms, houtcome⟩ := hplanned
      rw [hmid] at hbefore
      obtain ⟨rfl, x, hx⟩ := hperforms.of_clean (clean_append.mp hbefore).2
      rw [show r.catalog.prospect r.adapter.dialect s.files direction = .ok (ids, batch) from hprospect]
      refine ⟨by rw [← houtcome x hx]; exact hx, ?_⟩
      rw [hnames, hmid, List.map_append, List.map_append, map_fst_allMade, map_fst_allMade]
      rfl

theorem realizes_dry (hr : r.adapter = a.traced) (hdry : r.dryRun = true)
    (hcarry : ∀ found,
      r.CarriesOut direction (targets direction found) (outcome (targets direction found)) (carry found))
    (hclean : Unfailing ((r.command (r.survey direction >>= carry)).start s.watched).2.2) :
    Realizes (r.catalog.prospect r.adapter.dialect s.files direction) outcome [[]]
      (fun batch => showing (batch.flatMap (·.statements)))
      ((r.command (r.survey direction >>= carry)).start s.watched) := by
  have hscript : r.surveyScript = [] := by simp [surveyScript, hdry]
  have hforesees : r.Foresees direction { session := s.watched } _ := foresees_dry hdry
  have hrealizes := realizes_of_foresees hr (hforesees.mono fun _ _ h => .inl h) hcarry hclean
  simp only [hscript, carryScript_dry hdry, List.nil_append] at hrealizes
  exact hrealizes.mono (by simp)

theorem realizes_real (hlaw : Lawful a m view sight) (hr : r.adapter = a.traced)
    (hdry : r.dryRun = false) (hshown : r.catalog.ShownBy sight s.files)
    (hidle : (view s.database).saved = none)
    (hassumed : r.Assumed direction s.files (m.ledger (view s.database).contents))
    (hcarry : ∀ found,
      r.CarriesOut direction (targets direction found) (outcome (targets direction found)) (carry found))
    (hclean : Unfailing ((r.command (r.survey direction >>= carry)).start s.watched).2.2) :
    Realizes (r.catalog.prospect r.adapter.dialect s.files direction) outcome [[], r.readingScript]
      (fun batch => r.readingScript ++ r.carryScript direction batch)
      ((r.command (r.survey direction >>= carry)).start s.watched) := by
  have hscript : r.surveyScript = r.readingScript := by simp [surveyScript, hdry]
  have hreal : r.Foresees direction { session := s.watched } _ :=
    foresees_real hlaw hr hdry hshown (Standing.eq_idle hidle) hassumed
  rw [← hscript]
  refine realizes_of_foresees hr (hreal.mono ?_) hcarry hclean
  rintro e next (⟨hcalls, hprospect⟩ | ⟨log, hlog, hfailed⟩)
  · exact .inl ⟨hcalls, hprospect⟩
  · rw [show next.calls = log from hlog]
    exact .inr hfailed

end Traced

/-- The dry run and the real run carry out the same plan, which comes from the catalog and the
files alone. The dry run shows its statements; the real run sends them, and besides makes only
the calls for the ledger and the transaction. If there is no plan, both fail alike. -/
theorem dryRun_faithful {b : Adapter ε} {look : ε → Standing γ} (hlaw : Lawful b m look sight)
    (hdialect : b.dialect = a.dialect) (c : Catalog) {s : Session δ} {u : Session ε}
    (hfiles : u.files = s.files) (hseen : c.ShownBy sight u.files) (hidle : (look u.database).saved = none) :
    let dry : Runner (Traced δ) := ⟨a.traced, c, true⟩
    let real : Runner (Traced ε) := watching b c
    let ledger := m.ledger (look u.database).contents
    let shown (batch : List PlannedMigration) := showing (batch.flatMap (·.statements))
    let sent (direction : Direction) (batch : List PlannedMigration) :=
      real.readingScript ++ real.carryScript direction batch
    (c.missingDirectory s.files = none → ledger = [] →
      Unfailing (dry.migrate.start s.watched).2.2 →
      Unfailing (real.migrate.start u.watched).2.2 →
      let plan := c.prospect a.dialect s.files .up
      Realizes plan appliedOutcome [[]] shown (dry.migrate.start s.watched) ∧
        Realizes plan appliedOutcome [[], real.readingScript] (sent .up)
          (real.migrate.start u.watched)) ∧
    ((∀ all, c.discover s.files = .ok all → ∀ id, id ∈ ledger ↔ id ∈ all) →
      Unfailing (dry.rollback.start s.watched).2.2 →
      Unfailing (real.rollback.start u.watched).2.2 →
      let plan := c.prospect a.dialect s.files .down
      Realizes plan revertedOutcome [[]] shown (dry.rollback.start s.watched) ∧
        Realizes plan revertedOutcome [[], real.readingScript] (sent .down)
          (real.rollback.start u.watched)) := by
  intro dry real ledger shown sent
  have hmigrate : ∀ {δ : Type} (r : Runner δ), r.migrate =
      r.command (r.survey .up >>= fun found => r.applyPending (targets .up found)) :=
    fun r => congrArg r.command r.migrateBody_eq
  have hrollback : ∀ {δ : Type} (r : Runner δ), r.rollback =
      r.command (r.survey .down >>= fun found => r.revertLast found.2) :=
    fun r => congrArg r.command r.rollbackBody_eq
  rw [hmigrate dry, hmigrate real, hrollback dry, hrollback real]
  refine ⟨fun hmissing hempty hshown hsent => ⟨?_, ?_⟩, fun hall hshown hsent => ⟨?_, ?_⟩⟩
  · exact realizes_dry (a := a) rfl rfl (fun _ => applyPending_carriesOut (a := a) rfl _) hshown
  · rw [← hdialect, ← hfiles]
    rw [← hfiles] at hmissing
    have hassumed : real.Assumed .up u.files ledger :=
      ⟨fun _ => hmissing, fun all _ id => by rw [hempty]; rfl⟩
    exact realizes_real hlaw rfl rfl hseen hidle hassumed
      (fun _ => applyPending_carriesOut (a := b) rfl _) hsent
  · exact realizes_dry (a := a) rfl rfl (fun found => revertLast_carriesOut (a := a) rfl found) hshown
  · rw [← hdialect, ← hfiles]
    rw [← hfiles] at hall
    have hassumed : real.Assumed .down u.files ledger := ⟨fun h => by simp [makesDirectory] at h, hall⟩
    exact realizes_real hlaw rfl rfl hseen hidle hassumed
      (fun found => revertLast_carriesOut (a := b) rfl found) hsent

def ledgerOf (ids : List String) : Session Rehearsal.Book := ⟨{}, [], { store := { ledger := ids } }⟩

theorem dryRun_faithful_threeTables :
    let dry : Runner (Traced Rehearsal.Book) := ⟨(Rehearsal.adapter acceptsAll).traced, threeTables, true⟩
    let real := watching (Rehearsal.adapter acceptsAll) threeTables
    let ids := ["lipgrade_1", "lipgrade_2", "lipgrade_3"]
    (Realizes (.ok (ids, threePlans)) appliedOutcome [[]]
        (fun batch => showing (batch.flatMap (·.statements)))
        (dry.migrate.start (ledgerOf ["lipgrade_0"]).watched) ∧
      (real.migrate.start (ledgerOf []).watched).1 = .ok (.applied ids)) ∧
    Realizes (.ok (["lipgrade_3"], [planOf "lipgrade_3" []])) revertedOutcome [[], real.readingScript]
      (fun batch => real.readingScript ++ real.carryScript .down batch)
      (real.rollback.start (ledgerOf ids).watched) := by
  intro dry real ids
  have hlaw : Lawful (Rehearsal.adapter acceptsAll) (Rehearsal.semantics acceptsAll)
      Rehearsal.Book.standing id := Rehearsal.adapter_lawful acceptsAll rfl
  have hup : threeTables.prospect .sqlite {} .up = .ok (ids, threePlans) := by decide +kernel
  have hdown : threeTables.prospect .sqlite {} .down = .ok (["lipgrade_3"], [planOf "lipgrade_3" []]) := by
    decide +kernel
  have hall : ∀ all, threeTables.discover {} = .ok all → ∀ id, id ∈ ids ↔ id ∈ all := by
    intro all h id
    obtain rfl : ids = all :=
      Except.ok.inj ((show threeTables.discover {} = .ok ids by decide +kernel).symm.trans h)
    exact Iff.rfl
  obtain ⟨hmigrate, -⟩ := dryRun_faithful hlaw rfl threeTables (s := ledgerOf ["lipgrade_0"])
    (u := ledgerOf []) rfl (Catalog.shownBy_id _ _) rfl
  obtain ⟨-, hrollback⟩ := dryRun_faithful hlaw rfl threeTables (s := ledgerOf [])
    (u := ledgerOf ids) rfl (Catalog.shownBy_id _ _) rfl
  obtain ⟨htried, hdone⟩ := hmigrate rfl rfl (by decide +kernel) (by decide +kernel)
  obtain ⟨-, hreverted⟩ := hrollback hall (by decide +kernel) (by decide +kernel)
  refine ⟨⟨?_, ?_⟩, ?_⟩
  · rw [← hup]
    exact htried
  · have happlied : Realizes (.ok (ids, threePlans)) appliedOutcome [[], real.readingScript]
        (fun batch => real.readingScript ++ real.carryScript .up batch)
        (real.migrate.start (ledgerOf []).watched) := by
      rw [← hup]
      exact hdone
    exact happlied.1
  · rw [← hdown]
    exact hreverted

end SchemaMigration.Runner
