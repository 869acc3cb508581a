import SchemaMigration.Proofs.Migration.Catalog
import SchemaMigration.Proofs.Run.Effects

/-!
# The pending migrations

Where all migrations can be discovered, loaded and planned, a migrate reads the ledger and
carries out one batch: the plans whose ids are not in the ledger.
-/

namespace SchemaMigration

open Files

/-! ## Catalogs that can be planned -/

/-- The catalog speaks the dialect, and its plans are found in ascending order of their
ids. -/
structure Catalog.Ready (c : Catalog) (dialect : Dialect) (tree : FileTree)
    (plans : List PlannedMigration) : Prop where
  speaks : c.dialect = dialect
  discovered : c.discovery true tree = .ok (plans.map (·.id))
  planned : ∀ p ∈ plans, c.planned dialect (c.prepared tree) .up p.id = .ok p
  sorted : (plans.map (·.id)).Pairwise (· < ·)

namespace Catalog

variable {c : Catalog} {dialect : Dialect} {tree : FileTree} {plans : List PlannedMigration}

/-- The plan is for the migration of the id, and its statements are what the operations of
that migration translate to, one for each and in their order. -/
def Translates (c : Catalog) (dialect : Dialect) (tree : FileTree) (id : String)
    (p : PlannedMigration) : Prop :=
  p.id = id ∧ ∃ mig, c.load tree id = .ok mig ∧
    mig.up.mapM (·.statement dialect) = .ok p.statements

theorem Translates.statements_eq {id : String} {p : PlannedMigration} {mig : Migration}
    {statements : List Statement} (h : c.Translates dialect tree id p)
    (hload : c.load tree id = .ok mig)
    (hstatements : mig.up.mapM (·.statement dialect) = .ok statements) : p.statements = statements := by
  obtain ⟨-, mig', hload', hsame⟩ := h
  obtain rfl : mig = mig' := Except.ok.inj (hload.symm.trans hload')
  exact Except.ok.inj (hsame.symm.trans hstatements)

theorem ready_of_validation (hkeyed : c.Keyed) (htree : tree.WellNamed) (hdialect : c.dialect = dialect)
    (h : c.validation dialect true tree = .ok plans) : c.Ready dialect tree plans := by
  obtain ⟨ids, hids, hplans⟩ := bind_eq_ok.mp h
  rw [if_pos rfl] at hplans
  have hdiscovered := discover_of_discovery hids
  have hid : ∀ id ∈ ids, ∀ p, c.planned dialect (c.prepared tree) .up id = .ok p → p.id = id := by
    intro id hid p hp
    obtain ⟨mig, hmig, hp, -⟩ := planned_loads hp
    exact hp.trans (loaded_id htree hdiscovered hid hmig)
  have hmap : plans.map (·.id) = ids := ids_of_planned hid hplans
  refine ⟨hdialect, hmap ▸ hids, ?_, hmap ▸ discover_sorted hkeyed htree.distinct hdiscovered⟩
  intro p hp
  obtain ⟨id, hmem, hplanned⟩ := exists_of_mapM hplans hp
  rw [hid id hmem p hplanned, hplanned]

theorem Ready.again {other : FileTree} (h : c.Ready dialect tree plans)
    (hagrees : c.Agrees (c.prepared tree) other)
    (hsame : c.discover (c.prepared tree) = .ok (plans.map (·.id))) : c.Ready dialect other plans := by
  have hthere : c.missingDirectory other = none :=
    hagrees.directory.trans (missingDirectory_prepared h.discovered)
  refine ⟨h.speaks, ?_, fun p hp => ?_, h.sorted⟩
  · rw [discovery_of_there hthere, hagrees.discover, hsame]
  · rw [prepared_of_there hthere, hagrees.planned_iff]
    exact h.planned p hp

theorem Ready.after {σ : Type} {sight : FileTree → σ} {other : FileTree}
    (h : c.Ready dialect tree plans) (hshown : c.ShownBy sight (c.prepared tree))
    (hother : sight other = sight (c.prepared tree))
    (hsame : c.discover (c.prepared tree) = .ok (plans.map (·.id))) :
    c.Ready dialect other plans ∧ c.ShownBy sight (c.prepared other) := by
  have hagrees := hshown other hother
  have hthere : c.missingDirectory other = none :=
    hagrees.directory.trans (missingDirectory_prepared h.discovered)
  exact ⟨h.again hagrees hsame, (prepared_of_there hthere).symm ▸ hshown.congr hother⟩

theorem Ready.nodup (h : c.Ready dialect tree plans) : (plans.map (·.id)).Nodup := by
  refine h.sorted.imp ?_
  rintro id _ hlt rfl
  exact String.lt_irrefl id hlt

theorem Ready.mapM_planned (h : c.Ready dialect tree plans) {batch : List PlannedMigration}
    (hbatch : batch ⊆ plans) :
    (batch.map (·.id)).mapM (c.planned dialect (c.prepared tree) .up) = .ok batch := by
  refine mapM_of_forall₂ (List.forall₂_map_left_iff.mpr (List.forall₂_same.mpr ?_))
  exact fun p hp => h.planned p (hbatch hp)

theorem Ready.translates (h : c.Ready dialect tree plans) {batch : List PlannedMigration}
    (hbatch : batch ⊆ plans) :
    List.Forall₂ (c.Translates dialect (c.prepared tree)) (batch.map (·.id)) batch := by
  refine List.forall₂_map_left_iff.mpr (List.forall₂_same.mpr fun p hp => ⟨rfl, ?_⟩)
  obtain ⟨mig, hmig, -, hstatements⟩ := planned_loads (h.planned p (hbatch hp))
  exact ⟨mig, hmig, hstatements⟩

end Catalog

/-! ## The body of a migrate -/

/-- The plans whose ids are not in the ledger. -/
def pendingPlans (plans : List PlannedMigration) (ledger : List String) : List PlannedMigration :=
  plans.filter (·.id ∉ ledger)

theorem mem_pendingPlans {plans : List PlannedMigration} {ledger : List String}
    {p : PlannedMigration} : p ∈ pendingPlans plans ledger ↔ p ∈ plans ∧ p.id ∉ ledger := by
  simp [pendingPlans]

theorem pendingPlans_sublist (plans : List PlannedMigration) (ledger : List String) :
    (pendingPlans plans ledger).Sublist plans := List.filter_sublist

theorem filter_map_id (plans : List PlannedMigration) (ledger : List String) :
    (plans.map (·.id)).filter (· ∉ ledger) = (pendingPlans plans ledger).map (·.id) :=
  List.filter_map

theorem pendingPlans_congr {plans : List PlannedMigration} {ledger ledger' : List String}
    (h : ∀ id, id ∈ ledger ↔ id ∈ ledger') :
    pendingPlans plans ledger = pendingPlans plans ledger' := by
  unfold pendingPlans
  simp only [h]

theorem pendingPlans_rest {plans done rest : List PlannedMigration} {ledger ledger' : List String}
    (hnodup : (plans.map (·.id)).Nodup) (hcut : pendingPlans plans ledger = done ++ rest)
    (hledger : ledger'.Perm (done.map (·.id) ++ ledger)) : pendingPlans plans ledger' = rest := by
  have hpending : ((done ++ rest).map (·.id)).Nodup :=
    hcut ▸ ((pendingPlans_sublist plans ledger).map _).nodup hnodup
  rw [List.map_append, List.nodup_append] at hpending
  have htwice : pendingPlans plans ledger' =
      (pendingPlans plans ledger).filter (·.id ∉ done.map (·.id)) := by
    unfold pendingPlans
    rw [List.filter_filter]
    refine List.filter_congr fun p _ => ?_
    simp only [hledger.mem_iff, List.mem_append, not_or, Bool.decide_and]
  have hdone : done.filter (·.id ∉ done.map (·.id)) = [] :=
    List.filter_eq_nil_iff.mpr fun p hp => by simpa using List.mem_map_of_mem hp
  have hrest : rest.filter (·.id ∉ done.map (·.id)) = rest :=
    List.filter_eq_self.mpr fun p hp => decide_eq_true fun hmem =>
      hpending.2.2 p.id hmem p.id (List.mem_map_of_mem hp) rfl
  rw [htwice, hcut, List.filter_append, hdone, hrest, List.nil_append]

def migrateOutcome (batch : List PlannedMigration) : MigrateOutcome :=
  if batch = [] then .upToDate else .applied (batch.map (·.id))

namespace Runner

variable {δ : Type}

theorem migrateBody_rule {r : Runner δ} {run : Run δ} {plans : List PlannedMigration}
    {post : Except MigrationError MigrateOutcome → Run δ → Prop} (hdry : r.dryRun = false)
    (hready : r.catalog.Ready r.adapter.dialect run.session.files plans)
    (h : ∀ before, before.session.files = r.catalog.prepared run.session.files →
      before.session.database = run.session.database →
      Ends r.readLedger before fun result mid =>
        r.catalog.Agrees (r.catalog.prepared run.session.files) mid.session.files ∧
        match result with
        | .error e => post (.error e) mid
        | .ok completed => ∀ next, SameWorld mid next →
          if pendingPlans plans completed = [] then post (.ok .upToDate) next
          else Ends (r.runBatch .up (pendingPlans plans completed)) next fun result last =>
            ∀ final, SameWorld last final → post (result.map fun _ =>
              .applied ((pendingPlans plans completed).map (·.id))) final) :
    Ends r.migrateBody run post := by
  have hspeaks : r.catalog.dialect = r.adapter.dialect := hready.speaks
  unfold migrateBody
  refine checkDialect_spec.bind ?_ ?_
  swap
  · rintro e before ⟨-, he⟩
    simp [hspeaks] at he
  rintro _ before ⟨rfl, -⟩
  refine (discover_spec _).bind ?_ ?_
  swap
  · rintro e found ⟨he, -⟩
    rw [hdry, Bool.not_false, hready.discovered] at he
    simp at he
  rintro all found ⟨hall, hf, hd⟩
  rw [hdry, Bool.not_false, hready.discovered] at hall
  obtain rfl : all = plans.map (·.id) := Except.ok.inj hall
  rw [hdry, Bool.not_false, if_pos rfl] at hf
  refine ends_of_quiet (quiet_announceDryRun r) fun told htold => ?_
  refine ends_of_quiet (quiet_enter r _) fun start hstart => ?_
  have hfiles : start.session.files = r.catalog.prepared before.session.files := by
    rw [hstart.files, htold.files, hf]
  rw [hdry, if_neg (by simp)]
  refine Ends.bind (h start hfiles (by rw [hstart.database, htold.database, hd])) ?_ ?_
  swap
  · rintro e mid ⟨-, hmid⟩
    exact hmid
  rintro completed mid ⟨hagrees, hmid⟩
  dsimp only at hmid ⊢
  rw [filter_map_id]
  by_cases hnone : pendingPlans plans completed = []
  · rw [if_pos (by rw [hnone]; rfl)]
    refine ends_of_quiet (quiet_print _) fun next hnext => ?_
    have hpost := hmid next hnext
    rwa [if_pos hnone] at hpost
  · rw [if_neg (by simpa using hnone)]
    refine ends_of_quiet (quiet_print _) fun next hnext => ?_
    have hplanned : ((pendingPlans plans completed).map (·.id)).mapM
        (r.catalog.planned r.adapter.dialect next.session.files .up) =
          .ok (pendingPlans plans completed) := by
      rw [hnext.files, hagrees.mapM_planned_iff]
      exact hready.mapM_planned (pendingPlans_sublist plans completed).subset
    refine Ends.bind (r.planBatch_spec .up _) ?_ ?_
    swap
    · rintro e last ⟨he, -⟩
      simp [hplanned] at he
    rintro batch next' ⟨hbatch, hnext'⟩
    rw [hplanned] at hbatch
    obtain rfl : batch = pendingPlans plans completed := Except.ok.inj hbatch
    have hcarried := hmid next' (hnext.trans hnext')
    rw [if_neg hnone] at hcarried
    refine hcarried.bind ?_ ?_
    · intro _ last hlast
      exact ends_of_quiet (quiet_print _) fun final hfinal => hlast final hfinal
    · intro e last hlast
      exact hlast last (.refl last)

section Traced

variable {γ σ : Type} {m : Semantics γ} {view : δ → Standing γ} {sight : FileTree → σ}
variable {a : Adapter δ} {g : γ} {r : Runner (Traced δ)} {run : Run (Traced δ)}
variable {plans : List PlannedMigration}

/-- The calls of a migrate of the batch before its cleanup. -/
def migrateScript (r : Runner δ) (batch : List PlannedMigration) : List AdapterCall :=
  r.readingScript ++
    if batch = [] then [] else r.openingScript ++ (r.batchScript .up batch ++ r.closingScript)

/-- Either the ledger cannot be read, or one batch is carried out: the plans that are pending
by what the ledger holds. -/
theorem migrateBody_cases (hlaw : Lawful a m view sight) (hr : r.adapter = a.traced)
    (hdry : r.dryRun = false) (hready : r.catalog.Ready a.dialect run.session.files plans)
    (hshown : r.catalog.ShownBy sight (r.catalog.prepared run.session.files))
    (hv : view run.session.database.inner = .idle g)
    {post : Except MigrationError MigrateOutcome → Run (Traced δ) → Prop}
    (hunread : ∀ (e : MigrationError) (log : Log) (next : Run (Traced δ)),
      sight next.session.files = sight (r.catalog.prepared run.session.files) →
      view next.session.database.inner = .idle g → next.calls = run.calls ++ log →
      Performs (fun _ => []) r.readingScript (.error e : Except MigrationError (List String)) log →
      post (.error e) next)
    (hread : ∀ next : Run (Traced δ),
      sight next.session.files = sight (r.catalog.prepared run.session.files) →
      view next.session.database.inner = .idle g →
      next.calls = run.calls ++ allMade r.readingScript →
      if pendingPlans plans (m.ledger g) = [] then post (.ok .upToDate) next
      else Ends (r.runBatch .up (pendingPlans plans (m.ledger g))) next fun result last =>
        ∀ final, SameWorld last final → post (result.map fun _ =>
          .applied ((pendingPlans plans (m.ledger g)).map (·.id))) final) :
    Ends r.migrateBody run post := by
  have hspeaks : r.adapter.dialect = a.dialect := by rw [hr]; rfl
  have htraced : Lawful r.adapter m (fun d => view d.inner) sight := hr ▸ hlaw.traced
  refine migrateBody_rule hdry (hspeaks ▸ hready) fun before hf hd => ?_
  have hcalls : before.calls = run.calls := congrArg Traced.calls hd
  have hv' : view before.session.database.inner = .idle g := by rw [hd, hv]
  refine (Ends.and (readLedger_spec htraced hdry hv') (readLedger_follows hr before)).mono ?_
  rintro (e | completed) mid ⟨⟨hkept, hw, hperm⟩, log, hmid, hperforms⟩
  · exact ⟨hshown _ (by rw [hkept, hf]),
      hunread e log mid (by rw [hkept, hf]) hw (by rw [hmid, hcalls]) hperforms⟩
  refine ⟨hshown _ (by rw [hkept, hf]), ?_⟩
  cases hperforms
  have hsame : pendingPlans plans completed = pendingPlans plans (m.ledger g) :=
    pendingPlans_congr fun id => (hperm completed rfl).mem_iff
  dsimp only
  rw [hsame]
  intro next hnext
  refine hread next (by rw [hnext.files, hkept, hf]) (by rw [hnext.database]; exact hw) ?_
  rw [calls_of_sameWorld hnext, hmid, hcalls]

theorem migrateBody_performs (hlaw : Lawful a m view sight) (hr : r.adapter = a.traced)
    (hdry : r.dryRun = false) (hready : r.catalog.Ready a.dialect run.session.files plans)
    (hshown : r.catalog.ShownBy sight (r.catalog.prepared run.session.files))
    (hv : view run.session.database.inner = .idle g) :
    Ends r.migrateBody run fun result next =>
      (∃ log, next.calls = run.calls ++ log ∧
        Performs rescue (r.migrateScript (pendingPlans plans (m.ledger g))) result log) ∧
      ∀ outcome, result = .ok outcome →
        outcome = migrateOutcome (pendingPlans plans (m.ledger g)) := by
  refine migrateBody_cases hlaw hr hdry hready hshown hv ?_ ?_
  · rintro e log next - - hnext hperforms
    refine ⟨⟨log, hnext, hperforms.unfinished (fun before hbefore => ?_) _⟩, fun _ h => by simp at h⟩
    have hbegin : .begin ∉ before := fun h => begin_not_mem_readingScript (hbefore.subset h)
    simp [rescue, hbegin]
  rintro next - - hnext
  by_cases hnone : pendingPlans plans (m.ledger g) = []
  · rw [if_pos hnone]
    refine ⟨⟨_, hnext, ?_⟩, fun outcome h => ?_⟩
    · simp only [migrateScript, hnone, if_pos, List.append_nil]
      exact .through _
    · rw [← Except.ok.inj h, hnone]
      rfl
  · rw [if_neg hnone]
    refine (runBatch_follows hr .up _ next).mono ?_
    rintro result last ⟨log, hlast, hbatch⟩ final hfinal
    refine ⟨⟨allMade r.readingScript ++ log, ?_, ?_⟩, fun outcome h => ?_⟩
    · rw [calls_of_sameWorld hfinal, hlast, hnext, List.append_assoc]
    · rw [migrateScript, if_neg hnone]
      refine Performs.after ?_
      simp only [rescue_append begin_not_mem_readingScript]
      exact hbatch.map _
    · rw [migrateOutcome, if_neg hnone]
      cases result with
      | error e => simp [Except.map] at h
      | ok _ => exact (Except.ok.inj h).symm

theorem migrateBody_leaves (hlaw : Lawful a m view sight) (hr : r.adapter = a.traced)
    (hdry : r.dryRun = false) (hready : r.catalog.Ready a.dialect run.session.files plans)
    (hshown : r.catalog.ShownBy sight (r.catalog.prepared run.session.files))
    (hv : view run.session.database.inner = .idle g)
    (hplain : ∀ p ∈ pendingPlans plans (m.ledger g), ∀ st ∈ p.statements, ¬ m.control st.sql) :
    Ends r.migrateBody run fun result next =>
      sight next.session.files = sight (r.catalog.prepared run.session.files) ∧
      ∀ outcome, result = .ok outcome → view next.session.database.inner =
        .idle (m.run ((pendingPlans plans (m.ledger g)).flatMap (·.writes a.dialect .up)) g) := by
  have htraced : Lawful r.adapter m (fun d => view d.inner) sight := hr ▸ hlaw.traced
  refine migrateBody_cases hlaw hr hdry hready hshown hv ?_ ?_
  · rintro e log next hf - - -
    exact ⟨hf, fun outcome h => by simp at h⟩
  intro next hf hw hnext
  by_cases hnone : pendingPlans plans (m.ledger g) = []
  · rw [if_pos hnone, hnone]
    exact ⟨hf, fun _ _ => hw⟩
  · rw [if_neg hnone]
    refine Ends.mono (runBatch_leaves htraced hdry .up _ hplain hw) ?_
    rintro result last ⟨hkept, hlast⟩ final hfinal
    refine ⟨by rw [hfinal.files, hkept, hf], fun outcome h => ?_⟩
    cases result with
    | error e => simp [Except.map] at h
    | ok _ =>
      have hview := hlast () rfl
      rw [hr] at hview
      rw [hfinal.database]
      exact hview

theorem migrateBody_executes (hlaw : Lawful a m view sight) (hr : r.adapter = a.traced)
    (htx : r.transactional = false) (hdry : r.dryRun = false)
    (hready : r.catalog.Ready a.dialect run.session.files plans)
    (hshown : r.catalog.ShownBy sight (r.catalog.prepared run.session.files))
    (hv : view run.session.database.inner = .idle g)
    (hplain : ∀ p ∈ pendingPlans plans (m.ledger g), ∀ st ∈ p.statements, ¬ m.control st.sql) :
    Ends r.migrateBody run fun _ next =>
      ∃ log opening carried, next.calls = run.calls ++ log ∧ executed log = opening ++ carried ∧
        opening <+: [⟨Ledger.createSql a.dialect, []⟩, ⟨Ledger.selectSql, []⟩] ∧
        carried <+: (pendingPlans plans (m.ledger g)).flatMap (·.writes a.dialect .up) ∧
        view next.session.database.inner = .idle (m.run carried g) := by
  have hreading : executed (allMade r.readingScript) =
      [⟨Ledger.createSql a.dialect, []⟩, ⟨Ledger.selectSql, []⟩] := by
    rw [readingScript, htx, hr]
    rfl
  refine migrateBody_cases hlaw hr hdry hready hshown hv ?_ ?_
  · rintro e log next - hw hnext hperforms
    have hprefix := hperforms.executed_prefix.1
    rw [hreading] at hprefix
    exact ⟨log, executed log, [], hnext, (List.append_nil _).symm, hprefix, List.nil_prefix, hw⟩
  rintro next - hw hnext
  by_cases hnone : pendingPlans plans (m.ledger g) = []
  · rw [if_pos hnone]
    exact ⟨_, _, [], hnext, by rw [hreading, List.append_nil], List.prefix_refl _, List.nil_prefix, hw⟩
  · rw [if_neg hnone]
    refine (runBatch_executes hlaw hr htx hdry .up _ hplain hw).mono ?_
    rintro result last ⟨log, hlast, hprefix, hview⟩ final hfinal
    refine ⟨allMade r.readingScript ++ log, _, executed log, ?_, ?_, List.prefix_refl _, hprefix, ?_⟩
    · rw [calls_of_sameWorld hfinal, hlast, hnext, List.append_assoc]
    · rw [executed_append, hreading]
    · rw [hfinal.database, hview]

end Traced

end Runner

end SchemaMigration
