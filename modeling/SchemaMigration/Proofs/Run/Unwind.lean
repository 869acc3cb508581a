import Mathlib.Data.List.Induction
import SchemaMigration.Proofs.Run.Rollback

/-!
# Rollbacks one after the other

What a migrate has applied to an empty ledger, as many rollbacks take back: each the last that
is left, so that the migrations are reverted in reverse order.
-/

namespace SchemaMigration.Runner

open Files

variable {δ γ σ : Type} {m : Semantics γ} {view : δ → Standing γ} {sight : FileTree → σ}
variable {a : Adapter δ} {c : Catalog} {g : γ} {s u : Session δ} {t : Session (Traced δ)}
variable {all ids : List String} {files : FileTree}

/-! ## A chain of rollbacks -/

/-- A rollback that was made, with the adapter it was made through. -/
structure Made (δ : Type) where
  adapter : Adapter δ
  result : Except MigrationError RollbackOutcome
  calls : List AdapterCall

/-- Rollbacks in which no call fails, one after the other. Each may connect anew. -/
inductive Unwinds (m : Semantics γ) (view : δ → Standing γ) (sight : FileTree → σ) (c : Catalog) :
    Session δ → List (Made δ) → Session δ → Prop
  | done (s : Session δ) : Unwinds m view sight c s [] s
  | step {s u : Session δ} {t : Session (Traced δ)} {b : Adapter δ}
      {result : Except MigrationError RollbackOutcome} {rest : List (Made δ)}
      (first : RollsBack m view sight b c s result t)
      (later : Unwinds m view sight c t.untraced rest u) :
      Unwinds m view sight c s (⟨b, result, t.database.calls.map (·.1)⟩ :: rest) u

/-- The rollback took back the id of the pair by its statements. -/
def Made.TookBack (c : Catalog) (run : Made δ) (pair : String × List Statement) : Prop :=
  run.result = .ok (.rolledBack pair.1) ∧
    run.calls = (watching run.adapter c).revertScript pair.1 pair.2

/-- The id can be rolled back by the statements. -/
structure Reversible (m : Semantics γ) (c : Catalog) (files : FileTree) (id : String)
    (statements : List Statement) : Prop where
  undoes : c.Undoes c.dialect files id statements
  named : ∀ mig, c.load files id = .ok mig → mig.id = id
  harmless : ∀ st ∈ statements, m.Harmless st

theorem Reversible.shown {tree other : FileTree} {id : String} {statements : List Statement}
    (h : Reversible m c tree id statements) (hagrees : c.Agrees tree other) :
    Reversible m c other id statements := by
  obtain ⟨⟨mig, hmig, hstatements⟩, hnamed, hharmless⟩ := h
  refine ⟨⟨mig, (hagrees.load id mig).mpr hmig, hstatements⟩, fun mig hload => ?_, hharmless⟩
  exact hnamed mig ((hagrees.load id mig).mp hload)

theorem greatest_concat {last : String} {ledger : List String} (h : Ascending (ids ++ [last]))
    (hledger : ledger.Perm (ids ++ [last])) : Greatest ledger last := by
  refine ⟨hledger.mem_iff.mpr (List.mem_append_right _ List.mem_cons_self), fun id hid hne => ?_⟩
  rcases List.mem_append.mp (hledger.mem_iff.mp hid) with hid | hid
  · exact (List.pairwise_append.mp h).2.2 id hid last List.mem_cons_self
  · exact absurd (List.mem_singleton.mp hid) hne

theorem filter_concat {last : String} {ledger : List String} (h : Ascending (ids ++ [last]))
    (hledger : ledger.Perm (ids ++ [last])) : (ledger.filter (· ≠ last)).Perm ids := by
  have hkept : ids.filter (· ≠ last) = ids := by
    refine List.filter_eq_self.mpr fun id hid => decide_eq_true ?_
    rintro rfl
    exact List.lt_irrefl _ ((List.pairwise_append.mp h).2.2 id hid id List.mem_cons_self)
  refine (hledger.filter _).trans ?_
  rw [List.filter_append, hkept]
  simp

/-- The rollbacks take back the ids of the ledger, the last one first. By induction on what is
in the ledger, from its end: what is left after a rollback is all but the last id. -/
theorem Unwinds.reverses (hkeeping : Keeping m c.dialect) (hshown : c.ShownBy sight files)
    (hall : c.discover files = .ok all) {pairs : List (String × List Statement)}
    (hascending : Ascending (pairs.map (·.1)))
    (hpairs : ∀ pair ∈ pairs, Reversible m c files pair.1 pair.2) {runs : List (Made δ)}
    (h : Unwinds m view sight c s runs u) (hlength : runs.length = pairs.length)
    (hfiles : sight s.files = sight files) (hidle : (view s.database).saved = none)
    (hledger : (m.ledger (view s.database).contents).Perm (pairs.map (·.1))) :
    List.Forall₂ (Made.TookBack c) runs pairs.reverse ∧ sight u.files = sight files ∧
      (view u.database).saved = none ∧ m.ledger (view u.database).contents = [] := by
  induction pairs using List.reverseRecOn generalizing s runs with
  | nil =>
    cases h with
    | done => exact ⟨.nil, hfiles, hidle, List.perm_nil.mp hledger⟩
    | step => simp at hlength
  | append_singleton pairs pair ih =>
    cases h with
    | done => simp at hlength
    | @step _ _ t b result rest hfirst hlater =>
      rw [List.map_append, List.map_singleton] at hascending hledger
      have hagrees := hshown s.files hfiles
      have hpair := (hpairs pair (List.mem_append_right _ List.mem_cons_self)).shown hagrees
      obtain ⟨rfl, hcalls, hleft⟩ := hfirst.reverted hkeeping hidle (hshown.congr hfiles)
        (hagrees.discover.trans hall) (greatest_concat hascending hledger) hpair.named hpair.undoes
      obtain ⟨hfiles', hidle', hledger'⟩ := hleft hpair.harmless
      obtain ⟨hrest, hu⟩ := ih (List.pairwise_append.mp hascending).1
        (fun pair hpair => hpairs pair (List.mem_append_left _ hpair)) hlater
        (by simpa using hlength) (hfiles'.trans hfiles) hidle'
        (hledger'.trans (filter_concat hascending hledger))
      rw [List.reverse_append, List.reverse_singleton, List.singleton_append]
      exact ⟨.cons ⟨rfl, hcalls⟩ hrest, hu⟩

/-! ## The migrate before it -/

theorem applied_planned (hlaw : Lawful a m view sight) (hspeaks : c.dialect = a.dialect)
    (hshown : c.ShownBy sight (c.prepared s.files)) (hv : view s.database = .idle g)
    (hfresh : m.ledger g = []) {state : RunState}
    (hrun : (watching a c).migrate.start s.watched = (.ok (.applied ids), state, t)) :
    c.discovery true s.files = .ok ids ∧
      ∃ plans, ids.mapM (c.planned c.dialect (c.prepared s.files) .up) = .ok plans := by
  rw [hspeaks]
  have hbody : Ends (watching a c).migrateBody { session := s.watched } fun result _ =>
      result = .ok (.applied ids) → c.discovery true s.files = .ok ids ∧
        ∃ plans, ids.mapM (c.planned a.dialect (c.prepared s.files) .up) = .ok plans := by
    rw [migrateBody_eq]
    cases hall : c.discovery true s.files with
    | error e =>
      have hsurvey : Ends ((watching a c).survey .up) { session := s.watched } _ :=
        survey_undiscovered hspeaks hall
      refine hsurvey.bind ?_ ?_
      · rintro found mid ⟨hfound, -⟩
        simp at hfound
      · rintro e' mid - happlied
        simp at happlied
    | ok all =>
    have hsurvey : Ends ((watching a c).survey .up) { session := s.watched } _ :=
      survey_reads hlaw rfl rfl .up hspeaks hall hv
    refine hsurvey.bind ?_ ?_
    swap
    · rintro e mid - happlied
      simp at happlied
    rintro found mid ⟨hf, -, -, hfound⟩
    obtain ⟨rfl, hperm⟩ := hfound found rfl
    have hnone : found.2 = [] := List.perm_nil.mp (hfresh ▸ hperm)
    have htargets : targets .up found = found.1 := by simp [targets, hnone]
    rw [htargets]
    refine (applyPending_carriesOut rfl found.1 mid).mono ?_
    rintro result next hnext rfl
    cases hplans : found.1.mapM ((watching a c).catalog.planned (watching a c).adapter.dialect
        mid.session.files .up) with
    | error e =>
      rw [hplans] at hnext
      simp at hnext
    | ok plans =>
      rw [hplans] at hnext
      obtain ⟨log, -, -, houtcome⟩ := hnext
      have hids : found.1 = ids := by
        have happlied := houtcome _ rfl
        unfold appliedOutcome at happlied
        split at happlied
        · simp at happlied
        · exact (MigrateOutcome.applied.inj happlied).symm
      exact ⟨by rw [hids], plans, hids ▸ (hshown _ hf).mapM_planned_iff.mp hplans⟩
  obtain ⟨mid, -, -, hmid, -⟩ := ends_start (command_traced hlaw rfl hbody) hrun
  exact hmid rfl

/-! ## Rolling back -/

section Rollback

variable (m : Semantics γ) (view : δ → Standing γ) (sight : FileTree → σ) (a : Adapter δ)
variable (c : Catalog) (s : Session δ)
variable (result : Except MigrationError RollbackOutcome) (t : Session (Traced δ))

/-- The two ways a rollback of the given id can end: there is no plan, and then nothing is
executed, or the operations that revert it are executed and the id is taken out of the ledger. -/
inductive TakesBack (last : String) : Prop
  | refused (unplanned : ¬ c.Plannable c.dialect s.files .down last)
      (failed : ∃ e, result = .error e)
      (calls : t.database.calls.map (·.1) = (watching a c).readingScript ++ cleanupScript)
      (files : sight t.files = sight s.files) (unchanged : view t.database.inner = view s.database)
  | reverted (statements : List Statement)
      (undoes : c.Undoes c.dialect s.files last statements) (done : result = .ok (.rolledBack last))
      (calls : t.database.calls.map (·.1) = (watching a c).revertScript last statements)
      (removed : (∀ st ∈ statements, m.Harmless st) →
        sight t.files = sight s.files ∧ (view t.database.inner).saved = none ∧
          (m.ledger (view t.database.inner).contents).Perm
            ((m.ledger (view s.database).contents).filter (· ≠ last)))

/-- A rollback reverts the greatest id of the ledger, and no other. -/
structure RevertsLast : Prop where
  empty_iff : result = .ok .nothingToRollback ↔ m.ledger (view s.database).contents = []
  empty : m.ledger (view s.database).contents = [] →
    t.database.calls.map (·.1) = (watching a c).readingScript ++ cleanupScript ∧
      sight t.files = sight s.files ∧ view t.database.inner = view s.database
  last : m.ledger (view s.database).contents ≠ [] →
    ∃ last, Greatest (m.ledger (view s.database).contents) last ∧
      TakesBack m view sight a c s result t last

end Rollback

theorem RollsBack.revertsLast {result : Except MigrationError RollbackOutcome}
    (h : RollsBack m view sight a c s result t) (hkeeping : Keeping m c.dialect)
    (hidle : (view s.database).saved = none) (hshown : c.ShownBy sight s.files)
    (hslash : ∀ id ∈ m.ledger (view s.database).contents, '/' ∉ id.toList)
    (hall : c.discover s.files = .ok all) : RevertsLast m view sight a c s result t := by
  have hlast : m.ledger (view s.database).contents ≠ [] → ∃ last,
      Greatest (m.ledger (view s.database).contents) last ∧
        TakesBack m view sight a c s result t last := by
    intro hne
    cases hsorted : (Catalog.sortIds (m.ledger (view s.database).contents)).getLast? with
    | none => exact absurd (Catalog.getLast?_sortIds_eq_none_iff.mp hsorted) hne
    | some last =>
    have hgreatest := Catalog.getLast?_sortIds_eq_some_iff.mp hsorted
    refine ⟨last, hgreatest, ?_⟩
    by_cases hplannable : c.Plannable c.dialect s.files .down last
    · obtain ⟨p, hp⟩ := Catalog.plannable_iff.mp hplannable
      have hundoes := Catalog.undoes_of_planned hp
      have hnamed : ∀ mig, c.load s.files last = .ok mig → mig.id = last :=
        fun mig => Catalog.load_id_of_noSlash (hslash last hgreatest.1)
      obtain ⟨hdone, hcalls, hremoved⟩ :=
        h.reverted hkeeping hidle hshown hall hgreatest hnamed hundoes
      exact .reverted p.statements hundoes hdone hcalls hremoved
    · obtain ⟨hfailed, hcalls, hfiles, hunchanged⟩ := h.refused hidle hshown hall hgreatest hplannable
      exact .refused hplannable hfailed hcalls hfiles hunchanged
  refine ⟨⟨fun hnothing => ?_, fun hempty => (h.nothing hidle hall hempty).1⟩,
    fun hempty => (h.nothing hidle hall hempty).2, hlast⟩
  by_contra hne
  obtain ⟨last, -, hreverts⟩ := hlast hne
  cases hreverts with
  | refused _ hfailed =>
    obtain ⟨e, he⟩ := hfailed
    simp [hnothing] at he
  | reverted _ _ hdone => simp [hnothing] at hdone

/-- If no call fails a rollback reverts the greatest id of the ledger. So what a migrate has
applied to an empty ledger is taken back in reverse order, as long as the operations leave the
ledger and the transactions of the runner alone and the migrations are still found. -/
theorem rollbacks_unwind (hkeeping : Keeping m c.dialect) (hidle : (view s.database).saved = none) :
    (∀ result t all, RollsBack m view sight a c s result t → c.ShownBy sight s.files →
      c.discover s.files = .ok all →
      (∀ id ∈ m.ledger (view s.database).contents, '/' ∉ id.toList) →
        RevertsLast m view sight a c s result t) ∧
    ∀ ids state t, Lawful a m view sight → c.ShownBy sight (c.prepared s.files) →
      c.dialect = a.dialect → c.Keyed → s.files.WellNamed →
      m.ledger (view s.database).contents = [] →
      (watching a c).migrate.start s.watched = (.ok (.applied ids), state, t) →
      Ascending ids ∧ ∃ ups, List.Forall₂ (c.Translates c.dialect (c.prepared s.files)) ids ups ∧
        t.database.calls.map (·.1) = (watching a c).migrateScript ups ++ cleanupScript ∧
        ∀ all downs, (∀ p ∈ ups, ∀ st ∈ p.statements, m.Harmless st) →
          c.discover t.files = .ok all → List.Forall₂ (c.Undoes c.dialect t.files) ids downs →
          (∀ statements ∈ downs, ∀ st ∈ statements, m.Harmless st) →
          ∀ runs u, Unwinds m view sight c t.untraced runs u → runs.length = ids.length →
            List.Forall₂ (Made.TookBack c) runs (ids.zip downs).reverse ∧
            m.ledger (view u.database).contents = [] ∧
            ∀ b result v, RollsBack m view sight b c u result v →
              result = .ok .nothingToRollback ∧
              v.database.calls.map (·.1) = (watching b c).readingScript ++ cleanupScript := by
  refine ⟨fun result t all h hshown hall hslash => ?_, ?_⟩
  · exact h.revertsLast hkeeping hidle hshown hslash hall
  intro ids state t hlaw hshown hspeaks hkeyed htree hfresh hrun
  have hv := Standing.eq_idle hidle
  obtain ⟨hall, plans, hplans⟩ := applied_planned hlaw hspeaks hshown hv hfresh hrun
  have hready : c.Ready c.dialect s.files plans :=
    Catalog.ready_of_validation hkeyed htree rfl (bind_eq_ok.mpr ⟨ids, hall, hplans⟩)
  obtain rfl : plans.map (·.id) = ids := Except.ok.inj (hready.discovered.symm.trans hall)
  have hpending : pendingPlans plans (m.ledger (view s.database).contents) = plans := by
    rw [hfresh]
    simp [pendingPlans]
  have hready' := hready
  rw [hspeaks] at hready'
  obtain ⟨log, released, disconnected, hcalls, hperforms, hexact⟩ :=
    ends_start (migrate_performs hlaw hready' hshown hv) hrun
  rw [hpending] at hperforms hexact
  have hcalls' : t.database.calls =
      log ++ [(.releaseClient, released), (.disconnect, disconnected)] := hcalls
  cases hperforms
  refine ⟨ascending_iff.mpr hready.sorted, plans, hready.translates (List.Subset.refl _), ?_, ?_⟩
  · rw [hcalls', List.map_append, map_fst_allMade]
    rfl
  intro all downs hups hall' hundoes hdowns runs u hunwinds hlength
  obtain ⟨-, hleaves⟩ := hexact _ rfl
  obtain ⟨hfiles, hview⟩ := hleaves fun p hp st hst => (hups p hp st hst).1
  have hshown' : c.ShownBy sight t.files := hshown.congr hfiles
  have hledger : (m.ledger (view t.database.inner).contents).Perm (plans.map (·.id)) := by
    have hdone := hready.ledger_done hkeeping (hpending.trans (List.append_nil plans).symm)
      fun p hp st hst => (hups p hp st hst).2
    rw [hfresh, List.append_nil, hspeaks] at hdone
    have hview' : view t.database.inner = _ := hview
    rw [hview']
    exact hdone
  have hpairs : ∀ pair ∈ (plans.map (·.id)).zip downs, Reversible m c t.files pair.1 pair.2 := by
    rintro ⟨id, statements⟩ hpair
    obtain ⟨hid, hstatements⟩ := List.of_mem_zip hpair
    refine ⟨(List.forall₂_iff_zip.mp hundoes).2 hpair, fun mig hload => ?_, hdowns statements hstatements⟩
    exact Catalog.loaded_id htree (discover_of_discovery hall) hid hload
  have hfst : ((plans.map (·.id)).zip downs).map (·.1) = plans.map (·.id) :=
    List.map_fst_zip (hundoes.length_eq.le)
  have hsorted : Ascending (((plans.map (·.id)).zip downs).map (·.1)) :=
    hfst.symm ▸ ascending_iff.mpr hready.sorted
  have hlength' : runs.length = ((plans.map (·.id)).zip downs).length := by
    rw [hlength, ← congrArg List.length hfst, List.length_map]
  obtain ⟨hruns, hu, hidle', hempty⟩ := hunwinds.reverses hkeeping hshown' hall' hsorted hpairs
    hlength' rfl (congrArg Standing.saved hview) (hfst.symm ▸ hledger)
  refine ⟨hruns, hempty, fun b result v h => ?_⟩
  obtain ⟨hresult, hscript, -⟩ :=
    h.nothing hidle' ((hshown' u.files hu).discover.trans hall') hempty
  exact ⟨hresult, hscript⟩

/-! ## Rollbacks, rehearsed -/

/-- A rollback of a catalog on a rehearsal. -/
def rehearseBack (script : Rehearsal.Script) (c : Catalog) (s : Session Rehearsal.Book) :
    Except MigrationError RollbackOutcome × RunState × Session (Traced Rehearsal.Book) :=
  (watching (Rehearsal.adapter script) c).rollback.start s.watched

theorem rehearseBack_rollsBack (script : Rehearsal.Script) (c : Catalog) (s : Session Rehearsal.Book)
    (hrows : script.extraRows.filterMap Adapter.idOfRow? = []) (hdialect : c.dialect = script.dialect)
    (hclean : Clean (rehearseBack script c s).2.2.database.calls) :
    RollsBack (Rehearsal.semantics script) Rehearsal.Book.standing id (Rehearsal.adapter script) c s
      (rehearseBack script c s).1 (rehearseBack script c s).2.2 :=
  ⟨Rehearsal.adapter_lawful script hrows, hdialect, ⟨(rehearseBack script c s).2.1, rfl⟩, hclean⟩

def sending (sqls : List String) : List Operation := sqls.map fun sql => .raw { sql := some sql }

/-- Two tables that can be dropped again. -/
def twoTables : Catalog where
  dialect := .sqlite
  registered := [
    { id := "lipgrade_2", up := sending ["CREATE TABLE b (x)"], down := sending ["DROP TABLE b"] },
    { id := "lipgrade_1", up := sending ["CREATE TABLE a (x)"], down := sending ["DROP TABLE a"] }]

def blank : Session Rehearsal.Book := ⟨{}, [], {}⟩

def applied : Session Rehearsal.Book := (rehearse acceptsAll twoTables blank).2.2.untraced

def revertedOnce : Session Rehearsal.Book := (rehearseBack acceptsAll twoTables applied).2.2.untraced

def revertedTwice : Session Rehearsal.Book :=
  (rehearseBack acceptsAll twoTables revertedOnce).2.2.untraced

theorem rollbacks_unwind_twoTables :
    (rehearse acceptsAll twoTables blank).1 = .ok (.applied ["lipgrade_1", "lipgrade_2"]) ∧
      (rehearseBack acceptsAll twoTables applied).1 = .ok (.rolledBack "lipgrade_2") ∧
      (rehearseBack acceptsAll twoTables revertedOnce).1 = .ok (.rolledBack "lipgrade_1") ∧
      revertedTwice.database.store.ledger = [] ∧
      (rehearseBack acceptsAll twoTables revertedTwice).1 = .ok .nothingToRollback := by
  have happlied : (rehearse acceptsAll twoTables blank).1 =
      .ok (.applied ["lipgrade_1", "lipgrade_2"]) := by decide +kernel
  have hplain : ∀ st ∈ [⟨"CREATE TABLE a (x)", []⟩, ⟨"CREATE TABLE b (x)", []⟩,
      ⟨"DROP TABLE a", []⟩, ⟨"DROP TABLE b", []⟩], Rehearsal.Plain acceptsAll st := by decide +kernel
  have hharmless := fun st hst => Rehearsal.harmless_of_plain acceptsAll (hplain st hst)
  have hundoes : List.Forall₂ (twoTables.Undoes .sqlite {}) ["lipgrade_1", "lipgrade_2"]
      [[⟨"DROP TABLE a", []⟩], [⟨"DROP TABLE b", []⟩]] :=
    .cons ⟨_, rfl, rfl⟩ (.cons ⟨_, rfl, rfl⟩ .nil)
  have hfirst := rehearseBack_rollsBack acceptsAll twoTables applied rfl rfl (by decide +kernel)
  have hsecond := rehearseBack_rollsBack acceptsAll twoTables revertedOnce rfl rfl (by decide +kernel)
  have hthird := rehearseBack_rollsBack acceptsAll twoTables revertedTwice rfl rfl (by decide +kernel)
  obtain ⟨-, hchain⟩ := rollbacks_unwind (s := blank) (c := twoTables)
    (a := Rehearsal.adapter acceptsAll) (Rehearsal.semantics_keeping acceptsAll)
    (show (Rehearsal.Book.standing blank.database).saved = none from rfl)
  obtain ⟨-, ups, hups, -, hback⟩ := hchain ["lipgrade_1", "lipgrade_2"] _
    (rehearse acceptsAll twoTables blank).2.2 (Rehearsal.adapter_lawful acceptsAll rfl)
    (Catalog.shownBy_id _ _) rfl (by decide +kernel) FileTree.wellNamed_empty rfl
    (Prod.ext happlied rfl)
  have hupsHarmless : ∀ p ∈ ups, ∀ st ∈ p.statements,
      (Rehearsal.semantics acceptsAll).Harmless st := by
    obtain _ | ⟨hone, _ | ⟨htwo, hnone⟩⟩ := hups
    cases hnone
    have hone := hone.statements_eq rfl rfl
    have htwo := htwo.statements_eq rfl rfl
    intro p hp st hst
    simp only [List.mem_cons, List.not_mem_nil, or_false] at hp
    rcases hp with rfl | rfl
    · obtain rfl := List.mem_singleton.mp (hone ▸ hst)
      exact hharmless _ (by decide +kernel)
    · obtain rfl := List.mem_singleton.mp (htwo ▸ hst)
      exact hharmless _ (by decide +kernel)
  have hdownsHarmless : ∀ statements ∈ [[⟨"DROP TABLE a", []⟩], [⟨"DROP TABLE b", []⟩]],
      ∀ st ∈ statements, (Rehearsal.semantics acceptsAll).Harmless st := by
    intro statements hstatements st hst
    simp only [List.mem_cons, List.not_mem_nil, or_false] at hstatements
    rcases hstatements with rfl | rfl
    · obtain rfl := List.mem_singleton.mp hst
      exact hharmless _ (by decide +kernel)
    · obtain rfl := List.mem_singleton.mp hst
      exact hharmless _ (by decide +kernel)
  obtain ⟨hruns, hempty, hnothing⟩ := hback ["lipgrade_1", "lipgrade_2"] _ hupsHarmless
    (by decide +kernel) hundoes hdownsHarmless _ _ (.step hfirst (.step hsecond (.done _))) rfl
  obtain ⟨⟨hone, -⟩, hrest⟩ := List.forall₂_cons.mp hruns
  obtain ⟨⟨htwo, -⟩, -⟩ := List.forall₂_cons.mp hrest
  exact ⟨happlied, hone, htwo, hempty, (hnothing _ _ _ hthird).1⟩

/-- A rollback whose statement opens a transaction that nothing ends. -/
def leavingOpen : Catalog where
  dialect := .sqlite
  registered := [{ id := "lipgrade_1", down := sending ["BEGIN"] }]

def acceptsDirectly : Rehearsal.Script where
  dialect := .sqlite
  transactional := false
  discards := true

def recordedOne : Session Rehearsal.Book := ⟨{}, [], { store := { ledger := ["lipgrade_1"] } }⟩

/-- The second of the migrations takes back what was done in the transaction of the runner. -/
def takingBackFirst : Catalog where
  dialect := .sqlite
  registered := [
    { id := "lipgrade_1", up := sending ["CREATE TABLE a (x)"], down := sending ["DROP TABLE a"] },
    { id := "lipgrade_2", up := sending ["ROLLBACK"] }]

/-- A missing directory in front of a file that is no migration, and a table in code. -/
def uncoveringBad : Catalog :=
  { twoTables with root := some "x/../y" }

def badBehindMissing : Session Rehearsal.Book where
  files := {
    entries := [
      ([.text "y"], .directory),
      ([.text "y", .text "sqlite"], .directory),
      ([.text "y", .text "sqlite", .text "bad.json"], .file (.text ""))] }
  database := {}

/-- A rollback loses what it takes out of the ledger in a transaction that an operation opens;
and not all that a migrate reports is there to be taken back if an operation ends its
transaction, nor can it be if making the directory uncovers a file that is no migration. -/
theorem rollbacks_go_astray :
    (∀ sql ∈ ["BEGIN", "ROLLBACK", "CREATE TABLE a (x)", "CREATE TABLE b (x)", "DROP TABLE a"],
      (Rehearsal.semantics acceptsAll).SparesLedger ⟨sql, []⟩ ∧
        (Rehearsal.semantics acceptsDirectly).SparesLedger ⟨sql, []⟩) ∧
    (leavingOpen.discover recordedOne.files = .ok ["lipgrade_1"] ∧
      (rehearseBack acceptsDirectly leavingOpen recordedOne).1 = .ok (.rolledBack "lipgrade_1") ∧
      Clean (rehearseBack acceptsDirectly leavingOpen recordedOne).2.2.database.calls ∧
      (rehearseBack acceptsDirectly leavingOpen recordedOne).2.2.database.inner.store.ledger =
        ["lipgrade_1"]) ∧
    ((rehearse acceptsAll takingBackFirst blank).1 =
        .ok (.applied ["lipgrade_1", "lipgrade_2"]) ∧
      (rehearseBack acceptsAll takingBackFirst
        (rehearse acceptsAll takingBackFirst blank).2.2.untraced).1 =
          .ok (.rolledBack "lipgrade_2") ∧
      (rehearseBack acceptsAll takingBackFirst (rehearseBack acceptsAll takingBackFirst
        (rehearse acceptsAll takingBackFirst blank).2.2.untraced).2.2.untraced).1 =
          .ok .nothingToRollback) ∧
    (uncoveringBad.discovery true badBehindMissing.files = .ok ["lipgrade_1", "lipgrade_2"] ∧
      (rehearse acceptsAll uncoveringBad badBehindMissing).1 =
        .ok (.applied ["lipgrade_1", "lipgrade_2"]) ∧
      (rehearseBack acceptsAll uncoveringBad
        (rehearse acceptsAll uncoveringBad badBehindMissing).2.2.untraced).1 =
          .error (.namingConvention "bad.json") ∧
      Clean (rehearseBack acceptsAll uncoveringBad
        (rehearse acceptsAll uncoveringBad badBehindMissing).2.2.untraced).2.2.database.calls) := by
  refine ⟨fun sql hsql => ?_, by decide +kernel, by decide +kernel, by decide +kernel⟩
  have hspares : ∀ script : Rehearsal.Script, script.dialect = .sqlite →
      (Rehearsal.semantics script).SparesLedger ⟨sql, []⟩ := by
    intro script hdialect
    by_cases hcontrol : sql = "BEGIN" ∨ sql = "ROLLBACK"
    · rcases hcontrol with rfl | rfl
      · exact fun store => rfl
      · exact fun store => rfl
    · have hplain : Rehearsal.Plain script ⟨sql, []⟩ := by
        unfold Rehearsal.Plain
        rw [hdialect]
        simp only [List.mem_cons, List.not_mem_nil, or_false] at hsql
        rcases hsql with rfl | rfl | rfl | rfl | rfl
        · simp at hcontrol
        · simp at hcontrol
        all_goals decide +kernel
      exact (Rehearsal.harmless_of_plain script hplain).2
  exact ⟨hspares acceptsAll rfl, hspares acceptsDirectly rfl⟩

end SchemaMigration.Runner
