import SchemaMigration.Proofs.Database.Rehearsal
import SchemaMigration.Proofs.Run.Commands

/-!
# Commands are all or nothing

In a database with transactions, a command that fails leaves what is durable as it was,
wherever it fails. One that succeeds leaves all that it reports.
-/

namespace SchemaMigration.Runner

variable {δ γ σ : Type} {m : Semantics γ} {view : δ → Standing γ} {sight : Files.FileTree → σ}
variable {s : Session δ} {r : Runner δ}

theorem migrate_spec (hlaw : Lawful r.adapter m view sight) (htx : r.adapter.transactional = true)
    (hdry : r.dryRun = false) (hidle : (view s.database).saved = none)
    (hshown : r.catalog.ShownBy sight (r.catalog.prepared s.files))
    (hsends : r.catalog.SendsOnly r.adapter.dialect (r.catalog.prepared s.files) .up
      fun st => ¬ m.control st.sql) :
    Ends r.migrate { session := s } fun result next =>
      (Discards r.adapter view → (view next.session.database).saved = none) ∧
      match result with
      | .error _ | .ok .upToDate =>
        (view next.session.database).durable = (view s.database).durable
      | .ok (.applied ids) => ∃ completed batch,
        r.Applies m s.files (view s.database).durable ids completed batch ∧
          (view next.session.database).durable =
            m.run (batch.flatMap (·.writes r.adapter.dialect .up)) (view s.database).durable := by
  have hv := Standing.eq_of_saved_none hidle
  have hbody : Ends r.migrateBody { session := s } _ := migrateBody_spec hlaw htx hdry hshown hsends hv
  refine (command_spec hlaw hbody).mono ?_
  rintro (e | ids | ids) next ⟨mid, hmid, -, hdurable, hsaved⟩
  · exact ⟨hsaved, hdurable.trans hmid⟩
  · exact ⟨hsaved, by rw [hdurable, hmid]; rfl⟩
  · obtain ⟨completed, batch, happlies, hw⟩ := hmid
    exact ⟨hsaved, completed, batch, happlies, by rw [hdurable, hw]; rfl⟩

theorem rollback_spec (hlaw : Lawful r.adapter m view sight) (htx : r.adapter.transactional = true)
    (hdry : r.dryRun = false) (hidle : (view s.database).saved = none)
    (hshown : r.catalog.ShownBy sight s.files)
    (hsends : r.catalog.SendsOnly r.adapter.dialect s.files .down fun st => ¬ m.control st.sql) :
    Ends r.rollback { session := s } fun result next =>
      (Discards r.adapter view → (view next.session.database).saved = none) ∧
      match result with
      | .error _ | .ok .nothingToRollback =>
        (view next.session.database).durable = (view s.database).durable
      | .ok (.rolledBack last) => ∃ completed p,
        r.Reverts m s.files (view s.database).durable last completed p ∧
          (view next.session.database).durable =
            m.run (p.writes r.adapter.dialect .down) (view s.database).durable := by
  have hv := Standing.eq_of_saved_none hidle
  have hbody : Ends r.rollbackBody { session := s } _ := rollbackBody_spec hlaw htx hdry hshown hsends hv
  refine (command_spec hlaw hbody).mono ?_
  rintro (e | _ | last) next ⟨mid, hmid, -, hdurable, hsaved⟩
  · exact ⟨hsaved, hdurable.trans hmid⟩
  · exact ⟨hsaved, by rw [hdurable, hmid]; rfl⟩
  · obtain ⟨completed, p, hreverts, hw⟩ := hmid
    exact ⟨hsaved, completed, p, hreverts, by rw [hdurable, hw]; rfl⟩

/-- Whichever calls fail: a command that fails, and one with nothing to do, leaves what is
durable alone, and otherwise every statement and every ledger write of what is reported
is durable. -/
theorem atomic (hlaw : Lawful r.adapter m view sight) (htx : r.adapter.transactional = true)
    (hdry : r.dryRun = false) (hidle : (view s.database).saved = none)
    (hprepared : r.catalog.ShownBy sight (r.catalog.prepared s.files))
    (hshown : r.catalog.ShownBy sight s.files)
    (hup : r.catalog.SendsOnly r.adapter.dialect (r.catalog.prepared s.files) .up
      fun st => ¬ m.control st.sql)
    (hdown : r.catalog.SendsOnly r.adapter.dialect s.files .down fun st => ¬ m.control st.sql) :
    (match r.migrate.start s with
      | (.error _, _, t) | (.ok .upToDate, _, t) =>
        (view t.database).durable = (view s.database).durable
      | (.ok (.applied ids), _, t) => ∃ batch,
        ids.mapM (r.catalog.planned r.adapter.dialect (r.catalog.prepared s.files) .up) = .ok batch ∧
          (view t.database).durable =
            m.run (batch.flatMap (·.writes r.adapter.dialect .up)) (view s.database).durable) ∧
    (match r.rollback.start s with
      | (.error _, _, t) | (.ok .nothingToRollback, _, t) =>
        (view t.database).durable = (view s.database).durable
      | (.ok (.rolledBack last), _, t) => ∃ p,
        r.catalog.planned r.adapter.dialect s.files .down last = .ok p ∧
          (view t.database).durable =
            m.run (p.writes r.adapter.dialect .down) (view s.database).durable) := by
  constructor
  · have h := migrate_spec hlaw htx hdry hidle hprepared hup
    rw [start_eq]
    unfold Ends at h
    generalize r.migrate.run { session := s } = finished at h ⊢
    obtain ⟨e | _ | ids, next⟩ := finished
    · exact h.2
    · exact h.2
    · obtain ⟨-, completed, batch, happlies, hw⟩ := h
      exact ⟨batch, happlies.planned, hw⟩
  · have h := rollback_spec hlaw htx hdry hidle hshown hdown
    rw [start_eq]
    unfold Ends at h
    generalize r.rollback.run { session := s } = finished at h ⊢
    obtain ⟨e | _ | last, next⟩ := finished
    · exact h.2
    · exact h.2
    · obtain ⟨-, completed, p, hreverts, hw⟩ := h
      exact ⟨p, hreverts.planned, hw⟩

/-! ## One migration, rehearsed -/

/-- A catalog whose only migration makes a table. -/
def oneTable : Catalog where
  dialect := .sqlite
  registered := [{
    id := "lipgrade_1"
    up := [.raw { sql := some "CREATE TABLE t (x)" }]
    down := [.raw { sql := some "DROP TABLE t" }] }]

theorem oneTable_sends (tree : Files.FileTree) (direction : Direction) :
    oneTable.SendsOnly .sqlite tree direction
      fun st => st.sql = "CREATE TABLE t (x)" ∨ st.sql = "DROP TABLE t" := by
  refine sendsOnly_of_registered rfl ?_
  rintro mig hmig op hop st hst
  obtain rfl : mig = _ := List.mem_singleton.mp hmig
  cases direction with
  | up =>
    obtain rfl : op = _ := List.mem_singleton.mp hop
    obtain rfl := Except.ok.inj hst
    exact .inl rfl
  | down =>
    obtain rfl : op = _ := List.mem_singleton.mp hop
    obtain rfl := Except.ok.inj hst
    exact .inr rfl

theorem oneTable_plain (tree : Files.FileTree) (direction : Direction) :
    oneTable.SendsOnly .sqlite tree direction fun st => ¬ Rehearsal.controls st.sql := by
  refine (oneTable_sends tree direction).mono ?_
  rintro st (h | h) <;> rw [h] <;> decide +kernel

/-- A database that refuses what it is told to. -/
def oneTableScript (refuses : List Call → Call → Option MigrationError) : Rehearsal.Script where
  dialect := .sqlite
  transactional := true
  refuses := refuses
  discards := true

def oneTableRunner (refuses : List Call → Call → Option MigrationError) : Runner Rehearsal.Book where
  adapter := Rehearsal.adapter (oneTableScript refuses)
  catalog := oneTable

def refusesCommit (_ : List Call) (call : Call) : Option MigrationError :=
  if call = .query "COMMIT" [] { pinned := true } then some (.execution "COMMIT" "busy") else none

theorem atomic_refusesCommit :
    ((oneTableRunner refusesCommit).migrate.start ⟨{}, [], {}⟩).1 =
        .error (.execution "COMMIT" "busy") ∧
      ((oneTableRunner refusesCommit).migrate.start ⟨{}, [], {}⟩).2.2.database.standing.durable =
        {} := by
  have hrun : ((oneTableRunner refusesCommit).migrate.start ⟨{}, [], {}⟩).1 =
      .error (.execution "COMMIT" "busy") := by decide +kernel
  refine ⟨hrun, ?_⟩
  have h := (atomic (r := oneTableRunner refusesCommit) (s := ⟨{}, [], {}⟩)
    (Rehearsal.adapter_lawful _ rfl) rfl rfl rfl (Catalog.shownBy_id _ _) (Catalog.shownBy_id _ _)
    (oneTable_plain _ .up) (oneTable_plain _ .down)).1
  generalize (oneTableRunner refusesCommit).migrate.start ⟨{}, [], {}⟩ = finished at h hrun ⊢
  obtain ⟨result, state, t⟩ := finished
  obtain rfl : result = _ := hrun
  exact h

end SchemaMigration.Runner
