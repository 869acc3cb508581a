import SchemaMigration.Database.Rehearsal
import SchemaMigration.Proofs.Database.Contract
import SchemaMigration.Proofs.Migration.Catalog

/-!
# The rehearsal keeps the contract

Whichever calls it refuses, the rehearsal deals with its store as the contract asks,
provided that its ledger shows no ids but its own.
-/

namespace SchemaMigration.Rehearsal

variable (script : Script)

def Book.standing (b : Book) : Standing Store :=
  match b.saved with
  | none => .idle b.store
  | some before => .within b.store before

@[simp] theorem Book.contents_standing (b : Book) : b.standing.contents = b.store := by
  unfold standing
  cases b.saved <;> rfl

@[simp] theorem Book.standing_restore (b : Book) : b.restore.standing = b.standing.giveUp := by
  unfold standing restore
  cases b.saved <;> simp [Standing.giveUp, Standing.durable]

theorem Book.standing_begin (b : Book) :
    ({ b with saved := some b.store } : Book).standing = b.standing.begin := by
  rw [Standing.begin, contents_standing]
  rfl

theorem Book.standing_commit (b : Book) :
    ({ b with saved := none } : Book).standing = b.standing.commit := by
  rw [Standing.commit, contents_standing]
  rfl

theorem Book.standing_change (b : Book) (f : Store → Store) :
    ({ b with store := f b.store } : Book).standing = b.standing.change f := by
  unfold standing
  cases b.saved <;> rfl

def controls (sql : String) : Prop := sql ∈ ["BEGIN", "COMMIT", "ROLLBACK"]

instance (sql : String) : Decidable (controls sql) :=
  inferInstanceAs (Decidable (sql ∈ ["BEGIN", "COMMIT", "ROLLBACK"]))

theorem not_controls_iff {sql : String} :
    ¬ controls sql ↔ sql ≠ "BEGIN" ∧ sql ≠ "COMMIT" ∧ sql ≠ "ROLLBACK" := by
  simp [controls]

/-- What a statement makes of a store, by carrying it out on a fresh book. -/
def semantics : Semantics Store where
  effect st store := (Book.execute script st.sql st.params { store }).2.store
  ledger store := store.ledger
  control := controls

/-! ## Statements -/

/-- The result and the store after a statement do not depend on the rest of the book. -/
theorem execute_spec {sql : String} (hsql : ¬ controls sql) (params : List SqlValue) (b : Book) :
    (b.execute script sql params).2 =
        { b with store := (semantics script).effect ⟨sql, params⟩ b.store } ∧
      ∀ e, (b.execute script sql params).1 = .error e → (b.execute script sql params).2 = b := by
  obtain ⟨hbegin, hcommit, hrollback⟩ := not_controls_iff.mp hsql
  simp only [semantics, Book.execute, if_neg hbegin, if_neg hcommit, if_neg hrollback]
  repeat' split
  all_goals simp

theorem known_statements_differ (dialect : Dialect) :
    (¬ controls (Ledger.createSql dialect) ∧ ¬ controls Ledger.selectSql ∧
      ¬ controls (Ledger.insertSql dialect) ∧ ¬ controls (Ledger.deleteSql dialect) ∧
      ¬ controls dropAllSql) ∧
    (Ledger.selectSql ≠ Ledger.createSql dialect ∧
      Ledger.insertSql dialect ≠ Ledger.createSql dialect ∧
      Ledger.insertSql dialect ≠ Ledger.selectSql ∧
      Ledger.deleteSql dialect ≠ Ledger.createSql dialect ∧
      Ledger.deleteSql dialect ≠ Ledger.selectSql ∧
      Ledger.deleteSql dialect ≠ Ledger.insertSql dialect) ∧
    (dropAllSql ≠ Ledger.createSql dialect ∧ dropAllSql ≠ Ledger.selectSql ∧
      dropAllSql ≠ Ledger.insertSql dialect ∧ dropAllSql ≠ Ledger.deleteSql dialect) := by
  cases dialect <;> decide +kernel

theorem control_of_ledger (dialect : Dialect) :
    ¬ controls (Ledger.createSql dialect) ∧ ¬ controls Ledger.selectSql ∧
      ¬ controls (Ledger.insertSql dialect) ∧ ¬ controls (Ledger.deleteSql dialect) := by
  obtain ⟨⟨hcreate, hselect, hinsert, hdelete, -⟩, -⟩ := known_statements_differ dialect
  exact ⟨hcreate, hselect, hinsert, hdelete⟩

theorem execute_create (b : Book) :
    b.execute script (Ledger.createSql script.dialect) [] = (.ok [], b) := by
  obtain ⟨hbegin, hcommit, hrollback⟩ :=
    not_controls_iff.mp (control_of_ledger script.dialect).1
  simp [Book.execute, hbegin, hcommit, hrollback]

theorem execute_dropAll (b : Book) :
    b.execute script dropAllSql [] = (.ok [],
      { b with store := { ledger := [], work := b.store.work ++ [⟨dropAllSql, []⟩] } }) := by
  obtain ⟨⟨-, -, -, -, hcontrol⟩, -, hcreate, hselect, hinsert, hdelete⟩ :=
    known_statements_differ script.dialect
  obtain ⟨hbegin, hcommit, hrollback⟩ := not_controls_iff.mp hcontrol
  simp [Book.execute, hbegin, hcommit, hrollback, hcreate, hselect, hinsert, hdelete]

theorem execute_select (b : Book) : b.execute script Ledger.selectSql [] =
    (.ok (ledgerRows b.store ++ script.extraRows), b) := by
  obtain ⟨hbegin, hcommit, hrollback⟩ :=
    not_controls_iff.mp (control_of_ledger script.dialect).2.1
  have hcreate := (known_statements_differ script.dialect).2.1.1
  simp [Book.execute, hbegin, hcommit, hrollback, hcreate]

theorem semantics_keeping : Keeping (semantics script) script.dialect where
  insertion id store hid := by
    obtain ⟨hbegin, hcommit, hrollback⟩ :=
      not_controls_iff.mp (control_of_ledger script.dialect).2.2.1
    obtain ⟨-, ⟨-, hcreate, hselect, -⟩, -⟩ := known_statements_differ script.dialect
    have hledger : (semantics script).ledger
        ((semantics script).effect (Ledger.insertion script.dialect id) store) =
        store.ledger ++ [id] := by
      have hnew : id ∉ store.ledger := hid
      simp [semantics, Ledger.insertion, Book.execute, hbegin, hcommit, hrollback, hcreate, hselect,
        firstId?, hnew]
    rw [hledger]
    exact List.perm_append_singleton id store.ledger
  deletion id store := by
    obtain ⟨hbegin, hcommit, hrollback⟩ :=
      not_controls_iff.mp (control_of_ledger script.dialect).2.2.2
    obtain ⟨-, ⟨-, -, -, hcreate, hselect, hinsert⟩, -⟩ := known_statements_differ script.dialect
    have hledger : (semantics script).ledger
        ((semantics script).effect (Ledger.deletion script.dialect id) store) =
        store.ledger.filter (· ≠ id) := by
      simp [semantics, Ledger.deletion, Book.execute, hbegin, hcommit, hrollback, hcreate, hselect,
        hinsert, firstId?]
    rw [hledger]
    exact .refl _

theorem spares_of_plain {st : Statement} (hcontrol : ¬ controls st.sql)
    (hinsert : st.sql ≠ Ledger.insertSql script.dialect)
    (hdelete : st.sql ≠ Ledger.deleteSql script.dialect) (hdrop : st.sql ≠ dropAllSql) :
    (semantics script).SparesLedger st := by
  intro store
  obtain ⟨hbegin, hcommit, hrollback⟩ := not_controls_iff.mp hcontrol
  simp only [semantics, Book.execute, if_neg hbegin, if_neg hcommit, if_neg hrollback,
    if_neg hinsert, if_neg hdelete, if_neg hdrop]
  repeat' split
  all_goals rfl

/-- No statement of the rehearsal's own. -/
def Plain (st : Statement) : Prop :=
  ¬ controls st.sql ∧ st.sql ≠ Ledger.insertSql script.dialect ∧
    st.sql ≠ Ledger.deleteSql script.dialect ∧ st.sql ≠ dropAllSql

instance (st : Statement) : Decidable (Plain script st) :=
  inferInstanceAs (Decidable (_ ∧ _))

theorem harmless_of_plain {st : Statement} (h : Plain script st) :
    (semantics script).Harmless st :=
  ⟨h.1, spares_of_plain script h.1 h.2.1 h.2.2.1 h.2.2.2⟩

/-! ## Calls -/

section Calls

variable {script} {s : Session Book} {σ : Type} {sight : Files.FileTree → σ}

theorem note_spec (call : Call) :
    Ends (note script call) s fun _ t =>
      t = { s with database := { s.database with calls := s.database.calls ++ [call] } } := by
  unfold note
  rw [ends_database_bind, ends_setDatabase_bind]
  cases script.refuses s.database.calls call <;> rfl

theorem note_changes (call : Call) : Changes Book.standing sight id (note script call) s := by
  refine (note_spec call).mono ?_
  rintro (e | _) t rfl
  · exact ⟨rfl, .inl rfl⟩
  · exact ⟨rfl, rfl⟩

theorem query_spec (sql : String) (params : List SqlValue) {options : QueryOptions}
    (hdry : options.dryRun = false) :
    Ends (query script sql params options) s fun result t => t.files = s.files ∧
      ((∃ e, result = .error e) ∧ t.database.standing = s.database.standing ∨
        ∃ b : Book, b.standing = s.database.standing ∧
          result = (b.execute script sql params).1 ∧ t.database = (b.execute script sql params).2) := by
  unfold query
  refine (note_spec _).bind ?_ ?_
  · rintro _ t ht
    have hf : t.files = s.files := by rw [ht]
    have hstanding : t.database.standing = s.database.standing := by rw [ht]; rfl
    rw [hdry, if_neg (by simp), ends_database_bind]
    exact ⟨hf, .inr ⟨t.database, hstanding, rfl, rfl⟩⟩
  · rintro e t rfl
    exact ⟨rfl, .inl ⟨⟨e, rfl⟩, rfl⟩⟩

theorem query_accepted (sql : String) (params : List SqlValue) {options : QueryOptions}
    (hdry : options.dryRun = false) (haccepts : ∀ calls call, script.refuses calls call = none) :
    Ends (query script sql params options) s fun result t => t.files = s.files ∧
      ∃ b : Book, b.standing = s.database.standing ∧
        result = (b.execute script sql params).1 ∧ t.database = (b.execute script sql params).2 := by
  have hnote : Ends (note script (.query sql params options)) s fun result t =>
      t.files = s.files ∧ t.database.standing = s.database.standing ∧ result = .ok () := by
    unfold note
    rw [ends_database_bind, ends_setDatabase_bind, haccepts]
    exact ⟨rfl, rfl, rfl⟩
  unfold query
  refine hnote.bind ?_ ?_
  · rintro _ t ⟨hf, hstanding, -⟩
    rw [hdry, if_neg (by simp), ends_database_bind]
    exact ⟨hf, t.database, hstanding, rfl, rfl⟩
  · rintro e t ⟨-, -, he⟩
    simp at he

theorem query_shown (sql : String) (params : List SqlValue) {options : QueryOptions}
    (hdry : options.dryRun = true) :
    Ends (query script sql params options) s fun result t => t.files = s.files ∧
      t.database.standing = s.database.standing ∧ ∀ rows, result = .ok rows → rows = [] := by
  refine Ends.bind (note_spec _) ?_ ?_
  · rintro _ t rfl
    rw [hdry, if_pos rfl]
    exact ends_pure.mpr ⟨rfl, rfl, fun rows h => (Except.ok.inj h).symm⟩
  · rintro e t rfl
    exact ⟨rfl, rfl, fun rows h => by simp at h⟩

theorem query_changes {change : Standing Store → Standing Store} {sql : String}
    {params : List SqlValue} {options : QueryOptions} (hdry : options.dryRun = false)
    (hchange : ∀ b : Book, b.standing = s.database.standing →
      (b.execute script sql params).2.standing =
        match (b.execute script sql params).1 with
        | .ok _ => change b.standing
        | .error _ => b.standing) :
    Changes Book.standing sight change (query script sql params options) s := by
  refine (query_spec sql params hdry).mono ?_
  rintro result t ⟨hf, ⟨⟨e, rfl⟩, hb⟩ | ⟨b, hb, rfl, hd⟩⟩
  · exact ⟨congrArg sight hf, .inl hb⟩
  · refine ⟨congrArg sight hf, ?_⟩
    have hdone := hchange b hb
    rw [← hd, hb] at hdone
    cases hresult : (b.execute script sql params).1 with
    | error e => exact .inl (by rwa [hresult] at hdone)
    | ok rows => rwa [hresult] at hdone

theorem query_plain {sql : String} (hsql : ¬ controls sql) (params : List SqlValue)
    {options : QueryOptions} (hdry : options.dryRun = false) :
    Changes Book.standing sight (.change ((semantics script).effect ⟨sql, params⟩))
      (query script sql params options) s := by
  refine query_changes hdry fun b _ => ?_
  obtain ⟨hok, herror⟩ := execute_spec script hsql params b
  cases hresult : (b.execute script sql params).1 with
  | error e => rw [herror e hresult]
  | ok rows => rw [hok]; exact b.standing_change _

theorem close_spec :
    Ends (close script) s fun _ t => t.files = s.files ∧ t.database.standing =
      if script.discards then s.database.standing.giveUp else s.database.standing := by
  unfold close
  rw [ends_database_bind]
  split
  · rw [ends_setDatabase_bind]
    refine (note_spec _).mono ?_
    rintro _ t rfl
    exact ⟨rfl, s.database.standing_restore⟩
  · refine (note_spec _).mono ?_
    rintro _ t rfl
    exact ⟨rfl, rfl⟩

end Calls

/-! ## The contract -/

theorem idsOfLedger_spec (ids : List String) :
    ((Catalog.sortIds ids).map fun id => [(Ledger.column, SqlValue.text id)]).filterMap
      Adapter.idOfRow? = Catalog.sortIds ids := by
  rw [List.filterMap_map]
  have hrow : (Adapter.idOfRow? ∘ fun id => [(Ledger.column, SqlValue.text id)]) = some := by
    funext id
    rfl
  rw [hrow, List.filterMap_some]

theorem readLedger_spec {script : Script} (hrows : script.extraRows.filterMap Adapter.idOfRow? = [])
    {s : Session Book} {options : QueryOptions} (hdry : options.dryRun = false) :
    Ends ((adapter script).readLedger options) s fun result t =>
      t.files = s.files ∧ t.database.standing = s.database.standing ∧
        ∀ ids, result = .ok ids → ids.Perm s.database.store.ledger := by
  refine (query_spec Ledger.selectSql [] hdry).bind ?_ ?_
  · rintro rows t ⟨hf, ⟨⟨e, he⟩, -⟩ | ⟨b, hb, hrows', hd⟩⟩
    · simp at he
    rw [execute_select] at hrows' hd
    obtain rfl : rows = _ := Except.ok.inj hrows'
    have hstore : b.store = s.database.store := by simpa using congrArg Standing.contents hb
    refine ends_pure.mpr ⟨hf, by rw [hd, hb], ?_⟩
    rintro ids h
    obtain rfl := Except.ok.inj h
    rw [List.filterMap_append, hrows, List.append_nil, ledgerRows, idsOfLedger_spec, hstore]
    exact Catalog.sortIds_perm _
  · rintro e t ⟨hf, ⟨-, hd⟩ | ⟨b, hb, hresult, hd⟩⟩
    · exact ⟨hf, hd, fun ids h => by simp at h⟩
    · refine ⟨hf, ?_, fun ids h => by simp at h⟩
      rw [hd, (execute_spec script (control_of_ledger script.dialect).2.1 [] b).2 e hresult.symm, hb]

theorem adapter_lawful {σ : Type} {sight : Files.FileTree → σ}
    (hrows : script.extraRows.filterMap Adapter.idOfRow? = []) :
    Lawful (adapter script) (semantics script) Book.standing sight where
  getClient s := note_changes _
  releaseClient s := by
    refine (note_spec _).mono ?_
    rintro _ t rfl
    exact ⟨rfl, .inl rfl⟩
  disconnect s := by
    refine close_spec.mono ?_
    rintro _ t ⟨hf, hd⟩
    refine ⟨congrArg sight hf, ?_⟩
    split at hd
    · exact .inr hd
    · exact .inl hd
  shown s sql params options hdry := by
    refine (query_shown sql params hdry).mono ?_
    rintro (e | rows) t ⟨hf, hd, -⟩
    · exact ⟨congrArg sight hf, .inl hd⟩
    · exact ⟨congrArg sight hf, hd⟩
  ensureLedger s options hdry hidle := by
    refine Changes.execute (query_changes hdry fun b _ => ?_)
    show (b.execute script (Ledger.createSql script.dialect) []).2.standing = _
    rw [show (adapter script).dialect = script.dialect from rfl, execute_create]
    rfl
  readLedger s options hdry hidle := by
    refine ⟨(readLedger_spec hrows hdry).mono ?_, (readLedger_spec hrows hdry).mono ?_⟩
    · rintro (e | ids) t ⟨hf, hd, -⟩
      · exact ⟨congrArg sight hf, .inl hd⟩
      · exact ⟨congrArg sight hf, hd⟩
    · rintro result t ⟨-, -, hids⟩
      rw [s.database.contents_standing]
      exact hids
  begin s hidle := Changes.execute (query_changes rfl fun b _ => b.standing_begin)
  commit s g before hopen := Changes.execute (query_changes rfl fun b _ => b.standing_commit)
  rollback s hopen := Changes.execute (query_changes rfl fun b _ => b.standing_restore)
  execute s st hcontrol := Changes.execute (query_plain hcontrol _ rfl)
  recordId s id :=
    Changes.execute (query_plain (control_of_ledger script.dialect).2.2.1 _ rfl)
  removeId s id :=
    Changes.execute (query_plain (control_of_ledger script.dialect).2.2.2 _ rfl)

theorem adapter_discards (hdiscards : script.discards = true) :
    Discards (adapter script) Book.standing := by
  intro s
  refine close_spec.mono ?_
  rintro _ t ⟨-, hd⟩
  rw [if_pos hdiscards] at hd
  exact congrArg Standing.saved hd

end SchemaMigration.Rehearsal
