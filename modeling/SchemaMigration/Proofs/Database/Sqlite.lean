import SchemaMigration.Proofs.Database.Lawful
import SchemaMigration.Proofs.Database.Rehearsal
import SchemaMigration.Proofs.Migration.Unnoticed

/-!
# The databases of SQLite keep the contract

A database in a file deals with statements as its store does, which outlives the connection. One
in memory is lost with it, so of that nothing can be promised.
-/

namespace SchemaMigration.Sqlite

/-! ## What statements mean -/

/-- A missing ledger counts as an empty one. -/
def Contents.settled (contents : Contents) : Contents :=
  { contents with ledger := some (contents.ledger.getD []) }

def Store.standing (store : Store) : Standing Contents :=
  match store.saved with
  | none => .idle store.contents.settled
  | some before => .within store.contents.settled before.settled

/-- What a statement makes of the contents of a store, with names of tables that are absent. -/
def semantics (absent : List String) : Semantics Contents where
  effect st contents :=
    (Store.execute absent st.sql st.params { contents := contents.settled }).2.contents.settled
  ledger contents := contents.ledger.getD []
  control sql := Request.ofSql sql ∈ [.begin, .commit, .rollback]

/-! ## Stores -/

section Stores

variable {absent : List String} {sql : String} {params : List SqlValue} {store : Store}

theorem standing_change {contents : Contents} {f : Contents → Contents}
    (h : f store.contents.settled = contents.settled) :
    ({ store with contents } : Store).standing = store.standing.change f := by
  unfold Store.standing
  cases store.saved with
  | none => exact congrArg Standing.idle h.symm
  | some before => exact congrArg (Standing.within · before.settled) h.symm

/-- A request that neither begins nor ends a transaction is refused, or it writes the contents; and
what it makes of a missing ledger it makes of an empty one. -/
theorem carryOut_spec {request : Request} (hcontrol : request ∉ [.begin, .commit, .rollback])
    (value : SqlValue) (store : Store) :
    (∃ reason, store.carryOut request value = (.error reason, store)) ∨
      ∃ rows contents, store.carryOut request value = (.ok rows, { store with contents }) ∧
        ((Store.carryOut request value { contents := store.contents.settled }).2.contents).settled =
          contents.settled := by
  obtain ⟨⟨ledger, column⟩, saved⟩ := store
  cases request with
  | begin | commit | rollback => simp at hcontrol
  | createLedger | other => exact .inr ⟨_, _, rfl, rfl⟩
  | block => exact .inl ⟨_, rfl⟩
  | readLedger | removeId =>
    cases ledger with
    | none => exact .inl ⟨_, rfl⟩
    | some ids => exact .inr ⟨_, _, rfl, rfl⟩
  | recordId =>
    cases ledger with
    | none => exact .inl ⟨_, rfl⟩
    | some ids =>
      by_cases hid : idText value ∈ ids
      · refine .inl ⟨refusal 1555 ("UNIQUE constraint failed: " ++ Ledger.table ++ "." ++ Ledger.column),
          ?_⟩
        simp only [Store.carryOut, if_pos hid]
      · refine .inr ⟨[], ⟨some (ids ++ [idText value]), column⟩, ?_, ?_⟩
        · simp only [Store.carryOut, if_neg hid]
        · simp [Store.carryOut, Contents.settled, if_neg hid]
  | createTable affinity =>
    cases column with
    | none => exact .inr ⟨_, _, rfl, rfl⟩
    | some column => exact .inl ⟨_, rfl⟩
  | readTable | insertValue =>
    cases column with
    | none => exact .inl ⟨_, rfl⟩
    | some column => exact .inr ⟨_, _, rfl, rfl⟩

theorem execute_spec (hcontrol : ¬ (semantics absent).control sql) :
    (∃ reason, store.execute absent sql params = (.error reason, store)) ∨
      ∃ rows contents, store.execute absent sql params = (.ok rows, { store with contents }) ∧
        (semantics absent).effect ⟨sql, params⟩ store.contents = contents.settled := by
  have hrequest : Request.ofSql sql ∉ [.begin, .commit, .rollback] := hcontrol
  have hcarried := carryOut_spec hrequest (params.headD .null) store
  simp only [semantics, Store.execute]
  cases absent.find? fun name => Text.occursIn name.toList sql.toList with
  | some name => exact .inl ⟨noTable name, rfl⟩
  | none => exact hcarried

end Stores

/-! ## The engine -/

section Engines

variable {absent : List String} {dialect : Dialect} {path : Files.Path} {server : Storage}

theorem store_setStore (storage : Storage) (place : Place) (store : Store) :
    (storage.setStore place store).store place = store := by
  simp [Storage.store, Storage.setStore]

/-- How the database of a file stands. -/
def Storage.standing (path : Files.Path) (storage : Storage) : Standing Contents :=
  (storage.store (.file path)).standing

theorem standing_setStore (store : Store) :
    (server.setStore (.file path) store).standing path = store.standing := by
  rw [Storage.standing, store_setStore]

theorem makes_of_execute {change : Standing Contents → Standing Contents} {sql : String}
    {params : List SqlValue}
    (h : ∀ store : Store, store.standing = server.standing path →
      (∃ reason, store.execute absent sql params = (.error reason, store)) ∨
        ∃ rows after, store.execute absent sql params = (.ok rows, after) ∧
          after.standing = change store.standing) :
    (engine absent (.file path)).Makes (Storage.standing path) change sql params server := by
  unfold Engine.Makes engine
  rcases h (server.store (.file path)) rfl with ⟨reason, hrefused⟩ | ⟨rows, after, hdone, hafter⟩
  · simp only [hrefused]
    exact .inl (standing_setStore _)
  · simp only [hdone]
    rw [standing_setStore, hafter]
    rfl

theorem makes_of_carryOut {change : Standing Contents → Standing Contents} {sql : String}
    {request : Request} (hrequest : Request.ofSql sql = request)
    (h : ∀ store : Store, store.standing = server.standing path →
      (∃ reason, store.carryOut request .null = (.error reason, store)) ∨
        ∃ rows after, store.carryOut request .null = (.ok rows, after) ∧
          after.standing = change store.standing) :
    (engine absent (.file path)).Makes (Storage.standing path) change sql [] server := by
  refine makes_of_execute fun store hstore => ?_
  unfold Store.execute
  cases absent.find? fun name => Text.occursIn name.toList sql.toList with
  | some name => exact .inl ⟨noTable name, rfl⟩
  | none =>
    rw [hrequest]
    exact h store hstore

theorem request_of_create (dialect : Dialect) :
    Request.ofSql (Ledger.createSql dialect) = .createLedger := by
  cases dialect <;> decide +kernel

theorem request_of_select : Request.ofSql Ledger.selectSql = .readLedger := by decide +kernel

theorem request_of_insert (dialect : Dialect) :
    Request.ofSql (Ledger.insertSql dialect) = .recordId := by
  cases dialect <;> decide +kernel

theorem request_of_delete (dialect : Dialect) :
    Request.ofSql (Ledger.deleteSql dialect) = .removeId := by
  cases dialect <;> decide +kernel

theorem request_of_begin : Request.ofSql "BEGIN" = .begin := by decide +kernel

theorem request_of_commit : Request.ofSql "COMMIT" = .commit := by decide +kernel

theorem request_of_rollback : Request.ofSql "ROLLBACK" = .rollback := by decide +kernel

theorem rows_of_select {store : Store} {rows : List Row} {after : Store}
    (h : store.execute absent Ledger.selectSql [] = (.ok rows, after)) :
    (rows.filterMap Adapter.idOfRow?).Perm ((semantics absent).ledger store.standing.contents) := by
  unfold Store.execute at h
  split at h
  · simp at h
  rw [request_of_select] at h
  have hledger : (semantics absent).ledger store.standing.contents = store.contents.ledger.getD [] := by
    unfold Store.standing
    cases store.saved <;> rfl
  rw [hledger]
  cases hids : store.contents.ledger with
  | none => simp [Store.carryOut, hids] at h
  | some ids =>
    simp only [Store.carryOut, hids, Prod.mk.injEq, Except.ok.injEq] at h
    obtain ⟨rfl, -⟩ := h
    rw [Rehearsal.idsOfLedger_spec]
    exact Catalog.sortIds_perm ids

theorem engine_honors : (engine absent (.file path)).Honors (semantics absent) dialect
    (Storage.standing path) where
  acquire server after h := by
    obtain rfl := Except.ok.inj h
    rfl
  close server := by
    show (server.setStore (.file path) (server.store (.file path)).close).standing path = _
    rw [standing_setStore]
    unfold Storage.standing Store.standing Store.close
    cases (server.store (.file path)).saved <;> rfl
  ensureLedger server hidle := by
    refine makes_of_carryOut (request_of_create dialect) fun store _ => .inr ⟨[], _, rfl, ?_⟩
    exact (standing_change (f := id) rfl).trans (Standing.change_id _)
  readLedger server hidle := by
    refine ⟨makes_of_carryOut request_of_select fun store _ => ?_, fun rows hrows => ?_⟩
    · unfold Store.carryOut
      cases store.contents.ledger with
      | none => exact .inl ⟨_, rfl⟩
      | some ids => exact .inr ⟨_, _, rfl, rfl⟩
    · exact rows_of_select (Prod.ext hrows rfl)
  begin server hidle := by
    refine makes_of_carryOut request_of_begin fun store hstore => ?_
    obtain ⟨contents, _ | before⟩ := store
    · exact .inr ⟨[], _, rfl, rfl⟩
    · rw [← hstore] at hidle
      simp [Store.standing, Standing.saved] at hidle
  commit server g before hopen := by
    refine makes_of_carryOut request_of_commit fun store hstore => ?_
    obtain ⟨contents, _ | before⟩ := store
    · exact .inl ⟨_, rfl⟩
    · exact .inr ⟨[], _, rfl, rfl⟩
  rollback server hopen := by
    refine makes_of_carryOut request_of_rollback fun store hstore => ?_
    obtain ⟨contents, _ | before⟩ := store
    · exact .inl ⟨_, rfl⟩
    · exact .inr ⟨[], _, rfl, rfl⟩
  execute server st hcontrol := by
    refine makes_of_execute fun store _ => ?_
    rcases execute_spec hcontrol with hrefused | ⟨rows, contents, hdone, heffect⟩
    · exact .inl hrefused
    · exact .inr ⟨rows, _, hdone, standing_change heffect⟩
  entries direction id := by
    show Request.ofSql _ ∉ _
    cases direction with
    | up =>
      rw [Ledger.entry, Ledger.insertion, request_of_insert]
      decide
    | down =>
      rw [Ledger.entry, Ledger.deletion, request_of_delete]
      decide

theorem semantics_keeping (hpresent : ∀ name ∈ absent,
      Text.occursIn name.toList (Ledger.insertSql dialect).toList = false ∧
        Text.occursIn name.toList (Ledger.deleteSql dialect).toList = false) :
    Keeping (semantics absent) dialect where
  insertion id contents hid := by
    have hnone : (absent.find? fun name =>
        Text.occursIn name.toList (Ledger.insertSql dialect).toList) = none :=
      List.find?_eq_none.mpr fun name hname => by simp [(hpresent name hname).1]
    have hnew : id ∉ contents.ledger.getD [] := hid
    have hledger : (semantics absent).ledger
        ((semantics absent).effect (Ledger.insertion dialect id) contents) =
          contents.ledger.getD [] ++ [id] := by
      simp [semantics, Ledger.insertion, Store.execute, hnone, request_of_insert, Store.carryOut,
        Contents.settled, idText, hnew]
    rw [hledger]
    exact List.perm_append_singleton id _
  deletion id contents := by
    have hnone : (absent.find? fun name =>
        Text.occursIn name.toList (Ledger.deleteSql dialect).toList) = none :=
      List.find?_eq_none.mpr fun name hname => by simp [(hpresent name hname).2]
    have hledger : (semantics absent).ledger
        ((semantics absent).effect (Ledger.deletion dialect id) contents) =
          (contents.ledger.getD []).filter (· ≠ id) := by
      simp [semantics, Ledger.deletion, Store.execute, hnone, request_of_delete, Store.carryOut,
        Contents.settled, idText]
      rfl
    rw [hledger]
    exact .refl _

end Engines

/-! ## The adapter -/

section Adapters

variable {c : Catalog} {absent : List String} {dialect : Dialect} {url name : String}
variable {path : Files.Path} {tree made : Files.FileTree} {opening : Opening}

theorem openFile_unseen (hplace : opening.place = .file path)
    (hname : Files.Path.fileName? path = some name) (hformat : Format.ofFileName? name = none)
    (h : openFile opening tree = .ok made) : c.sight made = c.sight tree := by
  unfold openFile at h
  rw [hplace] at h
  dsimp only at h
  split at h
  · rw [Except.ok.inj h]
  split at h
  · next hmissing =>
    have hwritten := mapError_eq_ok.mp h
    obtain ⟨way, hway⟩ := Files.Path.steps_of_fileName? hname (Files.FileTree.asks_of_write hwritten)
    obtain ⟨parent, -, -, hnew, rfl, -⟩ := Files.FileTree.write_absent
      (Files.Path.isSimple_of_fileName? hname) hway hwritten (by simpa using hmissing.2)
    exact Catalog.sight_eq_iff.mpr (Catalog.agrees_insert hnew hformat)
  · cases h

theorem prepare_unseen (hplace : placeOf url = .file path)
    (hname : Files.Path.fileName? path = some name) (hformat : Format.ofFileName? name = none) :
    Single.Unseen (ε := Storage) (prepare url >>= fun _ => pure ()) c.sight := by
  intro s
  have hprepared : Ends (prepare (ε := Storage) url) s fun _ t => c.sight t.files = c.sight s.files := by
    unfold prepare
    unfold placeOf at hplace
    cases hopening : Opening.ofUrl url with
    | error reason => rfl
    | ok opening =>
      rw [hopening] at hplace
      have hread : Ends (Action.ofExcept (.ok opening) : Action (Link Storage) Opening) s
          fun result t => result = .ok opening ∧ t = s := ⟨rfl, rfl⟩
      refine hread.bind ?_ ?_
      · rintro _ t ⟨hsame, rfl⟩
        obtain rfl := Except.ok.inj hsame
        refine ends_files_bind.mpr ?_
        dsimp only
        cases hopened : openFile _ t.files with
        | error reason => rfl
        | ok made => exact openFile_unseen hplace hname hformat hopened
      · rintro e t ⟨-, rfl⟩
        rfl
  exact hprepared.bind (fun _ _ h => h) fun _ _ h => h

theorem adapter_lawful (hplace : placeOf url = .file path)
    (hname : Files.Path.fileName? path = some name) (hformat : Format.ofFileName? name = none) :
    Lawful (adapter absent dialect url) (semantics absent) (Link.stands (Storage.standing path))
      c.sight := by
  unfold adapter
  rw [hplace]
  cases dialect with
  | sqlite =>
    exact Single.adapter_lawful engine_honors (prepare_finds url) (prepare_unseen hplace hname hformat)
  | mysql | postgresql => exact Pooled.adapter_lawful engine_honors

/-- What is asked of an adapter and of its database where migrations are applied and rolled back,
those of a database in a file have, whatever the catalog finds. -/
theorem adapter_suits (hplace : placeOf url = .file path)
    (hname : Files.Path.fileName? path = some name) (hformat : Format.ofFileName? name = none)
    (hpresent : ∀ table ∈ absent, Text.occursIn table.toList (Ledger.insertSql dialect).toList = false ∧
      Text.occursIn table.toList (Ledger.deleteSql dialect).toList = false) :
    Lawful (adapter absent dialect url) (semantics absent) (Link.stands (Storage.standing path))
        c.sight ∧
      Keeping (semantics absent) dialect ∧ ∀ tree, c.ShownBy c.sight tree :=
  ⟨adapter_lawful hplace hname hformat, semantics_keeping hpresent, c.shownBy_sight⟩

end Adapters

end SchemaMigration.Sqlite
