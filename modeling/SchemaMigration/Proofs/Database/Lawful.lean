import SchemaMigration.Proofs.Database.Contract
import SchemaMigration.Proofs.Database.Engine
import SchemaMigration.Proofs.Fallible

/-!
# Adapters over an engine

What an adapter does to a database, the engine at the other end of its link does. So a pool
and the adapter of SQLite keep the contract of adapters if their engine keeps one of its own.
-/

namespace SchemaMigration

variable {ε γ σ : Type} {engine : Engine ε} {m : Semantics γ} {dialect : Dialect}
variable {standing : ε → Standing γ} {sight : Files.FileTree → σ}

/-! ## Engines -/

/-- The engine makes the given change if it carries the statement out, and none if it refuses
to. -/
def Engine.Makes (engine : Engine ε) (standing : ε → Standing γ)
    (change : Standing γ → Standing γ) (sql : String) (params : List SqlValue) (server : ε) : Prop :=
  match engine.execute sql params server with
  | (.ok _, after) => standing after = change (standing server)
  | (.error _, after) => (standing server).Spares (standing after)

/-- The engine deals with its database as the semantics says. -/
structure Engine.Honors (engine : Engine ε) (m : Semantics γ) (dialect : Dialect)
    (standing : ε → Standing γ) : Prop where
  acquire : ∀ server after, engine.acquire server = .ok after → standing after = standing server
  close : ∀ server, standing (engine.close server).2 = (standing server).giveUp
  ensureLedger : ∀ server, (standing server).saved = none →
    engine.Makes standing id (Ledger.createSql dialect) [] server
  readLedger : ∀ server, (standing server).saved = none →
    engine.Makes standing id Ledger.selectSql [] server ∧
      ∀ rows, (engine.execute Ledger.selectSql [] server).1 = .ok rows →
        (rows.filterMap Adapter.idOfRow?).Perm (m.ledger (standing server).contents)
  begin : ∀ server, (standing server).saved = none → engine.Makes standing .begin "BEGIN" [] server
  commit : ∀ server g before, standing server = .within g before →
    engine.Makes standing .commit "COMMIT" [] server
  rollback : ∀ server, (standing server).saved.isSome →
    engine.Makes standing .giveUp "ROLLBACK" [] server
  execute : ∀ server st, ¬ m.control st.sql →
    engine.Makes standing (.change (m.effect st)) st.sql st.params server
  entries : ∀ direction id, ¬ m.control (Ledger.entry dialect direction id).sql

/-- How the database at the other end of a link stands. -/
def Link.stands (standing : ε → Standing γ) (link : Link ε) : Standing γ := standing link.server

/-! ## What reaches the engine -/

/-- The statement failed before it was sent, or the engine was asked to carry it out. -/
def Asked (engine : Engine ε) (standing : ε → Standing γ) (sight : Files.FileTree → σ)
    (sql : String) (params : List SqlValue) (s : Session (Link ε))
    (result : Except MigrationError (List Row)) (t : Session (Link ε)) : Prop :=
  sight t.files = sight s.files ∧
    ((∃ e, result = .error e) ∧ (s.database.stands standing).Spares (t.database.stands standing) ∨
      ∃ server, standing server = s.database.stands standing ∧
        t.database.server = (engine.execute sql params server).2 ∧
        result = (engine.execute sql params server).1.mapError (MigrationError.ofStatement sql))

/-- The adapter hands its statements to the engine. -/
structure Reaches (a : Adapter (Link ε)) (engine : Engine ε) (standing : ε → Standing γ)
    (sight : Files.FileTree → σ) : Prop where
  getClient : ∀ s, Changes (Link.stands standing) sight id a.getClient s
  releaseClient : ∀ s, Closes (Link.stands standing) sight a.releaseClient s
  disconnect : ∀ s, Closes (Link.stands standing) sight a.disconnect s
  shown : ∀ s sql params options, options.dryRun = true →
    Ends (a.query sql params options) s fun result t =>
      result = .ok [] ∧ t.files = s.files ∧ t.database = s.database
  asked : ∀ s sql params options, options.dryRun = false →
    Ends (a.query sql params options) s (Asked engine standing sight sql params s)

namespace Reaches

variable {a : Adapter (Link ε)} {s : Session (Link ε)} {options : QueryOptions}

theorem changes (h : Reaches a engine standing sight) {change : Standing γ → Standing γ}
    {sql : String} {params : List SqlValue} (hdry : options.dryRun = false)
    (hmakes : ∀ server, standing server = s.database.stands standing →
      engine.Makes standing change sql params server) :
    Changes (Link.stands standing) sight change (a.query sql params options) s := by
  refine (h.asked s sql params options hdry).mono ?_
  rintro result t ⟨hf, ⟨⟨e, rfl⟩, hkept⟩ | ⟨server, hserver, hafter, rfl⟩⟩
  · exact ⟨hf, hkept⟩
  · refine ⟨hf, ?_⟩
    have hmade := hmakes server hserver
    unfold Engine.Makes at hmade
    unfold Link.stands at hserver ⊢
    rw [hserver] at hmade
    rw [hafter]
    generalize engine.execute sql params server = done at hmade ⊢
    obtain ⟨_ | _, after⟩ := done
    · exact hmade
    · exact hmade

theorem readLedger_changes (h : Reaches a engine standing sight)
    (hhonors : engine.Honors m dialect standing) (hdry : options.dryRun = false)
    (hidle : (s.database.stands standing).saved = none) :
    Changes (Link.stands standing) sight id (a.readLedger options) s := by
  have hquery : Changes (Link.stands standing) sight id (a.query Ledger.selectSql [] options) s :=
    h.changes hdry fun server hserver => (hhonors.readLedger server (hserver ▸ hidle)).1
  exact hquery.andThen fun rows _ => ⟨⟨rows.filterMap Adapter.idOfRow?, rfl⟩, rfl, rfl⟩

theorem readLedger_ids (h : Reaches a engine standing sight)
    (hhonors : engine.Honors m dialect standing) (hdry : options.dryRun = false)
    (hidle : (s.database.stands standing).saved = none) :
    Ends (a.readLedger options) s fun result _ =>
      ∀ ids, result = .ok ids → ids.Perm (m.ledger (s.database.stands standing).contents) := by
  refine (h.asked s Ledger.selectSql [] options hdry).bind ?_ fun e t _ => nofun
  rintro rows t ⟨-, ⟨⟨e, he⟩, -⟩ | ⟨server, hserver, -, hrows⟩⟩
  · simp at he
  · refine ends_pure.mpr fun ids hids => ?_
    obtain rfl := Except.ok.inj hids
    rw [← hserver]
    exact (hhonors.readLedger server (hserver ▸ hidle)).2 rows (mapError_eq_ok.mp hrows.symm)

theorem lawful (h : Reaches a engine standing sight) (hhonors : engine.Honors m a.dialect standing) :
    Lawful a m (Link.stands standing) sight where
  getClient := h.getClient
  releaseClient := h.releaseClient
  disconnect := h.disconnect
  shown s sql params options hdry := by
    refine (h.shown s sql params options hdry).mono ?_
    rintro _ t ⟨rfl, hf, hd⟩
    exact ⟨congrArg sight hf, congrArg (Link.stands standing) hd⟩
  ensureLedger s options hdry hidle :=
    (h.changes hdry fun server hserver => hhonors.ensureLedger server (hserver ▸ hidle)).execute
  readLedger s options hdry hidle :=
    ⟨h.readLedger_changes hhonors hdry hidle, h.readLedger_ids hhonors hdry hidle⟩
  begin s hidle := (h.changes rfl fun server hserver => hhonors.begin server (hserver ▸ hidle)).execute
  commit s g before hopen :=
    (h.changes rfl fun server hserver => hhonors.commit server g before (hserver.trans hopen)).execute
  rollback s hopen :=
    (h.changes rfl fun server hserver => hhonors.rollback server (hserver ▸ hopen)).execute
  execute s st hcontrol := (h.changes rfl fun server _ => hhonors.execute server st hcontrol).execute
  recordId s id := (h.changes rfl fun server _ =>
    hhonors.execute server (Ledger.insertion a.dialect id) (hhonors.entries .up id)).execute
  removeId s id := (h.changes rfl fun server _ =>
    hhonors.execute server (Ledger.deletion a.dialect id) (hhonors.entries .down id)).execute

end Reaches

section Links

variable {s : Session (Link ε)} {sql : String} {params : List SqlValue}

theorem hold_changes (hhonors : engine.Honors m dialect standing) :
    Changes (Link.stands standing) sight id (Link.hold engine) s := by
  unfold Changes Link.hold
  rw [ends_database_bind]
  cases hacquired : engine.acquire s.database.server with
  | error reason => exact ⟨rfl, .inl rfl⟩
  | ok server => exact ⟨rfl, hhonors.acquire _ _ hacquired⟩

theorem send_asked (carrier : Option Nat) :
    Ends (Link.send engine carrier sql params) s (Asked engine standing sight sql params s) :=
  ⟨rfl, .inr ⟨s.database.server, rfl, rfl, rfl⟩⟩

theorem asked_of_changes {call : Action (Link ε) Unit}
    (h : Changes (Link.stands standing) sight id call s) :
    Ends (call >>= fun _ => Action.database >>= fun link =>
      Link.send engine link.client sql params) s (Asked engine standing sight sql params s) := by
  refine Ends.bind h ?_ ?_
  · rintro _ t ⟨hf, hkept⟩
    have hstands : t.database.stands standing = s.database.stands standing := hkept
    have hsent : Ends (Link.send engine t.database.client sql params) t
        (Asked engine standing sight sql params t) := send_asked t.database.client
    refine ends_database_bind.mpr (hsent.mono ?_)
    rintro result u ⟨hf', hasked⟩
    rw [hstands] at hasked
    exact ⟨hf'.trans hf, hasked⟩
  · rintro e t ⟨hf, hspares⟩
    exact ⟨hf, .inl ⟨⟨e, rfl⟩, hspares⟩⟩

end Links

/-! ## Pooled connections -/

namespace Pooled

variable {s : Session (Link ε)}

theorem getClient_changes (hhonors : engine.Honors m dialect standing) :
    Changes (Link.stands standing) sight id (adapter engine dialect).getClient s := by
  show Changes _ _ _ (getClient engine dialect) s
  unfold getClient
  refine ends_database_bind.mpr ?_
  split
  · exact ⟨rfl, rfl⟩
  · dsimp only
    split
    · exact ends_throw.mpr ⟨rfl, .inl rfl⟩
    · exact (hold_changes hhonors).andThen fun _ _ => ⟨⟨(), rfl⟩, rfl, rfl⟩

theorem adapter_reaches (hhonors : engine.Honors m dialect standing) :
    Reaches (adapter engine dialect) engine standing sight where
  getClient s := getClient_changes hhonors
  releaseClient s := by
    refine (releaseClient_spec s).mono ?_
    rintro _ t ⟨-, hf, hd⟩
    exact ⟨congrArg sight hf, .inl (by rw [hd]; rfl)⟩
  disconnect s := by
    refine (disconnect_spec s).mono ?_
    rintro _ t ⟨hf, hd⟩
    refine ⟨congrArg sight hf, .inr ?_⟩
    rw [hd]
    exact hhonors.close _
  shown s sql params options hdry := query_shown sql params hdry
  asked s sql params options hdry := by
    show Ends (query engine dialect sql params options) s _
    unfold query
    rw [if_neg (by simp [hdry])]
    refine ends_tell_bind.mpr ?_
    split
    · exact asked_of_changes (getClient_changes hhonors)
    · refine ends_database_bind.mpr ?_
      split
      · exact ends_throw.mpr ⟨rfl, .inl ⟨⟨_, rfl⟩, .inl rfl⟩⟩
      · exact send_asked none

/-- The adapter of a pool keeps the contract. -/
theorem adapter_lawful (hhonors : engine.Honors m dialect standing) :
    Lawful (adapter engine dialect) m (Link.stands standing) sight :=
  (adapter_reaches hhonors).lawful hhonors

theorem adapter_discards (hhonors : engine.Honors m dialect standing) :
    Discards (adapter engine dialect) (Link.stands standing) := by
  intro s
  refine (disconnect_spec s).mono ?_
  rintro _ t ⟨-, hd⟩
  rw [hd]
  exact congrArg Standing.saved (hhonors.close s.database.server)

end Pooled

/-! ## A single connection -/

namespace Single

variable {prepare : Action (Link ε) Unit} {url : String} {s : Session (Link ε)}

/-- Finding the database changes no files that are in sight. -/
def Unseen (prepare : Action (Link ε) Unit) (sight : Files.FileTree → σ) : Prop :=
  ∀ s, Ends prepare s fun _ t => sight t.files = sight s.files

theorem getClient_changes (hhonors : engine.Honors m .sqlite standing) (hfinds : Finds prepare)
    (hunseen : Unseen prepare sight) :
    Changes (Link.stands standing) sight id (adapter engine prepare url).getClient s := by
  show Changes _ _ _ (connect engine prepare url) s
  unfold connect
  refine ends_database_bind.mpr ?_
  split
  · exact ⟨rfl, rfl⟩
  refine Ends.bind ((hfinds s).and (hunseen s)) ?_ ?_
  · rintro _ t ⟨hd, hf⟩
    have hheld : Changes (Link.stands standing) sight id (Link.hold engine >>= fun _ =>
        Action.tell (event .info "connected to SQLite database" [("url", .shown url)])) t :=
      (hold_changes hhonors).andThen fun _ _ => ⟨⟨(), rfl⟩, rfl, rfl⟩
    rw [Changes, hd, hf] at hheld
    exact hheld
  · rintro e t ⟨hd, hf⟩
    exact ⟨hf, .inl (congrArg (Link.stands standing) hd)⟩

theorem adapter_reaches (hhonors : engine.Honors m .sqlite standing) (hfinds : Finds prepare)
    (hunseen : Unseen prepare sight) : Reaches (adapter engine prepare url) engine standing sight where
  getClient s := getClient_changes hhonors hfinds hunseen
  releaseClient s := ⟨rfl, .inl rfl⟩
  disconnect s := by
    refine (disconnect_spec s).mono ?_
    rintro _ t ⟨hf, hd⟩
    refine ⟨congrArg sight hf, ?_⟩
    rw [hd]
    unfold disconnected
    split
    · exact .inl rfl
    · exact .inr (hhonors.close _)
  shown s sql params options hdry := query_shown sql params hdry
  asked s sql params options hdry := by
    show Ends (query engine prepare url sql params options) s _
    unfold query
    rw [if_neg (by simp [hdry])]
    exact ends_tell_bind.mpr (asked_of_changes (getClient_changes hhonors hfinds hunseen))

/-- The adapter of SQLite keeps the contract. -/
theorem adapter_lawful (hhonors : engine.Honors m .sqlite standing) (hfinds : Finds prepare)
    (hunseen : Unseen prepare sight) :
    Lawful (adapter engine prepare url) m (Link.stands standing) sight :=
  (adapter_reaches hhonors hfinds hunseen).lawful hhonors

end Single

end SchemaMigration
