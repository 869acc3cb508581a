import SchemaMigration.Proofs.Run.Preservation

/-!
# Adapters whose calls are written down

Any adapter can be watched: each call is written down with its failure, and is made as
before.
-/

namespace SchemaMigration

inductive AdapterCall
  | getClient
  | releaseClient
  | disconnect
  | query (sql : String) (params : List SqlValue) (options : QueryOptions)
  | dropAll (options : QueryOptions)
  deriving DecidableEq, Repr

/-- The calls that end every command. -/
def AdapterCall.isCleanup : AdapterCall → Bool
  | .releaseClient | .disconnect => true
  | _ => false

/-- A database, and the calls that were made, each with its failure. -/
structure Traced (δ : Type) where
  inner : δ
  calls : List (AdapterCall × Option MigrationError) := []

def failure? {ε α : Type} : Except ε α → Option ε
  | .ok _ => none
  | .error e => some e

section Traced

variable {δ α : Type}

def Session.untraced (s : Session (Traced δ)) : Session δ :=
  { files := s.files, transcript := s.transcript, database := s.database.inner }

/-- The session with nothing written down yet. -/
def Session.watched (s : Session δ) : Session (Traced δ) :=
  { files := s.files, transcript := s.transcript, database := { inner := s.database } }

def Traced.record (call : AdapterCall) (a : Action δ α) : Action (Traced δ) α :=
  ExceptT.mk fun s =>
    let (result, t) := a.run s.untraced
    let calls := s.database.calls ++ [(call, failure? result)]
    (result, { files := t.files, transcript := t.transcript, database := { inner := t.database, calls } })

def Adapter.traced (a : Adapter δ) : Adapter (Traced δ) where
  dialect := a.dialect
  transactional := a.transactional
  getClient := Traced.record .getClient a.getClient
  releaseClient := Traced.record .releaseClient a.releaseClient
  query sql params options := Traced.record (.query sql params options) (a.query sql params options)
  disconnect := Traced.record .disconnect a.disconnect
  dropAll options := Traced.record (.dropAll options) (a.dropAll options)

theorem record_spec {call : AdapterCall} {a : Action δ α} {s : Session (Traced δ)}
    {post : Except MigrationError α → Session δ → Prop} (h : Ends a s.untraced post) :
    Ends (Traced.record call a) s fun result t =>
      post result t.untraced ∧ t.database.calls = s.database.calls ++ [(call, failure? result)] :=
  ⟨h, rfl⟩

theorem record_map_spec {call : AdapterCall} {a : Action δ α} {β : Type} {f : α → β}
    {s : Session (Traced δ)} {post : Except MigrationError β → Session δ → Prop}
    (h : Ends (a >>= fun x => pure (f x)) s.untraced post) :
    Ends (Traced.record call a >>= fun x => pure (f x)) s fun result t =>
      post result t.untraced ∧ t.database.calls = s.database.calls ++ [(call, failure? result)] := by
  refine (record_spec (ends_bind.mp h)).bind ?_ ?_
  · rintro x t ⟨hpost, hcalls⟩
    exact ⟨hpost, hcalls⟩
  · rintro e t ⟨hpost, hcalls⟩
    exact ⟨hpost, hcalls⟩

/-- Writing the calls down changes nothing about the database. -/
theorem Lawful.traced {γ σ : Type} {a : Adapter δ} {m : Semantics γ} {view : δ → Standing γ}
    {sight : Files.FileTree → σ} (hlaw : Lawful a m view sight) :
    Lawful a.traced m (fun d => view d.inner) sight where
  getClient s := (record_spec (hlaw.getClient s.untraced)).mono fun _ _ h => h.1
  releaseClient s := (record_spec (hlaw.releaseClient s.untraced)).mono fun _ _ h => h.1
  disconnect s := (record_spec (hlaw.disconnect s.untraced)).mono fun _ _ h => h.1
  shown s sql params options hdry :=
    (record_spec (hlaw.shown s.untraced sql params options hdry)).mono fun _ _ h => h.1
  ensureLedger s options hdry hidle :=
    (record_map_spec (hlaw.ensureLedger s.untraced options hdry hidle)).mono fun _ _ h => h.1
  readLedger s options hdry hidle := by
    obtain ⟨hchange, hids⟩ := hlaw.readLedger s.untraced options hdry hidle
    exact ⟨(record_map_spec hchange).mono fun _ _ h => h.1,
      (record_map_spec hids).mono fun _ _ h => h.1⟩
  begin s hidle := (record_map_spec (hlaw.begin s.untraced hidle)).mono fun _ _ h => h.1
  commit s g before hopen :=
    (record_map_spec (hlaw.commit s.untraced g before hopen)).mono fun _ _ h => h.1
  rollback s hopen := (record_map_spec (hlaw.rollback s.untraced hopen)).mono fun _ _ h => h.1
  execute s st hcontrol := (record_map_spec (hlaw.execute s.untraced st hcontrol)).mono fun _ _ h => h.1
  recordId s id := (record_map_spec (hlaw.recordId s.untraced id)).mono fun _ _ h => h.1
  removeId s id := (record_map_spec (hlaw.removeId s.untraced id)).mono fun _ _ h => h.1

/-! ## The calls of a run -/

def Run.calls (run : Run (Traced δ)) : List (AdapterCall × Option MigrationError) :=
  run.session.database.calls

/-- The calls after `run` are those before it and one more. -/
def Adds (call : AdapterCall) (run : Run (Traced δ)) (result : Except MigrationError α)
    (next : Run (Traced δ)) : Prop := next.calls = run.calls ++ [(call, failure? result)]

section Calls

variable {a : Adapter δ} {run : Run (Traced δ)} {options : QueryOptions}

theorem traced_getClient {post : Except MigrationError Unit → Session δ → Prop}
    (h : Ends a.getClient run.session.untraced post) :
    Ends (RunAction.ofAction a.traced.getClient) run fun result next =>
      post result next.session.untraced ∧ Adds .getClient run result next :=
  ends_ofAction.mpr (record_spec h)

theorem traced_dropAll {post : Except MigrationError Unit → Session δ → Prop}
    (h : Ends (a.dropAll options) run.session.untraced post) :
    Ends (RunAction.ofAction (a.traced.dropAll options)) run fun result next =>
      post result next.session.untraced ∧ Adds (.dropAll options) run result next :=
  ends_ofAction.mpr (record_spec h)

theorem traced_ensureLedger {post : Except MigrationError Unit → Session δ → Prop}
    (h : Ends (a.ensureLedger options) run.session.untraced post) :
    Ends (RunAction.ofAction (a.traced.ensureLedger options)) run fun result next =>
      post result next.session.untraced ∧
        Adds (.query (Ledger.createSql a.dialect) [] options) run result next :=
  ends_ofAction.mpr (record_map_spec h)

theorem traced_readLedger {post : Except MigrationError (List String) → Session δ → Prop}
    (h : Ends (a.readLedger options) run.session.untraced post) :
    Ends (RunAction.ofAction (a.traced.readLedger options)) run fun result next =>
      post result next.session.untraced ∧ Adds (.query Ledger.selectSql [] options) run result next :=
  ends_ofAction.mpr (record_map_spec h)

end Calls

theorem calls_of_sameWorld {run next : Run (Traced δ)} (h : SameWorld run next) :
    next.calls = run.calls := congrArg Traced.calls h.database

/-- No call is taken back. -/
def Grows (run next : Run (Traced δ)) : Prop := run.calls <+: next.calls

instance : Frame (Grows (δ := δ)) where
  same h := ⟨[], by rw [calls_of_sameWorld h, List.append_nil]⟩
  trans h h' := h.trans h'

theorem record_grows (call : AdapterCall) (a : Action δ α) :
    Preserves Grows (RunAction.ofAction (Traced.record call a)) := fun _ =>
  ⟨_, rfl⟩

namespace Runner

/-- A runner whose calls are written down. -/
def watching (a : Adapter δ) (c : Catalog) : Runner (Traced δ) := { adapter := a.traced, catalog := c }

variable {a : Adapter δ} {r : Runner (Traced δ)}

theorem permits_of_traced (h : r.adapter = a.traced) : r.Permits Grows where
  files _ run next hd := ⟨[], by rw [Run.calls, Run.calls, hd, List.append_nil]⟩
  getClient _ := by
    rw [h]
    exact record_grows _ _
  query sql params options _ := by
    rw [h]
    exact record_grows _ _

theorem tolerate_calls (complaint : String) (call : AdapterCall) (x : Action δ Unit)
    {run : Run (Traced δ)} :
    Ends (tolerate complaint (Traced.record call x)) run fun result next =>
      result = .ok () ∧ ∃ failure, next.calls = run.calls ++ [(call, failure)] := by
  have hrecord : Ends (Traced.record call x) run.session fun _ t =>
      ∃ failure, t.database.calls = run.calls ++ [(call, failure)] := ⟨_, rfl⟩
  refine (tolerate_spec complaint hrecord).mono ?_
  rintro result next ⟨rfl, t, ⟨failure, ht⟩, -, hd⟩
  exact ⟨rfl, failure, by rw [Run.calls, hd, ht]⟩

theorem command_calls (h : r.adapter = a.traced) {body : RunAction (Traced δ) α}
    {run : Run (Traced δ)} {post : Except MigrationError α → Run (Traced δ) → Prop}
    (hbody : Ends body run post) :
    Ends (r.command body) run fun result next => ∃ mid released disconnected, post result mid ∧
      next.calls = mid.calls ++ [(.releaseClient, released), (.disconnect, disconnected)] := by
  have hcleanup : ∀ mid, Ends r.cleanup mid fun result next => result = .ok () ∧
      ∃ released disconnected,
        next.calls = mid.calls ++ [(.releaseClient, released), (.disconnect, disconnected)] := by
    intro mid
    unfold cleanup
    rw [h]
    refine (tolerate_calls _ .releaseClient a.releaseClient).bind ?_ ?_
    · rintro _ next ⟨-, released, hreleased⟩
      refine (tolerate_calls _ .disconnect a.disconnect).mono ?_
      rintro result last ⟨rfl, disconnected, hlast⟩
      exact ⟨rfl, released, disconnected, by rw [hlast, hreleased, List.append_assoc]; rfl⟩
    · rintro e next ⟨he, -⟩
      simp at he
  refine (command_rule hbody hcleanup).mono ?_
  rintro result next ⟨mid, hmid, released, disconnected, hcalls⟩
  exact ⟨mid, released, disconnected, hmid, hcalls⟩

end Runner

end Traced

end SchemaMigration
