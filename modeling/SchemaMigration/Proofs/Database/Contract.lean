import SchemaMigration.Proofs.Run.Outcome

/-!
# What is assumed of a database

A database is seen through a function from the state behind its adapter: what statements
see, and what they saw before the open transaction began. Only a commit makes the effects
of a transaction durable. A statement that fails has no effect; it may make the open
transaction fail with it, so that all that is left is to give it up.

The files are seen through a function too. An adapter may change what that does not show,
such as the file of a database.
-/

namespace SchemaMigration

/-- A database as its client sees it. -/
inductive Standing (γ : Type) where
  /-- No transaction is open. -/
  | idle (contents : γ)
  /-- A transaction is open, and none of its statements has made it fail. `saved` is what
  there was when it began. -/
  | within (contents saved : γ)
  | failed (saved : γ)
  deriving DecidableEq, Repr

namespace Standing

variable {γ : Type}

def contents : Standing γ → γ
  | idle g | within g _ | failed g => g

/-- What there was before the open transaction. -/
def saved : Standing γ → Option γ
  | idle _ => none
  | within _ g | failed g => some g

/-- What is left when the connection is lost. -/
def durable : Standing γ → γ
  | idle g | within _ g | failed g => g

def begin (v : Standing γ) : Standing γ := within v.contents v.contents

def commit (v : Standing γ) : Standing γ := idle v.contents

def giveUp (v : Standing γ) : Standing γ := idle v.durable

def change (f : γ → γ) : Standing γ → Standing γ
  | idle g => idle (f g)
  | within g before => within (f g) before
  | failed before => failed before

/-- The open transaction, if there is one, fails. -/
def spoil : Standing γ → Standing γ
  | idle g => idle g
  | within _ before | failed before => failed before

@[simp] theorem durable_idle (g : γ) : (idle g).durable = g := rfl

@[simp] theorem contents_idle (g : γ) : (idle g).contents = g := rfl

@[simp] theorem durable_giveUp (v : Standing γ) : v.giveUp.durable = v.durable := rfl

@[simp] theorem giveUp_giveUp (v : Standing γ) : v.giveUp.giveUp = v.giveUp := rfl

@[simp] theorem durable_spoil (v : Standing γ) : v.spoil.durable = v.durable := by
  cases v <;> rfl

@[simp] theorem saved_spoil (v : Standing γ) : v.spoil.saved = v.saved := by
  cases v <;> rfl

@[simp] theorem change_change (f f' : γ → γ) (v : Standing γ) :
    (v.change f).change f' = v.change fun g => f' (f g) := by
  cases v <;> rfl

@[simp] theorem change_id (v : Standing γ) : v.change id = v := by
  cases v <;> rfl

theorem eq_of_saved_none {v : Standing γ} (h : v.saved = none) : v = idle v.durable := by
  cases v with
  | idle => rfl
  | within | failed => simp [saved] at h

theorem eq_idle {v : Standing γ} (h : v.saved = none) : v = idle v.contents := by
  rw [eq_of_saved_none h]
  rfl

theorem durable_of_saved {v : Standing γ} {g : γ} (h : v.saved = some g) : v.durable = g := by
  cases v with
  | idle => simp [saved] at h
  | within | failed => exact Option.some.inj h

/-- What a statement that fails may leave behind. -/
def Spares (v w : Standing γ) : Prop := w = v ∨ w = v.spoil

@[simp] theorem spares_idle {g : γ} {w : Standing γ} : (idle g).Spares w ↔ w = idle g := or_self_iff

theorem Spares.durable_eq {v w : Standing γ} (h : v.Spares w) : w.durable = v.durable := by
  rcases h with rfl | rfl
  · rfl
  · exact durable_spoil v

theorem Spares.saved_eq {v w : Standing γ} (h : v.Spares w) : w.saved = v.saved := by
  rcases h with rfl | rfl
  · rfl
  · exact saved_spoil v

end Standing

/-- What statements mean: what a statement makes of the contents when it succeeds, which
ids the ledger holds, and which statements begin or end transactions. An absent ledger
table counts as an empty one. -/
structure Semantics (γ : Type) where
  effect : Statement → γ → γ
  ledger : γ → List String
  control : String → Prop

namespace Semantics

variable {γ : Type} (m : Semantics γ)

/-- What statements make of the contents, one after the other. -/
def run (statements : List Statement) (g : γ) : γ := statements.foldl (fun g st => m.effect st g) g

@[simp] theorem run_nil (g : γ) : m.run [] g = g := rfl

@[simp] theorem run_cons (st : Statement) (rest : List Statement) (g : γ) :
    m.run (st :: rest) g = m.run rest (m.effect st g) := rfl

@[simp] theorem run_append (first rest : List Statement) (g : γ) :
    m.run (first ++ rest) g = m.run rest (m.run first g) := List.foldl_append

theorem change_run_append (first rest : List Statement) (v : Standing γ) :
    v.change (m.run (first ++ rest)) = (v.change (m.run first)).change (m.run rest) := by
  rw [Standing.change_change]
  exact congrArg v.change (funext (m.run_append first rest))

end Semantics

/-! ## The ledger as statements -/

def Ledger.insertion (dialect : Dialect) (id : String) : Statement :=
  ⟨Ledger.insertSql dialect, [.text id]⟩

def Ledger.deletion (dialect : Dialect) (id : String) : Statement :=
  ⟨Ledger.deleteSql dialect, [.text id]⟩

/-- What a migration in a direction writes into the ledger. -/
def Ledger.entry (dialect : Dialect) : Direction → String → Statement
  | .up, id => insertion dialect id
  | .down, id => deletion dialect id

/-- The statements of the ledger do what they are for. -/
structure Keeping {γ : Type} (m : Semantics γ) (dialect : Dialect) : Prop where
  insertion : ∀ id g, id ∉ m.ledger g →
    (m.ledger (m.effect (Ledger.insertion dialect id) g)).Perm (id :: m.ledger g)
  deletion : ∀ id g,
    (m.ledger (m.effect (Ledger.deletion dialect id) g)).Perm ((m.ledger g).filter (· ≠ id))

/-- The statement does not write the ledger. -/
def Semantics.SparesLedger {γ : Type} (m : Semantics γ) (st : Statement) : Prop :=
  ∀ g, m.ledger (m.effect st g) = m.ledger g

/-- The statement leaves the ledger and the transaction of the runner alone. -/
def Semantics.Harmless {γ : Type} (m : Semantics γ) (st : Statement) : Prop :=
  ¬ m.control st.sql ∧ m.SparesLedger st

theorem Semantics.ledger_run {γ : Type} {m : Semantics γ} {statements : List Statement}
    (h : ∀ st ∈ statements, m.SparesLedger st) (g : γ) :
    m.ledger (m.run statements g) = m.ledger g := by
  induction statements generalizing g with
  | nil => rfl
  | cons st rest ih =>
    rw [run_cons, ih fun st hst => h st (List.mem_cons_of_mem _ hst)]
    exact h st List.mem_cons_self g

/-! ## Adapters -/

section Adapters

variable {δ γ σ : Type}

/-- The options of the statements of a batch. -/
def Adapter.batchOptions (a : Adapter δ) : QueryOptions := { pinned := a.transactional }

/-- The call makes the given change if it succeeds, and none if it fails. -/
def Changes (view : δ → Standing γ) (sight : Files.FileTree → σ)
    (change : Standing γ → Standing γ) {α : Type} (call : Action δ α) (s : Session δ) : Prop :=
  Ends call s fun result t =>
    sight t.files = sight s.files ∧ match result with
      | .ok _ => view t.database = change (view s.database)
      | .error _ => (view s.database).Spares (view t.database)

theorem Changes.andThen {view : δ → Standing γ} {sight : Files.FileTree → σ}
    {change : Standing γ → Standing γ} {α β : Type} {call : Action δ α} {f : α → Action δ β}
    {s : Session δ} (h : Changes view sight change call s)
    (hquiet : ∀ x t, Ends (f x) t fun result u =>
      (∃ y, result = .ok y) ∧ u.files = t.files ∧ u.database = t.database) :
    Changes view sight change (call >>= f) s := by
  refine Ends.bind h ?_ ?_
  · rintro x t ⟨hf, hd⟩
    refine (hquiet x t).mono ?_
    rintro _ u ⟨⟨y, rfl⟩, hfiles, hdatabase⟩
    exact ⟨hfiles ▸ hf, hdatabase ▸ hd⟩
  · rintro e t ⟨hf, hd⟩
    exact ⟨hf, hd⟩

theorem Changes.execute {a : Adapter δ} {view : δ → Standing γ} {sight : Files.FileTree → σ}
    {change : Standing γ → Standing γ} {sql : String} {params : List SqlValue}
    {options : QueryOptions} {s : Session δ}
    (h : Changes view sight change (a.query sql params options) s) :
    Changes view sight change (a.execute sql params options) s :=
  h.andThen fun _ _ => ⟨⟨_, rfl⟩, rfl, rfl⟩

section Idle

variable {α : Type} {view : δ → Standing γ} {sight : Files.FileTree → σ} {call : Action δ α}
variable {s : Session δ} {g : γ}

/-- How an idle database stands after a call that makes the given change if it succeeds. -/
def Standing.after (change : Standing γ → Standing γ) (g : γ) : Except MigrationError α → Standing γ
  | .ok _ => change (idle g)
  | .error _ => idle g

theorem Changes.of_idle {change : Standing γ → Standing γ} (h : Changes view sight change call s)
    (hv : view s.database = .idle g) :
    Ends call s fun result t =>
      sight t.files = sight s.files ∧ view t.database = .after change g result := by
  unfold Changes at h
  rw [hv] at h
  refine h.mono ?_
  rintro (e | x) t ⟨hf, hw⟩
  · exact ⟨hf, Standing.spares_idle.mp hw⟩
  · exact ⟨hf, hw⟩

theorem Changes.stays_idle (h : Changes view sight id call s) (hv : view s.database = .idle g) :
    Ends call s fun _ t => sight t.files = sight s.files ∧ view t.database = .idle g := by
  refine (h.of_idle hv).mono ?_
  rintro (e | x) t hw
  · exact hw
  · exact hw

end Idle

/-- The call may give up an open transaction and does nothing else. -/
def Closes (view : δ → Standing γ) (sight : Files.FileTree → σ) (call : Action δ Unit)
    (s : Session δ) : Prop :=
  Ends call s fun _ t =>
    sight t.files = sight s.files ∧
      (view t.database = view s.database ∨ view t.database = (view s.database).giveUp)

/-- The adapter deals with a database as the semantics says, and changes no files that are
in sight. -/
structure Lawful (a : Adapter δ) (m : Semantics γ) (view : δ → Standing γ)
    (sight : Files.FileTree → σ) : Prop where
  getClient : ∀ s, Changes view sight id a.getClient s
  releaseClient : ∀ s, Closes view sight a.releaseClient s
  disconnect : ∀ s, Closes view sight a.disconnect s
  /-- A statement that is only shown changes nothing. -/
  shown : ∀ s sql params options, options.dryRun = true →
    Changes view sight id (a.query sql params options) s
  /-- Outside of transactions the ledger is made and read; its ids come in any order. -/
  ensureLedger : ∀ s options, options.dryRun = false → (view s.database).saved = none →
    Changes view sight id (a.ensureLedger options) s
  readLedger : ∀ s options, options.dryRun = false → (view s.database).saved = none →
    Changes view sight id (a.readLedger options) s ∧
      Ends (a.readLedger options) s fun result _ =>
        ∀ ids, result = .ok ids → ids.Perm (m.ledger (view s.database).contents)
  begin : ∀ s, (view s.database).saved = none →
    Changes view sight .begin (a.begin a.batchOptions) s
  /-- Nothing is assumed of the commit of a transaction that has failed. -/
  commit : ∀ s g before, view s.database = .within g before →
    Changes view sight .commit (a.commit a.batchOptions) s
  rollback : ∀ s, (view s.database).saved.isSome →
    Changes view sight .giveUp (a.rollback a.batchOptions) s
  /-- All other statements have their effect, in a transaction or outside. -/
  execute : ∀ s st, ¬ m.control st.sql →
    Changes view sight (.change (m.effect st)) (a.execute st.sql st.params a.batchOptions) s
  recordId : ∀ s id, Changes view sight (.change (m.effect (Ledger.insertion a.dialect id)))
    (a.recordId id a.batchOptions) s
  removeId : ∀ s id, Changes view sight (.change (m.effect (Ledger.deletion a.dialect id)))
    (a.removeId id a.batchOptions) s

/-- Closing the connection gives an open transaction up, also when it reports a failure. -/
def Discards (a : Adapter δ) (view : δ → Standing γ) : Prop :=
  ∀ s, Ends a.disconnect s fun _ t => (view t.database).saved = none

end Adapters

end SchemaMigration
