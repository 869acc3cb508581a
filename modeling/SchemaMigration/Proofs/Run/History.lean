import Mathlib.Data.List.Chain
import SchemaMigration.Proofs.Files.Path
import SchemaMigration.Proofs.Run.Batch

/-!
# The ledger and its history

The invariant that ties the ledger to the migrations that were carried out: it holds
the ids whose last one was up, and up and down take turns.
-/

namespace SchemaMigration

open Files

variable {γ : Type} {m : Semantics γ} {dialect : Dialect} {start : γ}

/-! ## Histories -/

structure Deed where
  direction : Direction
  planned : PlannedMigration
  deriving DecidableEq, Repr

namespace Deed

def id (d : Deed) : String := d.planned.id

def writes (dialect : Dialect) (d : Deed) : List Statement := d.planned.writes dialect d.direction

/-- Its own statements leave the ledger alone. -/
def Spares (m : Semantics γ) (d : Deed) : Prop := ∀ st ∈ d.planned.statements, m.SparesLedger st

end Deed

/-- What a history makes of the contents it started with. -/
def replay (m : Semantics γ) (dialect : Dialect) (start : γ) (history : List Deed) : γ :=
  m.run (history.flatMap (·.writes dialect)) start

@[simp] theorem replay_nil : replay m dialect start [] = start := rfl

theorem replay_append (history more : List Deed) :
    replay m dialect start (history ++ more) =
      replay m dialect (replay m dialect start history) more := by
  simp [replay]

/-- The directions in which a migration was carried out, in order. -/
def directionsOf (id : String) (history : List Deed) : List Direction :=
  (history.filter (·.id = id)).map (·.direction)

theorem directionsOf_snoc (id : String) (history : List Deed) (d : Deed) :
    directionsOf id (history ++ [d]) =
      if d.id = id then directionsOf id history ++ [d.direction] else directionsOf id history := by
  unfold directionsOf
  rw [List.filter_append]
  split
  · next h => simp [h]
  · next h => simp [h]

/-- Up and down take turns, and up comes first. -/
structure Alternates (ds : List Direction) : Prop where
  turns : ds.IsChain (· ≠ ·)
  first : ∀ d, ds.head? = some d → d = .up

theorem Alternates.nil : Alternates [] := ⟨.nil, fun d h => by simp at h⟩

theorem Alternates.snoc {ds : List Direction} {d : Direction} (h : Alternates ds)
    (hd : d = .up ↔ ds.getLast? ≠ some .up) : Alternates (ds ++ [d]) := by
  refine ⟨List.isChain_append.mpr ⟨h.turns, .singleton _, ?_⟩, ?_⟩
  · intro last hlast next hnext
    obtain rfl : d = next := by simpa using hnext
    cases last with
    | up =>
      intro heq
      exact hd.mp heq.symm hlast
    | down =>
      have hup : d = .up := hd.mpr (by simp [Option.mem_def.mp hlast])
      simp [hup]
  · cases ds with
    | nil =>
      intro next hnext
      obtain rfl : d = next := by simpa using hnext
      exact hd.mpr (by simp)
    | cons first rest =>
      intro next hnext
      exact h.first next hnext

/-! ## The invariant -/

/-- What a history that started from an empty ledger is like. -/
structure Sound (m : Semantics γ) (dialect : Dialect) (start : γ) (history : List Deed) : Prop where
  nodup : (m.ledger (replay m dialect start history)).Nodup
  alternates : ∀ id, Alternates (directionsOf id history)
  /-- The ledger holds the ids whose last migration was up. -/
  applied : ∀ id, id ∈ m.ledger (replay m dialect start history) ↔
    (directionsOf id history).getLast? = some .up
  /-- Up is for an id that was not in the ledger, and down for one that was. -/
  guarded : ∀ before d after, history = before ++ d :: after →
    (d.direction = .up ↔ d.id ∉ m.ledger (replay m dialect start before))
  simple : ∀ d ∈ history, Path.IsSimple d.id

namespace Sound

variable {history : List Deed}

theorem nil (hempty : m.ledger start = []) : Sound m dialect start [] where
  nodup := by simp [hempty]
  alternates id := .nil
  applied id := by simp [hempty, directionsOf]
  guarded before d after h := by simp at h
  simple d h := by simp at h

theorem simple_of_mem (h : Sound m dialect start history) {id : String}
    (hid : id ∈ m.ledger (replay m dialect start history)) : Path.IsSimple id := by
  have hup := List.mem_of_getLast? ((h.applied id).mp hid)
  obtain ⟨d, hd, -⟩ := List.mem_map.mp hup
  obtain ⟨hdone, heq⟩ := List.mem_filter.mp hd
  obtain rfl : d.id = id := by simpa using heq
  exact h.simple d hdone

theorem ledger_snoc (hkeeping : Keeping m dialect) {d : Deed} (hspares : d.Spares m)
    (hd : d.direction = .up ↔ d.id ∉ m.ledger (replay m dialect start history)) :
    (m.ledger (replay m dialect start (history ++ [d]))).Perm
      (match d.direction with
        | .up => d.id :: m.ledger (replay m dialect start history)
        | .down => (m.ledger (replay m dialect start history)).filter (· ≠ d.id)) := by
  have hreplay : replay m dialect start (history ++ [d]) =
      m.effect (Ledger.entry dialect d.direction d.id)
        (m.run d.planned.statements (replay m dialect start history)) := by
    simp [replay, Deed.writes, PlannedMigration.writes, Deed.id]
  have hledger := Semantics.ledger_run hspares (replay m dialect start history)
  rw [hreplay, ← hledger]
  cases hdirection : d.direction with
  | up => exact hkeeping.insertion _ _ (by rw [hledger]; exact hd.mp hdirection)
  | down => exact hkeeping.deletion _ _

theorem mem_ledger_snoc (hkeeping : Keeping m dialect) {d : Deed} (hspares : d.Spares m)
    (hd : d.direction = .up ↔ d.id ∉ m.ledger (replay m dialect start history)) {id : String} :
    id ∈ m.ledger (replay m dialect start (history ++ [d])) ↔
      if d.id = id then d.direction = .up else id ∈ m.ledger (replay m dialect start history) := by
  rw [(ledger_snoc hkeeping hspares hd).mem_iff]
  cases d.direction with
  | up =>
    by_cases heq : d.id = id
    · simp [heq]
    · simp [heq, Ne.symm heq]
  | down =>
    by_cases heq : d.id = id
    · simp [heq]
    · simp [heq, Ne.symm heq]

theorem snoc (hkeeping : Keeping m dialect) (h : Sound m dialect start history) {d : Deed}
    (hspares : d.Spares m) (hsimple : Path.IsSimple d.id)
    (hd : d.direction = .up ↔ d.id ∉ m.ledger (replay m dialect start history)) :
    Sound m dialect start (history ++ [d]) where
  nodup := by
    refine (ledger_snoc hkeeping hspares hd).nodup_iff.mpr ?_
    cases hdirection : d.direction with
    | up => exact List.nodup_cons.mpr ⟨hd.mp hdirection, h.nodup⟩
    | down => exact h.nodup.filter _
  alternates id := by
    rw [directionsOf_snoc]
    split
    · next heq =>
      subst heq
      exact (h.alternates d.id).snoc (hd.trans (not_congr (h.applied d.id)))
    · exact h.alternates id
  applied id := by
    rw [mem_ledger_snoc hkeeping hspares hd, directionsOf_snoc]
    split
    · simp
    · exact h.applied id
  guarded before e after heq := by
    rcases List.append_eq_append_iff.mp heq with ⟨rest, rfl, hrest⟩ | ⟨rest, rfl, hrest⟩
    · obtain ⟨rfl, rfl, rfl⟩ : rest = [] ∧ e = d ∧ after = [] := by
        cases rest with
        | nil => simpa [eq_comm] using hrest
        | cons first others => simp at hrest
      simpa using hd
    · cases rest with
      | nil =>
        obtain ⟨rfl, rfl⟩ : e = d ∧ after = [] := by simpa using hrest
        simpa using hd
      | cons first others =>
        obtain ⟨rfl, -⟩ : e = first ∧ after = others ++ [d] := by simpa using hrest
        exact h.guarded before e others rfl
  simple e he := by
    rcases List.mem_append.mp he with he | he
    · exact h.simple e he
    · obtain rfl := List.mem_singleton.mp he
      exact hsimple

theorem append_ups (hkeeping : Keeping m dialect) (batch : List PlannedMigration)
    (hspares : ∀ p ∈ batch, Deed.Spares m ⟨.up, p⟩) (hsimple : ∀ p ∈ batch, Path.IsSimple p.id)
    (hnodup : (batch.map (·.id)).Nodup) (h : Sound m dialect start history)
    (hnew : ∀ p ∈ batch, p.id ∉ m.ledger (replay m dialect start history)) :
    Sound m dialect start (history ++ batch.map (Deed.mk .up)) := by
  induction batch generalizing history with
  | nil => simpa using h
  | cons p rest ih =>
    rw [List.map_cons, List.nodup_cons] at hnodup
    have hp : (Deed.mk .up p).direction = .up ↔
        (Deed.mk .up p).id ∉ m.ledger (replay m dialect start history) :=
      iff_of_true rfl (hnew p List.mem_cons_self)
    have hnext := h.snoc hkeeping (hspares p List.mem_cons_self) (hsimple p List.mem_cons_self) hp
    rw [List.map_cons, List.append_cons]
    refine ih (fun q hq => hspares q (List.mem_cons_of_mem _ hq))
      (fun q hq => hsimple q (List.mem_cons_of_mem _ hq)) hnodup.2 hnext ?_
    intro q hq hmem
    rw [mem_ledger_snoc hkeeping (hspares p List.mem_cons_self) hp] at hmem
    split at hmem
    · next heq => exact hnodup.1 (List.mem_map.mpr ⟨q, hq, heq.symm⟩)
    · exact hnew q (List.mem_cons_of_mem _ hq) hmem

end Sound

end SchemaMigration
