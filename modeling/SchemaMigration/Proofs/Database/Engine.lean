import SchemaMigration.Database.Connect
import SchemaMigration.Proofs.Run.Outcome

/-!
# What adapters do to their links

A statement that is only shown reaches no server. An adapter that lets go of its client, or
closes its connections, does nothing else to its link.
-/

namespace SchemaMigration

theorem previewStatement_spec {δ : Type} (dialect : Dialect) (sql : String)
    (params : List SqlValue) (s : Session δ) :
    Ends (previewStatement dialect sql params) s fun result t =>
      result = .ok [] ∧ t.files = s.files ∧ t.database = s.database := ⟨rfl, rfl, rfl⟩

/-! ## Pooled connections -/

namespace Pooled

variable {ε : Type} {engine : Engine ε} {dialect : Dialect} {s : Session (Link ε)}

/-- The link once the pool is closed. -/
def disconnected (engine : Engine ε) (link : Link ε) : Link ε :=
  { link with server := (engine.close link.server).2, client := none, closed := true }

theorem query_shown (sql : String) (params : List SqlValue) {options : QueryOptions}
    (h : options.dryRun = true) :
    Ends ((adapter engine dialect).query sql params options) s fun result t =>
      result = .ok [] ∧ t.files = s.files ∧ t.database = s.database := by
  show Ends (query engine dialect sql params options) s _
  unfold query
  rw [if_pos h]
  exact previewStatement_spec dialect sql params s

theorem releaseClient_spec (s : Session (Link ε)) :
    Ends (adapter engine dialect).releaseClient s fun result t =>
      result = .ok () ∧ t.files = s.files ∧ t.database = { s.database with client := none } := by
  show Ends (releaseClient dialect) s _
  unfold releaseClient
  refine ends_database_bind.mpr ?_
  split
  · next hnone =>
    rw [← Option.isNone_iff_eq_none.mp hnone]
    exact ⟨rfl, rfl, rfl⟩
  · exact ⟨rfl, rfl, rfl⟩

theorem disconnect_spec (s : Session (Link ε)) :
    Ends (adapter engine dialect).disconnect s fun _ t =>
      t.files = s.files ∧ t.database = disconnected engine s.database := by
  have hshut : ∀ u : Session (Link ε), Ends (do
      let _ ← Link.shut engine
      Link.update ({ · with closed := true })
      Action.tell (event .info "disconnected" [dialectField dialect])) u fun _ t =>
        t.files = u.files ∧ t.database = disconnected engine u.database := fun u => ⟨rfl, rfl⟩
  refine Ends.bind (@releaseClient_spec ε engine dialect s) ?_ ?_
  · rintro _ t ⟨-, hf, hd⟩
    refine (hshut t).mono ?_
    rintro result u ⟨hf', hd'⟩
    exact ⟨hf'.trans hf, by rw [hd', hd]; rfl⟩
  · rintro e t ⟨he, -⟩
    simp at he

end Pooled

/-! ## A single connection -/

namespace Single

variable {ε : Type} {engine : Engine ε} {prepare : Action (Link ε) Unit} {url : String}
variable {s : Session (Link ε)}

/-- The link once its connection is closed. One without a connection is left as it is. -/
def disconnected (engine : Engine ε) (link : Link ε) : Link ε :=
  if link.client.isNone then link
  else { link with server := (engine.close link.server).2, client := none }

theorem disconnected_client (link : Link ε) : (disconnected engine link).client = none := by
  unfold disconnected
  split
  · next hnone => exact Option.isNone_iff_eq_none.mp hnone
  · rfl

theorem query_shown (sql : String) (params : List SqlValue) {options : QueryOptions}
    (h : options.dryRun = true) :
    Ends ((adapter engine prepare url).query sql params options) s fun result t =>
      result = .ok [] ∧ t.files = s.files ∧ t.database = s.database := by
  show Ends (query engine prepare url sql params options) s _
  unfold query
  rw [if_pos h]
  exact previewStatement_spec .sqlite sql params s

/-- Finding the database does not touch the link. -/
def Finds (prepare : Action (Link ε) Unit) : Prop :=
  ∀ s, Ends prepare s fun _ t => t.database = s.database

theorem disconnect_spec (s : Session (Link ε)) :
    Ends (adapter engine prepare url).disconnect s fun _ t =>
      t.files = s.files ∧ t.database = disconnected engine s.database := by
  show Ends (disconnect engine) s _
  unfold disconnect disconnected
  refine ends_database_bind.mpr ?_
  split
  · exact ⟨rfl, rfl⟩
  · have hshut : Ends (Link.shut engine) s fun _ t => t = { s with database :=
        { s.database with server := (engine.close s.database.server).2, client := none } } := rfl
    refine hshut.bind ?_ ?_
    · -- That closing failed is reported when it is done.
      rintro (e | _) t rfl
      · exact ⟨rfl, rfl⟩
      · exact ⟨rfl, rfl⟩
    · rintro e t rfl
      exact ⟨rfl, rfl⟩

end Single

theorem Sqlite.prepare_finds {ε : Type} (url : String) :
    Single.Finds (ε := ε) (Sqlite.prepare url >>= fun _ => pure ()) := by
  intro s
  have hprepared : Ends (Sqlite.prepare url) s fun _ t => t.database = s.database := by
    unfold Sqlite.prepare
    cases Opening.ofUrl url with
    | error reason => rfl
    | ok opening =>
      have hread : Ends (Action.ofExcept (.ok opening) : Action (Link ε) Opening) s
          fun result t => result = .ok opening ∧ t = s := ⟨rfl, rfl⟩
      refine hread.bind ?_ ?_
      · rintro _ t ⟨hopening, rfl⟩
        obtain rfl := Except.ok.inj hopening
        refine ends_files_bind.mpr ?_
        dsimp only
        cases openFile _ t.files with
        | error reason => rfl
        | ok tree => rfl
      · rintro e t ⟨-, rfl⟩
        rfl
  exact hprepared.bind (fun _ _ h => h) fun _ _ h => h

end SchemaMigration
