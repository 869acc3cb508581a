import SchemaMigration.Proofs.Run.Preservation

/-!
# Commands that change nothing

A dry run only shows its statements, and a report only reads the ledger. What is in the
database stays as it is, whatever comes of the command.
-/

namespace SchemaMigration

variable {δ γ σ α : Type} {m : Semantics γ} {view : δ → Standing γ} {sight : Files.FileTree → σ}
variable {v : Standing γ}

/-- A database that is seen as `v` before is seen as `v` after. -/
def Stays (view : δ → Standing γ) (v : Standing γ) (run next : Run δ) : Prop :=
  view run.session.database = v → view next.session.database = v

instance : Frame (Stays view v) where
  same h hrun := by rw [h.database, hrun]
  trans h h' hrun := h' (h hrun)

theorem stays_of_changes {call : Action δ α} (hidle : v.saved = none)
    (h : ∀ s, view s.database = v → Changes view sight id call s) :
    Preserves (Stays view v) (RunAction.ofAction call) := fun run hrun => by
  have hstays := h run.session hrun
  have hcall : Ends (RunAction.ofAction call) run fun _ next => view next.session.database = v := by
    rw [Standing.eq_of_saved_none hidle] at hrun ⊢
    exact ends_ofAction.mpr ((hstays.stays_idle hrun).mono fun _ _ ht => ht.2)
  exact hcall

namespace Runner

variable {r : Runner δ}

theorem permits_of_dryRun (hlaw : Lawful r.adapter m view sight) (hdry : r.dryRun = true)
    (hidle : v.saved = none) : r.Permits (Stays view v) where
  files h := by simp [hdry] at h
  getClient h := by simp [hdry] at h
  query sql params options h :=
    stays_of_changes hidle fun s _ => hlaw.shown s sql params options (h.dryRun.trans hdry)

theorem statusBody_stays (hlaw : Lawful r.adapter m view sight) (hidle : v.saved = none) :
    Preserves (Stays view v) r.statusBody := by
  unfold statusBody
  refine checkDialect_preserves.bind fun _ => (discover_preserves (by simp)).bind fun all => ?_
  refine (Preserves.of_quiet (quiet_enter r _)).bind fun _ => ?_
  refine (stays_of_changes hidle fun s hs => hlaw.ensureLedger s {} rfl (by rw [hs, hidle])).bind fun _ => ?_
  exact (stays_of_changes hidle fun s hs => (hlaw.readLedger s {} rfl (by rw [hs, hidle])).1).bind
    fun completed => .pure _

theorem command_stays (hlaw : Lawful r.adapter m view sight) {body : RunAction δ α} {s : Session δ}
    (hbody : Preserves (Stays view (view s.database)) body) :
    Ends (r.command body) { session := s } fun _ next =>
      (Discards r.adapter view → (view next.session.database).saved = none) ∧
        (view next.session.database).durable = (view s.database).durable := by
  refine (command_spec hlaw (hbody { session := s })).mono ?_
  rintro result next ⟨mid, hmid, -, hdurable, hsaved⟩
  exact ⟨hsaved, by rw [hdurable, hmid rfl]⟩

end Runner

end SchemaMigration
