import SchemaMigration.Run.Commands

/-!
# How a computation ends

`Ends a s post`: started in the state `s`, the computation `a` ends with a result and
a state that are as `post` says. Each way of putting computations together has a rule.
-/

namespace SchemaMigration

section Ends

variable {σ α β : Type} {a : ExceptT MigrationError (StateM σ) α} {s : σ}

/-- The result of `a` and the state after it are as `post` says. -/
def Ends (a : ExceptT MigrationError (StateM σ) α) (s : σ)
    (post : Except MigrationError α → σ → Prop) : Prop :=
  post (a.run s).1 (a.run s).2

theorem ends_iff {result : Except MigrationError α} {t : σ} (hrun : a.run s = (result, t))
    {post : Except MigrationError α → σ → Prop} : Ends a s post ↔ post result t := by
  unfold Ends
  rw [hrun]

theorem ends_of_result {result : Except MigrationError α} (hsame : (a.run s).1 = result) :
    ∃ t, a.run s = (result, t) :=
  ⟨_, Prod.ext hsame rfl⟩

theorem Ends.mono {post post' : Except MigrationError α → σ → Prop} (h : Ends a s post)
    (himp : ∀ result t, post result t → post' result t) : Ends a s post' :=
  himp _ _ h

theorem Ends.and {post post' : Except MigrationError α → σ → Prop} (h : Ends a s post)
    (h' : Ends a s post') : Ends a s fun result t => post result t ∧ post' result t :=
  ⟨h, h'⟩

theorem run_bind {f : α → ExceptT MigrationError (StateM σ) β} :
    (a >>= f).run s =
      match a.run s with
      | (.ok x, t) => (f x).run t
      | (.error e, t) => (.error e, t) := by
  show (ExceptT.bindCont f (a.run s).1) (a.run s).2 = _
  rcases a.run s with ⟨_ | _, _⟩ <;> rfl

theorem ends_bind {f : α → ExceptT MigrationError (StateM σ) β}
    {post : Except MigrationError β → σ → Prop} :
    Ends (a >>= f) s post ↔ Ends a s fun
      | .ok x, t => Ends (f x) t post
      | .error e, t => post (.error e) t := by
  show post ((a >>= f).run s).1 ((a >>= f).run s).2 ↔ _
  rw [run_bind]
  simp only [Ends]
  rcases a.run s with ⟨_ | _, _⟩ <;> rfl

theorem Ends.bind {f : α → ExceptT MigrationError (StateM σ) β}
    {p : Except MigrationError α → σ → Prop} {post : Except MigrationError β → σ → Prop}
    (h : Ends a s p) (hok : ∀ x t, p (.ok x) t → Ends (f x) t post)
    (herror : ∀ e t, p (.error e) t → post (.error e) t) : Ends (a >>= f) s post := by
  refine ends_bind.mpr (h.mono ?_)
  rintro (e | x) t hmid
  · exact herror e t hmid
  · exact hok x t hmid

theorem ends_pure {x : α} {post : Except MigrationError α → σ → Prop} :
    Ends (pure x) s post ↔ post (.ok x) s := Iff.rfl

theorem ends_throw {e : MigrationError} {post : Except MigrationError α → σ → Prop} :
    Ends (throw e) s post ↔ post (.error e) s := Iff.rfl

end Ends

/-! ## The parts of an action -/

section Action

variable {δ α : Type} {s : Session δ} {post : Except MigrationError α → Session δ → Prop}

theorem ends_files_bind {f : Files.FileTree → Action δ α} :
    Ends (Action.files >>= f) s post ↔ Ends (f s.files) s post := Iff.rfl

theorem ends_setFiles_bind {tree : Files.FileTree} {f : Unit → Action δ α} :
    Ends (Action.setFiles tree >>= f) s post ↔ Ends (f ()) { s with files := tree } post := Iff.rfl

theorem ends_database_bind {f : δ → Action δ α} :
    Ends (Action.database >>= f) s post ↔ Ends (f s.database) s post := Iff.rfl

theorem ends_setDatabase_bind {d : δ} {f : Unit → Action δ α} :
    Ends (Action.setDatabase d >>= f) s post ↔ Ends (f ()) { s with database := d } post := Iff.rfl

theorem ends_print_bind {o : Console.Output} {f : Unit → Action δ α} :
    Ends (Action.print o >>= f) s post ↔
      Ends (f ()) { s with transcript := s.transcript ++ [o] } post := Iff.rfl

theorem ends_tell_bind {e : Console.Event} {f : Unit → Action δ α} :
    Ends (Action.tell e >>= f) s post ↔
      Ends (f ()) { s with transcript := s.transcript ++ [.event e] } post := Iff.rfl

end Action

/-! ## The parts of a run -/

section Run

variable {δ α : Type} {run : Run δ}

theorem ends_ofAction {a : Action δ α} {post : Except MigrationError α → Run δ → Prop} :
    Ends (RunAction.ofAction a) run post ↔
      Ends a run.session fun result s => post result { run with session := s } := Iff.rfl

theorem ends_ofExcept {x : Except MigrationError α}
    {post : Except MigrationError α → Run δ → Prop} :
    Ends (RunAction.ofExcept x) run post ↔ post x run := Iff.rfl

theorem ends_outcome {a : RunAction δ α}
    {post : Except MigrationError (Except MigrationError α) → Run δ → Prop} :
    Ends (RunAction.outcome a) run post ↔ Ends a run fun result next => post (.ok result) next :=
  Iff.rfl

/-- The two runs have the same files and the same database; what was printed and the
state of the run may differ. -/
structure SameWorld (run next : Run δ) : Prop where
  files : next.session.files = run.session.files
  database : next.session.database = run.session.database

namespace SameWorld

theorem refl (run : Run δ) : SameWorld run run := ⟨rfl, rfl⟩

theorem trans {first second third : Run δ} (h : SameWorld first second)
    (h' : SameWorld second third) : SameWorld first third :=
  ⟨h'.files.trans h.files, h'.database.trans h.database⟩

end SameWorld

/-- An action that always succeeds and only prints or changes the state of the run. -/
def Quiet (a : RunAction δ Unit) : Prop :=
  ∀ run, Ends a run fun result next => result = .ok () ∧ SameWorld run next

theorem Quiet.bind {a b : RunAction δ Unit} (ha : Quiet a) (hb : Quiet b) :
    Quiet (a >>= fun _ => b) := by
  intro run
  refine (ha run).bind ?_ ?_
  · rintro _ t ⟨-, ht⟩
    exact (hb t).mono fun result next h => ⟨h.1, ht.trans h.2⟩
  · rintro e t ⟨he, -⟩
    simp at he

theorem ends_of_quiet {a : RunAction δ Unit} {f : Unit → RunAction δ α}
    {post : Except MigrationError α → Run δ → Prop} (ha : Quiet a)
    (h : ∀ next, SameWorld run next → Ends (f ()) next post) : Ends (a >>= f) run post := by
  refine (ha run).bind ?_ ?_
  · rintro _ t ⟨-, ht⟩
    exact h t ht
  · rintro e t ⟨he, -⟩
    simp at he

theorem quiet_pure : Quiet (pure () : RunAction δ Unit) := fun run => ⟨rfl, .refl run⟩

theorem quiet_print (o : Console.Output) : Quiet (RunAction.print o : RunAction δ Unit) :=
  fun _ => ⟨rfl, rfl, rfl⟩

theorem quiet_tell (e : Console.Event) : Quiet (RunAction.tell e : RunAction δ Unit) :=
  fun _ => ⟨rfl, rfl, rfl⟩

theorem quiet_enter (r : Runner δ) (state : RunState) : Quiet (r.enter state) :=
  (quiet_tell _).bind fun _ => ⟨rfl, rfl, rfl⟩

theorem quiet_announceDryRun (r : Runner δ) : Quiet r.announceDryRun := by
  unfold Runner.announceDryRun
  split
  · exact quiet_print _
  · exact quiet_pure

end Run

end SchemaMigration
