import SchemaMigration.Proofs.Database.Engine
import SchemaMigration.Proofs.Run.Calls
import SchemaMigration.Proofs.Run.Watched

/-!
# One connection for a whole run

All that a migrate or a rollback sends goes over the connection that was acquired first. It
is held until the cleanup, and released there.
-/

namespace SchemaMigration

variable {ε α : Type} {engine : Engine ε}

/-! ## What a link carries -/

def AdapterCall.sql? : AdapterCall → Option String
  | .query sql _ _ => some sql
  | _ => none

/-- The texts of the queries, in the order in which they were made. -/
def queried (log : Log) : List String := log.filterMap (·.1.sql?)

@[simp] theorem queried_append (first rest : Log) :
    queried (first ++ rest) = queried first ++ queried rest := List.filterMap_append

/-- Between the two links the calls of the log were made. Their queries went over one connection
only: the one that was held before, or the next one to be acquired. It is held from then on, and
calls before it was there have failed. -/
inductive Link.Carried (before : Link ε) : Log → Link ε → Prop
  | idle {log : Log} {after : Link ε} (unheld : before.client = none) (still : after.client = none)
      (failed : ∀ call ∈ log, call.2 ≠ none) (acquired : after.acquired = before.acquired)
      (journal : after.journal = before.journal) : Carried before log after
  | opened {refused log : Log} {after : Link ε} (unheld : before.client = none)
      (failed : ∀ call ∈ refused, call.2 ≠ none) (held : after.client = some before.acquired)
      (acquired : after.acquired = before.acquired + 1)
      (journal : after.journal = before.journal ++ (queried log).map (some before.acquired, ·)) :
      Carried before (refused ++ log) after
  | held {log : Log} {after : Link ε} (client : Nat) (held : before.client = some client)
      (still : after.client = some client) (acquired : after.acquired = before.acquired)
      (journal : after.journal = before.journal ++ (queried log).map (some client, ·)) :
      Carried before log after

namespace Link.Carried

variable {first second third : Link ε} {log later : Log}

theorem refl (link : Link ε) : link.Carried [] link := by
  cases hclient : link.client with
  | none => exact .idle hclient hclient (List.forall_mem_nil _) rfl rfl
  | some client => exact .held client hclient hclient rfl (by simp [queried])

theorem at_once {before after : Link ε} (hunheld : before.client = none)
    (hheld : after.client = some before.acquired) (hacquired : after.acquired = before.acquired + 1)
    (hjournal : after.journal = before.journal ++ (queried log).map (some before.acquired, ·)) :
    before.Carried log after :=
  @opened ε before [] log after hunheld (List.forall_mem_nil _) hheld hacquired hjournal

theorem trans (h : first.Carried log second) (h' : second.Carried later third) :
    first.Carried (log ++ later) third := by
  rcases h with ⟨hunheld, hstill, hfailed, hacquired, hjournal⟩ |
    @⟨refused, log, _, hunheld, hfailed, hheld, hacquired, hjournal⟩ |
    ⟨client, hheld, hstill, hacquired, hjournal⟩
  · rcases h' with ⟨-, hstill', hfailed', hacquired', hjournal'⟩ |
      @⟨refused, later, _, -, hfailed', hheld', hacquired', hjournal'⟩ | ⟨client', hheld', -, -, -⟩
    · refine .idle hunheld hstill' ?_ (hacquired'.trans hacquired) (hjournal'.trans hjournal)
      exact List.forall_mem_append.mpr ⟨hfailed, hfailed'⟩
    · rw [hacquired] at hheld' hacquired' hjournal'
      rw [hjournal] at hjournal'
      rw [← List.append_assoc]
      exact .opened hunheld (List.forall_mem_append.mpr ⟨hfailed, hfailed'⟩) hheld' hacquired' hjournal'
    · simp [hstill] at hheld'
  · rcases h' with ⟨hunheld', -, -, -, -⟩ | @⟨_, _, _, hunheld', -, -, -, -⟩ |
      ⟨client', hheld', hstill', hacquired', hjournal'⟩
    · simp [hheld] at hunheld'
    · simp [hheld] at hunheld'
    · obtain rfl : first.acquired = client' := Option.some.inj (hheld.symm.trans hheld')
      rw [List.append_assoc]
      refine .opened hunheld hfailed hstill' (hacquired'.trans hacquired) ?_
      rw [hjournal', hjournal, queried_append, List.map_append, List.append_assoc]
  · rcases h' with ⟨hunheld', -, -, -, -⟩ | @⟨_, _, _, hunheld', -, -, -, -⟩ |
      ⟨client', hheld', hstill', hacquired', hjournal'⟩
    · simp [hstill] at hunheld'
    · simp [hstill] at hunheld'
    · obtain rfl : client = client' := Option.some.inj (hstill.symm.trans hheld')
      refine .held client hheld hstill' (hacquired'.trans hacquired) ?_
      rw [hjournal', hjournal, queried_append, List.map_append, List.append_assoc]

end Link.Carried

/-! ## Securing a connection -/

/-- A connection is held: the one of before, or the next one. -/
inductive Link.Secured (before : Link ε) : Link ε → Prop
  | held (client : Nat) (held : before.client = some client) : Secured before before
  | opened (server : ε) (unheld : before.client = none) : Secured before
      { before with server, client := some before.acquired, acquired := before.acquired + 1 }

/-- The call secures a connection, or there is none, and then it fails. -/
def Secures (call : Action (Link ε) α) (s : Session (Link ε)) : Prop :=
  Ends call s fun result t => match result with
    | .ok _ => s.database.Secured t.database
    | .error _ => s.database.client = none ∧ t.database = s.database

section Links

variable {s : Session (Link ε)} {call : Action (Link ε) Unit}

theorem secures_hold (engine : Engine ε) (hnone : s.database.client = none) :
    Secures (Link.hold engine) s := by
  unfold Secures Link.hold
  rw [ends_database_bind]
  cases engine.acquire s.database.server with
  | error reason => exact ends_throw.mpr ⟨hnone, rfl⟩
  | ok server => exact Link.Secured.opened server hnone

theorem Secures.told (h : Secures call s) (e : Console.Event) :
    Secures (call >>= fun _ => Action.tell e) s :=
  Ends.bind h (fun _ _ ht => ht) fun _ _ ht => ht

theorem Secures.carried (h : Secures call s) {name : AdapterCall} (hname : name.sql? = none) :
    Ends call s fun result t => s.database.Carried [(name, failure? result)] t.database := by
  have hnothing : ∀ failure : Option MigrationError, queried [(name, failure)] = [] := by
    intro failure
    simp [queried, hname]
  refine Ends.mono h ?_
  rintro (e | _) t ht
  · obtain ⟨hnone, hsame⟩ := ht
    rw [hsame]
    exact .idle hnone hnone (by simp [failure?]) rfl rfl
  · generalize t.database = after at ht
    cases ht with
    | held client hheld =>
      exact .held client hheld hheld rfl (by rw [hnothing]; exact (List.append_nil _).symm)
    | opened server hnone =>
      exact .at_once hnone rfl rfl (by rw [hnothing]; exact (List.append_nil _).symm)

theorem send_spec (engine : Engine ε) (carrier : Option Nat) (sql : String) (params : List SqlValue) :
    Ends (Link.send engine carrier sql params) s fun _ t =>
      t.database = { s.database with
        server := (engine.execute sql params s.database.server).2
        journal := s.database.journal ++ [(carrier, sql)] } := rfl

/-- A statement is sent over the connection that was secured for it. -/
theorem carried_of_secures (h : Secures call s) (engine : Engine ε) (sql : String)
    (params : List SqlValue) (options : QueryOptions) :
    Ends (call >>= fun _ => Action.database >>= fun link =>
      Link.send engine link.client sql params) s fun result t =>
        s.database.Carried [(.query sql params options, failure? result)] t.database := by
  refine Ends.bind h ?_ ?_
  · rintro _ t ht
    have hsecured : s.database.Secured t.database := ht
    refine ends_database_bind.mpr ((send_spec engine t.database.client sql params).mono ?_)
    intro result u hu
    rw [hu]
    generalize t.database = middle at hsecured
    cases hsecured with
    | held client hheld => exact .held client hheld hheld rfl (by rw [hheld]; rfl)
    | opened server hnone => exact .at_once hnone rfl rfl rfl
  · rintro e t ⟨hnone, hsame⟩
    rw [hsame]
    exact .idle hnone hnone (by simp [failure?]) rfl rfl

end Links

/-! ## The adapters -/

theorem Pooled.getClient_secures {dialect : Dialect} (s : Session (Link ε)) :
    Secures (adapter engine dialect).getClient s := by
  show Secures (getClient engine dialect) s
  unfold getClient
  refine ends_database_bind.mpr ?_
  obtain hnone | ⟨client, hclient⟩ := Option.eq_none_or_eq_some s.database.client
  · rw [if_neg (by simp [hnone])]
    dsimp only
    split
    · exact ends_throw.mpr ⟨hnone, rfl⟩
    · exact (secures_hold engine hnone).told _
  · rw [if_pos (by simp [hclient])]
    exact Link.Secured.held client hclient

theorem Pooled.query_carried {dialect : Dialect} (s : Session (Link ε)) (sql : String)
    (params : List SqlValue) {options : QueryOptions} (hdry : options.dryRun = false)
    (hpinned : options.pinned = true) :
    Ends ((adapter engine dialect).query sql params options) s fun result t =>
      s.database.Carried [(.query sql params options, failure? result)] t.database := by
  show Ends (query engine dialect sql params options) s _
  unfold query
  rw [if_neg (by simp [hdry])]
  refine ends_tell_bind.mpr ?_
  rw [if_pos hpinned]
  exact carried_of_secures (getClient_secures _) engine sql params options

theorem Single.getClient_secures {prepare : Action (Link ε) Unit} {url : String}
    (hprepare : Finds prepare) (s : Session (Link ε)) :
    Secures (adapter engine prepare url).getClient s := by
  show Secures (connect engine prepare url) s
  unfold connect
  refine ends_database_bind.mpr ?_
  obtain hnone | ⟨client, hclient⟩ := Option.eq_none_or_eq_some s.database.client
  · rw [if_neg (by simp [hnone])]
    refine Ends.bind (hprepare s) ?_ ?_
    · intro _ t ht
      have hopened := (secures_hold engine (s := t) (by rw [ht, hnone])).told
        (event .info "connected to SQLite database" [("url", .shown url)])
      rw [Secures, ht] at hopened
      exact hopened
    · intro e t ht
      exact ⟨hnone, ht⟩
  · rw [if_pos (by simp [hclient])]
    exact Link.Secured.held client hclient

theorem Single.query_carried {prepare : Action (Link ε) Unit} {url : String}
    (hprepare : Finds prepare) (s : Session (Link ε)) (sql : String) (params : List SqlValue)
    {options : QueryOptions} (hdry : options.dryRun = false) :
    Ends ((adapter engine prepare url).query sql params options) s fun result t =>
      s.database.Carried [(.query sql params options, failure? result)] t.database := by
  show Ends (query engine prepare url sql params options) s _
  unfold query
  rw [if_neg (by simp [hdry])]
  exact ends_tell_bind.mpr
    (carried_of_secures (getClient_secures hprepare _) engine sql params options)

/-! ## Runs -/

/-- The calls that were made in between went over one connection only. -/
def OverOne (run next : Run (Traced (Link ε))) : Prop :=
  ∃ log, next.calls = run.calls ++ log ∧
    run.session.database.inner.Carried log next.session.database.inner

theorem fileless_overOne : Fileless (OverOne (ε := ε)) := by
  intro run next h
  refine ⟨[], ?_, ?_⟩
  · rw [Run.calls, Run.calls, h, List.append_nil]
  · rw [h]
    exact .refl _

instance : Frame (OverOne (ε := ε)) where
  same h := fileless_overOne _ _ h.database
  trans := by
    rintro first second third ⟨log, hcalls, hcarried⟩ ⟨later, hcalls', hcarried'⟩
    refine ⟨log ++ later, ?_, hcarried.trans hcarried'⟩
    rw [hcalls', hcalls, List.append_assoc]

theorem record_overOne {call : Action (Link ε) α} {name : AdapterCall}
    (h : ∀ s, Ends call s fun result t =>
      s.database.Carried [(name, failure? result)] t.database) :
    Preserves OverOne (RunAction.ofAction (Traced.record name call)) := by
  intro run
  refine ends_ofAction.mpr ((record_spec (h run.session.untraced)).mono ?_)
  rintro result t ⟨hcarried, hcalls⟩
  exact ⟨_, hcalls, hcarried⟩

namespace Runner

variable {a : Adapter (Link ε)} {c : Catalog}

theorem pooled_permits {dialect : Dialect} :
    (watching (Pooled.adapter engine dialect) c).Permits OverOne where
  files _ := fileless_overOne
  getClient _ := record_overOne fun s => (Pooled.getClient_secures s).carried rfl
  query sql params _ hsuits :=
    record_overOne fun s => Pooled.query_carried s sql params hsuits.dryRun (hsuits.pinned rfl)

theorem single_permits {prepare : Action (Link ε) Unit} {url : String}
    (hprepare : Single.Finds prepare) :
    (watching (Single.adapter engine prepare url) c).Permits OverOne where
  files _ := fileless_overOne
  getClient _ := record_overOne fun s => (Single.getClient_secures hprepare s).carried rfl
  query sql params _ hsuits :=
    record_overOne fun s => Single.query_carried hprepare s sql params hsuits.dryRun

/-- Up to its end the body sends all it sends over one connection. The cleanup makes of the
link what `shut` says, and then no connection is held. The body is run twice, once with its calls
written down. -/
structure Connected (shut : Link ε → Link ε) (s : Session (Link ε))
    (watched : RunAction (Traced (Link ε)) α) (body : RunAction (Link ε) α)
    (finished : Except MigrationError α × RunState × Session (Link ε)) : Prop where
  carried : s.database.Carried (watched.run { session := s.watched }).2.calls
    (body.run { session := s }).2.session.database
  shut : finished.2.2.database = shut (body.run { session := s }).2.session.database
  released : finished.2.2.database.client = none

theorem connected_of_permits {watched : RunAction (Traced (Link ε)) α} {body : RunAction (Link ε) α}
    (hsame : SameRun watched body) (hwatched : Preserves OverOne watched)
    (release close : Link ε → Link ε)
    (hrelease : ∀ s, Ends a.releaseClient s fun _ t =>
      t.files = s.files ∧ t.database = release s.database)
    (hclose : ∀ s, Ends a.disconnect s fun _ t =>
      t.files = s.files ∧ t.database = close s.database)
    (hreleased : ∀ link, (close link).client = none) (s : Session (Link ε)) :
    Connected (fun link => close (release link)) s watched body
      (({ adapter := a, catalog := c : Runner (Link ε) }.command body).start s) := by
  have hself : Ends body { session := s } fun _ next =>
      next.session.database = (body.run { session := s }).2.session.database := rfl
  obtain ⟨mid, hmid, -, hdatabase⟩ :=
    command_closes (r := { adapter := a, catalog := c }) hrelease hclose hself
  rw [hmid] at hdatabase
  refine ⟨?_, hdatabase, ?_⟩
  · obtain ⟨log, hcalls, hcarried⟩ := hwatched { session := s.watched }
    have hlog : (watched.run { session := s.watched }).2.calls = log := hcalls
    have hbody : body.run { session := s } = _ := hsame { session := s.watched }
    rw [hlog, hbody]
    exact hcarried
  · show ((Runner.command _ body).run { session := s }).2.session.database.client = none
    rw [hdatabase]
    exact hreleased _

/-- Whichever calls fail, a migrate or a rollback sends all its statements over one connection:
the one that was held before, or else the one that it acquires first. Neither a pool nor the
adapter of SQLite acquires another one, and no connection is held when the command is over. -/
theorem one_connection_carries {ε : Type} (engine : Engine ε) (c : Catalog) (s : Session (Link ε)) :
    (∀ dialect, let r : Runner (Link ε) := { adapter := Pooled.adapter engine dialect, catalog := c }
      let watched := watching (Pooled.adapter engine dialect) c
      Connected (Pooled.disconnected engine) s watched.migrateBody r.migrateBody (r.migrate.start s) ∧
        Connected (Pooled.disconnected engine) s watched.rollbackBody r.rollbackBody
          (r.rollback.start s)) ∧
    ∀ url, let a := Single.adapter engine (Sqlite.prepare url >>= fun _ => pure ()) url
      let r : Runner (Link ε) := { adapter := a, catalog := c }
      let watched := watching a c
      Connected (Single.disconnected engine) s watched.migrateBody r.migrateBody (r.migrate.start s) ∧
        Connected (Single.disconnected engine) s watched.rollbackBody r.rollbackBody
          (r.rollback.start s) := by
  refine ⟨fun dialect => ?_, fun url => ?_⟩
  · intro r watched
    have hpermits : watched.Permits OverOne := pooled_permits
    have hconnected : ∀ {α : Type} {x : RunAction (Traced (Link ε)) α} {y : RunAction (Link ε) α},
        SameRun x y → Preserves OverOne x →
        Connected (Pooled.disconnected engine) s x y ((r.command y).start s) := fun hsame hx =>
      connected_of_permits hsame hx ({ · with client := none }) (Pooled.disconnected engine)
        (fun u => (Pooled.releaseClient_spec u).mono fun _ _ h => h.2) Pooled.disconnect_spec
        (fun _ => rfl) s
    exact ⟨hconnected (sameRun_migrateBody _ c false) (migrateBody_preserves hpermits),
      hconnected (sameRun_rollbackBody _ c false) (rollbackBody_preserves hpermits)⟩
  · intro a r watched
    have hpermits : watched.Permits OverOne := single_permits (Sqlite.prepare_finds url)
    have hconnected : ∀ {α : Type} {x : RunAction (Traced (Link ε)) α} {y : RunAction (Link ε) α},
        SameRun x y → Preserves OverOne x →
        Connected (Single.disconnected engine) s x y ((r.command y).start s) := fun hsame hx =>
      connected_of_permits hsame hx id (Single.disconnected engine) (fun u => ⟨rfl, rfl⟩)
        Single.disconnect_spec Single.disconnected_client s
    exact ⟨hconnected (sameRun_migrateBody a c false) (migrateBody_preserves hpermits),
      hconnected (sameRun_rollbackBody a c false) (rollbackBody_preserves hpermits)⟩

end Runner

end SchemaMigration
