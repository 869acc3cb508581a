import SchemaMigration.Database.Adapter

/-!
# Engines and links

An engine is a database system as its clients see it: connections are opened and
closed, and statements are carried out on them. A link is the client's end: which
connection it holds, and what it has sent over which one.
-/

namespace SchemaMigration

/-- A database system whose state has the type `ε`. Errors are its own words. -/
structure Engine (ε : Type) where
  /-- Gives a connection out. -/
  acquire : ε → Except String ε
  execute : String → List SqlValue → ε → Except String (List Row) × ε
  /-- Closes all connections, and may report a failure all the same; an open transaction is
  given up. -/
  close : ε → Except String Unit × ε

/-- The client's end. -/
structure Link (ε : Type) where
  server : ε
  /-- The number of the connection that is held. -/
  client : Option Nat := none
  /-- How many connections have been acquired. -/
  acquired : Nat := 0
  /-- Whether the pool of connections is closed. -/
  closed : Bool := false
  /-- The statements sent, each with the number of the held connection that carried
  it; none where the pool chose one. -/
  journal : List (Option Nat × String) := []

namespace Link

variable {ε : Type}

def closedPool : String := "attempted to acquire a connection on a closed pool"

def update (change : Link ε → Link ε) : Action (Link ε) Unit :=
  modify fun s => { s with database := change s.database }

/-- Acquires one more connection and holds it. -/
def hold (engine : Engine ε) : Action (Link ε) Unit := do
  let link ← Action.database
  match engine.acquire link.server with
  | .error reason => throw (.connection reason)
  | .ok server =>
    update fun link =>
      { link with server, client := some link.acquired, acquired := link.acquired + 1 }

/-- Sends a statement over the connection with the given number. -/
def send (engine : Engine ε) (carrier : Option Nat) (sql : String) (params : List SqlValue) :
    Action (Link ε) (List Row) := do
  let link ← Action.database
  let (result, server) := engine.execute sql params link.server
  Action.setDatabase { link with server, journal := link.journal ++ [(carrier, sql)] }
  Action.ofExcept (result.mapError (MigrationError.ofStatement sql))

/-- Gives up what is held and closes all connections. -/
def shut (engine : Engine ε) : Action (Link ε) (Except String Unit) := do
  let link ← Action.database
  let (result, server) := engine.close link.server
  Action.setDatabase { link with server, client := none }
  return result

end Link

/-! ## Pooled connections -/

namespace Pooled

open Console

variable {ε : Type}

def event (level : Level) (message : String) (fields : List (String × FieldValue)) : Event :=
  { level, target := "lipgrate::adapter::pooled", message, fields }

def dialectField (dialect : Dialect) : String × FieldValue := ("dialect", .shown dialect.name)

def getClient (engine : Engine ε) (dialect : Dialect) : Action (Link ε) Unit := do
  let link ← Action.database
  if link.client.isSome then return
  if link.closed then throw (.connection Link.closedPool)
  Link.hold engine
  Action.tell (event .debug "acquired transactional client" [dialectField dialect])

def releaseClient (dialect : Dialect) : Action (Link ε) Unit := do
  let link ← Action.database
  if link.client.isNone then return
  Link.update ({ · with client := none })
  Action.tell (event .debug "released transactional client" [dialectField dialect])

def query (engine : Engine ε) (dialect : Dialect) (sql : String) (params : List SqlValue)
    (options : QueryOptions) : Action (Link ε) (List Row) := do
  if options.dryRun then return ← previewStatement dialect sql params
  Action.tell <| event .debug "executing" [
    dialectField dialect,
    ("sql", .text (Text.trimmed sql)),
    ("pinned", .shown (toString options.pinned))]
  if options.pinned then
    getClient engine dialect
    Link.send engine (← Action.database).client sql params
  else if (← Action.database).closed then throw (.ofStatement sql Link.closedPool)
  else Link.send engine none sql params

def disconnect (engine : Engine ε) (dialect : Dialect) : Action (Link ε) Unit := do
  releaseClient dialect
  let _ ← Link.shut engine
  Link.update ({ · with closed := true })
  Action.tell (event .info "disconnected" [dialectField dialect])

/-- The adapter of a pool. One connection is held for the pinned statements; the pool
chooses one for each of the others. -/
def adapter (engine : Engine ε) (dialect : Dialect) : Adapter (Link ε) where
  dialect
  transactional := true
  getClient := getClient engine dialect
  releaseClient := releaseClient dialect
  query := query engine dialect
  disconnect := disconnect engine dialect
  dropAll options :=
    match dialect with
    | .postgresql => query engine dialect dropAllSql [] options >>= fun _ => pure ()
    | .mysql | .sqlite => cannotReset dialect

end Pooled

/-! ## A single connection -/

namespace Single

open Console

variable {ε : Type}

def event (level : Level) (message : String) (fields : List (String × FieldValue)) : Event :=
  { level, target := "lipgrate::adapter::sqlite", message, fields }

/-- The connection is made when it is needed first. `prepare` finds the database of
the URL. -/
def connect (engine : Engine ε) (prepare : Action (Link ε) Unit) (url : String) :
    Action (Link ε) Unit := do
  let link ← Action.database
  if link.client.isSome then return
  prepare
  Link.hold engine
  Action.tell (event .info "connected to SQLite database" [("url", .shown url)])

def query (engine : Engine ε) (prepare : Action (Link ε) Unit) (url sql : String)
    (params : List SqlValue) (options : QueryOptions) : Action (Link ε) (List Row) := do
  if options.dryRun then return ← previewStatement .sqlite sql params
  Action.tell <| event .debug "executing" [
    ("dialect", .text Dialect.sqlite.name),
    ("sql", .text (Text.trimmed sql))]
  connect engine prepare url
  Link.send engine (← Action.database).client sql params

def disconnect (engine : Engine ε) : Action (Link ε) Unit := do
  let link ← Action.database
  if link.client.isNone then return
  Action.ofExcept ((← Link.shut engine).mapError MigrationError.connection)
  Action.tell (event .info "disconnected from SQLite database" [])

/-- The adapter of SQLite. All statements share one connection. -/
def adapter (engine : Engine ε) (prepare : Action (Link ε) Unit) (url : String) :
    Adapter (Link ε) where
  dialect := .sqlite
  transactional := false
  getClient := connect engine prepare url
  releaseClient := pure ()
  query := query engine prepare url
  disconnect := disconnect engine
  dropAll _ := cannotReset .sqlite

end Single

end SchemaMigration
