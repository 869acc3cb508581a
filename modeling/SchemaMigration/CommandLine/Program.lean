import SchemaMigration.CommandLine.Arguments
import SchemaMigration.Config.Basic
import SchemaMigration.Database.Connect
import SchemaMigration.Run.Commands
import SchemaMigration.Scaffold

/-!
# The program

Carries out one command line on a session, and tells whether it went well.
-/

namespace SchemaMigration.CommandLine

open Console Files Sqlite

/-- What surrounds the program. -/
structure Environment where
  /-- Where the user keeps configuration files. -/
  userDirectory : Option Path := none
  /-- What is typed in. -/
  input : String := ""
  /-- The stamp of the present time. -/
  stamp : String
  /-- Tables that every database lacks. -/
  absentTables : List String := []

inductive Failure
  | migration (cause : MigrationError)
  | cannotConnect (dialect : Dialect) (cause : MigrationError)

/-- The message of an error with its causes. Errors of the file system are their own
cause. -/
def chain (e : MigrationError) : String :=
  match e with
  | .io cause => e.message ++ ": " ++ cause.message
  | e => e.message

def Failure.message : Failure → String
  | .migration e => chain e
  | .cannotConnect dialect e =>
    "Cannot connect to the " ++ dialect.displayName ++ " database: " ++ chain e

abbrev Databases := Link Storage

abbrev Program := ExceptT Failure (StateM (Session Databases))

namespace Program

variable {α : Type}

def ofAction (a : Action Databases α) : Program α := ExceptT.mk do
  return (← a.run).mapError .migration

def ofRun (a : RunAction Databases α) : Program α := ExceptT.mk fun s =>
  let (result, _, s) := a.start s
  (result.mapError .migration, s)

def print (o : Output) : Program Unit := ofAction (Action.print o)

end Program

/-! ## Configuration -/

/-- Finds the configuration file and reads it. -/
def loadConfig (userDirectory explicit : Option Path) : Action Databases Config := do
  let tree ← Action.files
  let path ← Action.ofExcept (Config.locate tree userDirectory explicit)
  Action.tell {
    level := .debug
    target := "lipgrate::config"
    message := "loading config"
    fields := [("path", .shown path)] }
  Action.ofExcept (Config.ofFile tree path)

/-- The adapter and the catalog that the configuration names. -/
def openDatabase (env : Environment) (args : Arguments) :
    Program (Adapter Databases × Catalog) := do
  let config ← Program.ofAction (loadConfig env.userDirectory args.config)
  let dialect ← Program.ofAction (Action.ofExcept config.dialect)
  let url ← match args.databaseUrl with
    | some url => pure url
    | none => Program.ofAction (Action.ofExcept config.connectionUrl)
  let adapter ← ExceptT.mk do
    return (← (connect env.absentTables dialect url).run).mapError (Failure.cannotConnect dialect)
  return (adapter, { dialect, root := some config.directory })

/-! ## Lines -/

def blankLine : Output := .line []

def statusLine : String × MigrationStatus → Output
  | (id, .applied) => .line [plain "  ", .styled "✔ [Applied]" [.green], plain (" " ++ id)]
  | (id, .pending) => .line [plain "  ", .styled "● [Pending]" [.yellow], plain (" " ++ id)]

def orphanLines (ids : List String) : List Output :=
  if ids = [] then []
  else
    [blankLine, .line [.styled "Applied but missing from the migrations directory:" [.red]]] ++
      ids.map fun id => .line [plain "  ", .styled "✗" [.red], plain (" " ++ id)]

def reportLines (r : StatusReport) : List Output :=
  [.line [.styled "Migration status" [.bold, .cyan]], blankLine] ++
    (if r.entries = [] then [.line [plain "  ", .styled "No migrations found." [.dimmed]]]
      else r.entries.map statusLine) ++
    orphanLines r.orphaned ++
    [blankLine,
      .line [.styled (toString r.appliedCount) [.green], plain " applied, ",
        .styled (toString r.pendingCount) [.yellow], plain " pending"]]

def nextSteps : List Output := [
  blankLine,
  .line [.styled "Next steps:" [.blue]],
  .line [plain "1. Update lipgrate.toml with your database credentials."],
  .line [plain "2. Review the example files in the migrations/ directory."],
  .line [plain "3. Create your first migration with: ",
    .styled "lipgrate create <migration_name>" [.cyan]]]

def printAll (lines : List Output) : Program Unit := lines.forM Program.print

def confirmation : Output :=
  .prompt [.styled "Type 'yes' to drop every table and re-run all migrations: " [.bold, .red]]

/-- Whether the first line typed in is a yes. -/
def confirms (input : String) : Bool :=
  Text.sameAscii (Text.trimmed (String.ofList (input.toList.takeWhile (· ≠ '\n')))) "yes"

/-! ## Commands -/

def runCreate (env : Environment) (args : Arguments) (name : String) (client : Option String) :
    Program Unit := do
  let config ← Program.ofAction (Action.outcome (loadConfig env.userDirectory args.config))
  let (dialect, root) ← Program.ofAction <| Action.ofExcept <|
    match client, config with
    | some client, .ok config => (Dialect.ofString client).map (·, config.directory)
    | some client, .error _ => (Dialect.ofString client).map (·, Config.defaultDirectory)
    | none, .ok config => config.dialect.map (·, config.directory)
    | none, .error e => .error e
  let _ ← Program.ofAction (Scaffold.create dialect root name env.stamp)

def runReset (env : Environment) (args : Arguments) (yes : Bool) : Program Unit := do
  let (adapter, catalog) ← openDatabase env args
  let confirmed ←
    if yes then pure true
    else do
      Program.print confirmation
      pure (confirms env.input)
  if confirmed then
    let _ ← Program.ofRun (Runner.reset { adapter, catalog })
  else
    Program.print (info "Reset cancelled.")
    Program.ofAction adapter.disconnect

def runCommand (env : Environment) (args : Arguments) : Program Unit := do
  match args.command with
  | .init =>
    let report ← Program.ofAction (Scaffold.init "")
    if report.created ≠ [] then printAll nextSteps
  | .create name client => runCreate env args name client
  | .migrate dryRun =>
    let (adapter, catalog) ← openDatabase env args
    let _ ← Program.ofRun (Runner.migrate { adapter, catalog, dryRun })
  | .rollback dryRun =>
    let (adapter, catalog) ← openDatabase env args
    let _ ← Program.ofRun (Runner.rollback { adapter, catalog, dryRun })
  | .status =>
    let (adapter, catalog) ← openDatabase env args
    let report ← Program.ofRun (Runner.status { adapter, catalog })
    printAll (reportLines report)
  | .reset yes => runReset env args yes

/-- Carries a command out. The number is the exit code. -/
def perform (env : Environment) (args : Arguments) (s : Session Databases) :
    Nat × Session Databases :=
  match (runCommand env args).run s with
  | (.ok _, s) => (0, s)
  | (.error e, s) => (1, { s with transcript := s.transcript ++ [failure e.message] })

def versionText : String := "lipgrate 0.3.0"

def usageText : String := "Usage: lipgrate [OPTIONS] <COMMAND>

Commands:
  init                               set a project up
  create <NAME> [--client <CLIENT>]  write a new migration
  migrate [--dry-run]                apply all pending migrations
  rollback [--dry-run]               revert the last applied migration
  status                             show applied and pending migrations
  reset [--yes]                      drop every table and apply all migrations

Options:
  --config <PATH>        the configuration file
  --database-url <URL>   the database, whatever the configuration says
  -v, --verbose          tell more
  -h, --help             show this text
  -V, --version          show the version"

/-- Answers a request. The number is the exit code. -/
def run (env : Environment) (request : Request) (s : Session Databases) :
    Nat × Session Databases :=
  match request with
  | .run args => perform env args s
  | .version => (0, { s with transcript := s.transcript ++ [.line [plain versionText]] })
  | .help => (0, { s with transcript := s.transcript ++ [.line [plain usageText]] })
  | .misuse => (2, { s with transcript := s.transcript ++ [.complaint [plain usageText]] })

/-- Whether a request wants to be told more. -/
def Request.verbose : Request → Bool
  | .run args => args.verbose
  | .help | .version | .misuse => false

def Request.configPath : Request → Option Path
  | .run args => args.config
  | .help | .version | .misuse => none

end SchemaMigration.CommandLine
