import SchemaMigration.Document.Decode
import SchemaMigration.Document.Toml.Reader
import SchemaMigration.Error
import SchemaMigration.Files.Tree
import SchemaMigration.Url.Basic

/-!
# Configuration

The client, the connection and the migrations directory, read from a TOML file.
-/

namespace SchemaMigration

open Document Files

structure Connection where
  url : Option String := none
  host : Option String := none
  port : Option Nat := none
  user : Option String := none
  password : Option String := none
  database : Option String := none
  /-- The database file of SQLite. -/
  filename : Option String := none
  deriving DecidableEq, Repr

structure Config where
  client : Option String := none
  connection : Connection := {}
  directory : Path := "./migrations"
  deriving DecidableEq, Repr

namespace Config

def connectionShape : RecordShape Connection where
  name := "ConnectionConfig"
  strict := true
  fields := [
    .orNone "url" asString fun value c => { c with url := value },
    .orNone "host" asString fun value c => { c with host := value },
    .orNone "port" asPort fun value c => { c with port := value },
    .orNone "user" asString fun value c => { c with user := value },
    .orNone "password" asString fun value c => { c with password := value },
    .orNone "database" asString fun value c => { c with database := value },
    .orNone "filename" asString fun value c => { c with filename := value }]

def migrationsShape : RecordShape Path where
  name := "MigrationsConfig"
  strict := true
  fields := [.orDefault "directory" asPath fun value _ => value]

def defaultDirectory : Path := "./migrations"

def shape : RecordShape Config where
  name := "Config"
  strict := true
  fields := [
    .orNone "client" asString fun value c => { c with client := value },
    .orDefault "connection" (connectionShape.decode .toml {}) fun value c =>
      { c with connection := value },
    .orDefault "migrations" (migrationsShape.decode .toml defaultDirectory) fun value c =>
      { c with directory := value }]

def parse (source : String) : Decoded Config := Toml.decode (shape.decode .toml {}) source

/-! ## Files -/

def ofFile (tree : FileTree) (path : Path) : Except MigrationError Config :=
  match tree.readText path with
  | .error e => .error (.io e)
  | .ok source => (parse source).mapError fun e => .configuration (.unreadable path e)

/-- The configuration file below the directory where a user keeps such files. -/
def userFile (userDirectory : Path) : Path := (userDirectory.join "lipgrate").join configFileName

/-- The configuration file: the one that is asked for, or that in the working
directory, or that of the user. -/
def locate (tree : FileTree) (userDirectory : Option Path) :
    Option Path → Except MigrationError Path
  | some path =>
    if tree.isFile path then .ok path else .error (.configuration (.fileNotFound path))
  | none =>
    match ([configFileName] ++ (userDirectory.map userFile).toList).find? tree.isFile with
    | some path => .ok path
    | none => .error (.configuration .noFile)

/-! ## What it says -/

def dialect (c : Config) : Except MigrationError Dialect :=
  match c.client with
  | some client => Dialect.ofString client
  | none => .error (.configuration .missingClient)

def urlScheme : Dialect → String
  | .postgresql => "postgres"
  | .mysql => "mysql"
  | .sqlite => "sqlite"

/-- Changes a URL for a field that is given. -/
def change {α : Type} (dialect : Dialect) (field : String) (set : α → Url → Option Url)
    (value : Option α) (url : Url) : Except MigrationError Url :=
  match value with
  | none => .ok url
  | some value =>
    match set value url with
    | some url => .ok url
    | none => .error (.configuration (.connectionField field dialect))

/-- The URL of the single fields. The port is always set, so one that is written
after the host is lost. -/
def assembleUrl (dialect : Dialect) (c : Connection) : Except MigrationError String := do
  let text := urlScheme dialect ++ "://" ++ c.host.getD "localhost"
  let url ← (Url.read text).mapError fun _ => .configuration (.connectionField "host" dialect)
  let url ← change dialect "port" Url.setPort? (some c.port) url
  let url ← change dialect "user" Url.setUsername? c.user url
  let url ← change dialect "password" Url.setPassword? c.password url
  return match c.database with
    | some database => (url.setPath database).write
    | none => url.write

/-- The connection URL, as it is given or made of the fields. -/
def connectionUrl (c : Config) : Except MigrationError String := do
  let dialect ← c.dialect
  match c.connection.url with
  | some url => return url
  | none =>
    match dialect with
    | .sqlite =>
      match c.connection.filename with
      | some filename => return "sqlite://" ++ filename ++ "?mode=rwc"
      | none => throw (.configuration .sqliteWithoutFile)
    | .postgresql | .mysql => assembleUrl dialect c.connection

end Config

end SchemaMigration
