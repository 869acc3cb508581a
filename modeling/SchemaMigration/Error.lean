import SchemaMigration.Column.Basic
import SchemaMigration.Dialect
import SchemaMigration.Document.Error

/-!
# Why a run fails

The causes for which a command gives up, and the wording of each.
-/

namespace SchemaMigration

/-- What is wrong with the configuration or the arguments of a command. -/
inductive ConfigurationError
  | unknownClient (client : String)
  | missingClient
  | dialectMismatch (migrations adapter : Dialect)
  | registeredTwice (id directory : String)
  | fileNotFound (path : String)
  | noFile
  | unreadable (path : String) (cause : DecodeError)
  | sqliteWithoutFile
  | connectionField (field : String) (dialect : Dialect)
  | nameRequired
  | nameWithSeparator (name : String)
  | migrationExists (file : String)
  deriving DecidableEq, Repr

/-- The name of the configuration file. -/
def configFileName : String := "lipgrate.toml"

/-- The clients that are named in advice. -/
def clientNames : String := "mysql, postgresql, sqlite"

def ConfigurationError.message : ConfigurationError → String
  | .unknownClient client =>
    "Database client '" ++ client ++ "' is not supported. Expected one of: " ++ clientNames
  | .missingClient => "Missing 'client' in " ++ configFileName ++ ". Expected one of: " ++ clientNames
  | .dialectMismatch migrations adapter =>
    "migrations are for " ++ migrations.name ++ " but the adapter is " ++ adapter.name
  | .registeredTwice id directory =>
    "Migration '" ++ id ++ "' is registered in code and also exists in " ++ directory
  | .fileNotFound path => "Config file not found: " ++ path
  | .noFile => configFileName ++ " not found. Run 'lipgrate init' first."
  | .unreadable path cause => path ++ ": " ++ cause.message .toml
  | .sqliteWithoutFile => "SQLite needs 'connection.filename' or 'connection.url'"
  | .connectionField field dialect => "Invalid connection " ++ field ++ " for " ++ dialect.name
  | .nameRequired => "Migration name is required. Usage: lipgrate create <migration_name>"
  | .nameWithSeparator name => "Migration name '" ++ name ++ "' must not contain path separators"
  | .migrationExists file => "Migration '" ++ file ++ "' already exists"

/-- What a dialect cannot do, with advice. -/
inductive Limitation
  | addForeignKey
  | dropForeignKey
  | alterColumn
  | reset
  deriving DecidableEq, Repr

def Limitation.message : Limitation → String
  | .addForeignKey => "Foreign keys must be defined during table creation."
  | .dropForeignKey => "To drop a foreign key, you must recreate the table."
  | .alterColumn => "Please create a new migration to manage column changes."
  | .reset => "Database reset is only available for PostgreSQL."

/-- Why a migration file cannot be used. -/
inductive LoadError
  /-- The path has no file name, or the file has no readable text. -/
  | unreadable
  | unknownFormat
  | decode (format : Format) (cause : DecodeError)
  deriving DecidableEq, Repr

def LoadError.message : LoadError → String
  | .unreadable => "malformed"
  | .unknownFormat => "expected a .json or .toml file"
  | .decode format cause => cause.message format

/-- Why the file system refuses. -/
inductive FileError
  | notFound
  | exists
  | notADirectory
  | isADirectory
  | nameTooLong
  | invalidName
  | notText
  deriving DecidableEq, Repr

def FileError.message : FileError → String
  | .notFound => "No such file or directory (os error 2)"
  | .exists => "File exists (os error 17)"
  | .notADirectory => "Not a directory (os error 20)"
  | .isADirectory => "Is a directory (os error 21)"
  | .nameTooLong => "File name too long (os error 36)"
  | .invalidName => "file name contained an unexpected NUL byte"
  | .notText => "stream did not contain valid UTF-8"

inductive MigrationError
  | configuration (cause : ConfigurationError)
  /-- A migration without the required prefix. -/
  | namingConvention (file : String)
  /-- An operation without some of the fields that it needs. -/
  | missingFields (operation : String) (fields : List String)
  | invalidColumn (definition : String) (cause : ColumnError)
  | unknownType (name : String) (suggestion : Option String)
  | unsupported (operation : String) (dialect : Dialect) (limitation : Option Limitation)
  /-- The database refused a statement. -/
  | execution (sql reason : String)
  | connection (reason : String)
  | load (file : String) (cause : LoadError)
  /-- A migration that is applied, but not there any more. -/
  | missing (id : String)
  | io (cause : FileError)
  deriving DecidableEq, Repr

namespace MigrationError

/-- The refusal of a statement, which is shown without the space around it. -/
def ofStatement (sql reason : String) : MigrationError := .execution (Text.trimmed sql) reason

def message : MigrationError → String
  | .configuration cause => "Configuration error: " ++ cause.message
  | .namingConvention file =>
    "Invalid migration file name: '" ++ file ++
      "'. Use `lipgrate create <name>` to generate migrations."
  | .missingFields operation fields =>
    "Invalid schema for " ++ operation ++ ": missing required field(s): " ++
      ", ".intercalate fields
  | .invalidColumn definition cause =>
    "Invalid column definition '" ++ definition ++ "': " ++ cause.message
  | .unknownType name suggestion =>
    let advice := match suggestion with
      | some s => " Did you mean '" ++ s ++ "'?"
      | none => ""
    "Unknown data type '" ++ name ++ "'." ++ advice
  | .unsupported operation dialect (some limitation) =>
    "`" ++ operation ++ "` is not supported in " ++ dialect.displayName ++ ". " ++
      limitation.message
  | .unsupported operation dialect none =>
    "Unsupported migration operation '" ++ operation ++ "' for client '" ++ dialect.name ++ "'."
  | .execution sql reason => "Execution error: " ++ reason ++ "\n  while executing: " ++ sql
  | .connection reason => "Connection error: " ++ reason
  | .load file cause => "Failed to load migration '" ++ file ++ "': " ++ cause.message
  | .missing id =>
    "Migration '" ++ id ++
      "' is recorded as applied but no longer exists in the migrations directory"
  | .io cause => "IO error: " ++ cause.message

end MigrationError

/-- The dialect of a client name, in any case and with space around it. -/
def Dialect.ofString (client : String) : Except MigrationError Dialect :=
  let client := Dialect.normalizeClient client
  match Dialect.ofClient? client with
  | some dialect => .ok dialect
  | none => .error (.configuration (.unknownClient client))

end SchemaMigration
