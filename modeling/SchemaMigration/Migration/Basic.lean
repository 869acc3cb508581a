import SchemaMigration.Operation.Decode
import SchemaMigration.Document.Json
import SchemaMigration.Document.Toml.Reader
import SchemaMigration.Error
import SchemaMigration.Files.Tree

/-!
# Migrations

A migration is a list of operations to apply and a list to revert it. Its id is the
name of its file, which starts with a fixed word.
-/

namespace SchemaMigration

open Text Files

namespace Format

def extension : Format → String
  | .json => "json"
  | .toml => "toml"

/-- The format of a file, by what follows the last point of its name. -/
def ofFileName? (name : String) : Option Format :=
  match splitLast? '.' name.toList with
  | some (_, ext) =>
    match String.ofList ext with
    | "json" => some .json
    | "toml" => some .toml
    | _ => none
  | none => none

/-- Decodes a whole text in a format. -/
def decode {α : Type} (format : Format) (reader : Document → Decoded α) (source : String) :
    Decoded α :=
  match format with
  | .json => Json.decode reader source
  | .toml => Toml.decode reader source

end Format

structure Migration where
  id : String
  up : List Operation := []
  down : List Operation := []
  deriving DecidableEq, Repr

namespace Migration

/-- What every id starts with. -/
def idStart : String := "lipgrade_"

def isValidId (id : String) : Bool := idStart.toList.isPrefixOf id.toList

/-- How a migration file is written. -/
def fileShape (format : Format) : RecordShape Migration where
  name := "MigrationFile"
  strict := true
  fields := [
    .required "up" (Document.asOneOrMany (Operation.decode format)) fun up m => { m with up },
    .orDefault "down" (Document.asOneOrMany (Operation.decode format)) fun down m =>
      { m with down }]

def decode (format : Format) (id : String) : Document → Decoded Migration :=
  (fileShape format).decode format { id }

/-- Reads the text of a migration file. -/
def parse (format : Format) (id source : String) : Except MigrationError Migration :=
  (format.decode (decode format id) source).mapError fun e => .load id (.decode format e)

/-- Loads a migration file. -/
def load (tree : FileTree) (path : Path) : Except MigrationError Migration :=
  match Path.fileName? path with
  | none => .error (.load path .unreadable)
  | some id =>
    match Format.ofFileName? id with
    | none => .error (.load id .unknownFormat)
    | some format =>
      match tree.readText path with
      | .error _ => .error (.load id .unreadable)
      | .ok source => parse format id source

/-- The file name of a new migration. -/
def fileName (name stamp : String) (format : Format) : String :=
  idStart ++ stamp ++ "_" ++ name ++ "." ++ format.extension

end Migration

end SchemaMigration
