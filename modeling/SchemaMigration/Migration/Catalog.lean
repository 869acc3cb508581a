import SchemaMigration.Migration.Basic

/-!
# Catalogs

The migrations that there are for a dialect: those that were registered in code and
the files in the dialect's directory.
-/

namespace SchemaMigration

open Files

structure Catalog where
  dialect : Dialect
  /-- The migrations root, unless all migrations are registered. -/
  root : Option Path := none
  registered : List Migration := []
  deriving DecidableEq, Repr

namespace Catalog

/-- Registers a migration, in the place of one with the same id. -/
def register (c : Catalog) (m : Migration) : Catalog :=
  { c with registered := c.registered.filter (·.id ≠ m.id) ++ [m] }

def directory (c : Catalog) : Option Path := c.root.map (·.join c.dialect.directory)

def registered? (c : Catalog) (id : String) : Option Migration :=
  c.registered.find? (·.id == id)

/-- The names of the migration files in a directory, in the tree's order. -/
def candidates (tree : FileTree) (directory : Path) : Except MigrationError (List String) :=
  match tree.fileNames directory with
  | .ok names => .ok (names.filter fun name => (Format.ofFileName? name).isSome)
  | .error e => .error (.io e)

/-- The ids of the migration files; none where the directory is missing. An id that
is registered too is refused. -/
def fileIds (c : Catalog) (tree : FileTree) : Except MigrationError (List String) :=
  match c.directory with
  | none => .ok []
  | some directory =>
    if tree.isDirectory directory then do
      let ids ← candidates tree directory
      match ids.find? fun id => (c.registered? id).isSome with
      | some id => throw (.configuration (.registeredTwice id directory))
      | none => return ids
    else .ok []

/-- The order of ids: by code point, which is the order of their UTF-8 bytes. -/
def idLe (a b : String) : Bool := decide (a ≤ b)

/-- Puts an id before the first that is not smaller. -/
def insertId (id : String) : List String → List String
  | [] => [id]
  | other :: rest => if idLe id other then id :: other :: rest else other :: insertId id rest

@[irreducible] def sortIds (ids : List String) : List String := ids.foldr insertId []

/-- All ids in ascending order; the smallest one without the required start is
refused. -/
def discover (c : Catalog) (tree : FileTree) : Except MigrationError (List String) := do
  let files ← c.fileIds tree
  let ids := sortIds (c.registered.map (·.id) ++ files)
  match ids.find? (!Migration.isValidId ·) with
  | some id => throw (.namingConvention id)
  | none => return ids

/-- The directory that discovery has to make, if it is missing. -/
def missingDirectory (c : Catalog) (tree : FileTree) : Option Path :=
  c.directory.filter (!tree.isDirectory ·)

/-- The migration of an id. -/
def load (c : Catalog) (tree : FileTree) (id : String) : Except MigrationError Migration :=
  match c.registered? id with
  | some m => .ok m
  | none =>
    match c.directory with
    | some directory =>
      let path := directory.join id
      if tree.isFile path then Migration.load tree path else .error (.missing id)
    | none => .error (.missing id)

end Catalog

end SchemaMigration
