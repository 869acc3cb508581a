import SchemaMigration.Database.Store
import SchemaMigration.Url.Basic

/-!
# Connecting

The database that a URL names, and the adapter that reaches it. Databases are those
of SQLite: in memory, or in a file below the working directory.
-/

namespace SchemaMigration.Sqlite

open Text Files

inductive Place
  | memory
  | file (path : Path)
  deriving DecidableEq, Repr

structure Opening where
  place : Place
  /-- Makes the file if it is missing. -/
  create : Bool := false
  deriving DecidableEq, Repr

/-- All databases, each at its place. Their files need no contents of their own. -/
structure Storage where
  stores : List (Place × Store) := []
  deriving DecidableEq, Repr

/-- The place with the steps of its path that lead nowhere left out. -/
def Place.shortest : Place → Place
  | .memory => .memory
  | .file path => .file ("/".intercalate (Path.activeSteps path))

namespace Storage

def store (s : Storage) (place : Place) : Store := (s.stores.lookup place.shortest).getD {}

def setStore (s : Storage) (place : Place) (store : Store) : Storage :=
  ⟨(place.shortest, store) :: s.stores.filter (·.1 ≠ place.shortest)⟩

end Storage

/-! ## Database URLs -/

def schemes : List String := ["sqlite"]

/-- Percent-decoding; a percent sign without two digits stays. -/
def percentDecode : List Char → List UInt8
  | [] => []
  | '%' :: a :: b :: rest =>
    if Number.isHexDigit a ∧ Number.isHexDigit b then
      UInt8.ofNat (Number.natOfDigits 16 [a, b]) :: percentDecode rest
    else utf8Bytes "%" ++ percentDecode (a :: b :: rest)
  | c :: rest => utf8Bytes c.toString ++ percentDecode rest

/-- The name and the value of each parameter of a query. -/
def queryParams (query : List Char) : List (String × String) :=
  let decode (cs : List Char) : String :=
    (Name.ofBytes (percentDecode (cs.map fun c => if c = '+' then ' ' else c))).display
  ((splitOn '&' query).filter (· ≠ [])).map fun param =>
    match splitFirst? '=' param with
    | some (name, value) => (decode name, decode value)
    | none => (decode param, "")

def unknownValue (value param : String) : String :=
  "unknown value " ++ quoted value ++ " for `" ++ param ++ "`"

/-- Changes the way of opening for one parameter. -/
def applyParam (o : Opening) (param : String × String) : Except String Opening :=
  match param with
  | ("mode", "ro") | ("mode", "rw") => .ok o
  | ("mode", "rwc") => .ok { o with create := true }
  | ("mode", "memory") => .ok { o with place := .memory }
  | ("mode", value) => .error (unknownValue value "mode")
  | ("cache", "private") | ("cache", "shared") => .ok o
  | ("cache", value) => .error (unknownValue value "cache")
  | ("immutable", "true") | ("immutable", "1") | ("immutable", "false") | ("immutable", "0") => .ok o
  | ("immutable", value) => .error (unknownValue value "immutable")
  | ("vfs", _) => .ok o
  | (name, _) => .error ("unknown query parameter `" ++ name ++ "` while parsing connection URL")

def dropScheme : List Char → List Char
  | 's' :: 'q' :: 'l' :: 'i' :: 't' :: 'e' :: ':' :: rest => dropScheme rest
  | cs => cs

def dropSlashPairs : List Char → List Char
  | '/' :: '/' :: rest => dropSlashPairs rest
  | cs => cs

/-- What stands after the scheme and the pairs of slashes, however often they are
repeated. -/
def afterScheme (url : List Char) : List Char := dropSlashPairs (dropScheme url)

def Opening.ofUrl (source : String) : Except String Opening := do
  let url ← (Url.read source).mapError UrlError.message
  let scheme := String.ofList url.scheme
  if scheme ∉ schemes then throw ("no driver found for URL scheme " ++ quoted scheme)
  let cs := afterScheme url.write.toList
  let (database, params) := match splitFirst? '?' cs with
    | some (database, query) => (database, queryParams query)
    | none => (cs, [])
  let place ←
    if database = ":memory:".toList ∨ database = [] then pure .memory
    else
      match textOfBytes? (percentDecode database) with
      | some path => pure (.file path)
      | none => throw "invalid utf-8 sequence"
  params.foldlM applyParam { place }

def cannotOpen : String := refusal 14 "unable to open database file"

/-- Finds the file of a database, or makes it. -/
def openFile (o : Opening) (tree : FileTree) : Except String FileTree :=
  match o.place with
  | .memory => .ok tree
  | .file path =>
    if tree.isFile path then .ok tree
    else if o.create ∧ !tree.holds path then (tree.write path "").mapError fun _ => cannotOpen
    else .error cannotOpen

/-! ## Engines -/

/-- The engine of one database. A database in memory is lost when it is closed. -/
def engine (absent : List String) (place : Place) : Engine Storage where
  acquire := .ok
  execute sql params storage :=
    let (result, store) := (storage.store place).execute absent sql params
    (result, storage.setStore place store)
  close storage :=
    match place with
    | .memory => (.ok (), storage.setStore .memory {})
    | .file _ => (.ok (), storage.setStore place (storage.store place).close)

def prepare {ε : Type} (url : String) : Action (Link ε) Opening := do
  let opening ← Action.ofExcept <|
    (Opening.ofUrl url).mapError fun reason => .connection ("error with configuration: " ++ reason)
  match openFile opening (← Action.files) with
  | .ok tree => Action.setFiles tree
  | .error reason => throw (.connection reason)
  return opening

/-- The place of a URL; a URL that cannot be read never gets as far as its database. -/
def placeOf (url : String) : Place :=
  match Opening.ofUrl url with
  | .ok opening => opening.place
  | .error _ => .memory

/-- The adapter of a dialect for the database of a URL. -/
def adapter (absent : List String) (dialect : Dialect) (url : String) : Adapter (Link Storage) :=
  let engine := engine absent (placeOf url)
  match dialect with
  | .sqlite => Single.adapter engine (prepare url >>= fun _ => pure ()) url
  | .mysql | .postgresql => Pooled.adapter engine dialect

/-- Connects an adapter. A pool is opened at once, a single connection when it is
needed. -/
def connect (absent : List String) (dialect : Dialect) (url : String) :
    Action (Link Storage) (Adapter (Link Storage)) := do
  match dialect with
  | .sqlite => pure ()
  | .mysql | .postgresql =>
    let _ ← prepare url
    Action.tell (Pooled.event .info "connected" [Pooled.dialectField dialect])
  return adapter absent dialect url

/-- A new link to the same databases. -/
def relink (link : Link Storage) : Link Storage := { server := link.server }

end SchemaMigration.Sqlite
