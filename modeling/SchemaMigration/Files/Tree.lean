import SchemaMigration.Error
import SchemaMigration.Files.Name
import SchemaMigration.Files.Path

/-!
# File trees

A tree lists the directories and files below the working directory, each with the
names that lead to it. The working directory itself is the empty list; the root of
absolute paths, if the tree has it, stands beside the names in it. Reading and writing
follow a path step by step, and what was done before a refusal stays done.
-/

namespace SchemaMigration.Files

open SchemaMigration.Files.Path

inductive Content
  | text (value : String)
  /-- Bytes that are no UTF-8 text. -/
  | bytes (value : List UInt8)
  deriving DecidableEq, Repr

/-- The content of a file with the given bytes. -/
def Content.ofBytes (bs : List UInt8) : Content :=
  match textOfBytes? bs with
  | some s => .text s
  | none => .bytes bs

inductive Node
  | directory
  | file (content : Content)
  deriving DecidableEq, Repr

/-- The names that lead from the working directory to a node. -/
abbrev Location := List Name

structure FileTree where
  entries : List (Location × Node) := []
  deriving DecidableEq, Repr

namespace FileTree

def node? (tree : FileTree) (location : Location) : Option Node :=
  if location = [] then some .directory else tree.entries.lookup location

/-- Puts a node in the place of the one that is there. -/
def insert (tree : FileTree) (location : Location) (node : Node) : FileTree :=
  match tree.entries.lookup location with
  | some _ => ⟨tree.entries.map fun e => if e.1 = location then (location, node) else e⟩
  | none => ⟨tree.entries ++ [(location, node)]⟩

/-- Puts a directory where there is nothing. -/
def insertDirectory (tree : FileTree) (location : Location) : FileTree :=
  match tree.node? location with
  | some _ => tree
  | none => tree.insert location .directory

/-- Puts directories on the way down from a location, all but the last. -/
def insertAbove (tree : FileTree) (start : Location) : Location → FileTree
  | [] | [_] => tree
  | name :: rest =>
    let next := start ++ [name]
    (tree.insertDirectory next).insertAbove next rest

/-- Where absolute paths start. -/
def root : Location := [.text rootName]

/-- Puts a node in its place, with the directories above it. -/
def plant (tree : FileTree) (location : Location) (node : Node) : FileTree :=
  (tree.insertAbove [] location).insert location node

/-- The greatest length of a name in bytes. -/
def nameLimit : Nat := 255

/-- One step down from a location that exists. -/
def enter (tree : FileTree) (location : Location) (name : String) : Except FileError Location :=
  match tree.node? location with
  | some .directory =>
    if isIdle name then .ok location
    else if name = ".." then
      if location = [] ∨ location = root then .error .notFound else .ok location.dropLast
    else if nameLimit < name.utf8ByteSize then .error .nameTooLong
    else
      match tree.node? (location ++ [.text name]) with
      | some _ => .ok (location ++ [.text name])
      | none => .error .notFound
  | _ => .error .notADirectory

def follow (tree : FileTree) (location : Location) : List String → Except FileError Location
  | [] => .ok location
  | name :: rest => tree.enter location name >>= fun next => tree.follow next rest

/-- Where a path leads. Nothing above the working directory or the root is there. -/
def resolve (tree : FileTree) (path : Path) : Except FileError Location :=
  if hasNul path then .error .invalidName
  else if path = "" then .error .notFound
  else tree.follow [] (steps path)

def find (tree : FileTree) (path : Path) : Except FileError Node := do
  let location ← tree.resolve path
  match tree.node? location with
  | some node => return node
  | none => throw .notFound

def isFile (tree : FileTree) (path : Path) : Bool :=
  match tree.find path with
  | .ok (.file _) => true
  | _ => false

def isDirectory (tree : FileTree) (path : Path) : Bool :=
  match tree.find path with
  | .ok .directory => true
  | _ => false

def holds (tree : FileTree) (path : Path) : Bool := (tree.find path).isOk

/-- The text of a file. -/
def readText (tree : FileTree) (path : Path) : Except FileError String := do
  match ← tree.find path with
  | .directory => throw .isADirectory
  | .file (.text s) => return s
  | .file (.bytes _) => throw .notText

/-- The nodes in a directory, with their names. -/
def children (tree : FileTree) (directory : Location) : List (Name × Node) :=
  tree.entries.filterMap fun (location, node) =>
    match location.getLast? with
    | some name => if location.dropLast = directory then some (name, node) else none
    | none => none

/-- The names of the files in a directory, as far as they are text. -/
def fileNames (tree : FileTree) (directory : Path) : Except FileError (List String) := do
  let location ← tree.resolve directory
  match tree.node? location with
  | some .directory =>
    return (tree.children location).filterMap fun
      | (name, .file _) => name.text?
      | (_, .directory) => none
  | _ => throw .notADirectory

/-! ## Writing -/

/-- A place for a new node: the location and what is there already. -/
def place (tree : FileTree) (path : List String) :
    Except FileError (Location × Option Node) := do
  match path.getLast? with
  | none => return ([], some .directory)
  | some last =>
    let parent ← tree.follow [] path.dropLast
    match tree.enter parent last with
    | .ok location => return (location, tree.node? location)
    | .error .notFound =>
      if last = ".." then throw .notFound else return (parent ++ [.text last], none)
    | .error e => throw e

/-- Writes a whole file. -/
def write (tree : FileTree) (path : Path) (content : String) : Except FileError FileTree := do
  if hasNul path then throw .invalidName
  if path = "" then throw .notFound
  if asksDirectory path then throw .isADirectory
  let (location, node) ← tree.place (steps path)
  match node with
  | some .directory => throw .isADirectory
  | _ => return tree.insert location (.file (.text content))

/-- Makes one directory. -/
def createDirectory (tree : FileTree) (path : List String) : Except FileError FileTree := do
  let (location, node) ← tree.place path
  match node with
  | some _ => throw .exists
  | none => return tree.insert location .directory

/-- Why a directory was not made, unless it is there already. -/
def unmade (tree : FileTree) (path : List String) (e : FileError) : Option FileError :=
  match tree.follow [] path with
  | .ok location => if tree.node? location = some .directory then none else some e
  | .error _ => some e

/-- Makes a directory and those above it; the components come last one first. A
directory that is there already is no error. -/
def createMissing (tree : FileTree) : List String → Option FileError × FileTree
  | [] => (none, tree)
  | last :: above =>
    let path := (last :: above).reverse
    match tree.createDirectory path with
    | .ok tree => (none, tree)
    | .error .notFound =>
      match createMissing tree above with
      | (some e, tree) => (some e, tree)
      | (none, tree) =>
        match tree.createDirectory path with
        | .ok tree => (none, tree)
        | .error e => (tree.unmade path e, tree)
    | .error e => (tree.unmade path e, tree)

def createDirectories (tree : FileTree) (path : Path) : Option FileError × FileTree :=
  if hasNul path then (some .invalidName, tree)
  else if isAbsolute path ∧ tree.node? root = none then (some .notFound, tree)
  else tree.createMissing (activeSteps path).reverse

/-- All nodes in the order of their names, those of a directory right after it. -/
def listing (tree : FileTree) : List (Location × Node) :=
  tree.entries.mergeSort fun a b =>
    decide (a.1.map Name.toBytes ≤ b.1.map Name.toBytes)

end FileTree

/-- A location with slashes between the names, and one after a directory. -/
def displayLocation (location : Location) (node : Node) : String :=
  "/".intercalate (location.map Name.display) ++
    match node with
    | .directory => "/"
    | .file _ => ""

end SchemaMigration.Files
