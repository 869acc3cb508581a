import SchemaMigration.Number.Double

/-!
# Documents

A document is the tree that a JSON or TOML text denotes. Keys keep their order
and may be repeated. A text that stops being well-formed somewhere still has a
tree: it is whole up to that place, where it ends in `broken`. So an error in the
shape of a document can be told before a later error in its spelling.
-/

namespace SchemaMigration

open Number

inductive Format
  | json
  | toml
  deriving DecidableEq, Repr

/-- A document tree. A key is `none` where it has no readable text. -/
inductive Document
  | null
  | boolean (value : Bool)
  | integer (value : Int)
  | float (value : Double)
  | text (value : String)
  | sequence (items : List Document)
  | mapping (entries : List (Option String × Document))
  /-- A well-formed piece of text that denotes no value, such as a number out of range. -/
  | unreadable
  /-- The text is not well-formed from here on. -/
  | broken

namespace Document

mutual

/-- Whether no part of the tree is broken off. Enough for a value that is skipped. -/
def intact : Document → Bool
  | .sequence items => allIntact items
  | .mapping entries => entriesIntact entries
  | .broken => false
  | _ => true

def allIntact : List Document → Bool
  | [] => true
  | d :: rest => d.intact && allIntact rest

def entriesIntact : List (Option String × Document) → Bool
  | [] => true
  | (_, d) :: rest => d.intact && entriesIntact rest

end

mutual

/-- Whether every part of the tree has a value. -/
def readable : Document → Bool
  | .sequence items => allReadable items
  | .mapping entries => entriesReadable entries
  | .unreadable | .broken => false
  | _ => true

def allReadable : List Document → Bool
  | [] => true
  | d :: rest => d.readable && allReadable rest

def entriesReadable : List (Option String × Document) → Bool
  | [] => true
  | (key, d) :: rest => key.isSome && d.readable && entriesReadable rest

end

end Document

end SchemaMigration
