import SchemaMigration.Document.Error

/-!
# Decoding documents

The readers that every kind of record is built from. Each one looks at a document
from its start and reports the first thing that does not fit.
-/

namespace SchemaMigration

abbrev Decoded (α : Type) := Except DecodeError α

namespace Document

/-- What a document shows at first sight; nothing where it has no value. -/
def found : Document → Decoded Found
  | .null => .ok .null
  | .boolean b => .ok (.boolean b)
  | .integer n => .ok (.integer n)
  | .float x => .ok (.float x)
  | .text s => .ok (.text s)
  | .sequence _ => .ok .sequence
  | .mapping _ => .ok .mapping
  | .unreadable | .broken => .error .malformed

/-- The refusal of a document of the wrong type. -/
def wrongType {α : Type} (d : Document) (wanted : String) : Decoded α :=
  d.found >>= fun found => .error (.invalidType found wanted)

def asString : Document → Decoded String
  | .text s => .ok s
  | d => d.wrongType "a string"

def asBool : Document → Decoded Bool
  | .boolean b => .ok b
  | d => d.wrongType "a boolean"

/-- A path is written as a string. -/
def asPath : Document → Decoded String
  | .text s => .ok s
  | d => d.wrongType "path string"

def asPort : Document → Decoded Nat
  | .integer n =>
    if 0 ≤ n ∧ n < 65536 then .ok n.toNat else .error (.invalidValue (.integer n) "u16")
  | d => d.wrongType "u16"

/-- `null` is no value; anything else must be one. -/
def asOptional {α : Type} (read : Document → Decoded α) : Document → Decoded (Option α)
  | .null => .ok none
  | d => (read d).map some

/-- Reads every item, up to the first one that does not fit. -/
def readAll {α : Type} (read : Document → Decoded α) : List Document → Decoded (List α)
  | [] => .ok []
  | d :: rest => do
    let item ← read d
    let items ← readAll read rest
    return item :: items

def asList {α : Type} (read : Document → Decoded α) : Document → Decoded (List α)
  | .sequence items => readAll read items
  | d => d.wrongType "a sequence"

/-- A bare text or mapping counts as a list of one. -/
def asOneOrMany {α : Type} (read : Document → Decoded α) : Document → Decoded (List α)
  | .text s => (read (.text s)).map ([·])
  | .mapping entries => (read (.mapping entries)).map ([·])
  | .sequence items => readAll read items
  | d => d.wrongType "a single value or a list"

/-- Passes over a value that nothing asks for. -/
def skip (d : Document) : Decoded Unit :=
  if d.intact then .ok () else .error .malformed

end Document

/-! ## Records -/

/-- One field of a record. `optional` fields may be absent from a mapping;
`defaulted` ones also from the end of a sequence. -/
structure Field (α : Type) where
  name : String
  optional : Bool
  defaulted : Bool
  read : Document → α → Decoded α

namespace Field

variable {α β : Type}

/-- A field that may be null or absent from a mapping. -/
def orNone (name : String) (read : Document → Decoded β) (set : Option β → α → α) : Field α where
  name
  optional := true
  defaulted := false
  read d record := (d.asOptional read).map (set · record)

/-- A field with a value of its own when it is absent. -/
def orDefault (name : String) (read : Document → Decoded β) (set : β → α → α) : Field α where
  name
  optional := true
  defaulted := true
  read d record := (read d).map (set · record)

/-- A field that must be there. -/
def required (name : String) (read : Document → Decoded β) (set : β → α → α) : Field α where
  name
  optional := false
  defaulted := false
  read d record := (read d).map (set · record)

end Field

/-- How a record is written: a mapping from field names, or a sequence of the
fields in order. A `strict` record refuses names that it does not know. -/
structure RecordShape (α : Type) where
  name : String
  strict : Bool
  fields : List (Field α)

namespace RecordShape

variable {α : Type}

def wanted (shape : RecordShape α) : String := "struct " ++ shape.name

def wantedLength (shape : RecordShape α) : String :=
  let n := shape.fields.length
  shape.wanted ++ " with " ++ toString n ++ if n = 1 then " element" else " elements"

/-- The first required field that was never seen. -/
def checkMissing (shape : RecordShape α) (seen : List String) : Decoded Unit :=
  match shape.fields.find? fun f => !f.optional && !seen.contains f.name with
  | some f => .error (.missingField f.name)
  | none => .ok ()

def decodeEntries (shape : RecordShape α) (seen : List String) (record : α) :
    List (Option String × Document) → Decoded α
  | [] => do
    shape.checkMissing seen
    return record
  | (none, _) :: _ => .error .malformed
  | (some key, value) :: rest =>
    match shape.fields.find? (·.name == key) with
    | some f =>
      if seen.contains key then .error (.duplicateField key)
      else do
        let record ← f.read value record
        decodeEntries shape (key :: seen) record rest
    | none =>
      if shape.strict then .error (.unknownField key (shape.fields.map (·.name)))
      else do
        value.skip
        decodeEntries shape seen record rest

/-- The fields from `position` on. Only TOML allows items after the last one. -/
def decodeItems (shape : RecordShape α) (format : Format) (record : α) :
    Nat → List (Field α) → List Document → Decoded α
  | _, [], [] => .ok record
  | _, [], _ :: _ => if format = .toml then .ok record else .error .malformed
  | position, f :: fields, [] =>
    if f.defaulted then decodeItems shape format record (position + 1) fields []
    else .error (.invalidLength position shape.wantedLength)
  | position, f :: fields, d :: rest => do
    let record ← f.read d record
    decodeItems shape format record (position + 1) fields rest

/-- Decodes a record whose absent fields are those of `blank`. -/
def decode (shape : RecordShape α) (format : Format) (blank : α) : Document → Decoded α
  | .mapping entries => shape.decodeEntries [] blank entries
  | .sequence items => shape.decodeItems format blank 0 shape.fields items
  | d => d.wrongType shape.wanted

end RecordShape

end SchemaMigration
