import SchemaMigration.Column.Default
import SchemaMigration.Column.Scan
import SchemaMigration.Text.Word

/-!
# Reading column definitions

The type ends at the first colon at the top level. Modifiers follow, each after a
colon, with space around the colons.
-/

namespace SchemaMigration

namespace Column

open Text

/-- A modifier as written: its name and what stands between its parentheses. -/
structure Segment where
  name : List Char
  args : Option (List Char)
  deriving DecidableEq, Repr

/-- What starts at an opening parenthesis: nothing, a group, or a group that is
never closed. -/
inductive Group
  | absent
  | closed (body rest : List Char)
  | unclosed

def readGroup : List Char → Group
  | '(' :: rest =>
    match findTopLevel? ')' rest with
    | some (body, rest) => .closed body rest
    | none => .unclosed
  | _ => .absent

def readName? (cs : List Char) : Option (List Char × List Char) :=
  match cs.dropWhile isAsciiBlank with
  | ':' :: rest =>
    let rest := rest.dropWhile isAsciiBlank
    let name := rest.takeWhile isWordChar
    if name = [] then none else some (name, rest.dropWhile isWordChar)
  | _ => none

theorem length_readName? {cs name rest : List Char} (h : readName? cs = some (name, rest)) :
    rest.length < cs.length := by
  unfold readName? at h
  split at h
  · next after hcs =>
    have hdrop : (cs.dropWhile isAsciiBlank).length ≤ cs.length :=
      (List.dropWhile_sublist _).length_le
    have hafter : ((after.dropWhile isAsciiBlank).dropWhile isWordChar).length ≤ after.length :=
      Nat.le_trans (List.dropWhile_sublist _).length_le (List.dropWhile_sublist _).length_le
    rw [hcs, List.length_cons] at hdrop
    dsimp only at h
    split at h
    · simp at h
    · simp only [Option.some.injEq, Prod.mk.injEq] at h
      rw [← h.2]
      omega
  · simp at h

theorem length_readGroup {cs body rest : List Char} (h : readGroup cs = .closed body rest) :
    rest.length < cs.length := by
  unfold readGroup at h
  split at h
  · split at h
    · next hfind =>
      simp only [Group.closed.injEq] at h
      obtain ⟨rfl, rfl⟩ := h
      rw [eq_of_findTopLevel? hfind]
      simp
      omega
    · simp at h
  · simp at h

/-- The modifiers at the start of the text, as many as there are, and what
follows them. -/
def readSegments (cs : List Char) : Except ColumnError (List Segment × List Char) :=
  match _hname : readName? cs with
  | none => .ok ([], cs)
  | some (name, afterName) =>
    match _hgroup : readGroup afterName with
    | .unclosed => .error (.unbalanced (String.ofList afterName))
    | .absent => do
      let (segments, rest) ← readSegments afterName
      return (⟨name, none⟩ :: segments, rest)
    | .closed body afterGroup => do
      let (segments, rest) ← readSegments afterGroup
      return (⟨name, some body⟩ :: segments, rest)
termination_by cs.length
decreasing_by
  · exact length_readName? _hname
  · exact Nat.lt_trans (length_readGroup _hgroup) (length_readName? _hname)

/-- The type and the text from the first colon at the top level on. -/
def splitType (cs : List Char) : List Char × List Char :=
  match findTopLevel? ':' cs with
  | some (type, rest) => (type, ':' :: rest)
  | none => (cs, [])

/-- The name and the arguments of a type. A type of several words is a name as a
whole. -/
def readType (type : List Char) : Except ColumnError (List Char × Option (List Char)) :=
  let (name, afterName) := type.span isWordChar
  if name = [] then .error .missingType
  else
    let split := match readGroup afterName with
      | .unclosed => none
      | .absent => some (none, afterName)
      | .closed body rest => some (some body, rest)
    match split with
    | none => .error .unbalancedArgs
    | some (args, []) => .ok (name, args)
    | some (_, c :: rest) =>
      if isBlank c ∧ balanced type then .ok (type, none)
      else .error (.unexpected (String.ofList (c :: rest)) (String.ofList type))

def applySegment (m : Modifiers) (s : Segment) : Modifiers :=
  match String.ofList s.name, s.args with
  | "notNullable", none => { m with notNullable := true }
  | "unique", none => { m with unique := true }
  | "primary", none => { m with primary := true }
  | "default", some value => { m with default := some (.classify (String.ofList value)) }
  | name, _ => { m with unknown := m.unknown ++ [name] }

def modifiersOf (segments : List Segment) : Modifiers := segments.foldl applySegment {}

def parseChars (definition : List Char) : Except ColumnError ColumnDef := do
  let (type, rest) := splitType (trim definition)
  let (segments, rest) ← readSegments rest
  let rest := rest.dropWhile isAsciiBlank
  if rest ≠ [] then throw (.trailing (String.ofList rest))
  let type := trim type
  let (name, args) ← readType type
  return {
    typeDef := String.ofList type
    typeName := String.ofList name
    typeArgs := args.map String.ofList
    modifiers := modifiersOf segments
  }

end Column

namespace ColumnDef

open Column Text

def parse (definition : String) : Except ColumnError ColumnDef :=
  parseChars definition.toList

/-- The type arguments, split at the commas at the top level and trimmed; empty
ones are left out. -/
def args (c : ColumnDef) : List String :=
  match c.typeArgs with
  | none => []
  | some args =>
    (((splitTopLevel ',' args.toList).map trim).filter (· ≠ [])).map String.ofList

end ColumnDef

end SchemaMigration
