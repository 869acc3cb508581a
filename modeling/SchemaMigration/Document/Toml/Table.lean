import SchemaMigration.Document.Basic

/-!
# Tables under construction

A TOML text fills one tree of tables in pieces: dotted keys and headers may
return to a table that was only implied so far, and to no other. `place` and
`assemble` say which pieces fit together.
-/

namespace SchemaMigration.Toml

mutual

/-- What a key of a table holds. -/
inductive Item
  | value (document : Document)
  | table (node : Node)
  | rows (nodes : List Node)

/-- A table. `implied` until a header names it, `dotted` if a dotted key made it. -/
inductive Node
  | node (implied dotted : Bool) (items : List (String × Item))

end

namespace Node

def implied : Node → Bool
  | .node implied _ _ => implied

def dotted : Node → Bool
  | .node _ dotted _ => dotted

def items : Node → List (String × Item)
  | .node _ _ items => items

def withItems (n : Node) (items : List (String × Item)) : Node :=
  .node n.implied n.dotted items

/-- A table that a header or a pair of braces has named. -/
def named (items : List (String × Item)) : Node := .node false false items

end Node

/-- Puts an item under a key that is there, in its place. -/
def replaceItem (key : String) (item : Item) : List (String × Item) → List (String × Item)
  | [] => []
  | (k, old) :: rest => if k = key then (k, item) :: rest else (k, old) :: replaceItem key item rest

/-- Changes the table at the end of a path. Missing tables on the way are implied;
the path enters an array of tables at its last row. A dotted path enters no table
that has been named. -/
def descend (dotted : Bool) (change : Node → Option Node) : List String → Node → Option Node
  | [], n => change n
  | key :: path, n =>
    match n.items.lookup key with
    | none => do
      let child ← descend dotted change path (.node true dotted [])
      return n.withItems (n.items ++ [(key, .table child)])
    | some (.value _) => none
    | some (.table child) =>
      if dotted && !child.implied then none
      else do
        let child ← descend dotted change path child
        return n.withItems (replaceItem key (.table child) n.items)
    | some (.rows nodes) => do
      let last ← nodes.getLast?
      let last ← descend dotted change path last
      return n.withItems (replaceItem key (.rows (nodes.dropLast ++ [last])) n.items)

/-- A key, split at its dots into a path and a last part, with its value. -/
structure Pair where
  path : List String
  key : String
  value : Document

/-- Adds a pair. A key is given once, and dotted keys do not mix with others. -/
def place (n : Node) (p : Pair) : Option Node :=
  descend true (fun target =>
    if target.dotted == p.path.isEmpty then none
    else
      match target.items.lookup p.key with
      | some _ => none
      | none => some (target.withItems (target.items ++ [(p.key, .value p.value)])))
    p.path n

def placeAll (n : Node) (pairs : List Pair) : Option Node := pairs.foldlM place n

/-- `[path.key]` or, for a row of an array, `[[path.key]]`. -/
structure Header where
  row : Bool
  path : List String
  key : String

/-- A header and the pairs below it. -/
structure Section where
  header : Header
  pairs : List Pair

/-- Adds the table of a section. A table that was implied keeps what it has and
moves behind its neighbours. -/
def addSection (root : Node) (s : Section) : Option Node :=
  descend false (fun parent =>
    if s.header.row then
      match parent.items.lookup s.header.key with
      | none => do
        let new ← placeAll (.named []) s.pairs
        return parent.withItems (parent.items ++ [(s.header.key, .rows [new])])
      | some (.rows nodes) => do
        let new ← placeAll (.named []) s.pairs
        return parent.withItems (replaceItem s.header.key (.rows (nodes ++ [new])) parent.items)
      | some _ => none
    else
      match parent.items.lookup s.header.key with
      | none => do
        let new ← placeAll (.named []) s.pairs
        return parent.withItems (parent.items ++ [(s.header.key, .table new)])
      | some (.table old) =>
        if old.implied && !old.dotted then do
          let new ← placeAll (.named old.items) s.pairs
          let others := parent.items.filter (·.1 != s.header.key)
          return parent.withItems (others ++ [(s.header.key, .table new)])
        else none
      | some _ => none)
    s.header.path root

/-- The table of a whole text: the pairs before the first header, then the sections. -/
def assemble (pairs : List Pair) (sections : List Section) : Option Node := do
  let root ← placeAll (.named []) pairs
  sections.foldlM addSection root

mutual

def Item.document : Item → Document
  | .value d => d
  | .table n => n.document
  | .rows nodes => .sequence (nodeDocuments nodes)

def Node.document : Node → Document
  | .node _ _ items => .mapping (itemDocuments items)

def nodeDocuments : List Node → List Document
  | [] => []
  | n :: rest => n.document :: nodeDocuments rest

def itemDocuments : List (String × Item) → List (Option String × Document)
  | [] => []
  | (key, item) :: rest => (some key, item.document) :: itemDocuments rest

end

end SchemaMigration.Toml
