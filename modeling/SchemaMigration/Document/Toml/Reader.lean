import SchemaMigration.Document.Decode
import SchemaMigration.Document.Toml.Table
import SchemaMigration.Document.Toml.Scalar

/-!
# TOML text

Reads TOML text into a document. A text with any mistake has no document, so here
a mistake in the spelling comes before one in the shape.
-/

namespace SchemaMigration.Toml

/-- How many arrays and inline tables may be open at once. -/
def depthLimit : Nat := 79

/-- How many parts a dotted key may have. -/
def keyLimit : Nat := 79

/-! ## Space between tokens -/

/-- A comment up to the end of its line. -/
def skipComment : List Char → List Char
  | '#' :: rest => rest.dropWhile isContent
  | cs => cs

/-- Space, comments and line breaks, as arrays allow them anywhere. -/
def skipLines : Nat → List Char → List Char
  | 0, cs => cs
  | fuel + 1, cs =>
    match skipComment (skipSpace cs) with
    | cs =>
      match newline? cs with
      | some rest => skipLines fuel rest
      | none => cs

/-- What may stand after a header or a pair: space, a comment, and the end of the
line or of the text. -/
def endOfLine? (cs : List Char) : Option (List Char) :=
  match skipComment (skipSpace cs) with
  | [] => some []
  | cs => newline? cs

/-! ## Keys -/

def isBareKeyChar (c : Char) : Bool := c.isAlphanum || c == '-' || c == '_'

def readSimpleKey : List Char → Read
  | '"' :: rest => readBasic (rest.length + 1) rest
  | '\'' :: rest => readLiteral rest
  | cs =>
    let (key, rest) := cs.span isBareKeyChar
    if key = [] then none else some (key, rest)

/-- The parts of a key, with the space around them. -/
def readKeyParts : Nat → List Char → Option (List String × List Char)
  | 0, _ => none
  | fuel + 1, cs => do
    let (part, rest) ← readSimpleKey (skipSpace cs)
    let part := String.ofList part
    match skipSpace rest with
    | '.' :: rest =>
      let (parts, rest) ← readKeyParts fuel rest
      return (part :: parts, rest)
    | rest => return ([part], rest)

/-- A key as a path and its last part. -/
def readKey (cs : List Char) : Option (List String × String × List Char) := do
  let (parts, rest) ← readKeyParts (cs.length + 1) cs
  let last ← parts.getLast?
  if parts.length ≤ keyLimit then return (parts.dropLast, last, rest) else none

/-! ## Values -/

mutual

/-- The value at the start of the text. `depth` counts the open containers; the
first argument bounds the number of steps. -/
def readValue : Nat → Nat → List Char → Option (Document × List Char)
  | 0, _, _ => none
  | fuel + 1, depth, cs =>
    match cs with
    | [] => none
    | c :: rest =>
      if c = '"' ∨ c = '\'' then
        (readString (c :: rest)).map fun (text, rest) => (.text (String.ofList text), rest)
      else if c = '[' then
        if depthLimit ≤ depth then none
        else
          (readArray fuel (depth + 1) (skipLines rest.length rest)).map fun (items, rest) =>
            (.sequence items, rest)
      else if c = '\x7b' then
        if depthLimit ≤ depth then none
        else do
          let (pairs, rest) ← readInline fuel (depth + 1) rest
          let n ← placeAll (.named []) pairs
          return (n.document, rest)
      else if c = 't' ∧ "rue".toList.isPrefixOf rest then some (.boolean true, rest.drop 3)
      else if c = 'f' ∧ "alse".toList.isPrefixOf rest then some (.boolean false, rest.drop 4)
      else readNumber (c :: rest)

/-- The items up to the closing bracket, the space before them being passed. -/
def readArray : Nat → Nat → List Char → Option (List Document × List Char)
  | 0, _, _ => none
  | fuel + 1, depth, cs =>
    match cs with
    | ']' :: rest => some ([], rest)
    | cs => do
      let (d, rest) ← readValue fuel depth cs
      match skipLines rest.length rest with
      | ',' :: rest =>
        let (items, rest) ← readArray fuel depth (skipLines rest.length rest)
        return (d :: items, rest)
      | ']' :: rest => return ([d], rest)
      | _ => none

/-- The pairs up to the closing brace, all on one line. -/
def readInline : Nat → Nat → List Char → Option (List Pair × List Char)
  | 0, _, _ => none
  | fuel + 1, depth, cs =>
    match skipSpace cs with
    | '\x7d' :: rest => some ([], rest)
    | cs => readInlinePairs fuel depth cs

def readInlinePairs : Nat → Nat → List Char → Option (List Pair × List Char)
  | 0, _, _ => none
  | fuel + 1, depth, cs => do
    let (path, key, rest) ← readKey cs
    match rest with
    | '=' :: rest =>
      let (value, rest) ← readValue fuel depth (skipSpace rest)
      match skipSpace rest with
      | ',' :: rest =>
        let (pairs, rest) ← readInlinePairs fuel depth rest
        return (⟨path, key, value⟩ :: pairs, rest)
      | '\x7d' :: rest => return ([⟨path, key, value⟩], rest)
      | _ => none
    | _ => none

end

/-! ## Lines -/

/-- One line of a text. -/
inductive Line
  | blank
  | header (header : Header)
  | pair (pair : Pair)

def readHeader (cs : List Char) : Option (Header × List Char) :=
  match cs with
  | '[' :: '[' :: rest => do
    let (path, key, rest) ← readKey rest
    match rest with
    | ']' :: ']' :: rest => return (⟨true, path, key⟩, rest)
    | _ => none
  | '[' :: rest => do
    let (path, key, rest) ← readKey rest
    match rest with
    | ']' :: rest => return (⟨false, path, key⟩, rest)
    | _ => none
  | _ => none

def readPair (cs : List Char) : Option (Pair × List Char) := do
  let (path, key, rest) ← readKey cs
  match rest with
  | '=' :: rest =>
    let rest := skipSpace rest
    let (value, rest) ← readValue (4 * rest.length + 4) 0 rest
    return (⟨path, key, value⟩, rest)
  | _ => none

/-- The line at the start of the text, without the space before it. -/
def readLine (cs : List Char) : Option (Line × List Char) :=
  match cs with
  | [] => some (.blank, [])
  | '#' :: _ | '\n' :: _ | '\r' :: _ => (endOfLine? cs).map (.blank, ·)
  | '[' :: _ => do
    let (header, rest) ← readHeader cs
    let rest ← endOfLine? rest
    return (.header header, rest)
  | cs => do
    let (pair, rest) ← readPair cs
    let rest ← endOfLine? rest
    return (.pair pair, rest)

def readAllLines : Nat → List Char → Option (List Line)
  | 0, _ => none
  | fuel + 1, cs =>
    match skipSpace cs with
    | [] => some []
    | cs => do
      let (line, rest) ← readLine cs
      let lines ← readAllLines fuel rest
      return line :: lines

/-- The pairs before the first header, and the sections. -/
def splitSections : List Line → List Pair × List Section
  | [] => ([], [])
  | .blank :: rest => splitSections rest
  | .pair p :: rest =>
    let (pairs, sections) := splitSections rest
    (p :: pairs, sections)
  | .header h :: rest =>
    let (pairs, sections) := splitSections rest
    ([], ⟨h, pairs⟩ :: sections)

/-- The document of a text. A byte order mark at the start does not count. -/
def read (source : String) : Option Document := do
  let cs := source.toList
  let cs := if cs.head? = some '\uFEFF' then cs.tail else cs
  let lines ← readAllLines (cs.length + 1) cs
  let (pairs, sections) := splitSections lines
  let root ← assemble pairs sections
  return root.document

def decode {α : Type} (reader : Document → Decoded α) (source : String) : Decoded α :=
  match read source with
  | some d => reader d
  | none => .error .malformed

end SchemaMigration.Toml
