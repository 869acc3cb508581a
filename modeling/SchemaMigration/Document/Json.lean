import SchemaMigration.Document.Decode

/-!
# JSON text

Reads JSON text into a document. Strings with half of a surrogate pair, numbers
out of range and anything nested deeper than `depthLimit` are unreadable; all
other mistakes break the document off.
-/

namespace SchemaMigration.Json

open Number

/-- How many sequences and mappings may be open at once where a value is read. -/
def depthLimit : Nat := 127

def isSpace (c : Char) : Bool := c == ' ' || c == '\n' || c == '\t' || c == '\r'

def skipSpace (cs : List Char) : List Char := cs.dropWhile isSpace

/-! ## Numbers -/

/-- Digits below `2 ^ 64` are kept; the first one that would not fit and all
after it are only counted. -/
def takeDigits : Nat → List Char → Nat × List Char
  | n, [] => (n, [])
  | n, c :: rest =>
    if c.isDigit ∧ 10 * n + digitValue c < Nat.pow 2 64 then takeDigits (10 * n + digitValue c) rest
    else (n, c :: rest)

/-- Multiplies or divides by powers of ten up to `10 ^ 308`, rounding each time.
Nothing where the magnitude is too large. -/
def scale (x : Double) (exponent : Int) : Option Double :=
  if exponent.natAbs ≤ 308 then
    if 0 ≤ exponent then
      let product := x.mul (.ofNat (Nat.pow 10 exponent.toNat))
      if product.isInfinite then none else some product
    else some (x.div (.ofNat (Nat.pow 10 exponent.natAbs)))
  else if x.isZero then some x
  else if 0 ≤ exponent then none
  else scale (x.div (.ofNat (Nat.pow 10 308))) (exponent + 308)
termination_by exponent.natAbs
decreasing_by omega

def signedFloat (negative : Bool) (x : Option Double) : Document :=
  match x with
  | some x => .float (if negative then x.negate else x)
  | none => .unreadable

/-- The value of a number with a point, an exponent or too many digits. -/
def floatOf (negative : Bool) (significand : Nat) (exponent : Int) : Document :=
  signedFloat negative (scale (.ofNat significand) exponent)

/-- The largest exponent that is written out. -/
def exponentBound : Nat := Nat.pow 2 31 - 1

/-- What stands after `e`: a sign and at least one digit. -/
def readExponent (negative : Bool) (significand : Nat) (exponent : Int) (cs : List Char) :
    Document × List Char :=
  let (minus, digits) := Decimal.splitSign cs
  let (digits, rest) := digits.span Char.isDigit
  if digits = [] then (.broken, rest)
  else
    let written := natOfDigits 10 digits
    if exponentBound < written then
      if significand = 0 ∨ minus then (signedFloat negative (some (.zero false)), rest)
      else (.unreadable, rest)
    else
      (floatOf negative significand (if minus then exponent - written else exponent + written), rest)

def atExponent (cs : List Char) : Bool :=
  match cs with
  | c :: _ => c == 'e' || c == 'E'
  | [] => false

/-- What stands after the point: at least one digit, then perhaps an exponent. -/
def readFraction (negative : Bool) (significand : Nat) (exponent : Int) (cs : List Char) :
    Document × List Char :=
  let (digits, rest) := cs.span Char.isDigit
  if digits = [] then (.broken, rest)
  else
    let (full, left) := takeDigits significand digits
    let places := exponent - ((digits.length - left.length : Nat) : Int)
    if atExponent rest then readExponent negative full places rest.tail
    else (floatOf negative full places, rest)

/-- The number after an optional minus sign. -/
def readNumber (negative : Bool) (cs : List Char) : Document × List Char :=
  let (digits, rest) := cs.span Char.isDigit
  if digits = [] ∨ (1 < digits.length ∧ digits.head? = some '0') then (.broken, rest)
  else
    let (significand, left) := takeDigits 0 digits
    let exponent : Int := left.length
    if rest.head? = some '.' then readFraction negative significand exponent rest.tail
    else if atExponent rest then readExponent negative significand exponent rest.tail
    else if left ≠ [] then (floatOf negative significand exponent, rest)
    else if !negative then (.integer significand, rest)
    else if significand = 0 ∨ Nat.pow 2 63 < significand then
      (signedFloat true (some (.ofNat significand)), rest)
    else (.integer (-(significand : Int)), rest)

/-! ## Strings -/

/-- What a string turned out to be: its text, a text that cannot be had, or no
string at all. -/
inductive StringRead
  | text (value : List Char)
  | unreadable
  | broken

/-- One item of a string: a character, half of a surrogate pair, or a mistake. -/
inductive Unit16
  | char (c : Char)
  | high (code : Nat)
  | low (code : Nat)

def simpleEscape? : Char → Option Char
  | '"' => some '"'
  | '\\' => some '\\'
  | '/' => some '/'
  | 'b' => some '\x08'
  | 'f' => some '\x0c'
  | 'n' => some '\n'
  | 'r' => some '\r'
  | 't' => some '\t'
  | _ => none

def unitOfCode (code : Nat) : Unit16 :=
  if 0xD800 ≤ code ∧ code ≤ 0xDBFF then .high code
  else if 0xDC00 ≤ code ∧ code ≤ 0xDFFF then .low code
  else .char (Char.ofNat code)

/-- The items up to the closing quote, and what follows it. -/
def readUnits : List Char → Option (List Unit16 × List Char)
  | [] => none
  | '"' :: rest => some ([], rest)
  | '\\' :: 'u' :: a :: b :: c :: d :: rest =>
    if [a, b, c, d].all isHexDigit then
      (readUnits rest).map fun (units, rest) => (unitOfCode (natOfDigits 16 [a, b, c, d]) :: units, rest)
    else none
  | '\\' :: c :: rest =>
    match simpleEscape? c with
    | some c => (readUnits rest).map fun (units, rest) => (.char c :: units, rest)
    | none => none
  | c :: rest =>
    if c.toNat < 0x20 ∨ c = '\\' then none
    else (readUnits rest).map fun (units, rest) => (.char c :: units, rest)

/-- Joins surrogate pairs. Half a pair alone has no text. -/
def joinUnits : List Unit16 → Option (List Char)
  | [] => some []
  | .char c :: rest => (joinUnits rest).map (c :: ·)
  | .high hi :: .low lo :: rest =>
    (joinUnits rest).map (Char.ofNat (0x10000 + (hi - 0xD800) * 0x400 + (lo - 0xDC00)) :: ·)
  | _ :: _ => none

/-- The string whose opening quote has been passed. -/
def readString (cs : List Char) : StringRead × List Char :=
  match readUnits cs with
  | none => (.broken, [])
  | some (units, rest) =>
    match joinUnits units with
    | some text => (.text text, rest)
    | none => (.unreadable, rest)

/-! ## Values -/

def readWord (word : List Char) (value : Document) (cs : List Char) : Document × List Char :=
  if word.isPrefixOf cs then (value, cs.drop word.length) else (.broken, [])

/-- A container as it counts at its depth. -/
def atDepth (depth : Nat) (d : Document) : Document :=
  if depth < depthLimit then d else if d.intact then .unreadable else .broken

mutual

/-- The value at the start of the text and what follows it. `depth` counts the
open containers. The first argument bounds the number of steps. -/
def readValue : Nat → Nat → List Char → Document × List Char
  | 0, _, _ => (.broken, [])
  | fuel + 1, depth, cs =>
    match skipSpace cs with
    | 'n' :: rest => readWord "ull".toList .null rest
    | 't' :: rest => readWord "rue".toList (.boolean true) rest
    | 'f' :: rest => readWord "alse".toList (.boolean false) rest
    | '"' :: rest =>
      match readString rest with
      | (.text text, rest) => (.text (String.ofList text), rest)
      | (.unreadable, rest) => (.unreadable, rest)
      | (.broken, rest) => (.broken, rest)
    | '[' :: rest =>
      let (items, rest) := readItems fuel (depth + 1) true rest
      (atDepth depth (.sequence items), rest)
    | '\x7b' :: rest =>
      let (entries, rest) := readEntries fuel (depth + 1) true rest
      (atDepth depth (.mapping entries), rest)
    | '-' :: rest => readNumber true rest
    | cs => readNumber false cs

/-- The items up to the closing bracket; `first` where none has been read. -/
def readItems : Nat → Nat → Bool → List Char → List Document × List Char
  | 0, _, _, _ => ([.broken], [])
  | fuel + 1, depth, first, cs =>
    match first, skipSpace cs with
    | _, ']' :: rest => ([], rest)
    | true, cs => readItem fuel depth cs
    | false, ',' :: rest => readItem fuel depth rest
    | false, _ => ([.broken], [])

def readItem : Nat → Nat → List Char → List Document × List Char
  | 0, _, _ => ([.broken], [])
  | fuel + 1, depth, cs =>
    match readValue fuel depth cs with
    | (.broken, rest) => ([.broken], rest)
    | (d, rest) =>
      let (items, rest) := readItems fuel depth false rest
      (d :: items, rest)

/-- The entries up to the closing brace; `first` where none has been read. -/
def readEntries : Nat → Nat → Bool → List Char → List (Option String × Document) × List Char
  | 0, _, _, _ => ([(none, .broken)], [])
  | fuel + 1, depth, first, cs =>
    match first, skipSpace cs with
    | _, '\x7d' :: rest => ([], rest)
    | true, cs => readEntry fuel depth cs
    | false, ',' :: rest => readEntry fuel depth (skipSpace rest)
    | false, _ => ([(none, .broken)], [])

def readEntry : Nat → Nat → List Char → List (Option String × Document) × List Char
  | 0, _, _ => ([(none, .broken)], [])
  | fuel + 1, depth, cs =>
    match cs with
    | '"' :: rest =>
      match readString rest with
      | (.broken, rest) => ([(none, .broken)], rest)
      | (key, rest) =>
        let key := match key with
          | .text text => some (String.ofList text)
          | _ => none
        match skipSpace rest with
        | ':' :: rest =>
          match readValue fuel depth rest with
          | (.broken, rest) => ([(key, .broken)], rest)
          | (d, rest) =>
            let (entries, rest) := readEntries fuel depth false rest
            ((key, d) :: entries, rest)
        | _ => ([(key, .broken)], [])
    | _ => ([(none, .broken)], [])

end

/-- The document that starts the text, and whether nothing but space follows it. -/
def read (source : String) : Document × Bool :=
  let cs := source.toList
  let (d, rest) := readValue (4 * cs.length + 4) 0 cs
  (d, skipSpace rest == [])

/-- Decodes a whole text. What follows the document is only looked at when the
document itself fits. -/
def decode {α : Type} (reader : Document → Decoded α) (source : String) : Decoded α := do
  let (d, complete) := read source
  let value ← reader d
  if complete then return value else .error .malformed

end SchemaMigration.Json
