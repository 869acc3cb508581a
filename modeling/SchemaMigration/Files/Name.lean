/-!
# File names

A name is a byte string; nearly always it is a text. Names are in the order of
their bytes.
-/

namespace SchemaMigration.Files

/-- A name as text, or bytes that are no UTF-8 text. -/
inductive Name
  | text (value : String)
  | bytes (value : List UInt8)
  deriving DecidableEq, Repr

def utf8Bytes (s : String) : List UInt8 := s.toUTF8.toList

/-- The length of the UTF-8 sequence that a lead byte starts, and the bounds of its
second byte; nothing where no sequence starts with the byte. -/
def sequenceStart? (lead : Nat) : Option (Nat × Nat × Nat) :=
  if lead < 0x80 then some (1, 0, 0)
  else if lead < 0xC2 then none
  else if lead < 0xE0 then some (2, 0x80, 0xBF)
  else if lead = 0xE0 then some (3, 0xA0, 0xBF)
  else if lead = 0xED then some (3, 0x80, 0x9F)
  else if lead < 0xF0 then some (3, 0x80, 0xBF)
  else if lead = 0xF0 then some (4, 0x90, 0xBF)
  else if lead < 0xF4 then some (4, 0x80, 0xBF)
  else if lead = 0xF4 then some (4, 0x80, 0x8F)
  else none

def isContinuation (b : UInt8) : Bool := 0x80 ≤ b.toNat && b.toNat ≤ 0xBF

/-- The continuation bytes at the start, at most `n`, the first within the bounds. -/
def continuations (n low high : Nat) : List UInt8 → List UInt8
  | [] => []
  | b :: rest =>
    if n = 0 then []
    else if low ≤ b.toNat ∧ b.toNat ≤ high then
      b :: (rest.takeWhile isContinuation).take (n - 1)
    else []

def codePoint (lead : Nat) (tail : List UInt8) : Char :=
  let first := match tail.length with
    | 0 => lead
    | 1 => lead - 0xC0
    | 2 => lead - 0xE0
    | _ => lead - 0xF0
  Char.ofNat (tail.foldl (fun n b => n * 64 + (b.toNat - 0x80)) first)

/-- One character and the bytes that it takes; nothing where the bytes start no
whole sequence. The number counts the bytes of the part that could be one. -/
def decodeOne (b : UInt8) (rest : List UInt8) : Option Char × Nat :=
  match sequenceStart? b.toNat with
  | none => (none, 1)
  | some (length, low, high) =>
    let tail := continuations (length - 1) low high rest
    if tail.length = length - 1 then (some (codePoint b.toNat tail), length)
    else (none, tail.length + 1)

/-- Reads UTF-8. The first argument counts bytes that are read already. Each part
that is no character is `none`. -/
def decodeBytes : Nat → List UInt8 → List (Option Char)
  | _, [] => []
  | skip + 1, _ :: rest => decodeBytes skip rest
  | 0, b :: rest =>
    let (c, length) := decodeOne b rest
    c :: decodeBytes (length - 1) rest

/-- The text of a byte string, if it is one. -/
def textOfBytes? (bs : List UInt8) : Option String :=
  ((decodeBytes 0 bs).mapM id).map String.ofList

namespace Name

def ofBytes (bs : List UInt8) : Name :=
  match textOfBytes? bs with
  | some s => .text s
  | none => .bytes bs

def toBytes : Name → List UInt8
  | .text s => utf8Bytes s
  | .bytes bs => bs

/-- The name for a reader; what is no text shows as a replacement character. -/
def display : Name → String
  | .text s => s
  | .bytes bs => String.ofList ((decodeBytes 0 bs).map (·.getD '\uFFFD'))

def text? : Name → Option String
  | .text s => some s
  | .bytes _ => none

end Name

end SchemaMigration.Files
