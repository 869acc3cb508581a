import SchemaMigration.Number.Digits
import SchemaMigration.Text.Search

/-!
# Internet addresses of version 6

Eight pieces of 16 bits in hexadecimal. A double colon stands for a run of zeros;
the last two pieces may be written as four decimal numbers. An address is written
with the longest run of zeros left out.
-/

namespace SchemaMigration.Url

open Number Text

abbrev Address := List Nat

/-- The pieces before and after the double colon, if there was one. -/
structure PartialAddress where
  front : List Nat := []
  back : Option (List Nat) := none

namespace PartialAddress

/-- The double colon takes the place of one piece. -/
def size (a : PartialAddress) : Nat :=
  match a.back with
  | some back => a.front.length + 1 + back.length
  | none => a.front.length

def push (a : PartialAddress) (piece : Nat) : PartialAddress :=
  match a.back with
  | some back => { a with back := some (back ++ [piece]) }
  | none => { a with front := a.front ++ [piece] }

def address? (a : PartialAddress) : Option Address :=
  match a.back with
  | some back => some (a.front ++ List.replicate (8 - a.front.length - back.length) 0 ++ back)
  | none => if a.front.length = 8 then some a.front else none

end PartialAddress

/-- A decimal number below 256 without leading zeros. -/
def readOctet? (cs : List Char) : Option Nat :=
  if cs = [] ∨ !cs.all Char.isDigit ∨ 3 < cs.length then none
  else if cs.head? = some '0' ∧ cs.length ≠ 1 then none
  else
    let n := natOfDigits 10 cs
    if n < 256 then some n else none

/-- The two pieces of four numbers between points. -/
def readOctets? (cs : List Char) : Option (Nat × Nat) :=
  match (splitOn '.' cs).mapM readOctet? with
  | some [a, b, c, d] => some (a * 256 + b, c * 256 + d)
  | _ => none

/-- Reads pieces up to the end. The first argument bounds their number. -/
def readPieces : Nat → PartialAddress → List Char → Option PartialAddress
  | 0, _, _ => none
  | _, a, [] => some a
  | fuel + 1, a, c :: rest =>
    if a.size = 8 then none
    else if c = ':' then
      if a.back.isSome then none else readPieces fuel { a with back := some [] } rest
    else
      let digits := ((c :: rest).take 4).takeWhile isHexDigit
      let a' := a.push (natOfDigits 16 digits)
      match (c :: rest).drop digits.length with
      | [] => some a'
      | '.' :: _ =>
        if digits = [] ∨ 6 < a.size then none
        else (readOctets? (c :: rest)).map fun (p, q) => (a.push p).push q
      | ':' :: next => if next = [] then none else readPieces fuel a' next
      | _ => none

def Address.read? (cs : List Char) : Option Address :=
  match cs with
  | ':' :: ':' :: rest => (readPieces 10 { back := some [] } rest).bind (·.address?)
  | _ :: _ :: _ =>
    if cs.head? = some ':' then none else (readPieces 10 {} cs).bind (·.address?)
  | _ => none

/-- The length of the run of zeros at the start. -/
def zeroRun (pieces : List Nat) : Nat := (pieces.takeWhile (· == 0)).length

/-- The start and the length of the first longest run of zeros. -/
def longestZeros : Nat → List Nat → Nat × Nat
  | start, [] => (start, 0)
  | start, p :: rest =>
    let here := zeroRun (p :: rest)
    let later := longestZeros (start + 1) rest
    if later.2 ≤ here then (start, here) else later

def joinPieces (pieces : List Nat) : List Char :=
  [':'].intercalate (pieces.map (Nat.toDigits 16))

/-- A single zero is not left out. -/
def Address.write (a : Address) : List Char :=
  let (start, length) := longestZeros 0 a
  if length < 2 then joinPieces a
  else joinPieces (a.take start) ++ [':', ':'] ++ joinPieces (a.drop (start + length))

end SchemaMigration.Url
