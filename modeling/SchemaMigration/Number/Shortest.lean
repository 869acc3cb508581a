import SchemaMigration.Number.Double

/-!
# The shortest digits of a double

Of all decimals that round to a finite double, the ones with the fewest digits,
and of those the nearest. `plainText` writes them without an exponent,
`pointedText` always with a point, `scientificText` with an exponent where the
number is very large or very small. Where two decimals are equally near, the
first two take the upper one and the last takes the even one.
-/

namespace SchemaMigration.Number.Double

/-- Which of two equally near decimals is taken. -/
inductive Tie
  | up
  | even
  deriving DecidableEq, Repr

/-- Digits and the power of ten of the last one. -/
structure Shortest where
  digits : Nat
  exponent : Int
  deriving DecidableEq, Repr

/-- `n · 2 ^ e` compared with `d · 10 ^ k`, both sides multiplied out. -/
def crossCompare (n : Nat) (e : Int) (d : Nat) (k : Int) : Ordering :=
  let left := n * Nat.pow 2 e.toNat * Nat.pow 10 (-k).toNat
  let right := d * Nat.pow 10 k.toNat * Nat.pow 2 (-e).toNat
  compare left right

/-- The numbers that round to `significand · 2 ^ exponent`, in quarters of its
last place. -/
structure RoundingInterval where
  low : Nat
  middle : Nat
  high : Nat
  exponent : Int
  closed : Bool

def roundingInterval (significand : Nat) (exponent : Int) : RoundingInterval :=
  let narrow := significand == Nat.pow 2 52 && minExponent < exponent
  { low := 4 * significand - if narrow then 1 else 2
    middle := 4 * significand
    high := 4 * significand + 2
    exponent := exponent - 2
    closed := significand % 2 == 0 }

def RoundingInterval.contains (i : RoundingInterval) (d : Nat) (k : Int) : Bool :=
  match crossCompare i.low i.exponent d k, crossCompare i.high i.exponent d k with
  | .lt, .gt => true
  | .eq, _ | _, .eq => i.closed
  | _, _ => false

/-- The greatest `d` with `d · 10 ^ k` at most the middle of the interval. -/
def RoundingInterval.floorAt (i : RoundingInterval) (k : Int) : Nat :=
  (i.middle * Nat.pow 2 i.exponent.toNat * Nat.pow 10 (-k).toNat) /
    (Nat.pow 10 k.toNat * Nat.pow 2 (-i.exponent).toNat)

/-- The multiple of `10 ^ k` that rounds to the double and is nearest to it. -/
def RoundingInterval.nearestAt? (i : RoundingInterval) (tie : Tie) (k : Int) : Option Nat :=
  let below := i.floorAt k
  let above := below + 1
  match i.contains below k, i.contains above k with
  | true, true =>
    -- The nearer one: compare the middle with the half-way point.
    match crossCompare (2 * i.middle) i.exponent (below + above) k with
    | .lt => some below
    | .gt => some above
    | .eq => some (if tie = .even ∧ below % 2 = 0 then below else above)
  | true, false => some below
  | false, true => some above
  | false, false => none

/-- Tries the grids from `10 ^ k` downwards. -/
def RoundingInterval.search (i : RoundingInterval) (tie : Tie) : Nat → Int → Option Shortest
  | 0, _ => none
  | tries + 1, k =>
    match i.nearestAt? tie k with
    | some d => some ⟨d, k⟩
    | none => search i tie tries (k - 1)

/-- The largest power of ten that can matter for a number, and one more. -/
def topExponent (num : Nat) (exponent : Int) : Int :=
  if 0 ≤ exponent then ((decimalDigits (num * Nat.pow 2 exponent.toNat)).length : Int)
  else
    ((decimalDigits num).length : Int) - ((decimalDigits (Nat.pow 2 (-exponent).toNat)).length : Int) + 1

/-- Moves the trailing zeros of a digit string into the exponent. -/
def Shortest.normalize : Nat → Shortest → Shortest
  | 0, s => s
  | tries + 1, s =>
    if s.digits ≠ 0 ∧ s.digits % 10 = 0 then normalize tries ⟨s.digits / 10, s.exponent + 1⟩ else s

/-- The shortest digits of a finite magnitude; zero is `0`. -/
def shortest (tie : Tie) (significand : Nat) (exponent : Int) : Shortest :=
  if significand = 0 then ⟨0, 0⟩
  else
    let interval := roundingInterval significand exponent
    let found := interval.search tie 40 (topExponent interval.middle interval.exponent)
    (found.getD ⟨0, 0⟩).normalize 20

/-- Digits with a point `places` from the right, zeros added as needed. -/
def positional (digits : List Char) (exponent : Int) : List Char × List Char :=
  if 0 ≤ exponent then (digits ++ List.replicate exponent.toNat '0', [])
  else
    let places := (-exponent).toNat
    if places < digits.length then digits.splitAt (digits.length - places)
    else (['0'], List.replicate (places - digits.length) '0' ++ digits)

def signed (negative : Bool) (text : String) : String := if negative then "-" ++ text else text

/-- No exponent, and no point after a whole number. -/
def plainText : Double → String
  | .notANumber => "NaN"
  | .infinite negative => signed negative "inf"
  | .finite negative m e =>
    let s := shortest .up m e
    let (whole, fraction) := positional (decimalDigits s.digits) s.exponent
    signed negative <|
      if fraction = [] then String.ofList whole
      else String.ofList whole ++ "." ++ String.ofList fraction

/-- Positional digits with a point; a whole number ends in `.0`. -/
def pointed (tie : Tie) (negative : Bool) (significand : Nat) (exponent : Int) : String :=
  let s := shortest tie significand exponent
  let (whole, fraction) := positional (decimalDigits s.digits) s.exponent
  signed negative
    (String.ofList whole ++ "." ++ if fraction = [] then "0" else String.ofList fraction)

/-- As `plainText`, but always with a point. -/
def pointedText : Double → String
  | .notANumber => "NaN"
  | .infinite negative => signed negative "inf"
  | .finite negative m e => pointed .up negative m e

/-- Positional from `1e-5` up to `1e16`, always with a point; beyond that one
digit before the point and an exponent. -/
def scientificText : Double → String
  | .notANumber => "NaN"
  | .infinite negative => signed negative "inf"
  | .finite negative m e =>
    let s := shortest .even m e
    let digits := decimalDigits s.digits
    let point := (digits.length : Int) + s.exponent
    if s.digits = 0 ∨ (-5 < point ∧ point ≤ 16) then pointed .even negative m e
    else
      let mantissa :=
        match digits with
        | first :: [] => [first]
        | first :: rest => first :: '.' :: rest
        | [] => []
      signed negative (String.ofList mantissa ++ "e" ++ intText (point - 1))

end SchemaMigration.Number.Double
