import SchemaMigration.Number.Decimal

/-!
# Double precision numbers

A finite double is `± significand · 2 ^ exponent` with a significand below
`2 ^ 53` and an exponent of at least -1074. Every operation rounds the exact
result to the nearest double, a tie to the even significand.
-/

namespace SchemaMigration.Number

inductive Double
  | finite (negative : Bool) (significand : Nat) (exponent : Int)
  | infinite (negative : Bool)
  | notANumber
  deriving DecidableEq, Repr

namespace Double

def minExponent : Int := -1074

def maxExponent : Int := 971

def zero (negative : Bool) : Double := .finite negative 0 minExponent

/-- The quotient to the nearest integer, a tie to the even one. -/
def divideToEven (num den : Nat) : Nat :=
  let quotient := num / den
  let twice := 2 * (num % den)
  if den < twice ∨ (twice = den ∧ quotient % 2 = 1) then quotient + 1 else quotient

/-- The greatest `k` with `2 ^ k ≤ num / den`, for positive numbers. -/
def floorLog2 (num den : Nat) : Int :=
  let guess := (num.log2 : Int) - den.log2
  let reached :=
    if 0 ≤ guess then den * Nat.pow 2 guess.toNat ≤ num else den ≤ num * Nat.pow 2 (-guess).toNat
  if reached then guess else guess - 1

/-- The double nearest to `num / den`, where `den` is positive. -/
def ofRatio (negative : Bool) (num den : Nat) : Double :=
  if num = 0 then zero negative
  else
    let exponent := max (floorLog2 num den - 52) minExponent
    let significand :=
      if 0 ≤ exponent then divideToEven num (den * Nat.pow 2 exponent.toNat)
      else divideToEven (num * Nat.pow 2 (-exponent).toNat) den
    let (significand, exponent) :=
      if significand = Nat.pow 2 53 then (Nat.pow 2 52, exponent + 1) else (significand, exponent)
    if maxExponent < exponent then .infinite negative else .finite negative significand exponent

def ofNat (n : Nat) : Double := ofRatio false n 1

def ofInt (n : Int) : Double := ofRatio (n < 0) n.natAbs 1

/-- The double nearest to a decimal. A power of ten is only computed where the
result is neither zero nor infinite for sure. -/
def ofDecimal (d : Decimal) : Double :=
  if d.digits = 0 then zero d.negative
  else
    let size := (decimalDigits d.digits).length
    if 400 < d.exponent + size then .infinite d.negative
    else if d.exponent + size < -400 then zero d.negative
    else if 0 ≤ d.exponent then ofRatio d.negative (d.digits * Nat.pow 10 d.exponent.toNat) 1
    else ofRatio d.negative d.digits (Nat.pow 10 (-d.exponent).toNat)

/-- The words for infinity and for no number, in any case. -/
def ofWord? (negative : Bool) (cs : List Char) : Option Double :=
  let word := String.ofList (cs.map Char.toLower)
  if word = "inf" ∨ word = "infinity" then some (.infinite negative)
  else if word = "nan" then some .notANumber
  else none

/-- Reads a whole text: a numeral, or one of the words behind a sign. -/
def read? (cs : List Char) : Option Double :=
  match Decimal.read? cs with
  | some d => some (ofDecimal d)
  | none =>
    let (negative, word) := Decimal.splitSign cs
    ofWord? negative word

/-- The numerator and denominator of a power of two. -/
def powerOfTwo (exponent : Int) : Nat × Nat :=
  if 0 ≤ exponent then (Nat.pow 2 exponent.toNat, 1) else (1, Nat.pow 2 (-exponent).toNat)

/-- The product of two finite doubles; the others are not multiplied here. -/
def mul : Double → Double → Double
  | .finite n m e, .finite n' m' e' =>
    let (num, den) := powerOfTwo (e + e')
    ofRatio (n != n') (m * m' * num) den
  | _, _ => .notANumber

/-- The quotient of two finite doubles, the second one not zero. -/
def div : Double → Double → Double
  | .finite n m e, .finite n' m' e' =>
    let (num, den) := powerOfTwo (e - e')
    ofRatio (n != n') (m * num) (m' * den)
  | _, _ => .notANumber

def isZero : Double → Bool
  | .finite _ m _ => m == 0
  | _ => false

def isFinite : Double → Bool
  | .finite _ _ _ => true
  | _ => false

def isInfinite : Double → Bool
  | .infinite _ => true
  | _ => false

def negate : Double → Double
  | .finite n m e => .finite (!n) m e
  | .infinite n => .infinite (!n)
  | .notANumber => .notANumber

end Double

end SchemaMigration.Number
