import SchemaMigration.Number.Digits

/-!
# Decimal numerals

A numeral is a sign, digits with at most one point, and an optional power of
ten. It denotes `± digits · 10 ^ exponent` exactly.
-/

namespace SchemaMigration.Number

/-- The number `± digits · 10 ^ exponent`. -/
structure Decimal where
  negative : Bool
  digits : Nat
  exponent : Int
  deriving DecidableEq, Repr

namespace Decimal

/-- Takes an optional sign off; `true` is minus. -/
def splitSign : List Char → Bool × List Char
  | '-' :: rest => (true, rest)
  | '+' :: rest => (false, rest)
  | cs => (false, cs)

/-- The digits after a point, and what follows them. -/
def splitFraction : List Char → List Char × List Char
  | '.' :: rest => rest.span Char.isDigit
  | cs => ([], cs)

/-- The exponent at the end of a numeral; none at all counts as zero. -/
def readExponent? : List Char → Option Int
  | [] => some 0
  | c :: rest =>
    if c = 'e' ∨ c = 'E' then
      let (negative, digits) := splitSign rest
      if digits ≠ [] ∧ digits.all Char.isDigit then
        some (if negative then -(natOfDigits 10 digits : Int) else natOfDigits 10 digits)
      else none
    else none

/-- Reads a whole text as a numeral. -/
def read? (cs : List Char) : Option Decimal :=
  let (negative, unsigned) := splitSign cs
  let (whole, rest) := unsigned.span Char.isDigit
  let (fraction, rest) := splitFraction rest
  if whole = [] ∧ fraction = [] then none
  else
    (readExponent? rest).map fun exponent =>
      ⟨negative, natOfDigits 10 (whole ++ fraction), exponent - fraction.length⟩

end Decimal

end SchemaMigration.Number
