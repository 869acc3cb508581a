/-!
# Digit strings

Reading and writing natural numbers in base ten, and reading them in another base.
-/

namespace SchemaMigration.Number

/-- The value of a digit below sixteen. -/
def digitValue (c : Char) : Nat :=
  if '0' ≤ c ∧ c ≤ '9' then c.toNat - '0'.toNat
  else if 'a' ≤ c ∧ c ≤ 'f' then c.toNat - 'a'.toNat + 10
  else c.toNat - 'A'.toNat + 10

def isHexDigit (c : Char) : Bool :=
  ('0' ≤ c && c ≤ '9') || ('a' ≤ c && c ≤ 'f') || ('A' ≤ c && c ≤ 'F')

/-- The number that a digit string denotes in a base. -/
def natOfDigits (base : Nat) (cs : List Char) : Nat :=
  cs.foldl (fun n c => base * n + digitValue c) 0

/-- The digits of `n`, with no leading zero. -/
def decimalDigits (n : Nat) : List Char := Nat.toDigits 10 n

/-- The last `width` digits of `n`, with leading zeros. -/
def paddedDigits : Nat → Nat → List Char
  | 0, _ => []
  | width + 1, n => paddedDigits width (n / 10) ++ [Nat.digitChar (n % 10)]

def intText (n : Int) : String :=
  if n < 0 then "-" ++ String.ofList (decimalDigits n.natAbs)
  else String.ofList (decimalDigits n.natAbs)

theorem length_paddedDigits (width n : Nat) : (paddedDigits width n).length = width := by
  induction width generalizing n with
  | zero => rfl
  | succ width ih => simp [paddedDigits, ih]

end SchemaMigration.Number
