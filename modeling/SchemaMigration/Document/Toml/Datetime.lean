import SchemaMigration.Number.Digits

/-!
# Dates and times

TOML writes dates, times of day and both together, with or without an offset.
The text that is read back is the canonical one.
-/

namespace SchemaMigration.Toml

open Number

/-- A canonical text and what follows it. -/
abbrev Read := Option (List Char × List Char)

/-- Exactly `width` digits with a value in the given range. -/
def readField (width low high : Nat) (cs : List Char) : Read :=
  let digits := cs.take width
  let value := natOfDigits 10 digits
  if digits.length = width ∧ digits.all Char.isDigit ∧ low ≤ value ∧ value ≤ high then
    some (digits, cs.drop width)
  else none

def readMark (accepted : List Char) (written : Char) : List Char → Read
  | c :: rest => if accepted.contains c then some ([written], rest) else none
  | [] => none

def isLeapYear (year : Nat) : Bool := year % 4 == 0 && (year % 100 != 0 || year % 400 == 0)

def daysInMonth (year month : Nat) : Nat :=
  if month = 2 then (if isLeapYear year then 29 else 28)
  else if month = 4 ∨ month = 6 ∨ month = 9 ∨ month = 11 then 30
  else 31

def readDate (cs : List Char) : Read := do
  let (year, cs) ← readField 4 0 9999 cs
  let (_, cs) ← readMark ['-'] '-' cs
  let (month, cs) ← readField 2 1 12 cs
  let (_, cs) ← readMark ['-'] '-' cs
  let (day, cs) ← readField 2 1 (daysInMonth (natOfDigits 10 year) (natOfDigits 10 month)) cs
  return (year ++ '-' :: month ++ '-' :: day, cs)

/-- The fraction of a second: nine digits count, and trailing zeros are dropped. -/
def readFractionOfSecond : List Char → Read
  | '.' :: rest =>
    let (digits, rest) := rest.span Char.isDigit
    if digits = [] then none
    else
      let kept := ((digits.take 9).reverse.dropWhile (· == '0')).reverse
      some (if kept = [] then [] else '.' :: kept, rest)
  | cs => some ([], cs)

def readTime (cs : List Char) : Read := do
  let (hour, cs) ← readField 2 0 23 cs
  let (_, cs) ← readMark [':'] ':' cs
  let (minute, cs) ← readField 2 0 59 cs
  let (_, cs) ← readMark [':'] ':' cs
  let (second, cs) ← readField 2 0 60 cs
  let (fraction, cs) ← readFractionOfSecond cs
  return (hour ++ ':' :: minute ++ ':' :: second ++ fraction, cs)

def readOffset (cs : List Char) : Read :=
  match readMark ['Z', 'z'] 'Z' cs with
  | some offset => some offset
  | none => do
    let (sign, cs) ← (readMark ['+'] '+' cs).or (readMark ['-'] '-' cs)
    let (hour, cs) ← readField 2 0 23 cs
    let (_, cs) ← readMark [':'] ':' cs
    let (minute, cs) ← readField 2 0 59 cs
    -- No time at all from UTC has a plus sign.
    let sign := if natOfDigits 10 (hour ++ minute) = 0 then ['+'] else sign
    return (sign ++ hour ++ ':' :: minute, cs)

/-- A time after a date, with an offset if there is one. -/
def readTimeOfDate (cs : List Char) : Read := do
  let (mark, cs) ← readMark ['T', 't', ' '] 'T' cs
  let (time, cs) ← readTime cs
  match readOffset cs with
  | some (offset, cs) => return (mark ++ time ++ offset, cs)
  | none => return (mark ++ time, cs)

def readDatetime (cs : List Char) : Read :=
  match readDate cs with
  | some (date, rest) =>
    match readTimeOfDate rest with
    | some (time, rest) => some (date ++ time, rest)
    | none => some (date, rest)
  | none => readTime cs

end SchemaMigration.Toml
