import SchemaMigration.Number.Digits

/-!
# Points in time

A second of the proleptic Gregorian calendar and its stamp, `YYYYMMDDHHMMSS`. Years
outside four digits are written with a sign.
-/

namespace SchemaMigration.Calendar

open Number

structure Moment where
  year : Int
  month : Nat
  day : Nat
  hour : Nat
  minute : Nat
  second : Nat
  deriving DecidableEq, Repr

def secondsPerDay : Int := 86400

/-- Days in the 400 years after which the calendar repeats itself. -/
def daysPerEra : Int := 146097

/-- Days from 1 March of the year 0 to 1 January 1970. -/
def epochDays : Int := 719468

/-- The date that lies the given number of days after 1 January 1970. Years are
counted from March, so that a leap day comes last. -/
def dateOfDays (days : Int) : Int × Nat × Nat :=
  let shifted := days + epochDays
  let era := shifted.fdiv daysPerEra
  let dayOfEra := (shifted.fmod daysPerEra).toNat
  let yearOfEra := (dayOfEra - dayOfEra / 1460 + dayOfEra / 36524 - dayOfEra / 146096) / 365
  let dayOfYear := dayOfEra - (365 * yearOfEra + yearOfEra / 4 - yearOfEra / 100)
  let marchMonth := (5 * dayOfYear + 2) / 153
  let day := dayOfYear - (153 * marchMonth + 2) / 5 + 1
  let month := if marchMonth < 10 then marchMonth + 3 else marchMonth - 9
  let year := (yearOfEra : Int) + era * 400 + if month ≤ 2 then 1 else 0
  (year, month, day)

/-- The moment so many seconds after the start of 1970. -/
def momentOfSeconds (seconds : Int) : Moment :=
  let (year, month, day) := dateOfDays (seconds.fdiv secondsPerDay)
  let second := (seconds.fmod secondsPerDay).toNat
  { year, month, day, hour := second / 3600, minute := second / 60 % 60, second := second % 60 }

def minYear : Int := -262143

def maxYear : Int := 262142

/-- The local moment at an offset in seconds east. Only offsets below a day and
years within the bounds exist. -/
def localMoment? (seconds offset : Int) : Option Moment :=
  let year := (momentOfSeconds seconds).year
  if offset.natAbs < 86400 ∧ minYear ≤ year ∧ year ≤ maxYear then
    some (momentOfSeconds (seconds + offset))
  else none

def yearText (year : Int) : List Char :=
  if 0 ≤ year ∧ year ≤ 9999 then paddedDigits 4 year.toNat
  else
    let digits := decimalDigits year.natAbs
    (if year < 0 then '-' else '+') :: List.replicate (4 - digits.length) '0' ++ digits

def Moment.stamp (m : Moment) : String :=
  String.ofList
    (yearText m.year ++ paddedDigits 2 m.month ++ paddedDigits 2 m.day ++ paddedDigits 2 m.hour ++
      paddedDigits 2 m.minute ++ paddedDigits 2 m.second)

/-- A moment with its millionths of a second, for a reader. -/
def Moment.timeText (m : Moment) (micros : Nat) : String :=
  String.ofList
    (yearText m.year ++ '-' :: paddedDigits 2 m.month ++ '-' :: paddedDigits 2 m.day ++
      'T' :: paddedDigits 2 m.hour ++ ':' :: paddedDigits 2 m.minute ++
      ':' :: paddedDigits 2 m.second ++ '.' :: paddedDigits 6 micros ++ ['Z'])

end SchemaMigration.Calendar
