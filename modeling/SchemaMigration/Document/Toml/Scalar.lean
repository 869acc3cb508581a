import SchemaMigration.Document.Basic
import SchemaMigration.Document.Toml.Datetime

/-!
# Strings and numbers of TOML
-/

namespace SchemaMigration.Toml

open Number

/-- A character that a comment or a string may contain. -/
def isContent (c : Char) : Bool := c == '\t' || (0x20 ≤ c.toNat && c.toNat != 0x7F)

def isSpace (c : Char) : Bool := c == ' ' || c == '\t'

def skipSpace (cs : List Char) : List Char := cs.dropWhile isSpace

/-- A line break at the start, taken off. -/
def newline? : List Char → Option (List Char)
  | '\n' :: rest => some rest
  | '\r' :: '\n' :: rest => some rest
  | _ => none

/-! ## Strings -/

def codePoint? (digits : List Char) : Option Char :=
  let n := natOfDigits 16 digits
  if digits.all isHexDigit ∧ (n < 0xD800 ∨ (0xDFFF < n ∧ n < 0x110000)) then some (Char.ofNat n)
  else none

/-- The character of an escape, the backslash being passed already. -/
def readEscape : List Char → Option (Char × List Char)
  | 'b' :: rest => some ('\x08', rest)
  | 't' :: rest => some ('\t', rest)
  | 'n' :: rest => some ('\n', rest)
  | 'f' :: rest => some ('\x0c', rest)
  | 'r' :: rest => some ('\r', rest)
  | '"' :: rest => some ('"', rest)
  | '\\' :: rest => some ('\\', rest)
  | 'u' :: rest =>
    if 4 ≤ rest.length then (codePoint? (rest.take 4)).map (·, rest.drop 4) else none
  | 'U' :: rest =>
    if 8 ≤ rest.length then (codePoint? (rest.take 8)).map (·, rest.drop 8) else none
  | _ => none

/-- The content up to the closing quote. The first argument bounds the number of steps. -/
def readBasic : Nat → List Char → Read
  | 0, _ => none
  | fuel + 1, cs =>
    match cs with
    | '"' :: rest => some ([], rest)
    | '\\' :: rest => do
      let (c, rest) ← readEscape rest
      let (text, rest) ← readBasic fuel rest
      return (c :: text, rest)
    | c :: rest =>
      if isContent c then do
        let (text, rest) ← readBasic fuel rest
        return (c :: text, rest)
      else none
    | [] => none

def readLiteral : List Char → Read
  | [] => none
  | c :: rest =>
    if c = '\'' then some ([], rest)
    else if isContent c then do
      let (text, rest) ← readLiteral rest
      return (c :: text, rest)
    else none

/-- How a run of quotes inside a string of several lines is read: fewer than three
are text; otherwise the last three of at most five close the string. -/
def quoteRun (length : Nat) : Nat × Bool :=
  if length < 3 then (length, false) else (min (length - 3) 2, true)

/-- Skips the blank lines after a backslash at the end of a line. -/
def skipBlankLines : Nat → List Char → List Char
  | 0, cs => cs
  | fuel + 1, cs =>
    match newline? cs with
    | some rest => skipBlankLines fuel rest
    | none =>
      match cs with
      | c :: rest => if isSpace c then skipBlankLines fuel rest else cs
      | [] => []

/-- The content of a string of several lines, up to the closing quotes. Escapes
count only where `escapes` is set. -/
def readLines (escapes : Bool) (quote : Char) : Nat → List Char → Read
  | 0, _ => none
  | fuel + 1, cs =>
    match newline? cs with
    | some rest => do
      let (text, rest) ← readLines escapes quote fuel rest
      return ('\n' :: text, rest)
    | none =>
      match cs with
      | [] => none
      | c :: rest =>
        if c = quote then
          let run := (c :: rest).takeWhile (· == quote)
          let (kept, closes) := quoteRun run.length
          if closes then some (List.replicate kept quote, (c :: rest).drop (kept + 3))
          else do
            let (text, rest) ← readLines escapes quote fuel ((c :: rest).drop kept)
            return (List.replicate kept quote ++ text, rest)
        else if escapes ∧ c = '\\' then
          match newline? (skipSpace rest) with
          | some after => readLines escapes quote fuel (skipBlankLines after.length after)
          | none => do
            let (e, rest) ← readEscape rest
            let (text, rest) ← readLines escapes quote fuel rest
            return (e :: text, rest)
        else if isContent c then do
          let (text, rest) ← readLines escapes quote fuel rest
          return (c :: text, rest)
        else none

/-- A line break right after the opening quotes does not count. -/
def dropFirstNewline (cs : List Char) : List Char := (newline? cs).getD cs

/-- A string of any of the four kinds. -/
def readString : List Char → Read
  | '"' :: '"' :: '"' :: rest => readLines true '"' (rest.length + 1) (dropFirstNewline rest)
  | '"' :: rest => readBasic (rest.length + 1) rest
  | '\'' :: '\'' :: '\'' :: rest => readLines false '\'' (rest.length + 1) (dropFirstNewline rest)
  | '\'' :: rest => readLiteral rest
  | _ => none

/-! ## Numbers -/

/-- Digits with single underscores between them. `none` where an underscore has
no digit after it. -/
def readGrouped (isDigit : Char → Bool) : List Char → Read
  | '_' :: c :: rest =>
    if isDigit c then do
      let (digits, rest) ← readGrouped isDigit rest
      return (c :: digits, rest)
    else none
  | ['_'] => none
  | c :: rest =>
    if isDigit c then do
      let (digits, rest) ← readGrouped isDigit rest
      return (c :: digits, rest)
    else some ([], c :: rest)
  | [] => some ([], [])

/-- At least one digit, with underscores between digits. -/
def readDigits (isDigit : Char → Bool) : List Char → Read
  | c :: rest =>
    if isDigit c then do
      let (digits, rest) ← readGrouped isDigit rest
      return (c :: digits, rest)
    else none
  | [] => none

/-- An integer without leading zeros, its sign aside. -/
def readWhole : List Char → Read
  | '0' :: rest => some (['0'], rest)
  | cs => readDigits Char.isDigit cs

def readExponent : List Char → Read
  | c :: rest =>
    if c = 'e' ∨ c = 'E' then do
      let (sign, rest) := match rest with
        | '+' :: rest => (['+'], rest)
        | '-' :: rest => (['-'], rest)
        | rest => ([], rest)
      let (digits, rest) ← readDigits Char.isDigit rest
      return (c :: sign ++ digits, rest)
    else none
  | [] => none

/-- A fraction and an exponent, one of them at least. -/
def readFractionOrExponent : List Char → Read
  | '.' :: rest => do
    let (digits, rest) ← readDigits Char.isDigit rest
    match rest with
    | 'e' :: _ | 'E' :: _ => do
      let (exponent, rest) ← readExponent rest
      return ('.' :: digits ++ exponent, rest)
    | _ => return ('.' :: digits, rest)
  | cs => readExponent cs

/-- The double nearest to a numeral; a number that is too large is only allowed
below zero. -/
def floatValue? (negative : Bool) (numeral : List Char) : Option Document := do
  let d ← Decimal.read? numeral
  let x := Double.ofDecimal { d with negative }
  if x = .infinite false then none else some (.float x)

def integerValue? (n : Int) : Option Document :=
  if -(Nat.pow 2 63) ≤ n ∧ n < Nat.pow 2 63 then some (.integer n) else none

def isOctalDigit (c : Char) : Bool := '0' ≤ c && c ≤ '7'

def isBinaryDigit (c : Char) : Bool := c == '0' || c == '1'

def readBased (base : Nat) (isDigit : Char → Bool) (cs : List Char) :
    Option (Document × List Char) := do
  let (digits, rest) ← readDigits isDigit cs
  let value ← integerValue? (natOfDigits base digits)
  return (value, rest)

/-- Infinities and numbers that are none, after their sign. -/
def readSpecial (negative : Bool) : List Char → Option (Document × List Char)
  | 'i' :: 'n' :: 'f' :: rest => some (.float (.infinite negative), rest)
  | 'n' :: 'a' :: 'n' :: rest => some (.float .notANumber, rest)
  | _ => none

def readDecimal (cs : List Char) : Option (Document × List Char) := do
  let (negative, unsigned) := Decimal.splitSign cs
  match readSpecial negative unsigned with
  | some special => return special
  | none =>
    let (whole, rest) ← readWhole unsigned
    match rest with
    | '.' :: _ | 'e' :: _ | 'E' :: _ =>
      let (tail, rest) ← readFractionOrExponent rest
      let value ← floatValue? negative (whole ++ tail)
      return (value, rest)
    | _ =>
      let magnitude : Int := natOfDigits 10 whole
      let value ← integerValue? (if negative then -magnitude else magnitude)
      return (value, rest)

/-- The key under which a date or time appears. -/
def datetimeKey : String := "$__toml_private_datetime"

/-- A date, a time or a number. -/
def readNumber (cs : List Char) : Option (Document × List Char) :=
  match readDatetime cs with
  | some (text, rest) =>
    some (.mapping [(some datetimeKey, .text (String.ofList text))], rest)
  | none =>
    match cs with
    | '0' :: 'x' :: rest => readBased 16 isHexDigit rest
    | '0' :: 'o' :: rest => readBased 8 isOctalDigit rest
    | '0' :: 'b' :: rest => readBased 2 isBinaryDigit rest
    | cs => readDecimal cs

end SchemaMigration.Toml
