import SchemaMigration.Text.Range
import SchemaMigration.Text.Table.Unprintable
import SchemaMigration.Number.Digits

/-!
# Quoted text

A text between double quotes, as diagnostics show it. Quotes, backslashes and
characters that cannot be seen are escaped.
-/

namespace SchemaMigration.Text

open Number

/-- The code point in hexadecimal between braces. -/
def codePointEscape (c : Char) : List Char :=
  "\\u\x7b".toList ++ Nat.toDigits 16 c.toNat ++ ['\x7d']

def escapeChar (c : Char) : List Char :=
  if c = '"' then ['\\', '"']
  else if c = '\\' then ['\\', '\\']
  else if c = '\n' then ['\\', 'n']
  else if c = '\r' then ['\\', 'r']
  else if c = '\t' then ['\\', 't']
  else if c = '\x00' then ['\\', '0']
  else if inRanges unprintableRanges c.toNat then codePointEscape c
  else [c]

def quoted (s : String) : String :=
  String.ofList ('"' :: s.toList.flatMap escapeChar ++ ['"'])

end SchemaMigration.Text
