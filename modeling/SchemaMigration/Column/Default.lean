import SchemaMigration.Column.Basic
import SchemaMigration.Number.Double
import SchemaMigration.Sql.Quote
import SchemaMigration.Text.Blank
import SchemaMigration.Text.Search

/-!
# Default values

A default is sorted by how it looks: a call, a number, a truth value, a literal
that is quoted already, or plain text. Only plain text is quoted in SQL.
-/

namespace SchemaMigration.DefaultValue

open Text Number

/-- A character that stands in decimal numbers. -/
def isNumberChar (c : Char) : Bool :=
  c.isDigit || c == '.' || c == '-' || c == '+' || c == 'e' || c == 'E'

/-- A finite decimal number, with blanks around it allowed. Infinity may be written as a word, but
the words have no digit in them. -/
def isNumeric (raw : List Char) : Bool :=
  let cs := trim raw
  !cs.isEmpty && cs.any Char.isDigit && cs.all isNumberChar && (Double.read? cs).any Double.isFinite

/-- Between two quotes of the same kind. -/
def isQuoted (raw : List Char) : Bool :=
  2 ≤ raw.length &&
    ((raw.head? == some '\'' && raw.getLast? == some '\'') ||
      (raw.head? == some '"' && raw.getLast? == some '"'))

def classify (raw : String) : DefaultValue :=
  let cs := raw.toList
  if cs.contains '(' then .function raw
  else if isNumeric cs then .numeric raw
  else if sameAscii raw "true" then .boolean true raw
  else if sameAscii raw "false" then .boolean false raw
  else if isQuoted cs then .quoted raw
  else .text raw

/-- The SQL literal. A truth value keeps the word as it was written. -/
def sql : DefaultValue → String
  | .text raw => Sql.quoteLiteral raw
  | d => d.raw

end SchemaMigration.DefaultValue
