import SchemaMigration.Text.Range
import SchemaMigration.Text.Table.Alphanumeric

/-! # The characters of a name -/

namespace SchemaMigration.Text

/-- A letter or a number of any script. -/
def isAlphanumeric (c : Char) : Bool :=
  if c.toNat < 0x80 then c.isAlphanum else inRanges alphanumericRanges c.toNat

/-- A character of a type name or a modifier name. -/
def isWordChar (c : Char) : Bool := isAlphanumeric c || c == '_'

end SchemaMigration.Text
