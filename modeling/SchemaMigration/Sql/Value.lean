import SchemaMigration.Number.Shortest
import SchemaMigration.Sql.Quote

/-! # Values bound to a statement -/

namespace SchemaMigration

open Number

/-- A value that stands for a placeholder of a raw statement. -/
inductive SqlValue
  | null
  | boolean (value : Bool)
  | integer (value : Int)
  | float (value : Double)
  | text (value : String)
  deriving DecidableEq, Repr

namespace SqlValue

/-- The value as a literal inside a statement. -/
def literal : SqlValue → String
  | .null => "NULL"
  | .boolean b => toString b
  | .integer n => intText n
  | .float x => x.plainText
  | .text s => Sql.quoteLiteral s

end SqlValue

/-- A statement and the values of its placeholders. -/
structure Statement where
  sql : String
  params : List SqlValue
  deriving DecidableEq, Repr

end SchemaMigration
