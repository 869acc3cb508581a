/-!
# Column definitions

A definition is written `type(args):modifier:modifier(args)`. These are the types
it is read into.
-/

namespace SchemaMigration

/-- The literal of a `default(...)` modifier. -/
inductive DefaultValue
  /-- Contains an opening parenthesis. -/
  | function (raw : String)
  /-- A finite decimal number. -/
  | numeric (raw : String)
  /-- `true` or `false` in any case. -/
  | boolean (value : Bool) (raw : String)
  /-- Already between two quotes of one kind. -/
  | quoted (raw : String)
  | text (raw : String)
  deriving DecidableEq, Repr

namespace DefaultValue

/-- The literal as it was written. -/
def raw : DefaultValue → String
  | .function raw | .numeric raw | .boolean _ raw | .quoted raw | .text raw => raw

end DefaultValue

/-- The recognised modifiers. `unknown` holds the names of all others, in order. -/
structure Modifiers where
  notNullable : Bool := false
  unique : Bool := false
  primary : Bool := false
  default : Option DefaultValue := none
  unknown : List String := []
  deriving DecidableEq, Repr

/-- A column definition. `typeDef` is the whole type as written; `typeArgs` is
what stands between its parentheses. -/
structure ColumnDef where
  typeDef : String
  typeName : String
  typeArgs : Option String
  modifiers : Modifiers
  deriving DecidableEq, Repr

/-- Why a text is no column definition. -/
inductive ColumnError
  | unbalanced (near : String)
  | trailing (rest : String)
  | unbalancedArgs
  | missingType
  | unexpected (rest type : String)
  deriving DecidableEq, Repr

def ColumnError.message : ColumnError → String
  | .unbalanced near => "unbalanced parentheses or quotes near '" ++ near ++ "'"
  | .trailing rest => "unexpected trailing content '" ++ rest ++ "'"
  | .unbalancedArgs => "unbalanced parentheses in type arguments"
  | .missingType => "missing type name"
  | .unexpected rest type => "unexpected '" ++ rest ++ "' in type '" ++ type ++ "'"

end SchemaMigration
