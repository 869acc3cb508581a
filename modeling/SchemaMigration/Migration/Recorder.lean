import SchemaMigration.Migration.Basic

/-!
# Migrations built in code

A recorder collects operations in the order in which they are asked for.
-/

namespace SchemaMigration

structure Recorder where
  operations : List Operation := []
  deriving DecidableEq, Repr

namespace Recorder

def record (r : Recorder) (op : Operation) : Recorder := ⟨r.operations ++ [op]⟩

def raw (r : Recorder) (sql : String) (params : List SqlValue) : Recorder :=
  r.record (.raw { sql := some sql, params })

def createTable (r : Recorder) (name : String) (columns : Columns) (timestamps : Bool) :
    Recorder :=
  r.record (.createTable { name := some name, columns, timestamps })

def dropTable (r : Recorder) (name : String) : Recorder :=
  r.record (.dropTable { name := some name })

/-- The migration of what two recorders collected. -/
def migration (id : String) (up down : Recorder) : Migration := ⟨id, up.operations, down.operations⟩

end Recorder

end SchemaMigration
