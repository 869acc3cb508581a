/-! # Which migrations are applied -/

namespace SchemaMigration

inductive MigrationStatus
  | applied
  | pending
  deriving DecidableEq, Repr

/-- What there is and what is applied. -/
structure StatusReport where
  /-- Every migration of the catalog, in ascending order. -/
  entries : List (String × MigrationStatus)
  /-- The ids of the ledger that the catalog does not know. -/
  orphaned : List String
  deriving DecidableEq, Repr

namespace StatusReport

/-- Compares the ids of the catalog with those of the ledger. -/
def compare (discovered ledger : List String) : StatusReport where
  entries := discovered.map fun id => (id, if id ∈ ledger then .applied else .pending)
  orphaned := ledger.filter (· ∉ discovered)

def count (r : StatusReport) (status : MigrationStatus) : Nat :=
  (r.entries.filter (·.2 = status)).length

def appliedCount (r : StatusReport) : Nat := r.count .applied

def pendingCount (r : StatusReport) : Nat := r.count .pending

end StatusReport

end SchemaMigration
