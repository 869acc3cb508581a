import SchemaMigration.Console.Styled
import SchemaMigration.Operation.Basic

/-! # Operations in a few words -/

namespace SchemaMigration.Operation

open Console

/-- A highlighted name; a question mark where there is none. -/
def highlighted (name : Option String) : Span := .styled (name.getD "?") [.cyan]

/-- What an operation does, in one line. -/
def describe : Operation → Styled
  | .createTable op => [plain "Creating table ", highlighted op.name]
  | .dropTable op => [plain "Dropping table ", highlighted op.name]
  | .renameTable op =>
    [plain "Renaming table ", highlighted op.old, plain " to ", highlighted op.new]
  | .addColumn op =>
    [plain "Adding column ", highlighted op.column, plain " to table ", highlighted op.table]
  | .dropColumn op =>
    [plain "Dropping column ", highlighted op.column, plain " from table ", highlighted op.table]
  | .renameColumn op =>
    [plain "Renaming column ", highlighted op.old, plain " to ", highlighted op.new,
      plain " on table ", highlighted op.table]
  | .alterColumn op =>
    [plain "Altering column ", highlighted op.column, plain " on table ", highlighted op.table]
  | .addIndex op =>
    [plain (if op.isUnique then "Adding unique index " else "Adding index "),
      highlighted op.name, plain " on table ", highlighted op.table]
  | .dropIndex op =>
    match op.table with
    | some table =>
      [plain "Dropping index ", highlighted op.name, plain " from table ", highlighted table]
    | none => [plain "Dropping index ", highlighted op.name]
  | .addForeignKey op =>
    [plain "Adding foreign key ", highlighted op.name, plain " on table ", highlighted op.table]
  | .dropForeignKey op =>
    [plain "Dropping foreign key ", highlighted op.name, plain " from table ",
      highlighted op.table]
  | .raw _ => [plain "Executing raw SQL"]
  | .unknown kind => [plain ("Executing unknown operation: " ++ kind)]

end SchemaMigration.Operation
