import SchemaMigration.Database.Rehearsal
import SchemaMigration.Main
import SchemaMigration.Migration.Recorder
import SchemaMigration.Proofs.Column.Parts
import SchemaMigration.Proofs.Migration.Union
import SchemaMigration.Proofs.Migration.Written
import SchemaMigration.Proofs.Database.Sqlite
import SchemaMigration.Proofs.Run.Connection
import SchemaMigration.Proofs.Run.FailFast
import SchemaMigration.Proofs.Run.Fidelity
import SchemaMigration.Proofs.Run.FirstError
import SchemaMigration.Proofs.Run.Jobs
import SchemaMigration.Proofs.Run.Report
import SchemaMigration.Proofs.Run.Reset
import SchemaMigration.Proofs.Run.Resume
import SchemaMigration.Proofs.Run.Unwind
import SchemaMigration.Proofs.Run.Watched
import SchemaMigration.Proofs.Sql.Placeholders
import SchemaMigration.Proofs.Sql.Column
import SchemaMigration.Proofs.Sql.Quotes
import SchemaMigration.Proofs.Sql.Default
import SchemaMigration.Proofs.Sql.PrimaryKey
import SchemaMigration.Proofs.Sql.Denotation
import SchemaMigration.Proofs.Sql.Precision
import SchemaMigration.Proofs.Text.EditDistance
import SchemaMigration.Proofs.Text.Suggest
import SchemaMigration.Proofs.Sql.TypeNames
import SchemaMigration.Proofs.Run.Loading
import SchemaMigration.Proofs.Migration.Accepted
import SchemaMigration.Proofs.Run.FinalState
import SchemaMigration.Proofs.Sql.Marks
import SchemaMigration.Proofs.Migration.Chronology
import SchemaMigration.Proofs.Config.Credentials
import SchemaMigration.Proofs.Scaffold.Created
import SchemaMigration.Proofs.Sql.Literal
import SchemaMigration.Proofs.Column.Separators
import SchemaMigration.Proofs.Column.Default
import SchemaMigration.Proofs.Scaffold.Preserved
