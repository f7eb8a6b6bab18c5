import PreparedSql.Bind.Stored
import PreparedSql.Connection.Executor
import PreparedSql.Connection.Settings
import PreparedSql.Proofs.AssignedColumns
import PreparedSql.Proofs.Bounded.Vacuous
import PreparedSql.Proofs.Calendar.Restored
import PreparedSql.Proofs.Condition.Where
import PreparedSql.Proofs.Data.Plans
import PreparedSql.Proofs.Emitted
import PreparedSql.Proofs.Filtered
import PreparedSql.Proofs.IgnoreCase.Folding
import PreparedSql.Proofs.IgnoreCase.HandedDown
import PreparedSql.Proofs.Introduced
import PreparedSql.Proofs.LogicalNames
import PreparedSql.Proofs.Nested.DerivedTables
import PreparedSql.Proofs.Nested.EmptyLists
import PreparedSql.Proofs.Nested.OutputNames
import PreparedSql.Proofs.Nested.SelectedColumns
import PreparedSql.Proofs.Placeholder.Filled
import PreparedSql.Proofs.Placeholder.Plans
import PreparedSql.Proofs.QualifiedNames
import PreparedSql.Proofs.Rows.Graph
import PreparedSql.Proofs.Rows.Walked
import PreparedSql.Proofs.Schema.RoundTrip
import PreparedSql.Proofs.SourceList
import PreparedSql.Query.Build
import PreparedSql.Query.Reading
import PreparedSql.Query.Relation
import PreparedSql.Query.Writing
import PreparedSql.Record.OfRow
import PreparedSql.Schema.Document
