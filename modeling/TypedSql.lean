import TypedSql.Settings
import TypedSql.Expr.Filter
import TypedSql.Statement.Select
import TypedSql.Statement.Change
import TypedSql.Join.Script
import TypedSql.Views.Execution
import TypedSql.Proofs.Binding
import TypedSql.Proofs.Scoping
import TypedSql.Proofs.Typing.Soundness
import TypedSql.Proofs.Noninterference
import TypedSql.Proofs.Evaluation.Agreement
import TypedSql.Proofs.Meaning.Preservation
import TypedSql.Proofs.Worklist
import TypedSql.Proofs.Sql.Lexing
import TypedSql.Proofs.Mapping
import TypedSql.Proofs.Views.Refinement
import TypedSql.Proofs.Omission
import TypedSql.Proofs.Searching
import TypedSql.Proofs.Spelling
import TypedSql.Proofs.Filtering
import TypedSql.Proofs.Recording
import TypedSql.Proofs.Projecting
import TypedSql.Proofs.Nesting
import TypedSql.Proofs.Counters
import TypedSql.Proofs.Aliasing
import TypedSql.Proofs.Folding
import TypedSql.Proofs.Paging
import TypedSql.Proofs.Inserting
import TypedSql.Proofs.Calculating
import TypedSql.Proofs.Qualifying
import TypedSql.Proofs.Comparing
import TypedSql.Proofs.Trichotomy
import TypedSql.Proofs.Pointing
import TypedSql.Proofs.Negating
import TypedSql.Proofs.Desugaring
