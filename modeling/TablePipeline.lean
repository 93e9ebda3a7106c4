import TablePipeline.Command.Arguments
import TablePipeline.Main
import TablePipeline.Proofs.Pipeline.Identity
import TablePipeline.Proofs.Query.Composition
import TablePipeline.Proofs.Query.Expression
import TablePipeline.Proofs.Query.RoundTrip
import TablePipeline.Proofs.Source.JsonTables
import TablePipeline.Proofs.Value.Order
import TablePipeline.Source.Directory
import TablePipeline.Proofs.Pipeline.Footprint
import TablePipeline.Proofs.Pipeline.Projection
import TablePipeline.Proofs.Query.Spans
import TablePipeline.Proofs.Query.Follows
import TablePipeline.Proofs.Query.Cursor
import TablePipeline.Proofs.Pipeline.Renaming
import TablePipeline.Proofs.Pipeline.Computed
import TablePipeline.Proofs.Pipeline.Precomputed
import TablePipeline.Proofs.Expr.Alike
import TablePipeline.Proofs.Query.Signs
import TablePipeline.Proofs.Query.PlainMinus
import TablePipeline.Proofs.Expr.IntegerSums
import TablePipeline.Proofs.Pipeline.StableSort
import TablePipeline.Proofs.Pipeline.Assignments
import TablePipeline.Proofs.Source.UnionTable
import TablePipeline.Proofs.Expr.ExactArithmetic
import TablePipeline.Proofs.Pipeline.FirstRows
import TablePipeline.Proofs.Expr.Reductions
import TablePipeline.Proofs.Pipeline.OneByOne
import TablePipeline.Proofs.Pipeline.Filtering
import TablePipeline.Proofs.Pipeline.SortLaws
import TablePipeline.Proofs.Pipeline.RenamedFilter
import TablePipeline.Proofs.Value.Comparisons
import TablePipeline.Proofs.Pipeline.Extremes
import TablePipeline.Proofs.Query.Respaced
import TablePipeline.Proofs.Query.FirstFault
import TablePipeline.Proofs.Query.SourceNames
import TablePipeline.Proofs.Report.Alignment
import TablePipeline.Proofs.Query.Conversions
import TablePipeline.Proofs.Source.JsonLines
import TablePipeline.Proofs.Calendar.Layouts
