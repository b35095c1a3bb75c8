import Criteria.Text.Blank
import Criteria.Text.Quoted
import Criteria.Text.LowerCase
import Criteria.Text.Split
import Criteria.Number.FloatText
import Criteria.Number.FloatReading
import Criteria.Value.Text
import Criteria.Value.Order
import Criteria.Probe
import Criteria.Term.Text
import Criteria.Term.Same
import Criteria.Term.Substitution
import Criteria.Predicate
import Criteria.Path.Reading
import Criteria.Path.Text
import Criteria.Criterion.Binary
import Criteria.Criterion.Evaluation
import Criteria.Criterion.Many
import Criteria.Property.Named
import Criteria.Calendar
import Criteria.Builder
import Criteria.Sample.Gallery
import Criteria.Query
import Criteria.Memo
import Criteria.Console.Report
import Criteria.Console.Line
import Criteria.Console.Filter
import Criteria.Settings.Toml
import Criteria.Settings.Yaml
import Criteria.Workbench
import Criteria.Proofs.FreeVariable
import Criteria.Proofs.TruthTable
import Criteria.Proofs.Chain
import Criteria.Proofs.Counting
import Criteria.Proofs.Tracing
import Criteria.Proofs.Renaming
import Criteria.Proofs.Relabelling
import Criteria.Proofs.Sameness
import Criteria.Proofs.AlphaEquivalence
import Criteria.Proofs.Congruence
import Criteria.Proofs.JoinShape
import Criteria.Proofs.PathReading
import Criteria.Proofs.Retention
import Criteria.Proofs.MemoHistory
import Criteria.Proofs.Remembering
import Criteria.Proofs.Explanation
import Criteria.Proofs.BoundPath
import Criteria.Proofs.Querying
import Criteria.Proofs.OrderedValues
import Criteria.Proofs.Dependence
import Criteria.Proofs.Membership
import Criteria.Proofs.Windows
import Criteria.Proofs.Building
import Criteria.Proofs.Legibility
import Criteria.Proofs.Likeness
import Criteria.Proofs.ConsoleLines
import Criteria.Proofs.Cutting
import Criteria.Proofs.StepReading
import Criteria.Proofs.Reprinting
import Criteria.Proofs.Coloring
import Criteria.Proofs.ExactSums
import Criteria.Proofs.Separators
