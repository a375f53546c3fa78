import Worksheet.CommandLine.FileTree
import Worksheet.Main
import Worksheet.Workbook
import Worksheet.Proofs.Layout
import Worksheet.Proofs.Dependency.Graph
import Worksheet.Proofs.Dependency.Reachability
import Worksheet.Proofs.Recalculation.Counting
import Worksheet.Proofs.Recalculation.EvaluationOrder
import Worksheet.Proofs.Recalculation.Full
import Worksheet.Proofs.Formula.Coverage
import Worksheet.Proofs.Recalculation.Settled
import Worksheet.Proofs.Recalculation.Incremental
import Worksheet.Proofs.Text.Cutting
import Worksheet.Proofs.Text.Scan
import Worksheet.Proofs.Reference.Token
import Worksheet.Proofs.Formula.Precedents
import Worksheet.Proofs.Reference.Identifier
import Worksheet.Proofs.Formula.Tidy
import Worksheet.Proofs.Formula.Reading
import Worksheet.Proofs.Recalculation.Typing
import Worksheet.Proofs.Formula.Literals
import Worksheet.Proofs.Recalculation.TypingOrder
import Worksheet.Proofs.Dependency.Depth
import Worksheet.Proofs.Recalculation.RepeatedPasses
import Worksheet.Proofs.Recalculation.StaleValues
import Worksheet.Proofs.Formula.Relocation
import Worksheet.Proofs.CommandLine.Saving
import Worksheet.Proofs.Recalculation.Direct
import Worksheet.Proofs.Recalculation.OneLevel
import Worksheet.Proofs.Document.Session
import Worksheet.Proofs.Formula.Inquiry
import Worksheet.Proofs.Formula.PlainCalls
import Worksheet.Proofs.Recalculation.ReportedCycles
import Worksheet.Proofs.Recalculation.Erasure
import Worksheet.Proofs.Workbook
import Worksheet.Proofs.Dependency.CycleSearch
import Worksheet.Proofs.Reference.Spelling
import Worksheet.Proofs.RangeExpansion
import Worksheet.Proofs.Formula.RepeatedShift
import Worksheet.Proofs.Document.Filling
import Worksheet.Proofs.Reference.Canonical
import Worksheet.Proofs.Decimal.Magnitude
import Worksheet.Proofs.Decimal.Rounding
import Worksheet.Proofs.Decimal.Pattern
import Worksheet.Proofs.Decimal.Fixed
import Worksheet.Proofs.Decimal.Literal
import Worksheet.Proofs.Decimal.Shortest
import Worksheet.Proofs.Number.Reading
import Worksheet.Proofs.Number.Writing
import Worksheet.Proofs.Formula.LetterCase
import Worksheet.Proofs.Decimal.Order
import Worksheet.Proofs.Number.Grouping
import Worksheet.Proofs.Cell.TypedNumber
import Worksheet.Proofs.Formula.Failures
import Worksheet.Proofs.CommandLine.Arguments
import Worksheet.Proofs.Formula.KeptTokens
import Worksheet.Proofs.Recalculation.Rounds
