import TableReport.Analysis.Error
import TableReport.Analysis.File
import TableReport.Analysis.Payload
import TableReport.Analysis.Plan
import TableReport.Analysis.Report
import TableReport.Analysis.Request
import TableReport.Analysis.RequestReading
import TableReport.Analysis.Run
import TableReport.Calendar.DateTime
import TableReport.Calendar.Reading
import TableReport.Calendar.Serial
import TableReport.CommandLine.Arguments
import TableReport.CommandLine.CharSet
import TableReport.CommandLine.LogDirective
import TableReport.CommandLine.LogFilter
import TableReport.CommandLine.Pattern
import TableReport.CommandLine.PatternReading
import TableReport.CommandLine.Run
import TableReport.Condition.Basic
import TableReport.Condition.Compare
import TableReport.Condition.Error
import TableReport.Condition.Lexer
import TableReport.Condition.Parser
import TableReport.Condition.Predicate
import TableReport.Condition.Token
import TableReport.Json.Basic
import TableReport.Json.Parser
import TableReport.Json.Printer
import TableReport.Load.CellRules
import TableReport.Load.Csv.Document
import TableReport.Load.Csv.Record
import TableReport.Load.Csv.Table
import TableReport.Load.Error
import TableReport.Load.File
import TableReport.Load.Folder
import TableReport.Load.Journal
import TableReport.Load.Json.Record
import TableReport.Load.Json.Table
import TableReport.Load.Kind
import TableReport.Load.Observer
import TableReport.Load.ObserverTree
import TableReport.Load.Options
import TableReport.Load.Path
import TableReport.Load.TextCell
import TableReport.Load.Workbook.Sheet
import TableReport.Load.Workbook.SheetCell
import TableReport.Load.Workbook.Table
import TableReport.Main
import TableReport.Number.Binary64
import TableReport.Number.Integer
import TableReport.Number.Layout
import TableReport.Number.Nearest
import TableReport.Number.Range
import TableReport.Number.Reading
import TableReport.Number.Shortest
import TableReport.Reduce.Correlation
import TableReport.Reduce.Distinct
import TableReport.Reduce.Grouping
import TableReport.Reduce.Inspection
import TableReport.Reduce.Percentile
import TableReport.Reduce.Ranking
import TableReport.Reduce.Selection
import TableReport.Reduce.Sorting
import TableReport.Reduce.Statistics
import TableReport.Reduce.Total
import TableReport.Table.Basic
import TableReport.Table.Cell
import TableReport.Table.Error
import TableReport.Text.Blank
import TableReport.Text.Letter
import TableReport.Text.Printable
import TableReport.Text.Quoted
import TableReport.Text.Utf8
import TableReport.Trace
import TableReport.Proofs.Analysis.CorrelationResult
import TableReport.Proofs.Analysis.DistinctResult
import TableReport.Proofs.Analysis.Document
import TableReport.Proofs.Analysis.Findings
import TableReport.Proofs.Analysis.GroupResult
import TableReport.Proofs.Analysis.Missing
import TableReport.Proofs.Analysis.NamedColumns
import TableReport.Proofs.Analysis.ReductionResult
import TableReport.Proofs.Analysis.RowWidth
import TableReport.Proofs.Analysis.Validation
import TableReport.Proofs.Calendar.DateTime
import TableReport.Proofs.Calendar.Formats
import TableReport.Proofs.Calendar.ReadBack
import TableReport.Proofs.Calendar.Reading
import TableReport.Proofs.Condition.Arrangement
import TableReport.Proofs.Condition.ByName
import TableReport.Proofs.Condition.CellComparison
import TableReport.Proofs.Condition.Composition
import TableReport.Proofs.Condition.DateLiteral
import TableReport.Proofs.Condition.Grammar
import TableReport.Proofs.Condition.Lexemes
import TableReport.Proofs.Condition.Printing
import TableReport.Proofs.Condition.Scanning
import TableReport.Proofs.Condition.Spelling
import TableReport.Proofs.Condition.WithoutNaN
import TableReport.Proofs.Json.Following
import TableReport.Proofs.Json.Integer
import TableReport.Proofs.Json.Members
import TableReport.Proofs.Json.OneLine
import TableReport.Proofs.Json.Within
import TableReport.Proofs.Load.Agreement
import TableReport.Proofs.Load.CellRules
import TableReport.Proofs.Load.ColumnNames
import TableReport.Proofs.Load.DottedPaths
import TableReport.Proofs.Load.Grid
import TableReport.Proofs.Load.Inference
import TableReport.Proofs.Load.Integers
import TableReport.Proofs.Load.JsonLines
import TableReport.Proofs.Load.Lawful
import TableReport.Proofs.Load.Loaders
import TableReport.Proofs.Load.MemberNames
import TableReport.Proofs.Load.Missing
import TableReport.Proofs.Load.Narrowest
import TableReport.Proofs.Load.Observers
import TableReport.Proofs.Load.RecordMembers
import TableReport.Proofs.Load.RepeatedNames
import TableReport.Proofs.Load.SheetGrid
import TableReport.Proofs.Load.SheetInference
import TableReport.Proofs.Load.SheetSelection
import TableReport.Proofs.Load.TextConversion
import TableReport.Proofs.Number.Binary64
import TableReport.Proofs.Number.Decimal
import TableReport.Proofs.Number.Exact
import TableReport.Proofs.Number.Integer
import TableReport.Proofs.Number.Layout
import TableReport.Proofs.Number.Product
import TableReport.Proofs.Number.Reading
import TableReport.Proofs.Number.Rounding
import TableReport.Proofs.Number.Shortest
import TableReport.Proofs.Number.Whole
import TableReport.Proofs.Outcome
import TableReport.Proofs.Reduce.Correlation
import TableReport.Proofs.Reduce.Distinct
import TableReport.Proofs.Reduce.ExactCorrelation
import TableReport.Proofs.Reduce.ExactPercentile
import TableReport.Proofs.Reduce.ExactTotal
import TableReport.Proofs.Reduce.Extreme
import TableReport.Proofs.Reduce.FirstMembers
import TableReport.Proofs.Reduce.GroupKeys
import TableReport.Proofs.Reduce.GroupRows
import TableReport.Proofs.Reduce.Grouping
import TableReport.Proofs.Reduce.Missing
import TableReport.Proofs.Reduce.Percentile
import TableReport.Proofs.Reduce.Presence
import TableReport.Proofs.Reduce.RankedExtremes
import TableReport.Proofs.Reduce.Ranking
import TableReport.Proofs.Reduce.RowOrder
import TableReport.Proofs.Reduce.Sorting
import TableReport.Proofs.Reduce.Ties
import TableReport.Proofs.Reduce.Total
import TableReport.Proofs.Reduce.Twins
import TableReport.Proofs.Table.CellOrder
import TableReport.Proofs.Table.RowNumbers
import TableReport.Proofs.Table.SameCells
import TableReport.Proofs.Table.WellFormed
import TableReport.Proofs.Text.Blank
