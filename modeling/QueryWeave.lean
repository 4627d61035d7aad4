import QueryWeave.CommandLine.Arguments
import QueryWeave.CommandLine.Diff
import QueryWeave.CommandLine.Run
import QueryWeave.Database.Connection
import QueryWeave.Database.Fault
import QueryWeave.Database.Lexeme
import QueryWeave.Database.Location
import QueryWeave.Database.RealNumeral
import QueryWeave.Database.Rehearsal
import QueryWeave.Database.Schema
import QueryWeave.Database.Statement
import QueryWeave.Database.Stored
import QueryWeave.Database.Target
import QueryWeave.Database.Value
import QueryWeave.Directive.Basic
import QueryWeave.Directive.Keyword
import QueryWeave.Directive.Range
import QueryWeave.Document.Basic
import QueryWeave.Document.Comment
import QueryWeave.Document.Kind
import QueryWeave.Engine.Fetch
import QueryWeave.Engine.Run
import QueryWeave.Engine.Session
import QueryWeave.Failure
import QueryWeave.Files.Fault
import QueryWeave.Files.Path
import QueryWeave.Files.Tree
import QueryWeave.Fragment.Gnuplot
import QueryWeave.Fragment.Latex
import QueryWeave.Fragment.Pairing
import QueryWeave.Import.ColumnType
import QueryWeave.Import.Fault
import QueryWeave.Import.Load
import QueryWeave.Import.Options
import QueryWeave.Import.ResultLine
import QueryWeave.Import.Statement
import QueryWeave.Layout.BoxTable
import QueryWeave.Layout.EndMarker
import QueryWeave.Layout.Macro
import QueryWeave.Layout.RowTable
import QueryWeave.Main
import QueryWeave.Number.Decimal
import QueryWeave.Number.Double
import QueryWeave.Number.Extended
import QueryWeave.Number.Logarithm
import QueryWeave.Number.Magnitude
import QueryWeave.Number.Numeral
import QueryWeave.Plot.Grouping
import QueryWeave.Plot.Header
import QueryWeave.Plot.Series
import QueryWeave.Proofs.Assignments
import QueryWeave.Proofs.BoxTables
import QueryWeave.Proofs.BufferLines
import QueryWeave.Proofs.BufferedResults
import QueryWeave.Proofs.Bystanders
import QueryWeave.Proofs.CellText
import QueryWeave.Proofs.Characters
import QueryWeave.Proofs.CheckedCommands
import QueryWeave.Proofs.ClauseFormats
import QueryWeave.Proofs.ClauseReading
import QueryWeave.Proofs.CommandRuns
import QueryWeave.Proofs.Commands
import QueryWeave.Proofs.CommentBlocks
import QueryWeave.Proofs.Comments
import QueryWeave.Proofs.Confinement
import QueryWeave.Proofs.CurveMerging
import QueryWeave.Proofs.CurveRuns
import QueryWeave.Proofs.DataFileContents
import QueryWeave.Proofs.DataFilePaths
import QueryWeave.Proofs.DataSets
import QueryWeave.Proofs.DatabasePlaces
import QueryWeave.Proofs.DatabaseWork
import QueryWeave.Proofs.DocumentRuns
import QueryWeave.Proofs.DocumentTexts
import QueryWeave.Proofs.EscapedTables
import QueryWeave.Proofs.FailedCommands
import QueryWeave.Proofs.FailedDirectives
import QueryWeave.Proofs.Following
import QueryWeave.Proofs.ForwardPass
import QueryWeave.Proofs.GnuplotLines
import QueryWeave.Proofs.GnuplotWeave
import QueryWeave.Proofs.GroupedDigits
import QueryWeave.Proofs.GuardedSessions
import QueryWeave.Proofs.Idempotence
import QueryWeave.Proofs.ImportColumns
import QueryWeave.Proofs.ImportStatements
import QueryWeave.Proofs.InsertedColumns
import QueryWeave.Proofs.Iteration
import QueryWeave.Proofs.KeptComments
import QueryWeave.Proofs.KeptData
import QueryWeave.Proofs.LatexLines
import QueryWeave.Proofs.LatexWeave
import QueryWeave.Proofs.LineEnds
import QueryWeave.Proofs.MarkedExtrema
import QueryWeave.Proofs.NumberLiterals
import QueryWeave.Proofs.NumberRanges
import QueryWeave.Proofs.OldTitles
import QueryWeave.Proofs.OpenTransactions
import QueryWeave.Proofs.Places
import QueryWeave.Proofs.PlotHeaders
import QueryWeave.Proofs.QueryClauses
import QueryWeave.Proofs.QuotedNames
import QueryWeave.Proofs.RangeSelection
import QueryWeave.Proofs.ReplacedWords
import QueryWeave.Proofs.Replay
import QueryWeave.Proofs.Reweaving
import QueryWeave.Proofs.RowSuffixes
import QueryWeave.Proofs.SessionInvariants
import QueryWeave.Proofs.Splicing
import QueryWeave.Proofs.StatementMerging
import QueryWeave.Proofs.TableLines
import QueryWeave.Proofs.Transactions
import QueryWeave.Proofs.Transcripts
import QueryWeave.Proofs.Traversals
import QueryWeave.Proofs.WrittenLines
import QueryWeave.Proofs.WrittenNumbers
import QueryWeave.Reformat.Cell
import QueryWeave.Reformat.Clause
import QueryWeave.Reformat.Error
import QueryWeave.Reformat.Extrema
import QueryWeave.Reformat.Format
import QueryWeave.Reformat.Ranges
import QueryWeave.Reformat.Reader
import QueryWeave.Result.Cursor
import QueryWeave.Result.Fault
import QueryWeave.Result.Table
import QueryWeave.Text.Basic
import QueryWeave.Text.Escape
import QueryWeave.Text.Grapheme.Cluster
import QueryWeave.Text.Grapheme.Table
import QueryWeave.Text.Integer
import QueryWeave.Text.Lines
import QueryWeave.Text.Ranges
import QueryWeave.Text.Utf8
import QueryWeave.Text.White
import QueryWeave.Text.Width.Columns
import QueryWeave.Text.Width.Table
import QueryWeave.Weave.DataFile
import QueryWeave.Weave.Gnuplot
import QueryWeave.Weave.Latex
import QueryWeave.Weave.Output
import QueryWeave.Weave.Splice
