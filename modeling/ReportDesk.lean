import ReportDesk.CommandLine.Arguments
import ReportDesk.CommandLine.Run
import ReportDesk.Database.Basic
import ReportDesk.Database.Prepared
import ReportDesk.Decimal.Fixed
import ReportDesk.Decimal.Layout
import ReportDesk.Decimal.Reading
import ReportDesk.Decimal.Shortest
import ReportDesk.Decimal.Significant
import ReportDesk.Decimal.Words
import ReportDesk.Embedded.Change
import ReportDesk.Embedded.Database
import ReportDesk.Embedded.Evaluation
import ReportDesk.Embedded.Fault
import ReportDesk.Embedded.Grammar
import ReportDesk.Embedded.Lexeme
import ReportDesk.Embedded.Naming
import ReportDesk.Embedded.Selection
import ReportDesk.Embedded.Statement
import ReportDesk.Embedded.Store
import ReportDesk.Embedded.Value
import ReportDesk.Embedded.Visiting
import ReportDesk.Export.Document
import ReportDesk.Export.Format
import ReportDesk.Export.Layout
import ReportDesk.Export.Pages
import ReportDesk.Export.Sheet
import ReportDesk.Export.Word
import ReportDesk.Export.Wrap
import ReportDesk.Files.Fault
import ReportDesk.Files.Folder
import ReportDesk.Files.Path
import ReportDesk.Guard.Execution
import ReportDesk.Guard.Grammar.Expression
import ReportDesk.Guard.Grammar.Reading
import ReportDesk.Guard.Grammar.Statements
import ReportDesk.Guard.Lexeme
import ReportDesk.Guard.Mode
import ReportDesk.Guard.ReadOnly
import ReportDesk.Guard.Statement
import ReportDesk.Http.MediaType
import ReportDesk.Http.Message
import ReportDesk.Http.Path
import ReportDesk.Http.Payload
import ReportDesk.Http.Server
import ReportDesk.Json.Basic
import ReportDesk.Json.Decode
import ReportDesk.Json.Numeral
import ReportDesk.Json.Printer
import ReportDesk.Json.Reader
import ReportDesk.Main
import ReportDesk.Proofs.Database.Action
import ReportDesk.Proofs.Outcome
import ReportDesk.Proofs.Report.Catalog
import ReportDesk.Proofs.Report.Compiled
import ReportDesk.Proofs.Report.Quoting
import ReportDesk.Proofs.Report.Unambiguous
import ReportDesk.Proofs.Service.History
import ReportDesk.Proofs.Sql.Lexeme
import ReportDesk.Proofs.Sql.Reading
import ReportDesk.Proofs.Sql.Spelling
import ReportDesk.Report.Compile
import ReportDesk.Report.Configuration
import ReportDesk.Report.Filter
import ReportDesk.Report.Format
import ReportDesk.Report.References
import ReportDesk.Report.Validation
import ReportDesk.Service.Basic
import ReportDesk.Settings.Basic
import ReportDesk.Settings.Connection
import ReportDesk.Settings.Driver
import ReportDesk.Settings.Environment
import ReportDesk.Settings.Toml
import ReportDesk.Sql.Dialect
import ReportDesk.Sql.Expr
import ReportDesk.Sql.Query
import ReportDesk.Sql.Quoted
import ReportDesk.Sql.TableName
import ReportDesk.Sql.Token
import ReportDesk.Table.Basic
import ReportDesk.Table.Cell
import ReportDesk.Table.Wire
import ReportDesk.Text.Alphanumeric
import ReportDesk.Text.Blank
import ReportDesk.Text.Case
import ReportDesk.Text.CaseTable
import ReportDesk.Text.Pieces
import ReportDesk.Text.Windows1252
import ReportDesk.Worker.Client
import ReportDesk.Worker.Database
import ReportDesk.Worker.Link
import ReportDesk.Worker.Message
import ReportDesk.Worker.Script
import ReportDesk.Proofs.Json.Decoding
import ReportDesk.Proofs.Table.RoundTrip
import ReportDesk.Proofs.Export.Drawing
import ReportDesk.Proofs.Export.Lines
import ReportDesk.Proofs.Export.Pagination
import ReportDesk.Proofs.Guard.Words
import ReportDesk.Proofs.Report.Denylist
import ReportDesk.Proofs.Report.Template
import ReportDesk.Proofs.Worker.Request
import ReportDesk.Proofs.Worker.Matching
import ReportDesk.Proofs.Worker.Leftovers
import ReportDesk.Proofs.Guard.Branches
import ReportDesk.Proofs.Report.Naming
import ReportDesk.Proofs.Json.Reading
import ReportDesk.Proofs.Json.Settling
import ReportDesk.Proofs.Report.Saving
import ReportDesk.Proofs.Report.Validity
import ReportDesk.Proofs.Report.Strictness
import ReportDesk.Proofs.Decimal.Order
import ReportDesk.Proofs.Export.Fitting
import ReportDesk.Proofs.Export.Wrapping
import ReportDesk.Proofs.Table.Labels
import ReportDesk.Proofs.Json.Accepting
import ReportDesk.Proofs.Json.Faults
import ReportDesk.Proofs.Decimal.Whole
import ReportDesk.Proofs.Table.Acceptance
import ReportDesk.Proofs.Table.Rewriting
import ReportDesk.Proofs.Sql.RowLimit
import ReportDesk.Proofs.Report.Unknown
import ReportDesk.Proofs.Report.Shadowing
import ReportDesk.Proofs.Export.Sheets
import ReportDesk.Proofs.Settings.Expansion
import ReportDesk.Proofs.Worker.Lookup
import ReportDesk.Proofs.Report.Affixes
import ReportDesk.Proofs.Decimal.Magnitude
import ReportDesk.Proofs.Report.Numbers
import ReportDesk.Proofs.Http.Disposition
import ReportDesk.Proofs.Http.Exporting
import ReportDesk.Proofs.Report.Filters
