import SuiteEngine.Boundary.Case
import SuiteEngine.Boundary.Catalogue
import SuiteEngine.Boundary.Field
import SuiteEngine.Boundary.Number
import SuiteEngine.Browser.Session
import SuiteEngine.Browser.Launch
import SuiteEngine.Calendar
import SuiteEngine.Cli.Arguments
import SuiteEngine.Cli.Spec
import SuiteEngine.Cli.Program
import SuiteEngine.Config.Dotenv
import SuiteEngine.Config.Load
import SuiteEngine.Config.Scaffold
import SuiteEngine.Config.Settings
import SuiteEngine.Decimal.Exact
import SuiteEngine.Decimal.Rounded
import SuiteEngine.Decimal.Shortest
import SuiteEngine.Document.Compare
import SuiteEngine.Document.Display
import SuiteEngine.Document.Inspect
import SuiteEngine.Document.Interpolate
import SuiteEngine.Document.Value
import SuiteEngine.Document.Path
import SuiteEngine.Duration
import SuiteEngine.Failure
import SuiteEngine.Files.Tree
import SuiteEngine.Files.Path
import SuiteEngine.Host.Machine
import SuiteEngine.Host.Page
import SuiteEngine.Host.Program
import SuiteEngine.Host.Trial
import SuiteEngine.Http.Address
import SuiteEngine.Http.Charset
import SuiteEngine.Http.Client
import SuiteEngine.Http.Cookie
import SuiteEngine.Http.Expiry
import SuiteEngine.Http.Message
import SuiteEngine.Http.Punycode
import SuiteEngine.Json.Parse
import SuiteEngine.Json.Print
import SuiteEngine.Main
import SuiteEngine.Matching.Evaluate
import SuiteEngine.Pattern.Match
import SuiteEngine.Pattern.Parse
import SuiteEngine.Pattern.Syntax
import SuiteEngine.Picture.Basic
import SuiteEngine.Picture.Compress
import SuiteEngine.Picture.Painted
import SuiteEngine.Picture.Png
import SuiteEngine.Proofs.Document.Interpolate
import SuiteEngine.Proofs.Host.Fallible
import SuiteEngine.Proofs.Host.Pool
import SuiteEngine.Proofs.Host.Trace
import SuiteEngine.Proofs.Host.Trial
import SuiteEngine.Proofs.Matching.Declared
import SuiteEngine.Proofs.Pattern.Stretch
import SuiteEngine.Proofs.Run.Alone
import SuiteEngine.Proofs.Run.ApiSuite
import SuiteEngine.Proofs.Run.Attempts
import SuiteEngine.Proofs.Run.Preparation
import SuiteEngine.Proofs.Schema.Acceptance
import SuiteEngine.Proofs.Suite.Accepted
import SuiteEngine.Proofs.Suite.Filling
import SuiteEngine.Proofs.Suite.Reading
import SuiteEngine.Proofs.Suite.Shape
import SuiteEngine.Rehearsal.Script
import SuiteEngine.Rehearsal.World
import SuiteEngine.Report.Attachment
import SuiteEngine.Report.Result
import SuiteEngine.Report.Summary
import SuiteEngine.Report.Workbook
import SuiteEngine.Run.Api
import SuiteEngine.Run.Attempts
import SuiteEngine.Run.Auth
import SuiteEngine.Run.Execute
import SuiteEngine.Run.Ui
import SuiteEngine.Schema.Address
import SuiteEngine.Schema.Assertion
import SuiteEngine.Schema.Check
import SuiteEngine.Schema.Compile
import SuiteEngine.Schema.Dialect
import SuiteEngine.Schema.Finding
import SuiteEngine.Schema.Format
import SuiteEngine.Schema.Format.Address
import SuiteEngine.Schema.Keyword
import SuiteEngine.Schema.Meta.Draft2019
import SuiteEngine.Schema.Meta.Draft2020
import SuiteEngine.Schema.Meta.Drafts
import SuiteEngine.Schema.Reference
import SuiteEngine.Schema.Validate
import SuiteEngine.Spreadsheet.Basic
import SuiteEngine.Suite.Api
import SuiteEngine.Suite.ApiSchema
import SuiteEngine.Suite.Expectation
import SuiteEngine.Suite.Fields
import SuiteEngine.Suite.File
import SuiteEngine.Suite.Kind
import SuiteEngine.Suite.Selection
import SuiteEngine.Suite.Ui
import SuiteEngine.Suite.UiSchema
import SuiteEngine.Text.Utf8
import SuiteEngine.Text.Base64
import SuiteEngine.Text.Blank
import SuiteEngine.Text.Case
import SuiteEngine.Text.Numeral
import SuiteEngine.Text.Printable
import SuiteEngine.Text.Quoted
import SuiteEngine.Text.Ranges
import SuiteEngine.Text.Word
import SuiteEngine.Ui.Action
import SuiteEngine.Ui.Snapshot
import SuiteEngine.Ui.Step
import SuiteEngine.Yaml.Cursor
import SuiteEngine.Yaml.Datum
import SuiteEngine.Yaml.Fault
import SuiteEngine.Yaml.Node
import SuiteEngine.Yaml.Read
import SuiteEngine.Yaml.Scalar
import SuiteEngine.Yaml.Tag
import SuiteEngine.Yaml.Timestamp
import SuiteEngine.Yaml.Token
import SuiteEngine.Proofs.Ui.Step
import SuiteEngine.Proofs.Run.UiAttempt
import SuiteEngine.Proofs.Run.UiSuite
import SuiteEngine.Proofs.Document.Compare
import SuiteEngine.Proofs.Run.Raised
import SuiteEngine.Proofs.Host.Alike
import SuiteEngine.Proofs.Run.Credentials
import SuiteEngine.Proofs.Json.Grammar
import SuiteEngine.Proofs.Text.Utf8
import SuiteEngine.Proofs.Json.Printed
import SuiteEngine.Proofs.Http.RoundTrip
import SuiteEngine.Proofs.Files.Tree
import SuiteEngine.Proofs.Except
import SuiteEngine.Proofs.Files.Path
import SuiteEngine.Proofs.Decimal.Quotient
import SuiteEngine.Proofs.Ui.Baseline
import SuiteEngine.Proofs.Report.Names
import SuiteEngine.Proofs.Report.Attachments
import SuiteEngine.Proofs.Report.Totals
import SuiteEngine.Proofs.Host.Change
import SuiteEngine.Proofs.Run.Outputs
import SuiteEngine.Proofs.Suite.Discovery
import SuiteEngine.Proofs.Run.Loading
import SuiteEngine.Proofs.Run.Execution
import SuiteEngine.Proofs.Yaml.Keys
import SuiteEngine.Proofs.Config.Settled
import SuiteEngine.Proofs.Config.Escapes
import SuiteEngine.Proofs.Cli.Configuration
import SuiteEngine.Proofs.Cli.Validation
import SuiteEngine.Proofs.Decimal.Packing
import SuiteEngine.Proofs.Decimal.Rounding
import SuiteEngine.Proofs.Decimal.Reading
import SuiteEngine.Proofs.Decimal.Shortest
import SuiteEngine.Proofs.Json.Numbers
import SuiteEngine.Proofs.Json.Ascii
import SuiteEngine.Proofs.Document.Sorted
import SuiteEngine.Proofs.Schema.Canonical
import SuiteEngine.Proofs.Schema.Cache
import SuiteEngine.Proofs.Document.Placeholder
import SuiteEngine.Proofs.Document.Filled
import SuiteEngine.Proofs.Document.Twice
import SuiteEngine.Proofs.Report.Rows
import SuiteEngine.Proofs.Schema.Faults
import SuiteEngine.Proofs.Suite.Loaded
import SuiteEngine.Proofs.Document.Path
import SuiteEngine.Proofs.Matching.Combined
import SuiteEngine.Proofs.Run.Variables
import SuiteEngine.Proofs.Schema.Followed
import SuiteEngine.Proofs.Matching.BodySchema
import SuiteEngine.Proofs.Decimal.Order
import SuiteEngine.Proofs.Host.Timing
import SuiteEngine.Proofs.Ui.Sequence
import SuiteEngine.Proofs.Run.Retries
import SuiteEngine.Proofs.Run.Overrun
import SuiteEngine.Proofs.Picture.Pixels
import SuiteEngine.Proofs.Ui.Difference
import SuiteEngine.Proofs.Ui.Contract
import SuiteEngine.Proofs.Boundary.Payloads
import SuiteEngine.Proofs.Boundary.Labels
import SuiteEngine.Proofs.Text.Base64
import SuiteEngine.Proofs.Run.Grants
import SuiteEngine.Proofs.Http.Parameters
import SuiteEngine.Proofs.Http.Headers
import SuiteEngine.Proofs.Run.Requests
import SuiteEngine.Proofs.Report.Containment
import SuiteEngine.Proofs.Run.Selection
import SuiteEngine.Proofs.Document.Nearest
import SuiteEngine.Proofs.Json.Lengths
import SuiteEngine.Proofs.Cli.Boundaries
import SuiteEngine.Proofs.Run.Refusals
import SuiteEngine.Proofs.Config.Environments
import SuiteEngine.Proofs.Browser.Options
