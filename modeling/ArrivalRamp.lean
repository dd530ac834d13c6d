import ArrivalRamp.Calendar.Date
import ArrivalRamp.Calendar.Timestamp
import ArrivalRamp.Command.Arguments
import ArrivalRamp.Command.Basic
import ArrivalRamp.Command.Completion
import ArrivalRamp.Command.Fault
import ArrivalRamp.Command.Form
import ArrivalRamp.Command.Help
import ArrivalRamp.Command.Perform
import ArrivalRamp.Command.Starter
import ArrivalRamp.Config.Basic
import ArrivalRamp.Config.File
import ArrivalRamp.Config.Overrides
import ArrivalRamp.Config.Problem
import ArrivalRamp.Config.Schema
import ArrivalRamp.Config.Settings
import ArrivalRamp.Config.Shape
import ArrivalRamp.Config.Validation
import ArrivalRamp.Decimal.Binary64
import ArrivalRamp.Decimal.Fixed
import ArrivalRamp.Decimal.Natural
import ArrivalRamp.Decimal.Reader
import ArrivalRamp.Decimal.Shortest
import ArrivalRamp.Document.Mismatch
import ArrivalRamp.Document.Shape
import ArrivalRamp.Duration.Elapsed
import ArrivalRamp.Duration.Setting
import ArrivalRamp.Duration.Span
import ArrivalRamp.Duration.Token
import ArrivalRamp.EnvFile
import ArrivalRamp.Execution.Basic
import ArrivalRamp.Execution.Pacing
import ArrivalRamp.Execution.Run
import ArrivalRamp.Files.Fault
import ArrivalRamp.Files.Path
import ArrivalRamp.Files.Tree
import ArrivalRamp.Host.Basic
import ArrivalRamp.Host.Machine
import ArrivalRamp.Json.Basic
import ArrivalRamp.Json.Cursor
import ArrivalRamp.Json.Document
import ArrivalRamp.Json.Number
import ArrivalRamp.Json.Printer
import ArrivalRamp.Json.Reader
import ArrivalRamp.Json.StringLiteral
import ArrivalRamp.Ledger
import ArrivalRamp.Main
import ArrivalRamp.Pool
import ArrivalRamp.Profile.Basic
import ArrivalRamp.Profile.Label
import ArrivalRamp.Profile.Listing
import ArrivalRamp.Profile.RunWindow
import ArrivalRamp.Profile.StageAt
import ArrivalRamp.Profile.StageReport
import ArrivalRamp.Proofs.Binary64.Arithmetic
import ArrivalRamp.Proofs.Binary64.Counts
import ArrivalRamp.Proofs.Binary64.Near
import ArrivalRamp.Proofs.Binary64.Nearest
import ArrivalRamp.Proofs.Binary64.NotANumber
import ArrivalRamp.Proofs.Binary64.Operations
import ArrivalRamp.Proofs.Binary64.Order
import ArrivalRamp.Proofs.Binary64.Rounding
import ArrivalRamp.Proofs.Binary64.Spacing
import ArrivalRamp.Proofs.Binary64.Truncation
import ArrivalRamp.Proofs.Binary64.Whole
import ArrivalRamp.Proofs.Calendar.Date
import ArrivalRamp.Proofs.Calendar.RoundTrip
import ArrivalRamp.Proofs.Calendar.Timestamp
import ArrivalRamp.Proofs.Command.Precedence
import ArrivalRamp.Proofs.Config.Judgement
import ArrivalRamp.Proofs.Config.Precedence
import ArrivalRamp.Proofs.Config.Readiness
import ArrivalRamp.Proofs.Config.Reordering
import ArrivalRamp.Proofs.Config.StageDurations
import ArrivalRamp.Proofs.Decimal.Figures
import ArrivalRamp.Proofs.Decimal.Numeral
import ArrivalRamp.Proofs.Decimal.Padded
import ArrivalRamp.Proofs.Decimal.Reading
import ArrivalRamp.Proofs.Decimal.Shortest
import ArrivalRamp.Proofs.Duration.Millis
import ArrivalRamp.Proofs.Duration.Scanning
import ArrivalRamp.Proofs.Duration.Seconds
import ArrivalRamp.Proofs.Duration.Spelling
import ArrivalRamp.Proofs.EnvFile.Characters
import ArrivalRamp.Proofs.EnvFile.Loading
import ArrivalRamp.Proofs.EnvFile.Rendering
import ArrivalRamp.Proofs.Execution.Arrivals
import ArrivalRamp.Proofs.Execution.Balance
import ArrivalRamp.Proofs.Execution.Bookings
import ArrivalRamp.Proofs.Execution.Credit
import ArrivalRamp.Proofs.Execution.Interleaving
import ArrivalRamp.Proofs.Execution.Labels
import ArrivalRamp.Proofs.Execution.Looks
import ArrivalRamp.Proofs.Execution.Steps
import ArrivalRamp.Proofs.Host.Outcome
import ArrivalRamp.Proofs.Json.Cursor
import ArrivalRamp.Proofs.Json.Members
import ArrivalRamp.Proofs.Json.Number
import ArrivalRamp.Proofs.Json.Reading
import ArrivalRamp.Proofs.Json.StringLiteral
import ArrivalRamp.Proofs.Ledger
import ArrivalRamp.Proofs.Pacing.Credit
import ArrivalRamp.Proofs.Pacing.EvenRate
import ArrivalRamp.Proofs.Pacing.OfferedLoad
import ArrivalRamp.Proofs.Pacing.Rate
import ArrivalRamp.Proofs.Pacing.Spending
import ArrivalRamp.Proofs.Pacing.Waiting
import ArrivalRamp.Proofs.Pool.Serving
import ArrivalRamp.Proofs.Pool.Sharing
import ArrivalRamp.Proofs.Pool.UserLimit
import ArrivalRamp.Proofs.Pool.WorkUnits
import ArrivalRamp.Proofs.Profile.Boundaries
import ArrivalRamp.Proofs.Profile.ExactRate
import ArrivalRamp.Proofs.Profile.Offsets
import ArrivalRamp.Proofs.Profile.Projection
import ArrivalRamp.Proofs.Profile.Reached
import ArrivalRamp.Proofs.Profile.ReachedPrefix
import ArrivalRamp.Proofs.Profile.Reconstruction
import ArrivalRamp.Proofs.Profile.RunWindow
import ArrivalRamp.Proofs.Profile.StageAt
import ArrivalRamp.Proofs.Profile.Starts
import ArrivalRamp.Proofs.Profile.Switching
import ArrivalRamp.Proofs.Profile.Timeline
import ArrivalRamp.Proofs.Profile.WindowLength
import ArrivalRamp.Proofs.Report.Accuracy
import ArrivalRamp.Proofs.Report.AggregationNumber
import ArrivalRamp.Proofs.Report.Fields
import ArrivalRamp.Proofs.Report.Grammar
import ArrivalRamp.Proofs.Report.MetricRows
import ArrivalRamp.Proofs.Report.RefusalRate
import ArrivalRamp.Proofs.Report.Spelling
import ArrivalRamp.Proofs.Report.StageRows
import ArrivalRamp.Proofs.Report.TableReading
import ArrivalRamp.Proofs.Report.Verdicts
import ArrivalRamp.Proofs.Request.Contents
import ArrivalRamp.Proofs.Request.Identity
import ArrivalRamp.Proofs.Tally.Conservation
import ArrivalRamp.Proofs.Tally.Count
import ArrivalRamp.Proofs.Tally.Histogram
import ArrivalRamp.Proofs.Tally.Label
import ArrivalRamp.Proofs.Tally.Latency
import ArrivalRamp.Proofs.Tally.Measure
import ArrivalRamp.Proofs.Tally.Merge
import ArrivalRamp.Proofs.Tally.Percentiles
import ArrivalRamp.Proofs.Tally.Rank
import ArrivalRamp.Proofs.Tally.Requests
import ArrivalRamp.Proofs.Tally.Samples
import ArrivalRamp.Proofs.Tally.Sharded
import ArrivalRamp.Proofs.Tally.Stages
import ArrivalRamp.Proofs.Tally.Tags
import ArrivalRamp.Proofs.Text.ByteOrder
import ArrivalRamp.Proofs.Text.Fields
import ArrivalRamp.Proofs.Text.Runs
import ArrivalRamp.Proofs.Text.Trimming
import ArrivalRamp.Proofs.Url.Join
import ArrivalRamp.Proofs.Url.Reader
import ArrivalRamp.Report.Basic
import ArrivalRamp.Report.Criterion
import ArrivalRamp.Report.RunReport
import ArrivalRamp.Report.Summary
import ArrivalRamp.Report.Table
import ArrivalRamp.Request.Message
import ArrivalRamp.Request.Template
import ArrivalRamp.Tally.Basic
import ArrivalRamp.Tally.Histogram
import ArrivalRamp.Text.Base64
import ArrivalRamp.Text.Blank
import ArrivalRamp.Text.Bytes
import ArrivalRamp.Text.Column
import ArrivalRamp.Text.DecimalDigit
import ArrivalRamp.Text.Hidden
import ArrivalRamp.Text.Lines
import ArrivalRamp.Text.Quoted
import ArrivalRamp.Text.Split
import ArrivalRamp.Text.UpperCase
import ArrivalRamp.Url.Address
import ArrivalRamp.Url.Basic
import ArrivalRamp.Url.Percent
import ArrivalRamp.Url.Reader
import ArrivalRamp.Word
import ArrivalRamp.Yaml.Document
import ArrivalRamp.Yaml.Events
import ArrivalRamp.Yaml.Name
import ArrivalRamp.Yaml.Plain
import ArrivalRamp.Yaml.Reader
import ArrivalRamp.Yaml.Scalar
import ArrivalRamp.Yaml.Source
import ArrivalRamp.Yaml.Token
import ArrivalRamp.Yaml.Tokens
