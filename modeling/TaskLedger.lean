import TaskLedger.Binary64.Exact
import TaskLedger.Binary64.Fixed
import TaskLedger.Binary64.Reader
import TaskLedger.Binary64.Shortest
import TaskLedger.Buffer
import TaskLedger.CommandLine.Answer
import TaskLedger.CommandLine.Check
import TaskLedger.CommandLine.Help
import TaskLedger.CommandLine.Overview
import TaskLedger.CommandLine.Request
import TaskLedger.CommandLine.Response
import TaskLedger.CommandLine.Run
import TaskLedger.CommandLine.Switch
import TaskLedger.Dispatch.Dispatcher
import TaskLedger.Dispatch.Receiver
import TaskLedger.Files
import TaskLedger.Instant.Basic
import TaskLedger.Instant.Calendar
import TaskLedger.Instant.Elapsed
import TaskLedger.Instant.Text
import TaskLedger.Journal
import TaskLedger.Json.Compound
import TaskLedger.Json.Fault
import TaskLedger.Json.Quoted
import TaskLedger.Json.Scalar
import TaskLedger.Json.Skip
import TaskLedger.Json.Tree
import TaskLedger.Ledger.Basic
import TaskLedger.Ledger.Books
import TaskLedger.Level
import TaskLedger.Main
import TaskLedger.Metrics.Exposition
import TaskLedger.Metrics.Pipeline
import TaskLedger.Metrics.Published
import TaskLedger.Metrics.Registry
import TaskLedger.Outcome.Batch
import TaskLedger.Outcome.Codec
import TaskLedger.Outcome.Kind
import TaskLedger.Outcome.Packed
import TaskLedger.Outcome.Record
import TaskLedger.Outcome.State
import TaskLedger.Pool.Crew
import TaskLedger.Pool.Interleaving
import TaskLedger.Pool.Limits
import TaskLedger.Pool.Schedule
import TaskLedger.Proofs.Dispatch.Accounts
import TaskLedger.Proofs.Dispatch.Deeds
import TaskLedger.Proofs.Instant.Calendar
import TaskLedger.Proofs.Instant.Text
import TaskLedger.Proofs.Json.Layout
import TaskLedger.Proofs.Json.Quoted
import TaskLedger.Proofs.Json.Reading
import TaskLedger.Proofs.Text.Decimal
import TaskLedger.Proofs.Text.Octets
import TaskLedger.Proofs.Toml.Quoted
import TaskLedger.Proofs.Toml.Line
import TaskLedger.Proofs.Toml.Building
import TaskLedger.Proofs.Ledger.Shipping
import TaskLedger.Proofs.Ledger.Steps
import TaskLedger.Proofs.Ledger.Timing
import TaskLedger.Proofs.Ledger.Traffic
import TaskLedger.Proofs.Outcome.Line
import TaskLedger.Proofs.Outcome.Packed
import TaskLedger.Proofs.Pool.Census
import TaskLedger.Proofs.Pool.Settling
import TaskLedger.Proofs.Pool.Soundness
import TaskLedger.Proofs.Pool.Wakeups
import TaskLedger.Proofs.Selection
import TaskLedger.Proofs.Settings.FromJson
import TaskLedger.Proofs.Settings.Same
import TaskLedger.Proofs.Settings.Document
import TaskLedger.Proofs.Settings.FromToml
import TaskLedger.Proofs.Settings.ReadBack
import TaskLedger.Proofs.Sink.Receiver
import TaskLedger.Proofs.Tally.Amounts
import TaskLedger.Selection
import TaskLedger.Settings.Basic
import TaskLedger.Settings.Check
import TaskLedger.Settings.FromJson
import TaskLedger.Settings.FromToml
import TaskLedger.Settings.Load
import TaskLedger.Settings.Text
import TaskLedger.Settings.Warning
import TaskLedger.Signed64
import TaskLedger.Sink.Address
import TaskLedger.Sink.Basic
import TaskLedger.Sink.Datagram
import TaskLedger.Sink.DayFile
import TaskLedger.Sink.Fault
import TaskLedger.Sink.Note
import TaskLedger.Sink.Route
import TaskLedger.Sink.World
import TaskLedger.Statistics.Flushes
import TaskLedger.Statistics.Run
import TaskLedger.Statistics.Running
import TaskLedger.Tally.Aggregation
import TaskLedger.Tally.Bucket
import TaskLedger.Tally.Scheme
import TaskLedger.Tally.Store
import TaskLedger.Text.Blank
import TaskLedger.Text.Decimal
import TaskLedger.Text.Lines
import TaskLedger.Toml.Quoted
import TaskLedger.Toml.Reader
import TaskLedger.Toml.Scalar
import TaskLedger.Toml.Tree
import TaskLedger.Toml.Writer
import TaskLedger.Trial.Audit
import TaskLedger.Trial.Basic
import TaskLedger.Trial.Plan
import TaskLedger.Trial.Workload
import TaskLedger.Proofs.Ledger.Closing
import TaskLedger.Proofs.Ledger.Lanes
import TaskLedger.Proofs.Tally.Categories
import TaskLedger.Proofs.Files
import TaskLedger.Proofs.Sink.Packing
import TaskLedger.Proofs.Sink.Routes
import TaskLedger.Proofs.Settings.SetUp
import TaskLedger.Proofs.Tally.Sums
import TaskLedger.Proofs.Trial.Counters
import TaskLedger.Proofs.Trial.Course
import TaskLedger.Proofs.Trial.Events
import TaskLedger.Proofs.Trial.Agreement
import TaskLedger.Proofs.Sink.Fewest
import TaskLedger.Proofs.Tally.Entries
import TaskLedger.Proofs.Tally.Overflow
import TaskLedger.Proofs.Metrics.Published
import TaskLedger.Proofs.Settings.Rules
import TaskLedger.Proofs.Tally.Telescoping
import TaskLedger.Proofs.Files.Places
import TaskLedger.Proofs.Sink.Turns
import TaskLedger.Proofs.Sink.Appending
import TaskLedger.Proofs.Sink.Noted
import TaskLedger.Proofs.Outcome.Key
import TaskLedger.Proofs.Settings.Silence
import TaskLedger.Proofs.Ledger.Reports
import TaskLedger.Proofs.Ledger.NextRuns
import TaskLedger.Proofs.CommandLine.Words
import TaskLedger.Proofs.CommandLine.Accepted
