import TileBench.Bench.Arguments
import TileBench.Bench.Program
import TileBench.BenchLog.Basic
import TileBench.BenchLog.Collection
import TileBench.BenchLog.Report
import TileBench.BenchLog.Table
import TileBench.CommandLine.Grammar
import TileBench.CommandLine.Matches
import TileBench.Config
import TileBench.Config.Json
import TileBench.Decimal.Fixed
import TileBench.Decimal.Parts
import TileBench.Decimal.Read
import TileBench.Decimal.Scientific
import TileBench.Decimal.Shortest
import TileBench.Decomposition
import TileBench.Extent
import TileBench.Extract.Arguments
import TileBench.Extract.Program
import TileBench.Fault
import TileBench.Json.Basic
import TileBench.Json.Decode
import TileBench.Json.Draft
import TileBench.Json.Number
import TileBench.Launch.Command
import TileBench.Launch.Launcher
import TileBench.Launch.Options
import TileBench.LogFilter
import TileBench.Logging
import TileBench.Main
import TileBench.OrderedMap
import TileBench.ProcessTable
import TileBench.ProcessTable.Json
import TileBench.Profile
import TileBench.Program
import TileBench.Proofs.Bench.Conclusion
import TileBench.Proofs.Bench.Layers
import TileBench.Proofs.Bench.Program
import TileBench.Proofs.BenchLog.Blame
import TileBench.Proofs.BenchLog.Columns
import TileBench.Proofs.BenchLog.Defects
import TileBench.Proofs.BenchLog.Inputs
import TileBench.Proofs.BenchLog.Meaning
import TileBench.Proofs.BenchLog.Reading
import TileBench.Proofs.BenchLog.Rereading
import TileBench.Proofs.BenchLog.Runs
import TileBench.Proofs.Config.Accepted
import TileBench.Proofs.Config.RoundTrip
import TileBench.Proofs.Config.Settings
import TileBench.Proofs.Config.Tables
import TileBench.Proofs.Except
import TileBench.Proofs.Extent.Products
import TileBench.Proofs.Extent.Spelling
import TileBench.Proofs.Extent.Text
import TileBench.Proofs.Extent.Tiling
import TileBench.Proofs.Extract.Reruns
import TileBench.Proofs.Json.Decoding
import TileBench.Proofs.Json.Lookup
import TileBench.Proofs.Json.Numbers
import TileBench.Proofs.Json.ReadingBack
import TileBench.Proofs.Json.Spelling
import TileBench.Proofs.Json.Strings
import TileBench.Proofs.Launch.Capture
import TileBench.Proofs.Launch.Forwarding
import TileBench.Proofs.Launch.PhaseLogs
import TileBench.Proofs.Launch.Pieces
import TileBench.Proofs.Launch.ScriptLine
import TileBench.Proofs.LineEnds
import TileBench.Proofs.OrderedMap
import TileBench.Proofs.SampleCount.Joining
import TileBench.Proofs.SampleCount.LastReport
import TileBench.Proofs.SampleCount.Scanners
import TileBench.Proofs.Session.Mirrors
import TileBench.Proofs.Session.Printing
import TileBench.Proofs.Session.Refusals
import TileBench.Proofs.Session.Runs
import TileBench.Proofs.Session.Success
import TileBench.Proofs.Session.Trace
import TileBench.Proofs.Shell.Echo
import TileBench.Proofs.Store.Deletion
import TileBench.Proofs.Store.Destinations
import TileBench.Proofs.Store.Files
import TileBench.Proofs.Store.Listing
import TileBench.Proofs.Store.Rewriting
import TileBench.Proofs.Suite.Calls
import TileBench.Proofs.Suite.Conduct
import TileBench.Proofs.Suite.CorrectReads
import TileBench.Proofs.Suite.Counts
import TileBench.Proofs.Suite.DryRuns
import TileBench.Proofs.Suite.EarlyFaults
import TileBench.Proofs.Suite.EqualCounts
import TileBench.Proofs.Suite.ExactCuts
import TileBench.Proofs.Suite.Notices
import TileBench.Proofs.Suite.Pairs
import TileBench.Proofs.Suite.PassedLine
import TileBench.Proofs.Suite.Plan
import TileBench.Proofs.Suite.Profiles
import TileBench.Proofs.Suite.Readiness
import TileBench.Proofs.Suite.Reports
import TileBench.Proofs.Suite.SameRequests
import TileBench.Proofs.Suite.Scripts
import TileBench.Proofs.Suite.Series
import TileBench.Proofs.Suite.Silence
import TileBench.Proofs.Suite.Success
import TileBench.Proofs.Suite.Transcript
import TileBench.Proofs.Suite.Verdicts
import TileBench.Proofs.Suite.Writes
import TileBench.Proofs.Text.Encoding
import TileBench.Proofs.Text.Fields
import TileBench.Proofs.Text.Lines
import TileBench.Proofs.Text.Utf8
import TileBench.Proofs.Text.Words
import TileBench.Proofs.VarType.Spelling
import TileBench.Proofs.VarType.Text
import TileBench.SampleCount
import TileBench.Session
import TileBench.Shell.Arithmetic
import TileBench.Shell.Commands
import TileBench.Shell.Condition
import TileBench.Shell.Expansion
import TileBench.Shell.Format
import TileBench.Shell.Grammar
import TileBench.Shell.Pattern
import TileBench.Shell.Programs
import TileBench.Shell.Redirect
import TileBench.Shell.Run
import TileBench.Shell.Script
import TileBench.Shell.Signal
import TileBench.Shell.Source
import TileBench.Shell.State
import TileBench.Shell.Utilities
import TileBench.Shell.Words
import TileBench.Shell.World
import TileBench.Stamp
import TileBench.Statistics
import TileBench.Store
import TileBench.Suite.Case
import TileBench.Suite.Console
import TileBench.Suite.Harness
import TileBench.Suite.Outcome
import TileBench.Suite.Report
import TileBench.Suite.Suites
import TileBench.Text.Alphanumeric
import TileBench.Text.CharRange
import TileBench.Text.Graphic
import TileBench.Text.MatchExpression
import TileBench.Text.Numeral
import TileBench.Text.Quoted
import TileBench.Text.Split
import TileBench.Text.Terminal
import TileBench.Text.Utf8
import TileBench.VarType
import TileBench.Proofs.VarType.Listing
import TileBench.Proofs.Launch.Reordering
import TileBench.Proofs.ProcessTable.History
