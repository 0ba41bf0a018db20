import Confine.Child
import Confine.Cli.DotEnv
import Confine.Cli.Grammar
import Confine.Cli.Load
import Confine.Cli.Program
import Confine.Cli.Report
import Confine.Config
import Confine.Config.Layered
import Confine.Config.Read
import Confine.Double.Basic
import Confine.Double.Fixed
import Confine.Double.Shortest
import Confine.Duration
import Confine.Engine
import Confine.Env
import Confine.Error
import Confine.Extended.Basic
import Confine.Host.Feed
import Confine.Host.FileSystem
import Confine.Host.Image
import Confine.Host.Program.About
import Confine.Host.Program.Basic
import Confine.Host.Program.Batches
import Confine.Host.Program.Clock
import Confine.Host.Program.Columns
import Confine.Host.Program.Dump
import Confine.Host.Program.Ends
import Confine.Host.Program.Expression
import Confine.Host.Program.Files
import Confine.Host.Program.Options
import Confine.Host.Program.Ordering
import Confine.Host.Program.Predicate
import Confine.Host.Program.Printing
import Confine.Host.Program.Quoting
import Confine.Host.Program.Search
import Confine.Host.Program.Sequence
import Confine.Host.Program.System
import Confine.Host.Program.Text
import Confine.Host.Program.Translate
import Confine.Host.Run
import Confine.Host.Signal
import Confine.Host.Terminal
import Confine.Launch
import Confine.Main
import Confine.Numeral
import Confine.Output.Backlog
import Confine.Output.Collector
import Confine.Output.Stream
import Confine.Path
import Confine.Regex.Backtrack
import Confine.Regex.Basic
import Confine.Regex.Match
import Confine.Regex.Parse
import Confine.Regex.Perl
import Confine.Registry
import Confine.Session
import Confine.Settings.Ini
import Confine.Settings.Json
import Confine.Settings.Json5
import Confine.Settings.Layered
import Confine.Settings.Number
import Confine.Settings.Ron
import Confine.Settings.Toml
import Confine.Settings.Toml.Datum
import Confine.Settings.Toml.Grammar
import Confine.Settings.Value
import Confine.Settings.Yaml
import Confine.Settings.Yaml.Event
import Confine.Settings.Yaml.Node
import Confine.Settings.Yaml.Token
import Confine.Shell.Alias
import Confine.Shell.Arith
import Confine.Shell.Builtin
import Confine.Shell.CommandTable
import Confine.Shell.Condition
import Confine.Shell.Eval
import Confine.Shell.Fields
import Confine.Shell.Format
import Confine.Shell.Getopts
import Confine.Shell.Jobs
import Confine.Shell.Limits
import Confine.Shell.Mask
import Confine.Shell.Parse
import Confine.Shell.Pattern
import Confine.Shell.State
import Confine.Shell.Summary
import Confine.Shell.Syntax
import Confine.Snapshot
import Confine.Text.Alphanumeric
import Confine.Text.Blank
import Confine.Text.CodeRanges
import Confine.Text.Escaped
import Confine.Text.Hex
import Confine.Text.Identifier
import Confine.Text.Octets
import Confine.Text.Peg
import Confine.Text.Quote
import Confine.Text.Utf8
import Confine.Timestamp
import Confine.Workspace
import Confine.Proofs.SharedBudget
import Confine.Proofs.BacklogOrder
import Confine.Proofs.BacklogMirror
import Confine.Proofs.SessionLife
import Confine.Proofs.SessionIds
import Confine.Proofs.Eviction
import Confine.Proofs.Departures
import Confine.Proofs.RegistryRuns
import Confine.Proofs.ReadLooks
import Confine.Proofs.ListingOrder
import Confine.Proofs.SessionFrame
import Confine.Proofs.EndOfOutput
import Confine.Proofs.IdleEviction
import Confine.Output.Pump
import Confine.Proofs.OutputDelivery
import Confine.Proofs.SessionPump
import Confine.Proofs.ChildEnvironment
import Confine.Proofs.NormalPaths
import Confine.Proofs.JailedPaths
import Confine.Proofs.FailedRequests
import Confine.Proofs.LeadingSlash
import Confine.Proofs.WaitOutcome
import Confine.Proofs.ReadText
import Confine.Proofs.ClockRange
import Confine.Proofs.Escalation
import Confine.Proofs.PollingLoops
