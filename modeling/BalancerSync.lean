import BalancerSync.Arith.Int64
import BalancerSync.Cli.Arguments
import BalancerSync.Cli.Program
import BalancerSync.Config.Load
import BalancerSync.Config.Settings
import BalancerSync.Config.Validate
import BalancerSync.Decimal.Shortest
import BalancerSync.Files.Tree
import BalancerSync.Json.Text
import BalancerSync.Json.Value
import BalancerSync.Lifecycle.Daemon
import BalancerSync.Lifecycle.Pipeline
import BalancerSync.Lifecycle.Startup
import BalancerSync.Main
import BalancerSync.Naming.ServerName
import BalancerSync.Naming.Templates
import BalancerSync.Net.IpAddr
import BalancerSync.Output.Helpers
import BalancerSync.Output.TemplateFile
import BalancerSync.Peg.Machine
import BalancerSync.Reload.Notifier
import BalancerSync.Reload.Signal
import BalancerSync.Schema.FromJson
import BalancerSync.Schema.FromText
import BalancerSync.Schema.Shape
import BalancerSync.Template.Compile
import BalancerSync.Template.Grammar
import BalancerSync.Template.Render
import BalancerSync.Template.Syntax
import BalancerSync.Text.CaseData
import BalancerSync.Text.CaseMap
import BalancerSync.Text.PrintData
import BalancerSync.Text.Quote
import BalancerSync.Text.Whitespace
import BalancerSync.Toml.Decode
import BalancerSync.Toml.Document
import BalancerSync.Toml.Parser
import BalancerSync.Toml.Report
import BalancerSync.Topology.Label
import BalancerSync.Topology.Model
import BalancerSync.Topology.Source
import BalancerSync.Update.Coordinator
import BalancerSync.Update.Interleaved
import BalancerSync.Update.Clocked
import BalancerSync.Update.Timeline
import BalancerSync.Proofs.Update.Phase
import BalancerSync.Proofs.Lifecycle.LatestSnapshot
import BalancerSync.Proofs.Update.Debounce
import BalancerSync.Proofs.Update.Refinement
import BalancerSync.Proofs.Update.PausedClock
import BalancerSync.Proofs.Topology.LabelParts
import BalancerSync.Proofs.Files.WriteThrough
import BalancerSync.Proofs.Output.WholeOrNothing
import BalancerSync.Proofs.Lifecycle.OwnWrites
import BalancerSync.Proofs.Net.AddressText
import BalancerSync.Proofs.Net.AddressKey
import BalancerSync.Proofs.Naming.TemplateList
import BalancerSync.Proofs.Json.Objects
import BalancerSync.Proofs.Schema.NormalForm
import BalancerSync.Proofs.Json.TextReading
import BalancerSync.Proofs.Topology.Views
import BalancerSync.Proofs.Output.HelperAgreement
import BalancerSync.Proofs.Schema.DocumentReading
import BalancerSync.Proofs.Topology.SnapshotFormat
import BalancerSync.Proofs.Arith.Overflow
import BalancerSync.Proofs.Output.NumberHelpers
import BalancerSync.Proofs.Reload.PidReading
import BalancerSync.Proofs.Config.Validation
import BalancerSync.Proofs.Naming.FirstOccurrences
import BalancerSync.Proofs.Lifecycle.WatcherCallback
