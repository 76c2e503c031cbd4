import CommandRelay.Agent.Connection
import CommandRelay.Agent.Handler
import CommandRelay.Agent.Listener
import CommandRelay.Agent.Message
import CommandRelay.Agent.Supervision
import CommandRelay.Agent.Window
import CommandRelay.Client.Errand
import CommandRelay.Client.Probe
import CommandRelay.Client.Reader
import CommandRelay.Client.Session
import CommandRelay.CommandLine.Command
import CommandRelay.CommandLine.Grammar
import CommandRelay.CommandLine.Outcome
import CommandRelay.CommandLine.Performance
import CommandRelay.CommandLine.Task
import CommandRelay.Decimal
import CommandRelay.Dictionary
import CommandRelay.Direction
import CommandRelay.Endpoint
import CommandRelay.Environment.Basic
import CommandRelay.Environment.Filter
import CommandRelay.Environment.OptIn
import CommandRelay.Environment.Proxy
import CommandRelay.Exit
import CommandRelay.Files.Crew
import CommandRelay.Files.Error
import CommandRelay.Files.Script
import CommandRelay.Files.Tree
import CommandRelay.Files.Walk
import CommandRelay.Host.Process
import CommandRelay.Host.Programs
import CommandRelay.Host.Shell
import CommandRelay.Invocation
import CommandRelay.Json.Number
import CommandRelay.Json.Printer
import CommandRelay.Json.Reader
import CommandRelay.Json.Skip
import CommandRelay.Json.Wanted
import CommandRelay.Layout
import CommandRelay.Links.Registry
import CommandRelay.LogFilter
import CommandRelay.Main
import CommandRelay.Path.Argument
import CommandRelay.Path.Clean
import CommandRelay.Path.FileName
import CommandRelay.Path.Mapping
import CommandRelay.Proofs.Agent.Channels
import CommandRelay.Proofs.Agent.Children
import CommandRelay.Proofs.Agent.Reports
import CommandRelay.Proofs.Agent.Run
import CommandRelay.Proofs.Agent.Separation
import CommandRelay.Proofs.Agent.Numbers
import CommandRelay.Proofs.Agent.Signals
import CommandRelay.Proofs.Agent.Sockets
import CommandRelay.Proofs.Client.Ending
import CommandRelay.Proofs.Client.Endpoints
import CommandRelay.Proofs.Client.Input
import CommandRelay.Proofs.Client.Opening
import CommandRelay.Proofs.Client.Restoration
import CommandRelay.Proofs.Client.Signals
import CommandRelay.Proofs.Client.Waiting
import CommandRelay.Proofs.CommandLine.BaseNames
import CommandRelay.Proofs.CommandLine.Relaying
import CommandRelay.Proofs.Environment.Crossing
import CommandRelay.Proofs.Environment.HostText
import CommandRelay.Proofs.Environment.OptInList
import CommandRelay.Proofs.Environment.Redirection
import CommandRelay.Proofs.Files.Directories
import CommandRelay.Proofs.Files.Grounding
import CommandRelay.Proofs.Files.Interference
import CommandRelay.Proofs.Files.Leading
import CommandRelay.Proofs.Files.Operations
import CommandRelay.Proofs.Files.Parents
import CommandRelay.Proofs.Files.Replacement
import CommandRelay.Proofs.Files.Soundness
import CommandRelay.Proofs.Files.Temporary
import CommandRelay.Proofs.Files.Walking
import CommandRelay.Proofs.Json.Reading
import CommandRelay.Proofs.Json.Spelling
import CommandRelay.Proofs.Json.Truncation
import CommandRelay.Proofs.Json.Values
import CommandRelay.Proofs.Links.Building
import CommandRelay.Proofs.Links.Calls
import CommandRelay.Proofs.Links.Contest
import CommandRelay.Proofs.Links.History
import CommandRelay.Proofs.Links.Installation
import CommandRelay.Proofs.Links.Relaying
import CommandRelay.Proofs.Links.Steps
import CommandRelay.Proofs.Path.Arguments
import CommandRelay.Proofs.Path.Cleaning
import CommandRelay.Proofs.Path.Idempotence
import CommandRelay.Proofs.Path.Lineage
import CommandRelay.Proofs.Path.Naming
import CommandRelay.Proofs.Path.Parents
import CommandRelay.Proofs.Path.Segments
import CommandRelay.Proofs.Path.Spelling
import CommandRelay.Proofs.Relay.Agent
import CommandRelay.Proofs.Relay.Client
import CommandRelay.Proofs.Relay.Delivery
import CommandRelay.Proofs.Relay.Flow
import CommandRelay.Proofs.Session.Agreement
import CommandRelay.Proofs.Session.Carrier
import CommandRelay.Proofs.Session.CommandText
import CommandRelay.Proofs.Session.Members
import CommandRelay.Proofs.Session.Request
import CommandRelay.Proofs.Session.Routing
import CommandRelay.Proofs.Session.Truncation
import CommandRelay.Proofs.Session.Variables
import CommandRelay.Proofs.Terminal.Arriving
import CommandRelay.Proofs.Terminal.Crossing
import CommandRelay.Proofs.Terminal.WirePairs
import CommandRelay.Proofs.Terminal.Words
import CommandRelay.Proofs.Text.Ends
import CommandRelay.Proofs.Url.Host
import CommandRelay.Proofs.Url.Replacement
import CommandRelay.Proofs.Url.Trimming
import CommandRelay.Relay
import CommandRelay.Route
import CommandRelay.Session.Launch
import CommandRelay.Session.Metadata
import CommandRelay.Session.Payload
import CommandRelay.Session.Plan
import CommandRelay.Session.Streams
import CommandRelay.Settings.Basic
import CommandRelay.Settings.Reading
import CommandRelay.Signal
import CommandRelay.Terminal.Attributes
import CommandRelay.Terminal.LineDiscipline
import CommandRelay.Terminal.Modes
import CommandRelay.Text.Blank
import CommandRelay.Text.Printable
import CommandRelay.Text.Quoted
import CommandRelay.Text.RangeTable
import CommandRelay.Text.Reader
import CommandRelay.Text.ShellWords
import CommandRelay.Text.Split
import CommandRelay.Text.Utf8
import CommandRelay.Toml.Document
import CommandRelay.Toml.Scalar
import CommandRelay.Toml.Value
import CommandRelay.Url.Address
import CommandRelay.Url.Composition
import CommandRelay.Url.CompositionTable
import CommandRelay.Url.Domain
import CommandRelay.Url.MappingTable
import CommandRelay.Url.Parse
import CommandRelay.Url.Punycode
import CommandRelay.Url.ScriptTable
