import AgentFleet.Address.Basic
import AgentFleet.Address.Domain
import AgentFleet.Address.Domain.Direction
import AgentFleet.Address.Domain.Joining
import AgentFleet.Address.Domain.Mapping
import AgentFleet.Address.Form
import AgentFleet.Address.Host
import AgentFleet.Address.Path
import AgentFleet.Address.Percent
import AgentFleet.Address.Punycode
import AgentFleet.Address.Reader
import AgentFleet.Api.Listener
import AgentFleet.Api.MediaType
import AgentFleet.Api.Routes
import AgentFleet.Backend.Call
import AgentFleet.Backend.Exchange
import AgentFleet.CommandLine.Arguments
import AgentFleet.CommandLine.Startup
import AgentFleet.Config.Document
import AgentFleet.Config.Settings
import AgentFleet.Decimal.Double
import AgentFleet.Decimal.Layout
import AgentFleet.Decimal.Shortest
import AgentFleet.Engine.Command
import AgentFleet.Engine.Listing
import AgentFleet.Engine.Session
import AgentFleet.Fault
import AgentFleet.Json.Decoder
import AgentFleet.Json.Numeral
import AgentFleet.Json.Reader
import AgentFleet.Json.Value
import AgentFleet.Json.Writer
import AgentFleet.Main
import AgentFleet.Model.Agent
import AgentFleet.Model.Container
import AgentFleet.Model.Execution
import AgentFleet.Model.Heartbeat
import AgentFleet.Procedure
import AgentFleet.Rehearsal.Engine
import AgentFleet.Rehearsal.Script
import AgentFleet.Rehearsal.Stage
import AgentFleet.Service.Activity
import AgentFleet.Service.Finalization
import AgentFleet.Service.Heartbeats
import AgentFleet.Service.Launch
import AgentFleet.Service.Routines
import AgentFleet.Service.State
import AgentFleet.Service.Supervision
import AgentFleet.Service.Watch
import AgentFleet.Text.Character
import AgentFleet.Text.Canonical
import AgentFleet.Text.CodeTable
import AgentFleet.Text.CombiningClass
import AgentFleet.Text.Decomposition
import AgentFleet.Text.Mark
import AgentFleet.Text.Quoted
import AgentFleet.Text.Utf8
import AgentFleet.Time.Calendar
import AgentFleet.Time.Timestamp
import AgentFleet.Toml.Datetime
import AgentFleet.Toml.Decoder
import AgentFleet.Toml.Document
import AgentFleet.Toml.Outline
import AgentFleet.Toml.Scalar
import AgentFleet.Toml.Value
import AgentFleet.Tracker.Basic
import AgentFleet.Tracker.Operation
import AgentFleet.Tracker.Sweep
import AgentFleet.Wire.Agents
import AgentFleet.Wire.Executions
import AgentFleet.Wire.Heartbeats
import AgentFleet.Wire.Mismatch
import AgentFleet.Proofs.Engine.Candidates
import AgentFleet.Proofs.Engine.Containers
import AgentFleet.Proofs.Engine.Creation
import AgentFleet.Proofs.Engine.Listing
import AgentFleet.Proofs.Engine.Removal
import AgentFleet.Proofs.Engine.Session
import AgentFleet.Proofs.Fleet.Accounting
import AgentFleet.Proofs.Fleet.Aftermath
import AgentFleet.Proofs.Fleet.Batches
import AgentFleet.Proofs.Fleet.Completion
import AgentFleet.Proofs.Fleet.Concluding
import AgentFleet.Proofs.Fleet.Deaths
import AgentFleet.Proofs.Fleet.Errands
import AgentFleet.Proofs.Fleet.Exemption
import AgentFleet.Proofs.Fleet.Finality
import AgentFleet.Proofs.Fleet.Footprint
import AgentFleet.Proofs.Fleet.Handling
import AgentFleet.Proofs.Fleet.Harbor
import AgentFleet.Proofs.Fleet.Launches
import AgentFleet.Proofs.Fleet.Passing
import AgentFleet.Proofs.Fleet.Patience
import AgentFleet.Proofs.Fleet.Provisioning
import AgentFleet.Proofs.Fleet.Pruning
import AgentFleet.Proofs.Fleet.Reaction
import AgentFleet.Proofs.Fleet.Reports
import AgentFleet.Proofs.Fleet.Retention
import AgentFleet.Proofs.Fleet.Retirement
import AgentFleet.Proofs.Fleet.Run
import AgentFleet.Proofs.Fleet.Scope
import AgentFleet.Proofs.Fleet.Solo
import AgentFleet.Proofs.Fleet.Sparing
import AgentFleet.Proofs.Fleet.Supervisions
import AgentFleet.Proofs.Fleet.TwoPasses
import AgentFleet.Proofs.Fleet.Undisturbed
import AgentFleet.Proofs.Fleet.Work
import AgentFleet.Proofs.Json.Decoding
import AgentFleet.Proofs.Json.Numbers
import AgentFleet.Proofs.Json.Reading
import AgentFleet.Proofs.Json.Sequences
import AgentFleet.Proofs.Json.Strings
import AgentFleet.Proofs.Json.Values
import AgentFleet.Proofs.Procedure
import AgentFleet.Proofs.Text.Digits
import AgentFleet.Proofs.Time.Calendar
import AgentFleet.Proofs.Time.Written
import AgentFleet.Proofs.Toml.Change
import AgentFleet.Proofs.Tracker.Consistency
import AgentFleet.Proofs.Tracker.Crashes
import AgentFleet.Proofs.Tracker.Effect
import AgentFleet.Proofs.Tracker.Lifetimes
import AgentFleet.Proofs.Tracker.Live
import AgentFleet.Proofs.Tracker.Ownership
import AgentFleet.Proofs.Tracker.Partition
import AgentFleet.Proofs.Tracker.Standing
import AgentFleet.Proofs.Tracker.Sweeping
import AgentFleet.Proofs.Tracker.Terminating
import AgentFleet.Proofs.Wire.Answers
import AgentFleet.Proofs.Wire.Records
import AgentFleet.Proofs.Wire.RoundTrip
import AgentFleet.Proofs.Fleet.Arrivals
import AgentFleet.Proofs.Fleet.Teardown
import AgentFleet.Proofs.Config.Accepted
import AgentFleet.Proofs.Config.Override
import AgentFleet.Proofs.Fleet.Stopping
import AgentFleet.Proofs.Text.Utf8
import AgentFleet.Proofs.Engine.Inspection
import AgentFleet.Proofs.Fleet.Looks
import AgentFleet.Proofs.Engine.Script
import AgentFleet.Proofs.Address.Form
import AgentFleet.Proofs.Address.Path
import AgentFleet.Proofs.Address.Reader
import AgentFleet.Proofs.Text.CodeTable
import AgentFleet.Proofs.Text.Canonical
import AgentFleet.Proofs.Address.Domain
import AgentFleet.Proofs.Address.Extension
import AgentFleet.Proofs.Backend.Endpoint
