import EtherRelay.Backoff
import EtherRelay.Buffer
import EtherRelay.Buffer.Pool
import EtherRelay.Capture.Block
import EtherRelay.Capture.Buffered
import EtherRelay.Capture.Content
import EtherRelay.Capture.Directory
import EtherRelay.Capture.Exporter
import EtherRelay.Capture.Reader
import EtherRelay.Clock
import EtherRelay.Context
import EtherRelay.Context.Lifecycle
import EtherRelay.Context.Schedule
import EtherRelay.Context.Worker
import EtherRelay.Counters
import EtherRelay.Files.Path
import EtherRelay.Files.Tree
import EtherRelay.Forwarding.Lane
import EtherRelay.Forwarding.Monitor
import EtherRelay.Forwarding.Pipeline
import EtherRelay.Forwarding.Receiver
import EtherRelay.Forwarding.Transmitter
import EtherRelay.Hardware.Layout
import EtherRelay.Hardware.Registers
import EtherRelay.Hardware.Snapshot
import EtherRelay.Interface
import EtherRelay.Interface.Identity
import EtherRelay.Json.Members
import EtherRelay.Json.Number
import EtherRelay.Json.Reader
import EtherRelay.Json.Record
import EtherRelay.Json.Skip
import EtherRelay.Json.Text
import EtherRelay.Json.Typed
import EtherRelay.Log
import EtherRelay.Main
import EtherRelay.Number.Checked
import EtherRelay.Number.Double
import EtherRelay.Number.Rounding
import EtherRelay.Number.Seconds
import EtherRelay.Number.Shortest
import EtherRelay.Probe
import EtherRelay.Queues
import EtherRelay.Relay
import EtherRelay.Ring
import EtherRelay.Settings
import EtherRelay.Telemetry.Address
import EtherRelay.Telemetry.Datagram
import EtherRelay.Telemetry.Reader
import EtherRelay.Telemetry.Record
import EtherRelay.Telemetry.Resolve
import EtherRelay.Telemetry.Sink
import EtherRelay.Telemetry.Stream
import EtherRelay.Text.Hex
import EtherRelay.Text.Hidden
import EtherRelay.Text.Lines
import EtherRelay.Text.Lossy
import EtherRelay.Text.Quoted
import EtherRelay.Wire.Bytes
import EtherRelay.Wire.Device
import EtherRelay.Workbench.CommandLine
import EtherRelay.Workbench.Configuration
import EtherRelay.Workbench.ConfigurationFile
import EtherRelay.Workbench.Random
import EtherRelay.Workbench.Report
import EtherRelay.Workbench.Setup
import EtherRelay.Workbench.Simulation
import EtherRelay.Workbench.Timeline
import EtherRelay.Workbench.Traffic
import EtherRelay.World
import EtherRelay.World.Frames
import EtherRelay.Proofs.Ring.Contents
import EtherRelay.Proofs.Ring.History
import EtherRelay.Proofs.Counters.Totals
import EtherRelay.Proofs.Counters.Writers
import EtherRelay.Proofs.Forwarding.Admission
import EtherRelay.Proofs.World.Queues
import EtherRelay.Proofs.Forwarding.Stages
import EtherRelay.Proofs.Forwarding.Delivery
import EtherRelay.Proofs.Forwarding.Ledger
import EtherRelay.Proofs.Context.Ledger
import EtherRelay.Proofs.Buffer.Lending
import EtherRelay.Proofs.Ring.Closing
import EtherRelay.Proofs.World.Conservation
import EtherRelay.Proofs.Forwarding.Custody
import EtherRelay.Proofs.Context.Balance
import EtherRelay.Proofs.System.Balance
import EtherRelay.Proofs.Probe.Acceptance
import EtherRelay.Proofs.Probe.Arithmetic
import EtherRelay.Proofs.Probe.Latency
import EtherRelay.Proofs.Forwarding.Trail
import EtherRelay.Proofs.Context.Teardown
import EtherRelay.Proofs.Relay.Teardown
import EtherRelay.Proofs.Hardware.Latching
import EtherRelay.Proofs.Hardware.Sharing
import EtherRelay.Proofs.Probe.RoundTrip
import EtherRelay.Proofs.Ring.Images
import EtherRelay.Proofs.World.Images
import EtherRelay.Proofs.Forwarding.Images
import EtherRelay.Proofs.Forwarding.Indifference
import EtherRelay.Proofs.Forwarding.Intake
import EtherRelay.Proofs.Forwarding.Outlet
import EtherRelay.Proofs.World.Traffic
import EtherRelay.Proofs.Context.Flow
import EtherRelay.Proofs.Context.Mirrors
import EtherRelay.Proofs.Telemetry.Tags
import EtherRelay.Proofs.Telemetry.Ledger
import EtherRelay.Proofs.Relay.Station
import EtherRelay.Proofs.Relay.Reconciliation
import EtherRelay.Proofs.Relay.Independence
import EtherRelay.Proofs.Relay.Stopping
import EtherRelay.Proofs.Relay.Lifetimes
import EtherRelay.Proofs.Context.Halves
import EtherRelay.Proofs.Relay.Endings
import EtherRelay.Proofs.Relay.Shutdown
import EtherRelay.Proofs.Telemetry.Apart
import EtherRelay.Proofs.Telemetry.Retelling
import EtherRelay.Proofs.Telemetry.Isolation
import EtherRelay.Proofs.Ring.Draining
import EtherRelay.Proofs.Forwarding.Polling
import EtherRelay.Proofs.Forwarding.Draining
import EtherRelay.Proofs.Forwarding.Handover
import EtherRelay.Proofs.Hardware.History
import EtherRelay.Proofs.Hardware.Counting
import EtherRelay.Proofs.World.Mirror
import EtherRelay.Proofs.Wire.Budget
import EtherRelay.Proofs.Capture.Buffering
import EtherRelay.Proofs.Capture.Exporting
import EtherRelay.Proofs.Capture.Reading
import EtherRelay.Proofs.Capture.Tapping
import EtherRelay.Proofs.Telemetry.Readback
import EtherRelay.Proofs.Workbench.Traffic
import EtherRelay.Proofs.Wire.Watching
import EtherRelay.Proofs.Capture.Truncation
import EtherRelay.Proofs.Ring.Lifetime
import EtherRelay.Proofs.Ring.Admission
import EtherRelay.Proofs.Ring.Serving
import EtherRelay.Proofs.World.Offers
import EtherRelay.Proofs.Context.Refusals
import EtherRelay.Proofs.Relay.Refusals
import EtherRelay.Proofs.World.Arrivals
import EtherRelay.Proofs.Forwarding.Sampling
import EtherRelay.Proofs.Buffer.Contents
import EtherRelay.Proofs.System.Statistics
import EtherRelay.Proofs.Workbench.Stamping
import EtherRelay.Proofs.Workbench.Exhaustion
import EtherRelay.Proofs.Telemetry.Reentry
import EtherRelay.Proofs.Capture.Filing
import EtherRelay.Proofs.Hardware.Reach
import EtherRelay.Proofs.Ring.Names
import EtherRelay.Proofs.Relay.Renaming
import EtherRelay.Proofs.Relay.Enrolment
import EtherRelay.Proofs.Context.Identities
import EtherRelay.Proofs.Workbench.Course
import EtherRelay.Proofs.Workbench.Events
import EtherRelay.Proofs.Workbench.Faults
import EtherRelay.Proofs.Workbench.Setup
import EtherRelay.Proofs.Workbench.Consistency
