import NetGauge.CommandLine
import NetGauge.Dashboard
import NetGauge.Headless
import NetGauge.Main
import NetGauge.Origin.Endpoint
import NetGauge.Proofs.Console.Turns
import NetGauge.Proofs.Link.Delivery
import NetGauge.Proofs.Telemetry
import NetGauge.Proofs.Console.Signals
import NetGauge.Proofs.Console.Sweep
import NetGauge.Proofs.Link.Inbound
import NetGauge.Proofs.Json.Reader
import NetGauge.Proofs.Json.Record
import NetGauge.Proofs.Command
import NetGauge.Proofs.Console.Footprint
import NetGauge.Proofs.Headless.Launch
import NetGauge.Proofs.Headless.Outcome
import NetGauge.Proofs.Headless.Interrupt
import NetGauge.Proofs.Headless.Transport
import NetGauge.Proofs.Console.Charts
import NetGauge.Proofs.Console.Counters
import NetGauge.Proofs.Console.Pending
import NetGauge.Proofs.Console.Results
import NetGauge.Proofs.Console.Target
import NetGauge.Proofs.Config
import NetGauge.Proofs.Envelope
import NetGauge.Proofs.Compatibility
import NetGauge.Proofs.Parameters
import NetGauge.Proofs.Console.Log
import NetGauge.Proofs.Console.Streams
import NetGauge.Proofs.Headless.Commands
import NetGauge.Proofs.Dashboard.Loop
import NetGauge.Proofs.Parameters.Required
import NetGauge.Proofs.Parameters.Influence
import NetGauge.Proofs.Console.Endings
import NetGauge.Proofs.Console.FullSweep
import NetGauge.Proofs.Console.Latest
import NetGauge.Proofs.Headless.Exports
import NetGauge.Proofs.Export.Table
import NetGauge.Proofs.Export.Configuration
import NetGauge.Proofs.Export.Document
import NetGauge.Proofs.Overrides
import NetGauge.Proofs.Dashboard.Mailbox
import NetGauge.Proofs.Diagnostics
import NetGauge.Proofs.Origin.Endpoint
