import RouterMetrics.Json.Reader
import RouterMetrics.Catalog
import RouterMetrics.Scripted
import RouterMetrics.Config
import RouterMetrics.Device.Rest
import RouterMetrics.Release
import RouterMetrics.Exposition
import RouterMetrics.Schedule.Loop
import RouterMetrics.Exporter
import RouterMetrics.Scripted.Collector
import RouterMetrics.Startup
import RouterMetrics.Http.Routes
import RouterMetrics.Http.Server
import RouterMetrics.Outline
import RouterMetrics.Cli.Help
import RouterMetrics.Transcript
import RouterMetrics.Main
import RouterMetrics.Proofs.Schedule.Order
import RouterMetrics.Proofs.Schedule.Deeds
import RouterMetrics.Proofs.Schedule.Numbers
import RouterMetrics.Proofs.Schedule.Bypass
import RouterMetrics.Proofs.Schedule.Discipline
import RouterMetrics.Proofs.Device.History
import RouterMetrics.Proofs.Schedule.Lateness
import RouterMetrics.Proofs.Operation.Loads
import RouterMetrics.Proofs.Operation.Written
import RouterMetrics.Proofs.Operation.Stores
import RouterMetrics.Proofs.Operation.Freshness
import RouterMetrics.Proofs.Schedule.Progress
import RouterMetrics.Proofs.Device.Pacing
import RouterMetrics.Proofs.Collector.Snapshots
import RouterMetrics.Proofs.Operation.Outage
import RouterMetrics.Proofs.Exposition.Families
import RouterMetrics.Proofs.Collector.Identity
import RouterMetrics.Proofs.Config.Rounds
import RouterMetrics.Proofs.Exposition.Readings
import RouterMetrics.Proofs.Exposition.Duplicates
import RouterMetrics.Proofs.Schedule.Isolation
import RouterMetrics.Proofs.Collector.Attribution
import RouterMetrics.Proofs.Statistics.Tallies
import RouterMetrics.Proofs.Statistics.Balance
import RouterMetrics.Proofs.Exposition.Merging
import RouterMetrics.Schedule.Switch
import RouterMetrics.Proofs.Schedule.Stopping
import RouterMetrics.Proofs.Config.Wiring
import RouterMetrics.Proofs.Device.Hosts
import RouterMetrics.Proofs.Config.Acceptance
import RouterMetrics.Proofs.Collector.Names
import RouterMetrics.Proofs.Collector.Installations
import RouterMetrics.Proofs.Collector.Leases
import RouterMetrics.Proofs.Collector.Normalization
import RouterMetrics.Proofs.Collector.Projection
import RouterMetrics.Proofs.Device.Delays
import RouterMetrics.Proofs.Collector.Measurements
import RouterMetrics.Proofs.Collector.Pairing
import RouterMetrics.Proofs.Collector.Sessions
import RouterMetrics.Proofs.Collector.Health
import RouterMetrics.Proofs.Collector.OptionalFields
import RouterMetrics.Proofs.Text.Numerals
import RouterMetrics.Proofs.Json.RoundTrip
import RouterMetrics.Proofs.Json.Documents
import RouterMetrics.Proofs.Device.Answers
import RouterMetrics.Proofs.Value.Dates
import RouterMetrics.Proofs.Value.Timestamps
import RouterMetrics.Proofs.Decimal.WholeNumbers
import RouterMetrics.Proofs.Collector.Columns
import RouterMetrics.Proofs.Collector.Logins
import RouterMetrics.Proofs.Collector.Queues
import RouterMetrics.Proofs.Collector.Clients
import RouterMetrics.Proofs.Config.References
import RouterMetrics.Proofs.Text.Words
import RouterMetrics.Proofs.Collector.Releases
import RouterMetrics.Proofs.Collector.Versions
import RouterMetrics.Proofs.Decimal.Signs
import RouterMetrics.Proofs.Value.Rates
import RouterMetrics.Proofs.Value.Spans
import RouterMetrics.Proofs.Config.Windows
import RouterMetrics.Proofs.Net.Paths
import RouterMetrics.Proofs.Device.BaseUrls
import RouterMetrics.Proofs.Json.Spellings
import RouterMetrics.Proofs.Collector.Alike
import RouterMetrics.Proofs.Collector.Respelling
import RouterMetrics.Proofs.Collector.Spellings
import RouterMetrics.Proofs.Collector.Passes
