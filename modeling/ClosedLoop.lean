import ClosedLoop.Library.Program
import ClosedLoop.Library.Table
import ClosedLoop.Library.Trace
import ClosedLoop.Library.Check
import ClosedLoop.Library.IpAddress
import ClosedLoop.Library.IpRoundTrip
import ClosedLoop.Library.IpNetwork
import ClosedLoop.Library.Json
import ClosedLoop.Library.JsonPaths
import ClosedLoop.Library.FloatText
import ClosedLoop.Library.JsonText
import ClosedLoop.Library.Calendar
import ClosedLoop.Library.Cursor
import ClosedLoop.Library.Progression
import ClosedLoop.Library.Owners
import ClosedLoop.Library.Best
import ClosedLoop.Library.Sha256
import ClosedLoop.Library.PyText
import ClosedLoop.Library.PyJson
import ClosedLoop.Construction.Response.Value
import ClosedLoop.Construction.Response.Policy
import ClosedLoop.Construction.Response.Catalog
import ClosedLoop.Construction.Response.Command
import ClosedLoop.Construction.Response.Signing
import ClosedLoop.Construction.Response.Decision
import ClosedLoop.Construction.Response.Audit
import ClosedLoop.Construction.Response.Store
import ClosedLoop.Construction.Response.Session
import ClosedLoop.Construction.Response.Engine
import ClosedLoop.Construction.Response.Lifecycle
import ClosedLoop.Construction.Response.Service
import ClosedLoop.Construction.Response.World
import ClosedLoop.Construction.Response.Export
import ClosedLoop.Construction.Transport.Ownership
import ClosedLoop.Construction.Transport.Blocklist
import ClosedLoop.Construction.Transport.Isolation
import ClosedLoop.Construction.Workers.Common
import ClosedLoop.Construction.Workers.Vector
import ClosedLoop.Construction.Workers.Features
import ClosedLoop.Construction.Workers.Engine
import ClosedLoop.Construction.Workers.Builders
import ClosedLoop.Construction.Workers.Outbox
import ClosedLoop.Construction.Workers.Enrichment
import ClosedLoop.Construction.Response.DecisionRunner
import ClosedLoop.Construction.Workers.Pipeline
import ClosedLoop.Construction.Workers.Windows
import ClosedLoop.Construction.Workers.Expand
import ClosedLoop.Construction.Workers.Scan
import ClosedLoop.Construction.Workers.History
import ClosedLoop.Construction.Compliance.Report
import ClosedLoop.Construction.Training.Dataset
import ClosedLoop.Construction.Training.Partitions
import ClosedLoop.Construction.Training.Documents
import ClosedLoop.Construction.Training.Threshold
import ClosedLoop.Proof.Response.Validation
import ClosedLoop.Proof.Response.Checkpoint
import ClosedLoop.Proof.Response.Protocol
import ClosedLoop.Proof.Response.Invariant
import ClosedLoop.Proof.Response.Durable
import ClosedLoop.Proof.Response.Synced
import ClosedLoop.Proof.Response.Effects
import ClosedLoop.Proof.Response.Operations
import ClosedLoop.Proof.Response.Reversal
import ClosedLoop.Proof.Response.Sweeps
import ClosedLoop.Proof.Response.Lifecycle
import ClosedLoop.Proof.Response.Enforcement
import ClosedLoop.Proof.Response.Admission
import ClosedLoop.Proof.Response.Steady
import ClosedLoop.Proof.Response.Reopening
import ClosedLoop.Proof.Response.History
import ClosedLoop.Proof.Response.Quiet
import ClosedLoop.Proof.Response.Safety
import ClosedLoop.Proof.Response.Containment
import ClosedLoop.Proof.Response.Restart
import ClosedLoop.Proof.Response.Stages
import ClosedLoop.Proof.Response.Schedule
import ClosedLoop.Proof.Response.Starvation
import ClosedLoop.Proof.Response.Modes
import ClosedLoop.Proof.Response.Configuration
import ClosedLoop.Proof.Response.RateLimit
import ClosedLoop.Proof.Response.Export
import ClosedLoop.Proof.Response.Discipline
import ClosedLoop.Proof.Response.Recovery
import ClosedLoop.Proof.Workers.Selection
import ClosedLoop.Proof.Workers.Vectors
import ClosedLoop.Proof.Workers.Delivery
import ClosedLoop.Proof.Workers.Jobs
import ClosedLoop.Proof.Workers.Polling
import ClosedLoop.Proof.Workers.Pulling
import ClosedLoop.Proof.Workers.Effects
import ClosedLoop.Proof.Workers.Windows
import ClosedLoop.Proof.Workers.Failures
import ClosedLoop.Proof.Workers.Expand
import ClosedLoop.Proof.Workers.Scan
import ClosedLoop.Proof.Workers.History
import ClosedLoop.Proof.Workers.Attempts
import ClosedLoop.Proof.Workers.Builders
import ClosedLoop.Proof.Training.Grouping
import ClosedLoop.Proof.Training.Rows
import ClosedLoop.Proof.Training.Labels
import ClosedLoop.Proof.Training.Partitions
import ClosedLoop.Proof.Training.Gate
import ClosedLoop.Proof.Training.Written
import ClosedLoop.Proof.Training.Threshold
import ClosedLoop.Proof.Transport.Ledger
import ClosedLoop.Proof.Transport.Foreign
import ClosedLoop.Proof.Transport.Provenance
import ClosedLoop.Proof.Transport.Leaks
import ClosedLoop.Proof.Transport.Revert
import ClosedLoop.Proof.Transport.Compensation
import ClosedLoop.Proof.Transport.Isolation
import ClosedLoop.Proof.Decision.Evidence
import ClosedLoop.Proof.Decision.Verdict
import ClosedLoop.Proof.Decision.Independence
import ClosedLoop.Proof.Decision.Signature
import ClosedLoop.Proof.Decision.Authenticators
import ClosedLoop.Proof.Decision.Acceptance
import ClosedLoop.Proof.Decision.Agreement
import ClosedLoop.Proof.Decision.Grounds
import ClosedLoop.Proof.Decision.Binding
import ClosedLoop.Proof.Decision.Corroboration
import ClosedLoop.Proof.Decision.Identity
import ClosedLoop.Proof.Decision.Runner
import ClosedLoop.Proof.Decision.Retrying
import ClosedLoop.Proof.Decision.Documents
import ClosedLoop.Proof.Decision.Safeguards
import ClosedLoop.Proof.Decision.AddressValue
import ClosedLoop.Proof.Compliance.Report
