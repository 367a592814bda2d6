import AiHq.Library.Table
import AiHq.Library.Program
import AiHq.Library.Pool
import AiHq.ToolGateway.ScopedRules
import AiHq.ToolGateway.Binding
import AiHq.Approvals.Decisions
import AiHq.Missions.LeaseExclusion
import AiHq.Missions.PlanOrder
import AiHq.Missions.Stranding
import AiHq.Missions.Progress
import AiHq.Missions.Suspension
import AiHq.Missions.Resumption
import AiHq.Delivery.Record
import AiHq.Delivery.Lifecycle
import AiHq.Delivery.TestedWorkspace
import AiHq.Delivery.AppliedChanges
import AiHq.CodeChanges.Fencing
import AiHq.WorkerRouting
import AiHq.Recovery.Limits
import AiHq.Recovery.Incidents
import AiHq.Recovery.Agreement
import AiHq.HostHelper.Confinement
import AiHq.HostHelper.Totality
import AiHq.Operations.Layers
import AiHq.Recovery.Openings
import AiHq.Approvals.Fingerprint
import AiHq.Auth.Limiting
import AiHq.Chat.Appends
import AiHq.CodeChanges.Context
import AiHq.CodeChanges.ContextConfinement
import AiHq.CodeChanges.Identity
import AiHq.CodeChanges.Publisher
import AiHq.CodeChanges.PublisherConfinement
import AiHq.CodeChanges.Reopening
import AiHq.CodeChanges.Selection
import AiHq.CodeChanges.SourcePolicy
import AiHq.Delivery.Envelope
import AiHq.Delivery.LedgerReplay
import AiHq.Delivery.WriteScope
import AiHq.HostHelper.Deliverable
import AiHq.HostHelper.Redaction
import AiHq.Knowledge.Integrity
import AiHq.Notifications.Grouping
import AiHq.Recovery.Diagnostics
import AiHq.Recovery.Drill
import AiHq.Recovery.Drills
import AiHq.Recovery.Probe
import AiHq.Recovery.Spacing
import AiHq.CodeChanges.TamperEvidence
import AiHq.CodeChanges.Custody
import AiHq.CodeChanges.ReleaseRuns
import AiHq.Delivery.Confinement
import AiHq.Delivery.ReviewCoverage
