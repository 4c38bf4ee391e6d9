import MindscapeLocalCore.AccessControl.Imports
import MindscapeLocalCore.AccessControl.LastOwner
import MindscapeLocalCore.AccessControl.Recovery
import MindscapeLocalCore.AccessControl.Revisions
import MindscapeLocalCore.Artifacts.FileRange
import MindscapeLocalCore.CompositionGraph.Invocations
import MindscapeLocalCore.DeploymentControl.EnvelopeRevisions
import MindscapeLocalCore.DispatchOrchestrator.PhaseCounts
import MindscapeLocalCore.DispatchOrchestrator.UpstreamContext
import MindscapeLocalCore.DurableState.Approvals
import MindscapeLocalCore.DurableState.Continuation
import MindscapeLocalCore.DurableState.Deadlines
import MindscapeLocalCore.DurableState.EventVerification
import MindscapeLocalCore.DurableState.ExecutionReceipts
import MindscapeLocalCore.DurableState.Payloads
import MindscapeLocalCore.DurableState.ReleasePolicyRuns
import MindscapeLocalCore.DurableState.SegmentBounds
import MindscapeLocalCore.DurableState.StateChanges
import MindscapeLocalCore.Governance.FollowUpRuns
import MindscapeLocalCore.HostResources.PausedLanes
import MindscapeLocalCore.HostResources.RouteScopes
import MindscapeLocalCore.KnowledgeAuthorization.RepeatableReplacements
import MindscapeLocalCore.KnowledgeGraph.Communities
import MindscapeLocalCore.KnowledgeProjection.ClaimOrder
import MindscapeLocalCore.KnowledgeProjection.CoveragePaging
import MindscapeLocalCore.KnowledgeProjection.GroupDecisions
import MindscapeLocalCore.KnowledgeProjection.RepeatedProjections
import MindscapeLocalCore.KnowledgeProjection.ReviewDecisions
import MindscapeLocalCore.KnowledgeRetrieval.FacetFilters
import MindscapeLocalCore.KnowledgeRetrieval.Neighborhoods
import MindscapeLocalCore.KnowledgeRetrieval.Noninterference
import MindscapeLocalCore.Lens.ChangeSets
import MindscapeLocalCore.Library.Holdings
import MindscapeLocalCore.MediaTransport.RouteRuns
import MindscapeLocalCore.MeetingCommands.CommandParser
import MindscapeLocalCore.RunHarness.SingleStart
import MindscapeLocalCore.RunHarness.TerminalOutcomes
import MindscapeLocalCore.RunnerQueue.ClaimRuns
import MindscapeLocalCore.RunnerQueue.FairnessScan
import MindscapeLocalCore.RunnerQueue.FinishedTasks
import MindscapeLocalCore.RunnerQueue.Leases
import MindscapeLocalCore.RunnerQueue.Retention
import MindscapeLocalCore.RunnerResources.Admission
import MindscapeLocalCore.RunnerResources.LeaseRuns
import MindscapeLocalCore.RuntimeDatabaseIncident.Coherence
import MindscapeLocalCore.RuntimeDatabaseIncident.PackPermits
import MindscapeLocalCore.RuntimeDatabaseIncident.PermitLimits
import MindscapeLocalCore.ToolLoop.CallScopes
import MindscapeLocalCore.Workflow.ConditionalSteps
import MindscapeLocalCore.Workflow.ErrorStrategies
import MindscapeLocalCore.Workflow.HandoffAccounts
import MindscapeLocalCore.Workflow.HandoffReferences
import MindscapeLocalCore.Workflow.SlotDepth
import MindscapeLocalCore.Workflow.StepPaths
