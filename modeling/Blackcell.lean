import Blackcell.Adapters.BoundedProcess
import Blackcell.Adapters.GitCommits
import Blackcell.Adapters.GitEvidence
import Blackcell.Adapters.GitOutput
import Blackcell.Adapters.GitWorktree
import Blackcell.Adapters.TextChanges
import Blackcell.Adapters.Worktree
import Blackcell.Adapters.WorktreeEvidence
import Blackcell.Bootstrap.Admission
import Blackcell.Bootstrap.AttemptIdentity
import Blackcell.Bootstrap.CandidateStability
import Blackcell.Bootstrap.Daemon
import Blackcell.Bootstrap.EventFeed
import Blackcell.Bootstrap.NodeBase
import Blackcell.Bootstrap.Requests
import Blackcell.Bootstrap.ReviewBudget
import Blackcell.Bootstrap.ReviewCandidates
import Blackcell.Bootstrap.ReviewEvidence
import Blackcell.Bootstrap.ReviewRuntime
import Blackcell.Bootstrap.RunLoading
import Blackcell.Bootstrap.RunPagination
import Blackcell.Bootstrap.RunQueries
import Blackcell.Bootstrap.RunSearch
import Blackcell.Bootstrap.RunWindow
import Blackcell.Bootstrap.StageIndependence
import Blackcell.Bootstrap.VerificationRuntime
import Blackcell.Bootstrap.WriteLineage
import Blackcell.Foundation.Acyclic
import Blackcell.Foundation.Checked
import Blackcell.Foundation.Compensation
import Blackcell.Foundation.Consecutive
import Blackcell.Foundation.Fatal
import Blackcell.Foundation.Faults
import Blackcell.Foundation.History
import Blackcell.Foundation.Interleaving
import Blackcell.Foundation.JsonLexemes
import Blackcell.Foundation.JsonScanner
import Blackcell.Foundation.Kahn
import Blackcell.Foundation.LogReader
import Blackcell.Foundation.Pagination
import Blackcell.Foundation.Records
import Blackcell.Foundation.Resumption
import Blackcell.Foundation.Session
import Blackcell.Foundation.SingleUse
import Blackcell.Foundation.StrEnum
import Blackcell.Foundation.Topological
import Blackcell.Foundation.Traced
import Blackcell.Foundation.Transaction
import Blackcell.Foundation.Worklist
import Blackcell.Gateway.Admitted
import Blackcell.Gateway.CliAdapters
import Blackcell.Gateway.Exactness
import Blackcell.Gateway.Models
import Blackcell.Gateway.Router
import Blackcell.Gateway.Schema
import Blackcell.Interfaces.Contracts
import Blackcell.Interfaces.PlanGraph
import Blackcell.Interfaces.QueryBody
import Blackcell.Interfaces.WebTickets
import Blackcell.Kernel.ArtifactAccounting
import Blackcell.Kernel.Artifacts
import Blackcell.Kernel.Bytes
import Blackcell.Kernel.Canonical
import Blackcell.Kernel.Checkpoints
import Blackcell.Kernel.Consistency
import Blackcell.Kernel.Database
import Blackcell.Kernel.Digest
import Blackcell.Kernel.Encoding
import Blackcell.Kernel.Event
import Blackcell.Kernel.EventStore
import Blackcell.Kernel.Json
import Blackcell.Kernel.Projection
import Blackcell.Kernel.Retry
import Blackcell.Kernel.Store
import Blackcell.Kernel.Text
import Blackcell.Kernel.Truncation
import Blackcell.Orchestration.Acceptance
import Blackcell.Orchestration.ChangeContext
import Blackcell.Orchestration.Changes
import Blackcell.Orchestration.ExecutionArtifacts
import Blackcell.Orchestration.ExecutionPlan.Compiled
import Blackcell.Orchestration.ExecutionPlan.Contract
import Blackcell.Orchestration.ExecutionPlan.Goal
import Blackcell.Orchestration.ExecutionPlan.Graph
import Blackcell.Orchestration.ExecutionPlan.Plan
import Blackcell.Orchestration.ExecutionPlan.Policy
import Blackcell.Orchestration.ExecutionPlan.RoundTrip
import Blackcell.Orchestration.ExecutionRuntime.Append
import Blackcell.Orchestration.ExecutionRuntime.Attempt
import Blackcell.Orchestration.ExecutionRuntime.Attempts
import Blackcell.Orchestration.ExecutionRuntime.Budget
import Blackcell.Orchestration.ExecutionRuntime.Change
import Blackcell.Orchestration.ExecutionRuntime.Checkpoint
import Blackcell.Orchestration.ExecutionRuntime.Coordinator
import Blackcell.Orchestration.ExecutionRuntime.Guard
import Blackcell.Orchestration.ExecutionRuntime.Journal
import Blackcell.Orchestration.ExecutionRuntime.Legality
import Blackcell.Orchestration.ExecutionRuntime.Lineage
import Blackcell.Orchestration.ExecutionRuntime.Passing
import Blackcell.Orchestration.ExecutionRuntime.Phase
import Blackcell.Orchestration.ExecutionRuntime.Proceeding
import Blackcell.Orchestration.ExecutionRuntime.Projection
import Blackcell.Orchestration.ExecutionRuntime.Quiescence
import Blackcell.Orchestration.ExecutionRuntime.Recovery
import Blackcell.Orchestration.ExecutionRuntime.Replay
import Blackcell.Orchestration.ExecutionRuntime.Request
import Blackcell.Orchestration.ExecutionRuntime.Resume
import Blackcell.Orchestration.ExecutionRuntime.Runs
import Blackcell.Orchestration.ExecutionRuntime.Sound
import Blackcell.Orchestration.ExecutionRuntime.State
import Blackcell.Orchestration.ExecutionRuntime.Unpriced
import Blackcell.Orchestration.OutputSchemas
import Blackcell.Orchestration.PlanAdmission
import Blackcell.Orchestration.Planner
import Blackcell.Orchestration.Review.Context
import Blackcell.Orchestration.Review.Excerpts
import Blackcell.Orchestration.ReviewLifecycle
import Blackcell.Orchestration.ReviewSafety
import Blackcell.Orchestration.RunLifecycle.Dependencies
import Blackcell.Orchestration.RunLifecycle.Dispatch
import Blackcell.Orchestration.RunLifecycle.Fencing
import Blackcell.Orchestration.RunLifecycle.Fold
import Blackcell.Orchestration.RunLifecycle.Heads
import Blackcell.Orchestration.RunLifecycle.Payload
import Blackcell.Orchestration.RunLifecycle.Progress
import Blackcell.Orchestration.RunLifecycle.Settled
import Blackcell.Orchestration.RunLifecycle.State
import Blackcell.Orchestration.RunLifecycle.Trace
import Blackcell.Orchestration.RunLifecycle.Transition
import Blackcell.Orchestration.Stage
import Blackcell.Orchestration.VerificationLifecycle
import Blackcell.Orchestration.VerificationSafety
import Blackcell.Adapters.KernformBoundary
import Blackcell.Bootstrap.LeaseDuration
import Blackcell.Bootstrap.LeaseCalls
