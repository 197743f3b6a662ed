import Blackcell.Foundation.StrEnum
import Blackcell.Kernel.Event
import Mathlib.Data.List.Sort
import Mathlib.Logic.Function.Basic

/-!
# The state of a run

The data of `orchestration/run_lifecycle.py`: the events of a run stream, the statuses of a run and
of its nodes, the lease that a claim opens, and the state that the fold accumulates. A run stream
is shared: it holds the public events of the run, and the events of the generated execution, which
the fold of the run only counts.

## Main definitions

* `RunEventType`, `runEventType?` : the kinds of public run events, and the kind of an event.
* `NodeDependencies` : the declared nodes with their dependencies.
* `ActiveLease`, `NodeLifecycleState`, `RunLifecycleState` : the folded state.
* `FoldState` : the accumulator of the fold.
-/

namespace Blackcell.Orchestration

open Blackcell.Kernel

/-- `EXECUTION_EVENT_SOURCE`. -/
def executionEventSource : String := "blackcell.execution"

/-- `EXECUTION_EVENT_TYPES`. -/
inductive ExecutionEventType where
  | goalAdmitted | planDraftReceived | planAdmitted | replanStarted | taskReady | policyDecided
  | taskStarted | taskVerifying | taskVerified | taskBlocked | runTerminated
  deriving DecidableEq, Repr

instance : StrEnum ExecutionEventType where
  value
    | .goalAdmitted => "execution.goal.admitted"
    | .planDraftReceived => "execution.plan-draft.received"
    | .planAdmitted => "execution.plan.admitted"
    | .replanStarted => "execution.replan.started"
    | .taskReady => "execution.task.ready"
    | .policyDecided => "execution.policy.decided"
    | .taskStarted => "execution.task.started"
    | .taskVerifying => "execution.task.verifying"
    | .taskVerified => "execution.task.verified"
    | .taskBlocked => "execution.task.blocked"
    | .runTerminated => "execution.run.terminated"
  members := [.goalAdmitted, .planDraftReceived, .planAdmitted, .replanStarted, .taskReady,
    .policyDecided, .taskStarted, .taskVerifying, .taskVerified, .taskBlocked, .runTerminated]
  mem_members := by intro a; cases a <;> decide
  nodup_values := by decide

namespace RunLifecycle

/-- `RUNTIME_EVENT_SOURCE`. -/
def runtimeEventSource : String := "blackcell.runtime"

/-- `RUN_EVENT_TYPES`. -/
inductive RunEventType where
  | runQueued | nodeClaimed | nodeWorktreePrepared | nodeProviderDispatchStarted
  | runCancelRequested | nodeSucceeded | nodeFailed | nodeRequeued | nodeCanceled
  | nodeReconciliationRequired | nodeWorktreeCleanupRequested | nodeWorktreeCleaned
  | nodeWorktreeCleanupFailed | runSucceeded | runFailed | runCanceled
  | runReconciliationRequired
  deriving DecidableEq, Repr

instance : StrEnum RunEventType where
  value
    | .runQueued => "run.queued"
    | .nodeClaimed => "node.claimed"
    | .nodeWorktreePrepared => "node.worktree-prepared"
    | .nodeProviderDispatchStarted => "node.provider-dispatch-started"
    | .runCancelRequested => "run.cancel-requested"
    | .nodeSucceeded => "node.succeeded"
    | .nodeFailed => "node.failed"
    | .nodeRequeued => "node.requeued"
    | .nodeCanceled => "node.canceled"
    | .nodeReconciliationRequired => "node.reconciliation-required"
    | .nodeWorktreeCleanupRequested => "node.worktree-cleanup-requested"
    | .nodeWorktreeCleaned => "node.worktree-cleaned"
    | .nodeWorktreeCleanupFailed => "node.worktree-cleanup-failed"
    | .runSucceeded => "run.succeeded"
    | .runFailed => "run.failed"
    | .runCanceled => "run.canceled"
    | .runReconciliationRequired => "run.reconciliation-required"
  members := [.runQueued, .nodeClaimed, .nodeWorktreePrepared, .nodeProviderDispatchStarted,
    .runCancelRequested, .nodeSucceeded, .nodeFailed, .nodeRequeued, .nodeCanceled,
    .nodeReconciliationRequired, .nodeWorktreeCleanupRequested, .nodeWorktreeCleaned,
    .nodeWorktreeCleanupFailed, .runSucceeded, .runFailed, .runCanceled,
    .runReconciliationRequired]
  mem_members := by intro a; cases a <;> decide
  nodup_values := by decide

/-- The kind of a public run event; `none` for an event that the fold of the run passes over. -/
def runEventType? (e : EventEnvelope) : Option RunEventType :=
  if e.source = runtimeEventSource then StrEnum.ofValue? e.eventType else none

/-- The event belongs to the public history of the run. -/
def isPublic (e : EventEnvelope) : Bool := (runEventType? e).isSome

/-- The event belongs to the generated execution that shares the stream. -/
def isExecution (e : EventEnvelope) : Bool :=
  e.source = executionEventSource &&
    (StrEnum.ofValue? e.eventType : Option ExecutionEventType).isSome

/-- `known_event`. -/
def isKnown (e : EventEnvelope) : Bool := isPublic e || isExecution e

/-- The three kinds that record the cleanup of a retained worktree. -/
def RunEventType.isCleanup : RunEventType → Bool
  | .nodeWorktreeCleanupRequested | .nodeWorktreeCleaned | .nodeWorktreeCleanupFailed => true
  | _ => false

/-- The content-free rejection of a run history. -/
inductive LifecycleError where
  | invalidRunLifecycle
  deriving DecidableEq, Repr

/-- `RunLifecycleStatus` of a run. -/
inductive RunStatus where
  | queued | running | canceling | canceled | succeeded | failed | reconciliationRequired
  deriving DecidableEq, Repr

/-- `NodeLifecycleStatus`. -/
inductive NodeStatus where
  | pending | claimed | running | succeeded | failed | canceled | reconciliationRequired
  deriving DecidableEq, Repr

/-- `WorktreeCleanupStatus`. -/
inductive WorktreeCleanupStatus where
  | eligible | requested | failed | cleaned
  deriving DecidableEq, Repr

/-- `node_dependencies`: each declared node with the nodes it depends on. Like the keys of a
`dict`, the declared nodes are distinct. -/
structure NodeDependencies where
  entries : List (String × List String)
  nodup : (entries.map Prod.fst).Nodup

namespace NodeDependencies

variable (deps : NodeDependencies)

/-- The declared nodes, sorted. -/
def known : List String := (deps.entries.map Prod.fst).insertionSort (· ≤ ·)

/-- The dependencies of a node. -/
def of (nodeId : String) : List String := (deps.entries.lookup nodeId).getD []

theorem mem_known {nodeId : String} :
    nodeId ∈ deps.known ↔ nodeId ∈ deps.entries.map Prod.fst :=
  List.mem_insertionSort _

/-- A declared node and its dependencies are an entry. -/
theorem mem_entries {nodeId : String} (h : nodeId ∈ deps.known) :
    (nodeId, deps.of nodeId) ∈ deps.entries := by
  obtain ⟨⟨k, ds⟩, hmem, rfl⟩ := List.mem_map.mp (deps.mem_known.mp h)
  have hsome : (deps.entries.lookup k).isSome :=
    List.lookup_isSome_iff.mpr ⟨(k, ds), hmem, by simp⟩
  obtain ⟨ds', hds'⟩ := Option.isSome_iff_exists.mp hsome
  obtain ⟨l₁, l₂, hsplit, -⟩ := List.lookup_eq_some_iff.mp hds'
  have hof : deps.of k = ds' := by rw [of, hds', Option.getD_some]
  rw [hof, hsplit]
  simp

end NodeDependencies

/-- `ActiveLease`. -/
structure ActiveLease where
  nodeId : String
  attempt : Nat
  fencingToken : Nat
  workerId : String
  leaseDigest : String
  worktreeSpecDigest : String
  worktreeSpec : Mapping
  expiresAt : Timestamp
  prepared : Bool
  providerRequestId : Option String
  providerContextDigest : Option String
  providerDispatchEventId : Option String
  deriving DecidableEq

/-- `NodeLifecycleState`, which is also the accumulated `_MutableNode`. -/
structure NodeLifecycleState where
  nodeId : String
  status : NodeStatus
  attempts : Nat
  fencingToken : Nat
  resultDigest : Option String
  headCommit : Option String
  failureCode : Option String
  retainedWorktree : Bool
  leaseDigest : Option String
  worktreeSpecDigest : Option String
  worktreeSpec : Option Mapping
  cleanupStatus : Option WorktreeCleanupStatus
  cleanupFailureCode : Option String
  deriving DecidableEq

/-- A node that was never claimed. -/
def NodeLifecycleState.initial (nodeId : String) : NodeLifecycleState :=
  ⟨nodeId, .pending, 0, 0, none, none, none, false, none, none, none, none, none⟩

/-- `RunLifecycleState`. -/
structure RunLifecycleState where
  runId : String
  status : RunStatus
  nodes : List NodeLifecycleState
  cancellationRequested : Bool
  activeLease : Option ActiveLease
  queuedEvent : EventEnvelope
  latestEvent : EventEnvelope
  lastStreamSequence : Int
  deriving DecidableEq

/-- The local variables of `fold_run_lifecycle`. -/
structure FoldState where
  status : RunStatus
  cancellationRequested : Bool
  active : Option ActiveLease
  terminal : Bool
  reconciliationRecorded : Bool
  maximumFence : Nat
  nodes : String → NodeLifecycleState

namespace FoldState

/-- The state before the first event after `run.queued`. -/
def initial : FoldState := ⟨.queued, false, none, false, false, 0, NodeLifecycleState.initial⟩

/-- Replace the state of one node. -/
def setNode (s : FoldState) (nodeId : String) (node : NodeLifecycleState) : FoldState :=
  { s with nodes := Function.update s.nodes nodeId node }

section

variable (s : FoldState) (nodeId : String) (node : NodeLifecycleState)

@[simp] theorem setNode_status : (s.setNode nodeId node).status = s.status := rfl

@[simp] theorem setNode_cancellationRequested :
    (s.setNode nodeId node).cancellationRequested = s.cancellationRequested := rfl

@[simp] theorem setNode_active : (s.setNode nodeId node).active = s.active := rfl

@[simp] theorem setNode_terminal : (s.setNode nodeId node).terminal = s.terminal := rfl

@[simp] theorem setNode_reconciliationRecorded :
    (s.setNode nodeId node).reconciliationRecorded = s.reconciliationRecorded := rfl

@[simp] theorem setNode_maximumFence :
    (s.setNode nodeId node).maximumFence = s.maximumFence := rfl

theorem setNode_nodes (k : String) :
    (s.setNode nodeId node).nodes k = if k = nodeId then node else s.nodes k := by
  simp [setNode, Function.update_apply]

end

end FoldState

end RunLifecycle

end Blackcell.Orchestration
