import Blackcell.Orchestration.RunLifecycle.State

/-!
# The replay state of a run

`run_lifecycle_payload` of `orchestration/run_lifecycle.py`: the folded state as the JSON value that is
hashed and shown to clients. It holds what the fold says about the run, and of the events only the
identifier and the digest of the latest one.

## Main definitions

* `runLifecyclePayload` : the replay state.
-/

namespace Blackcell.Orchestration.RunLifecycle

open Blackcell.Kernel

instance : StrEnum RunStatus where
  value
    | .queued => "queued"
    | .running => "running"
    | .canceling => "canceling"
    | .canceled => "canceled"
    | .succeeded => "succeeded"
    | .failed => "failed"
    | .reconciliationRequired => "reconciliation-required"
  members := [.queued, .running, .canceling, .canceled, .succeeded, .failed, .reconciliationRequired]
  mem_members := by intro a; cases a <;> decide
  nodup_values := by decide

instance : StrEnum NodeStatus where
  value
    | .pending => "pending"
    | .claimed => "claimed"
    | .running => "running"
    | .succeeded => "succeeded"
    | .failed => "failed"
    | .canceled => "canceled"
    | .reconciliationRequired => "reconciliation-required"
  members := [.pending, .claimed, .running, .succeeded, .failed, .canceled, .reconciliationRequired]
  mem_members := by intro a; cases a <;> decide
  nodup_values := by decide

instance : StrEnum WorktreeCleanupStatus where
  value
    | .eligible => "eligible"
    | .requested => "requested"
    | .failed => "failed"
    | .cleaned => "cleaned"
  members := [.eligible, .requested, .failed, .cleaned]
  mem_members := by intro a; cases a <;> decide
  nodup_values := by decide

variable (H : Host)

/-- The active lease in the replay state. -/
def activeLeasePayload (lease : ActiveLease) : JsonValue :=
  .object [
    ("node_id", .str lease.nodeId),
    ("attempt", .int lease.attempt),
    ("fencing_token", .int lease.fencingToken),
    ("worker_id", .str lease.workerId),
    ("lease_digest", .str lease.leaseDigest),
    ("worktree_spec_digest", .str lease.worktreeSpecDigest),
    ("expires_at", .str (H.isoformat lease.expiresAt)),
    ("prepared", .bool lease.prepared),
    ("provider_request_id", .ofText? lease.providerRequestId),
    ("provider_context_digest", .ofText? lease.providerContextDigest),
    ("provider_dispatch_event_id", .ofText? lease.providerDispatchEventId)]

/-- A node in the replay state. -/
def nodePayload (node : NodeLifecycleState) : JsonValue :=
  .object [
    ("node_id", .str node.nodeId),
    ("status", .str (StrEnum.value node.status)),
    ("attempts", .int node.attempts),
    ("fencing_token", .int node.fencingToken),
    ("result_digest", .ofText? node.resultDigest),
    ("head_commit", .ofText? node.headCommit),
    ("failure_code", .ofText? node.failureCode),
    ("retained_worktree", .bool node.retainedWorktree),
    ("lease_digest", .ofText? node.leaseDigest),
    ("worktree_spec_digest", .ofText? node.worktreeSpecDigest),
    ("cleanup_status", .ofText? (node.cleanupStatus.map StrEnum.value)),
    ("cleanup_failure_code", .ofText? node.cleanupFailureCode)]

/-- `run_lifecycle_payload`. -/
def runLifecyclePayload (state : RunLifecycleState) : Mapping := [
  ("run_id", .str state.runId),
  ("status", .str (StrEnum.value state.status)),
  ("cancellation_requested", .bool state.cancellationRequested),
  ("active_lease", (state.activeLease.map (activeLeasePayload H)).getD .null),
  ("nodes", .list (state.nodes.map nodePayload)),
  ("stream_sequence", .int state.lastStreamSequence),
  ("latest_event_id", .str state.latestEvent.eventId),
  ("latest_event_digest", .str (state.latestEvent.payloadHash H))]

end Blackcell.Orchestration.RunLifecycle
