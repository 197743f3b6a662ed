import Blackcell.Foundation.History
import Blackcell.Orchestration.RunLifecycle.State

/-!
# The fold of a run stream

`fold_run_lifecycle`: the validation of a complete run stream. Each kind of event is one branch of
the fold; a branch checks the payload and the accumulated state, and returns the next state. The
order of the checks inside a branch does not show, since every rejection is the same error.

## Main definitions

* `foldEvent` : one public event after `run.queued`, a branch for each kind.
* `acceptsEnd` : the conditions on the accumulated state at the end of the stream.
* `foldRunLifecycle` : the fold of a complete stream.
-/

namespace Blackcell.Orchestration.RunLifecycle

open Blackcell.Kernel

/-- Raise `LifecycleError` unless the condition holds. -/
def check (p : Prop) [Decidable p] : Except LifecycleError PUnit :=
  Checked.require p .invalidRunLifecycle

@[simp] theorem check_eq_ok {p : Prop} [Decidable p] {u : PUnit} : check p = .ok u ↔ p :=
  Checked.require_eq_ok

/-- Raise `LifecycleError` unless the value is present. -/
def present {α : Type} (x : Option α) : Except LifecycleError α :=
  Checked.ofOption x .invalidRunLifecycle

@[simp] theorem present_eq_ok {α : Type} {x : Option α} {a : α} : present x = .ok a ↔ x = some a :=
  Checked.ofOption_eq_ok

/-! ### Readers of payload values -/

/-- `_mapping`. -/
def mapping (v : JsonValue) : Except LifecycleError Mapping := present v.fields?

/-- `_exact`. -/
def exact (payload : Mapping) (expected : List String) : Except LifecycleError PUnit :=
  check (payload.exact expected)

/-- `_text`. -/
def text (v : JsonValue) : Except LifecycleError String := do
  let s ← present v.text?
  check (s ≠ "" ∧ s.length ≤ 256)
  return s

/-- `_positive_integer`. -/
def positiveInteger (v : JsonValue) : Except LifecycleError Nat := do
  let n ← present v.int?
  check (1 ≤ n)
  return n.toNat

/-- `_failure_code` and `_identifier`: a text of letters, digits and `-._`. -/
def identifier (v : JsonValue) : Except LifecycleError String := do
  let s ← text v
  check ((chars s).all fun c ↦ c.isAlphanum || ['-', '.', '_'].contains c)
  return s

/-- `_failure_code`. -/
def failureCode (v : JsonValue) : Except LifecycleError String := identifier v

section

variable (H : Host)

/-- `_digest`. -/
def digest (v : JsonValue) : Except LifecycleError String := do
  let s ← text v
  check (s.length = 71 ∧ hasDigestPrefix s ∧ H.parsesBase16 (withoutDigestPrefix s))
  return s

/-- `_commit`. -/
def commit (v : JsonValue) : Except LifecycleError String := do
  let s ← text v
  check (s.length = 40 ∧ H.parsesBase16 s ∧ (chars s).all fun c ↦ c.toLower = c)
  return s

/-- `_timestamp`. -/
def timestamp (v : JsonValue) : Except LifecycleError Timestamp := do
  let s ← text v
  let parsed ← present (H.fromisoformat s)
  check (parsed.aware)
  return parsed.instant

/-- An optional digest: `None if value is None else _digest(value)`. -/
def optionalDigest (v : JsonValue) : Except LifecycleError (Option String) :=
  if v = .null then return none else some <$> digest H v

/-- `provider_request_id`: the one provider request identity of a fenced lease. -/
def providerRequestId (leaseDigest : String) : String :=
  "change-" ++ withoutDigestPrefix leaseDigest

/-- `_worktree_spec_digest`. -/
def worktreeSpecDigest (spec : Mapping) (leaseDigest : String) : String :=
  H.jsonDigest (.object [
    ("schema_version", spec.get "schema_version"),
    ("lease_digest", .str leaseDigest),
    ("repository_root", spec.get "repository_root"),
    ("isolation_root", spec.get "isolation_root"),
    ("base_commit", spec.get "base_commit"),
    ("allowed_paths", spec.get "allowed_paths"),
    ("max_changed_paths", spec.get "max_changed_paths")])

variable (runId : String) (deps : NodeDependencies)

/-- `_run`. -/
def run (payload : Mapping) : Except LifecycleError PUnit :=
  check (payload.get "run_id" = .str runId)

/-- `_principal`. -/
def principal (payload : Mapping) (e : EventEnvelope) : Except LifecycleError PUnit :=
  check (payload.get "principal_id" = .str e.actor)

/-- `_node`: the declared node that a payload names. -/
def node (payload : Mapping) : Except LifecycleError String := do
  let nodeId ← present (payload.get "node_id").text?
  check (nodeId ∈ deps.known)
  return nodeId

/-- `_active`: the active lease, which the payload must name. -/
def activeLease (payload : Mapping) (active : Option ActiveLease) (requirePrepared : Bool)
    (requireWorker : Bool) : Except LifecycleError ActiveLease := do
  let lease ← present active
  let nodeId ← node deps payload
  check (nodeId = lease.nodeId)
  check (payload.get "lease_digest" = .str lease.leaseDigest)
  check (requirePrepared → lease.prepared)
  check (requireWorker → payload.get "principal_id" = .str lease.workerId)
  return lease

/-- The inspection reports no change against its base commit. -/
def unchangedInspection (inspection : Mapping) : Prop :=
  (inspection.get "head_commit").equals (inspection.get "base_commit") ∧
    inspection.get "changed_paths" = .list [] ∧ inspection.get "uncommitted_paths" = .list [] ∧
    inspection.get "out_of_scope_paths" = .list [] ∧
    inspection.get "changed_path_limit_exceeded" = .bool false

instance (inspection : Mapping) : Decidable (unchangedInspection inspection) :=
  inferInstanceAs (Decidable (_ ∧ _))

/-- `_inspection`: the worktree inspection of the active lease. -/
def inspectionOf (payload : Mapping) (lease : ActiveLease) (unchanged : Bool) :
    Except LifecycleError Mapping := do
  let inspection ← mapping (payload.get "inspection")
  check (payload.get "inspection_digest" = .str (H.jsonDigest (.object inspection)))
  check (inspection.get "spec_digest" = .str lease.worktreeSpecDigest)
  check (inspection.get "lease_digest" = .str lease.leaseDigest)
  check (unchanged → unchangedInspection inspection)
  return inspection

/-- The worktree evidence of a node that leaves the active state: an inspection when the worktree
is retained, and none when it is not. The result is the flag. -/
def retainedEvidence (payload : Mapping) (lease : ActiveLease) : Except LifecycleError Bool := do
  let retained ← present (payload.get "retained_worktree").bool?
  if retained then
    let _ ← inspectionOf H payload lease false
    return true
  else
    check (payload.get "inspection" = .null ∧ payload.get "inspection_digest" = .null)
    return false

/-- `_cleanup_node`: the succeeded node whose retained worktree a cleanup event names. -/
def cleanupNode (payload : Mapping) (s : FoldState) (expected : WorktreeCleanupStatus) :
    Except LifecycleError String := do
  let nodeId ← node deps payload
  let state := s.nodes nodeId
  check (s.active = none ∧ state.status = .succeeded ∧ state.retainedWorktree ∧
    state.cleanupStatus = some expected)
  check (payload.get "lease_digest" = .ofText? state.leaseDigest)
  check (payload.get "worktree_spec_digest" = .ofText? state.worktreeSpecDigest)
  check (payload.get "head_commit" = .ofText? state.headCommit)
  check (state.worktreeSpec.isSome)
  return nodeId

/-! ### The branches of the fold

Each branch is a function of the accumulated state and of the event that it reads. -/

variable (s : FoldState) (e : EventEnvelope)

/-- The node that the lease was claimed for takes a status. -/
def FoldState.setStatus (lease : ActiveLease) (status : NodeStatus) : FoldState :=
  s.setNode lease.nodeId { s.nodes lease.nodeId with status := status }

/-- The lease that a claim event opens. -/
def claimedLease (payload : Mapping) : Except LifecycleError ActiveLease := do
  let nodeId ← node deps payload
  let attempt ← positiveInteger (payload.get "attempt")
  let fencingToken ← positiveInteger (payload.get "fencing_token")
  let workerId ← text (payload.get "worker_id")
  let leaseDigest ← digest H (payload.get "lease_digest")
  let specDigest ← digest H (payload.get "worktree_spec_digest")
  let expiresAt ← timestamp H (payload.get "expires_at")
  let spec ← mapping (payload.get "worktree_spec")
  exact spec ["schema_version", "lease_digest", "lease", "repository_root", "isolation_root",
    "base_commit", "allowed_paths", "max_changed_paths"]
  return ⟨nodeId, attempt, fencingToken, workerId, leaseDigest, specDigest, spec, expiresAt, false,
    none, none, none⟩

/-- The lease document inside the worktree specification agrees with the claim. -/
def checkLeaseDocument (lease : ActiveLease) : Except LifecycleError PUnit := do
  check (worktreeSpecDigest H lease.worktreeSpec lease.leaseDigest = lease.worktreeSpecDigest)
  let raw ← mapping (lease.worktreeSpec.get "lease")
  check (raw.get "run_id" = .str runId)
  check (raw.get "node_id" = .str lease.nodeId)
  check ((raw.get "attempt").equals (.int lease.attempt))
  check ((raw.get "fencing_token").equals (.int lease.fencingToken))
  check (raw.get "worker_id" = .str lease.workerId)
  check (H.jsonDigest (.object raw) = lease.leaseDigest)
  check (lease.worktreeSpec.get "lease_digest" = .str lease.leaseDigest)

/-- The state after a claim. -/
def FoldState.claim (lease : ActiveLease) : FoldState :=
  { s.setNode lease.nodeId
      { s.nodes lease.nodeId with
        status := .claimed
        attempts := lease.attempt
        fencingToken := lease.fencingToken
        leaseDigest := some lease.leaseDigest
        worktreeSpecDigest := some lease.worktreeSpecDigest
        worktreeSpec := some lease.worktreeSpec
        cleanupStatus := none
        cleanupFailureCode := none } with
    maximumFence := lease.fencingToken
    active := some lease
    status := .running }

/-- `NODE_CLAIMED`. -/
def foldNodeClaimed : Except LifecycleError FoldState := do
  check (¬s.cancellationRequested ∧ s.active = none ∧ (s.status = .queued ∨ s.status = .running))
  exact e.payload ["principal_id", "run_id", "node_id", "attempt", "fencing_token", "worker_id",
    "lease_digest", "expires_at", "worktree_spec_digest", "worktree_spec", "status"]
  run runId e.payload
  let lease ← claimedLease H deps e.payload
  check ((s.nodes lease.nodeId).status = .pending ∧
    ∀ dependency ∈ deps.of lease.nodeId, (s.nodes dependency).status = .succeeded)
  check (lease.attempt = (s.nodes lease.nodeId).attempts + 1)
  check (lease.fencingToken = s.maximumFence + 1)
  check (e.recordedAt < lease.expiresAt)
  check (e.payload.get "status" = .str "claimed")
  checkLeaseDocument H runId lease
  return s.claim lease

/-- `NODE_WORKTREE_PREPARED`. -/
def foldNodeWorktreePrepared : Except LifecycleError FoldState := do
  exact e.payload ["principal_id", "run_id", "node_id", "lease_digest", "inspection_digest",
    "inspection", "status"]
  run runId e.payload
  let lease ← activeLease deps e.payload s.active false true
  check (¬lease.prepared ∧ e.recordedAt ≤ lease.expiresAt)
  let _ ← inspectionOf H e.payload lease true
  check (e.payload.get "status" = .str "worktree-prepared")
  return { s.setStatus lease .running with active := some { lease with prepared := true } }

/-- `NODE_PROVIDER_DISPATCH_STARTED`. -/
def foldNodeProviderDispatchStarted : Except LifecycleError FoldState := do
  exact e.payload ["principal_id", "run_id", "node_id", "lease_digest", "provider_request_id",
    "context_digest", "context_artifact_digest", "status"]
  run runId e.payload
  let lease ← activeLease deps e.payload s.active true true
  let requestId ← identifier (e.payload.get "provider_request_id")
  let contextDigest ← digest H (e.payload.get "context_digest")
  let artifactDigest ← digest H (e.payload.get "context_artifact_digest")
  check (¬s.cancellationRequested)
  check (e.recordedAt ≤ lease.expiresAt ∧ lease.providerDispatchEventId = none)
  check (requestId = providerRequestId lease.leaseDigest)
  check (artifactDigest = contextDigest)
  check (e.payload.get "status" = .str "provider-dispatch-started")
  return { s with
    active := some { lease with
      prepared := true
      providerRequestId := some requestId
      providerContextDigest := some contextDigest
      providerDispatchEventId := some e.eventId } }

/-- `RUN_CANCEL_REQUESTED`. -/
def foldRunCancelRequested : Except LifecycleError FoldState := do
  exact e.payload ["principal_id", "request", "request_digest", "status"]
  let request ← mapping (e.payload.get "request")
  check (¬s.cancellationRequested)
  check (request.get "schema_version" = .str "execution-cancel-run-request/v1")
  check (e.payload.get "request_digest" = .str (H.jsonDigest (.object request)))
  check (e.payload.get "status" = .str "cancel-requested")
  let _ ← identifier (request.get "idempotency_key")
  return { s with cancellationRequested := true, status := .canceling }

/-- `NODE_SUCCEEDED`. -/
def foldNodeSucceeded : Except LifecycleError FoldState := do
  exact e.payload ["principal_id", "run_id", "node_id", "lease_digest", "result_digest",
    "head_commit", "inspection_digest", "inspection", "retained_worktree", "status"]
  run runId e.payload
  let lease ← activeLease deps e.payload s.active true true
  check (¬s.cancellationRequested ∧ e.recordedAt ≤ lease.expiresAt)
  let inspection ← inspectionOf H e.payload lease false
  let headCommit ← commit H (e.payload.get "head_commit")
  check (inspection.get "head_commit" = .str headCommit)
  check (inspection.get "uncommitted_paths" = .list [])
  check (inspection.get "out_of_scope_paths" = .list [])
  check (inspection.get "changed_path_limit_exceeded" = .bool false)
  check (e.payload.get "retained_worktree" = .bool true)
  let resultDigest ← digest H (e.payload.get "result_digest")
  check (e.payload.get "status" = .str "succeeded")
  return { s.setNode lease.nodeId
      { s.nodes lease.nodeId with
        status := .succeeded
        resultDigest := some resultDigest
        headCommit := some headCommit
        retainedWorktree := true
        cleanupStatus := some .eligible
        cleanupFailureCode := none } with
    active := none
    status := .queued }

/-- `NODE_FAILED`. -/
def foldNodeFailed : Except LifecycleError FoldState := do
  exact e.payload ["principal_id", "run_id", "node_id", "lease_digest", "failure_code",
    "result_digest", "inspection_digest", "inspection", "retained_worktree", "status"]
  run runId e.payload
  let lease ← activeLease deps e.payload s.active false true
  check (e.recordedAt ≤ lease.expiresAt)
  let code ← failureCode (e.payload.get "failure_code")
  let resultDigest ← optionalDigest H (e.payload.get "result_digest")
  let retained ← retainedEvidence H e.payload lease
  check (e.payload.get "status" = .str "failed")
  return { s.setNode lease.nodeId
      { s.nodes lease.nodeId with
        status := .failed
        failureCode := some code
        resultDigest := resultDigest
        retainedWorktree := retained || (s.nodes lease.nodeId).retainedWorktree } with
    active := none
    status := .failed }

/-- The worktree evidence of a requeued node: it is missing, or unchanged. -/
def requeueEvidence (payload : Mapping) (lease : ActiveLease) : Except LifecycleError PUnit :=
  if payload.get "disposition" = .str "missing" then
    check (payload.get "inspection" = .null ∧ payload.get "inspection_digest" = .null)
  else if payload.get "disposition" = .str "unchanged" then do
    let _ ← inspectionOf H payload lease true
  else throw .invalidRunLifecycle

/-- `NODE_REQUEUED`. -/
def foldNodeRequeued : Except LifecycleError FoldState := do
  exact e.payload ["principal_id", "run_id", "node_id", "lease_digest", "disposition",
    "inspection_digest", "inspection", "status"]
  run runId e.payload
  let lease ← activeLease deps e.payload s.active false false
  check (lease.providerDispatchEventId = none)
  requeueEvidence H e.payload lease
  check (¬s.cancellationRequested)
  check (e.payload.get "status" = .str "requeued")
  return { s.setStatus lease .pending with active := none, status := .queued }

/-- `NODE_CANCELED`. -/
def foldNodeCanceled : Except LifecycleError FoldState := do
  exact e.payload ["principal_id", "run_id", "node_id", "lease_digest", "result_digest",
    "inspection_digest", "inspection", "retained_worktree", "status"]
  run runId e.payload
  let lease ← activeLease deps e.payload s.active false false
  let retained ← retainedEvidence H e.payload lease
  check (s.cancellationRequested)
  check (e.payload.get "status" = .str "canceled")
  let resultDigest ← optionalDigest H (e.payload.get "result_digest")
  return { s.setNode lease.nodeId
      { s.nodes lease.nodeId with
        status := .canceled
        resultDigest := resultDigest
        retainedWorktree := retained } with
    active := none
    status := .canceling }

/-- The worktree evidence of a node that needs reconciliation: an inspection of the retained
worktree, or the failure that prevented it. The result is the failure code and the flag. -/
def reconciliationEvidence (payload : Mapping) (lease : ActiveLease) :
    Except LifecycleError (Option String × Bool) := do
  let failure := payload.get "failure_code"
  if payload.get "inspection" = .null then
    check (payload.get "inspection_digest" = .null)
    check (payload.get "retained_worktree" = .bool false)
    let code ← failureCode failure
    return (some code, false)
  else
    let _ ← inspectionOf H payload lease false
    check (payload.get "retained_worktree" = .bool true)
    if failure = .null then
      return (none, true)
    else
      let code ← failureCode failure
      return (some code, true)

/-- `NODE_RECONCILIATION_REQUIRED`. -/
def foldNodeReconciliationRequired : Except LifecycleError FoldState := do
  exact e.payload ["principal_id", "run_id", "node_id", "lease_digest", "failure_code",
    "inspection_digest", "inspection", "retained_worktree", "status"]
  run runId e.payload
  let lease ← activeLease deps e.payload s.active false false
  let (code, retained) ← reconciliationEvidence H e.payload lease
  check (e.payload.get "status" = .str "reconciliation-required")
  return { s.setNode lease.nodeId
      { s.nodes lease.nodeId with
        status := .reconciliationRequired
        failureCode := code
        retainedWorktree := retained } with
    active := none
    status := .reconciliationRequired }

/-- `NODE_WORKTREE_CLEANUP_REQUESTED`. -/
def foldNodeWorktreeCleanupRequested : Except LifecycleError FoldState := do
  exact e.payload ["principal_id", "run_id", "node_id", "lease_digest", "worktree_spec_digest",
    "head_commit", "retained_worktree", "status"]
  run runId e.payload
  let nodeId ← cleanupNode deps e.payload s .eligible
  check (e.payload.get "retained_worktree" = .bool true)
  check (e.payload.get "status" = .str "worktree-cleanup-requested")
  return s.setNode nodeId { s.nodes nodeId with cleanupStatus := some .requested }

/-- The removal document agrees with the node whose worktree it removes. -/
def checkRemoval (payload : Mapping) (state : NodeLifecycleState) :
    Except LifecycleError PUnit := do
  let removal ← mapping (payload.get "removal")
  exact removal ["schema_version", "spec_digest", "lease_digest", "worktree_path", "branch_name",
    "retained_head_commit", "disposition"]
  let specDigest ← digest H (.ofText? state.worktreeSpecDigest)
  let leaseDigest ← digest H (.ofText? state.leaseDigest)
  let headCommit ← commit H (.ofText? state.headCommit)
  let spec ← present state.worktreeSpec
  let suffix := withoutDigestPrefix specDigest
  let worktreePath := (spec.get "isolation_root").text?.map fun root ↦
    pathJoin root ("worktree-" ++ suffix)
  check (payload.get "removal_digest" = .str (H.jsonDigest (.object removal)))
  check (removal.get "schema_version" = .str "blackcell.worktree-removal/v1")
  check (removal.get "spec_digest" = .str specDigest)
  check (removal.get "lease_digest" = .str leaseDigest)
  check (removal.get "worktree_path" = .ofText? worktreePath)
  check (removal.get "branch_name" = .str ("blackcell/execution-worktree/" ++ suffix))
  check (removal.get "retained_head_commit" = .str headCommit)
  check (removal.get "disposition" = .str "removed")

/-- `NODE_WORKTREE_CLEANED`. -/
def foldNodeWorktreeCleaned : Except LifecycleError FoldState := do
  exact e.payload ["principal_id", "run_id", "node_id", "lease_digest", "worktree_spec_digest",
    "head_commit", "removal_digest", "removal", "retained_worktree", "status"]
  run runId e.payload
  let nodeId ← cleanupNode deps e.payload s .requested
  checkRemoval H e.payload (s.nodes nodeId)
  check (e.payload.get "retained_worktree" = .bool false)
  check (e.payload.get "status" = .str "worktree-cleaned")
  return s.setNode nodeId
    { s.nodes nodeId with
      retainedWorktree := false
      cleanupStatus := some .cleaned
      cleanupFailureCode := none }

/-- `NODE_WORKTREE_CLEANUP_FAILED`. -/
def foldNodeWorktreeCleanupFailed : Except LifecycleError FoldState := do
  exact e.payload ["principal_id", "run_id", "node_id", "lease_digest", "worktree_spec_digest",
    "head_commit", "failure_code", "retained_worktree", "status"]
  run runId e.payload
  let nodeId ← cleanupNode deps e.payload s .requested
  let code ← failureCode (e.payload.get "failure_code")
  let retained ← present (e.payload.get "retained_worktree").bool?
  check (e.payload.get "status" = .str "worktree-cleanup-failed")
  return s.setNode nodeId
    { s.nodes nodeId with
      retainedWorktree := retained
      cleanupStatus := some .failed
      cleanupFailureCode := some code }

/-- The conditions shared by the four events that close a run: the payload, no active lease, and
the declared retention flag, which is `retained`. -/
def checkRunClosed (declared : String) (retained : Bool) : Except LifecycleError PUnit := do
  exact e.payload ["principal_id", "run_id", "status", "retained_worktree"]
  run runId e.payload
  check (e.payload.get "status" = .str declared)
  check (e.payload.get "retained_worktree" = .bool retained)
  check (s.active = none)

/-- `RUN_SUCCEEDED`. -/
def foldRunSucceeded : Except LifecycleError FoldState := do
  checkRunClosed runId s e "succeeded" (deps.known.any fun k ↦ (s.nodes k).retainedWorktree)
  check (¬s.cancellationRequested)
  check (∀ k ∈ deps.known, (s.nodes k).status = .succeeded)
  return { s with status := .succeeded, terminal := true }

/-- `RUN_FAILED`. -/
def foldRunFailed : Except LifecycleError FoldState := do
  checkRunClosed runId s e "failed" (deps.known.any fun k ↦
    (s.nodes k).status = .failed && (s.nodes k).retainedWorktree)
  check (∃ k ∈ deps.known, (s.nodes k).status = .failed)
  return { s with status := .failed, terminal := true }

/-- `RUN_CANCELED`. -/
def foldRunCanceled : Except LifecycleError FoldState := do
  checkRunClosed runId s e "canceled" (deps.known.any fun k ↦ (s.nodes k).retainedWorktree)
  check (s.cancellationRequested)
  return { s with status := .canceled, terminal := true }

/-- `RUN_RECONCILIATION_REQUIRED`: it closes the run without making it terminal. -/
def foldRunReconciliationRequired : Except LifecycleError FoldState := do
  checkRunClosed runId s e "reconciliation-required" (deps.known.any fun k ↦
    (s.nodes k).status = .reconciliationRequired && (s.nodes k).retainedWorktree)
  check (∃ k ∈ deps.known, (s.nodes k).status = .reconciliationRequired)
  return { s with status := .reconciliationRequired, reconciliationRecorded := true }

/-- One branch for each kind of event. A second `run.queued` is no part of a history. -/
def foldBranch : RunEventType → Except LifecycleError FoldState
  | .runQueued => throw .invalidRunLifecycle
  | .nodeClaimed => foldNodeClaimed H runId deps s e
  | .nodeWorktreePrepared => foldNodeWorktreePrepared H runId deps s e
  | .nodeProviderDispatchStarted => foldNodeProviderDispatchStarted H runId deps s e
  | .runCancelRequested => foldRunCancelRequested H s e
  | .nodeSucceeded => foldNodeSucceeded H runId deps s e
  | .nodeFailed => foldNodeFailed H runId deps s e
  | .nodeRequeued => foldNodeRequeued H runId deps s e
  | .nodeCanceled => foldNodeCanceled H runId deps s e
  | .nodeReconciliationRequired => foldNodeReconciliationRequired H runId deps s e
  | .nodeWorktreeCleanupRequested => foldNodeWorktreeCleanupRequested runId deps s e
  | .nodeWorktreeCleaned => foldNodeWorktreeCleaned H runId deps s e
  | .nodeWorktreeCleanupFailed => foldNodeWorktreeCleanupFailed runId deps s e
  | .runSucceeded => foldRunSucceeded runId deps s e
  | .runFailed => foldRunFailed runId deps s e
  | .runCanceled => foldRunCanceled runId deps s e
  | .runReconciliationRequired => foldRunReconciliationRequired runId deps s e

/-- The body of the loop over the public events. -/
def foldEvent : Except LifecycleError FoldState := do
  let kind ← present (runEventType? e)
  check (s.terminal → kind.isCleanup)
  principal e.payload e
  foldBranch H runId deps s e kind

/-! ### The complete fold -/

/-- The declared dependencies form a graph on the declared nodes without self-loops. -/
def checkDependencies : Except LifecycleError PUnit :=
  check (∀ entry ∈ deps.entries, entry.1 ≠ "" ∧ entry.1 ∉ entry.2 ∧
    ∀ dependency ∈ entry.2, dependency ∈ deps.known)

/-- The events are numbered from `sequence` on the stream of the run. -/
def checkStream : Int → List EventEnvelope → Except LifecycleError PUnit
  | _, [] => return ⟨⟩
  | sequence, e :: es => do
    check (e.streamId = "run:" ++ runId ∧ e.streamSequence = sequence ∧ e.schemaVersion = 1 ∧
      isKnown e)
    checkStream (sequence + 1) es

/-- Each event is caused by its predecessor. -/
def checkCausation : List EventEnvelope → Except LifecycleError PUnit
  | previous :: e :: es => do
    check (e.causationId = some previous.eventId)
    checkCausation (e :: es)
  | _ => return ⟨⟩

/-- `_validate_queued`. -/
def validateQueued : Except LifecycleError PUnit := do
  exact e.payload ["request", "request_digest", "principal_id", "references", "status"]
  principal e.payload e
  let request ← mapping (e.payload.get "request")
  check (request.get "run_id" = .str runId)
  check (e.payload.get "request_digest" = .str (H.jsonDigest (.object request)))
  check (e.payload.get "status" = .str "queued")

/-- The conditions at the end of the stream: a run without an active lease has been closed as soon
as nothing remains to be claimed. -/
def acceptsEnd : Prop :=
  s.active = none → ¬s.terminal →
    ¬s.cancellationRequested ∧ (∃ k ∈ deps.known, (s.nodes k).status ≠ .succeeded) ∧
    (∀ k ∈ deps.known, (s.nodes k).status ≠ .failed) ∧
    ((∃ k ∈ deps.known, (s.nodes k).status = .reconciliationRequired) →
      s.reconciliationRecorded)

instance : Decidable (acceptsEnd deps s) := inferInstanceAs (Decidable (_ → _))

/-- The folded state of the run. -/
def FoldState.toState (queued latest : EventEnvelope) (lastStreamSequence : Int) :
    RunLifecycleState :=
  ⟨runId, s.status, deps.known.map s.nodes, s.cancellationRequested, s.active, queued, latest,
    lastStreamSequence⟩

/-- `fold_run_lifecycle`. -/
def foldRunLifecycle (events : List EventEnvelope) : Except LifecycleError RunLifecycleState := do
  check (runId ≠ "" ∧ deps.entries ≠ [])
  let last ← present events.getLast?
  checkDependencies deps
  checkStream runId 1 events
  match events.filter isPublic with
  | [] => throw .invalidRunLifecycle
  | queued :: rest =>
    check (runEventType? queued = some .runQueued)
    validateQueued H runId queued
    check (∀ e ∈ queued :: rest, e.correlationId = queued.correlationId)
    checkCausation events
    let s ← History.run (foldEvent H runId deps) .initial rest
    check (acceptsEnd deps s)
    return s.toState runId deps queued ((queued :: rest).getLast (by simp)) last.streamSequence

end

end Blackcell.Orchestration.RunLifecycle
