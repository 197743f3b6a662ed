import Blackcell.Adapters.GitWorktree
import Blackcell.Bootstrap.ReviewCandidates

/-!
# The transitions that close a lease

The calls of `bootstrap/runtime_service.py` that close the active lease of a run: the failure of a
node, the acknowledgement of a cancellation, and the reconciliation of a run after a restart. Each
asks the worktree lifecycle for the checkout of the lease, chooses a batch of transitions, and
validates the longer stream before it appends the batch. A call is given here up to the append; the
responses, and the checks that the constructor of an event makes, are left out.

## Main definitions

* `RunTransition`, `transitionEvents` : a transition, and the events of a batch.
* `failedNode`, `canceledNode`, `missingCanceledNode`, `requeuedNode`, `reconciliationRequired` :
  the batches.
* `submitTransitions` : the validation of a batch.
* `recordNodeFailure`, `acknowledgeCancellation`, `reconcileRun` : the calls.
-/

namespace Blackcell.Bootstrap

open Blackcell.Kernel Blackcell.Adapters.Worktree
open Blackcell.Orchestration Blackcell.Orchestration.RunLifecycle

/-- The text of a failure of the worktree lifecycle. -/
def lifecycleFailureText : LifecycleFailureCode → String
  | .contract .invalidSpec => "invalid-worktree-spec"
  | .contract .invalidRepository => "invalid-worktree-repository"
  | .contract .invalidIsolationRoot => "invalid-worktree-isolation-root"
  | .contract .invalidGitOutput => "invalid-worktree-git-output"
  | .unsafeRepositoryConfiguration => "unsafe-worktree-repository-configuration"
  | .baseCommitNotFound => "worktree-base-commit-not-found"
  | .gitSpawnFailed => "worktree-git-spawn-failed"
  | .gitTimedOut => "worktree-git-timed-out"
  | .gitOutputTooLarge => "worktree-git-output-too-large"
  | .gitOutputIncomplete => "worktree-git-output-incomplete"
  | .gitCommandFailed => "worktree-git-command-failed"
  | .worktreeConflict => "worktree-conflict"
  | .worktreeNotFound => "worktree-not-found"
  | .worktreeDirty => "worktree-dirty"
  | .pathPolicyViolation => "worktree-path-policy-violation"
  | .commitFailed => "worktree-commit-failed"
  | .cleanupFailed => "worktree-cleanup-failed"

/-- `_PROVIDER_DISPATCH_AMBIGUOUS`. -/
def providerDispatchAmbiguous : String := "provider-dispatch-ambiguous"

/-- `_failure_code`: what the service accepts as the code of a failure. -/
def isFailureCode (s : String) : Bool :=
  s ≠ "" && s.length ≤ 256 && (chars s).all fun c ↦ c.isAlphanum || ['-', '.', '_'].contains c

/-- `_content_digest`: what the service accepts as the digest of a result. -/
def isContentDigest (H : Host) (s : String) : Bool :=
  s.length = 71 && hasDigestPrefix s && H.parsesBase16 (withoutDigestPrefix s)

/-- `_inspection_is_unchanged`. -/
def inspectionIsUnchanged (i : WorktreeInspection) : Prop :=
  i.headCommit = i.baseCommit ∧ i.changedPaths = [] ∧ i.uncommittedPaths = [] ∧
    i.outOfScopePaths = [] ∧ i.changedPathLimitExceeded = false

instance (i : WorktreeInspection) : Decidable (inspectionIsUnchanged i) :=
  inferInstanceAs (Decidable (_ ∧ _))

/-! ### Batches -/

/-- `_RunTransition`. -/
structure RunTransition where
  kind : RunEventType
  payload : Mapping
  idempotencyKey : String

/-- What a call takes from the clock, and from `new_event_id` for each of its events. -/
structure Occurrence where
  now : Timestamp
  eventIds : ℕ → String

section Batches

variable (H : Host) (spec : WorktreeExecutionSpec)

/-- The payload of an event about the lease of a specification. -/
def leaseEventPayload (fields : Mapping) (status : String) : Mapping :=
  [("run_id", .str spec.lease.runId), ("node_id", .str spec.lease.nodeId),
    ("lease_digest", .str (spec.lease.digest H))] ++ fields ++ [("status", .str status)]

/-- The worktree evidence of an event. -/
def evidenceFields : Option WorktreeInspection → Mapping
  | none => [("inspection_digest", .null), ("inspection", .null)]
  | some i => [("inspection_digest", .str (H.jsonDigest (.object i.payload))),
      ("inspection", .object i.payload)]

/-- The transition that closes the run of a lease. -/
def closingTransition (kind : RunEventType) (name status : String) (retained : Bool) :
    RunTransition where
  kind := kind
  payload := [("run_id", .str spec.lease.runId), ("status", .str status),
    ("retained_worktree", .bool retained)]
  idempotencyKey := name ++ spec.lease.digest H

/-- The transition of `_record_node_failure` on the node. -/
def failedTransition (failureCode : String) (resultDigest : Option String)
    (inspection : Option WorktreeInspection) : RunTransition where
  kind := .nodeFailed
  payload := leaseEventPayload H spec ([("failure_code", .str failureCode),
    ("result_digest", .ofText? resultDigest)] ++ evidenceFields H inspection ++
    [("retained_worktree", .bool inspection.isSome)]) "failed"
  idempotencyKey := "node-failed:" ++ spec.lease.digest H

/-- The batch of `_record_node_failure`. -/
def failedNode (failureCode : String) (resultDigest : Option String)
    (inspection : Option WorktreeInspection) : List RunTransition := [
  failedTransition H spec failureCode resultDigest inspection,
  closingTransition H spec .runFailed "run-failed:" "failed" inspection.isSome]

/-- The transition of a node that was canceled. -/
def canceledTransition (resultDigest : Option String) (inspection : Option WorktreeInspection) :
    RunTransition where
  kind := .nodeCanceled
  payload := leaseEventPayload H spec ([("result_digest", .ofText? resultDigest)] ++
    evidenceFields H inspection ++ [("retained_worktree", .bool inspection.isSome)]) "canceled"
  idempotencyKey := "node-canceled:" ++ spec.lease.digest H

/-- The batch of a node that was canceled. -/
def canceledBatch (resultDigest : Option String) (inspection : Option WorktreeInspection) :
    List RunTransition := [
  canceledTransition H spec resultDigest inspection,
  closingTransition H spec .runCanceled "run-canceled:" "canceled" inspection.isSome]

/-- `_record_canceled_node`. -/
def canceledNode (inspection : WorktreeInspection) (resultDigest : Option String) :
    List RunTransition :=
  canceledBatch H spec resultDigest (some inspection)

/-- `_record_missing_canceled_node`. -/
def missingCanceledNode : List RunTransition := canceledBatch H spec none none

/-- The transition of `_record_requeued_node`. -/
def requeuedTransition (inspection : Option WorktreeInspection) : RunTransition where
  kind := .nodeRequeued
  payload := leaseEventPayload H spec
    ([("disposition", .str (if inspection.isSome then "unchanged" else "missing"))] ++
      evidenceFields H inspection) "requeued"
  idempotencyKey := "node-requeued:" ++ spec.lease.digest H

/-- `_record_requeued_node`. -/
def requeuedNode (inspection : Option WorktreeInspection) : List RunTransition :=
  [requeuedTransition H spec inspection]

/-- The transition of `_record_reconciliation_required` on the node. -/
def reconciliationTransition (inspection : Option WorktreeInspection)
    (failureCode : Option String) : RunTransition where
  kind := .nodeReconciliationRequired
  payload := leaseEventPayload H spec ([("failure_code", .ofText? failureCode)] ++
    evidenceFields H inspection ++ [("retained_worktree", .bool inspection.isSome)])
    "reconciliation-required"
  idempotencyKey := "node-reconciliation-required:" ++ spec.lease.digest H

/-- `_record_reconciliation_required`. -/
def reconciliationRequired (inspection : Option WorktreeInspection) (failureCode : Option String) :
    List RunTransition := [
  reconciliationTransition H spec inspection failureCode,
  closingTransition H spec .runReconciliationRequired "run-reconciliation-required:"
    "reconciliation-required" inspection.isSome]

end Batches

/-! ### The validation of a batch -/

section Submission

variable (H : Host) (D : Deployment) (stored : StoredRun) (principalId : String) (o : Occurrence)
  (at' : Timestamp)

/-- The event of a transition. -/
def transitionEvent (t : RunTransition) (eventId causationId : String) (sequence : ℤ) :
    EventEnvelope where
  eventId := eventId
  streamId := runStream stored.request.runId
  streamSequence := sequence
  eventType := StrEnum.value t.kind
  schemaVersion := 1
  recordedAt := at'
  effectiveAt := at'
  correlationId := stored.run.state.queuedEvent.correlationId
  causationId := some causationId
  actor := principalId
  source := runtimeEventSource
  payload := ("principal_id", .str principalId) :: t.payload
  idempotencyKey := some t.idempotencyKey
  globalPosition := none

/-- The loop of `_append_run_transitions`: each event is caused by the one before it. -/
def transitionEvents : List RunTransition → ℕ → String → ℤ → List EventEnvelope
  | [], _, _, _ => []
  | t :: ts, i, causationId, sequence =>
    transitionEvent stored principalId at' t (o.eventIds i) causationId (sequence + 1) ::
      transitionEvents ts (i + 1) (o.eventIds i) (sequence + 1)

/-- The events of a batch, after those of the stream. -/
def batchEvents (transitions : List RunTransition) : List EventEnvelope :=
  transitionEvents stored principalId o at' transitions 0
    ((stored.run.events.getLast?.map (·.eventId)).getD "") stored.run.state.lastStreamSequence

/-- `_aware_timestamp(recorded_at or utc_now())`. -/
def recordedAtOr (recordedAt : Option Datetime) : Except RuntimeApiFailureCode Timestamp :=
  match recordedAt with
  | none => .ok o.now
  | some t => do
    Checked.require t.aware RuntimeApiFailureCode.invalidRequest
    pure t.instant

/-- `_append_run_transitions`, up to the append: the events of a batch that keeps the stream valid.
-/
def submitTransitions (transitions : List RunTransition) (recordedAt : Option Datetime) :
    Except RuntimeApiFailureCode (List EventEnvelope) := do
  Checked.require (transitions ≠ []) RuntimeApiFailureCode.invalidRequest
  let t ← recordedAtOr o recordedAt
  let events := batchEvents stored principalId o t transitions
  let _ ← (foldRunLifecycle H stored.request.runId (nodeDependencies stored.plan)
    (stored.run.events ++ events)).mapError fun _ ↦ RuntimeApiFailureCode.conflict
  let _ ← (validateWorktreeEvidence H D.fs D.repositoryRoot D.isolationRoot stored.plan
    (stored.run.events ++ events)).mapError fun _ ↦ RuntimeApiFailureCode.conflict
  return events

end Submission

/-! ### The calls -/

/-- What `worktrees.retain` returns, or raises. -/
abbrev Retention := Except LifecycleFailureCode WorktreeInspection

/-- `worktrees.retain`, which is `inspect`, after some commands. The failures of the lifecycle are
all that it raises, so the last case does not arise. -/
def retainAt (env : GitEnvironment) (n : ℕ) (spec : WorktreeExecutionSpec) : Retention :=
  match inspect env spec n with
  | .ok (inspection, _) => .ok inspection
  | .error (.lifecycle code) => .error code
  | .error _ => .error .gitCommandFailed

section Calls

variable (H : Host) (D : Deployment) (stored : StoredRun) (spec : WorktreeExecutionSpec)
  (principalId : String) (o : Occurrence)

/-- `_require_active_spec`. -/
def requireActiveSpec (requirePrepared : Bool) : Except RuntimeApiFailureCode ActiveLease := do
  let active ← Checked.ofOption stored.run.state.activeLease RuntimeApiFailureCode.conflict
  Checked.require (active.nodeId = spec.lease.nodeId ∧ active.leaseDigest = spec.lease.digest H ∧
    active.worktreeSpecDigest = spec.digest H ∧ (requirePrepared → active.prepared))
    RuntimeApiFailureCode.conflict
  return active

/-- `_require_active_worker`. -/
def requireActiveWorker : Except RuntimeApiFailureCode PUnit := do
  let active ← Checked.ofOption stored.run.state.activeLease RuntimeApiFailureCode.conflict
  Checked.require (active.workerId = principalId) RuntimeApiFailureCode.conflict

/-- `_record_reconciliation_required`, up to the append. -/
def recordReconciliationRequired (inspection : Option WorktreeInspection)
    (failureCode : Option String) : Except RuntimeApiFailureCode (List EventEnvelope) := do
  let _ ← requireActiveSpec H stored spec false
  Checked.require (∀ code ∈ failureCode, isFailureCode code) RuntimeApiFailureCode.invalidRequest
  submitTransitions H D stored principalId o (reconciliationRequired H spec inspection failureCode)
    none

/-- `_record_canceled_node` and `_record_missing_canceled_node`, `_record_requeued_node`, up to the
append. -/
def recordBatchOf (transitions : List RunTransition) :
    Except RuntimeApiFailureCode (List EventEnvelope) := do
  let _ ← requireActiveSpec H stored spec false
  submitTransitions H D stored principalId o transitions none

/-- The inspection that `_record_node_failure` obtains: none of a checkout that was never created,
which the second argument says. -/
def failureInspection (retention : Retention) (absent : Bool) :
    Except LifecycleFailureCode (Option WorktreeInspection) :=
  if absent then .ok none else some <$> retention

/-- What `_record_node_failure` appends, given what became of the checkout. -/
def failureEvents (failureCode : String) (resultDigest : Option String)
    (failedAt : Option Datetime) : Except LifecycleFailureCode (Option WorktreeInspection) →
      Except RuntimeApiFailureCode (List EventEnvelope)
  | .error code =>
    recordReconciliationRequired H D stored spec principalId o none
      (some (lifecycleFailureText code))
  | .ok inspection =>
    submitTransitions H D stored principalId o
      (failedNode H spec failureCode resultDigest inspection) failedAt

/-- `_record_node_failure`, up to the append; `absent` says that an unprepared node may fail, and
that its checkout does not exist. -/
def recordNodeFailure (failureCode : String) (resultDigest : Option String)
    (failedAt : Option Datetime) (allowUnprepared absent : Bool) (retention : Retention) :
    Except RuntimeApiFailureCode (List EventEnvelope) := do
  Checked.require (isPrincipal principalId) RuntimeApiFailureCode.invalidRequest
  Checked.require (isFailureCode failureCode) RuntimeApiFailureCode.invalidRequest
  Checked.require (∀ digest ∈ resultDigest, isContentDigest H digest)
    RuntimeApiFailureCode.invalidRequest
  let _ ← requireActiveSpec H stored spec (!allowUnprepared)
  requireActiveWorker stored principalId
  failureEvents H D stored spec principalId o failureCode resultDigest failedAt
    (failureInspection retention (allowUnprepared && absent))

/-- What `acknowledge_cancellation` appends, given what became of the checkout. -/
def acknowledged (resultDigest : Option String) (retention : Retention) :
    Except RuntimeApiFailureCode (List EventEnvelope) :=
  match retention with
  | .error code =>
    recordReconciliationRequired H D stored spec principalId o none
      (some (lifecycleFailureText code))
  | .ok inspection =>
    recordBatchOf H D stored spec principalId o (canceledNode H spec inspection resultDigest)

/-- What `acknowledge_cancellation` appends. After a failure of the lifecycle the call raises a
conflict, also if it has appended something. -/
def acknowledgeCancellation (resultDigest : Option String) (retention : Retention) :
    Except RuntimeApiFailureCode (List EventEnvelope) := do
  Checked.require (isPrincipal principalId) RuntimeApiFailureCode.invalidRequest
  Checked.require (∀ digest ∈ resultDigest, isContentDigest H digest)
    RuntimeApiFailureCode.invalidRequest
  let _ ← requireActiveSpec H stored spec false
  requireActiveWorker stored principalId
  Checked.require stored.run.state.cancellationRequested RuntimeApiFailureCode.conflict
  acknowledged H D stored spec principalId o resultDigest retention

/-- The branches of `reconcile_startup` on what became of the checkout of a lease. -/
def reconcileLease (active : ActiveLease) (retention : Retention) :
    Except RuntimeApiFailureCode (List EventEnvelope) :=
  match retention with
  | .error .worktreeNotFound =>
    if stored.run.state.cancellationRequested then
      recordBatchOf H D stored spec principalId o (missingCanceledNode H spec)
    else if active.providerDispatchEventId.isSome then
      recordReconciliationRequired H D stored spec principalId o none
        (some providerDispatchAmbiguous)
    else recordBatchOf H D stored spec principalId o (requeuedNode H spec none)
  | .error code =>
    recordReconciliationRequired H D stored spec principalId o none
      (some (lifecycleFailureText code))
  | .ok inspection =>
    if stored.run.state.cancellationRequested then
      recordBatchOf H D stored spec principalId o (canceledNode H spec inspection none)
    else if active.providerDispatchEventId.isSome then
      recordReconciliationRequired H D stored spec principalId o (some inspection)
        (some providerDispatchAmbiguous)
    else if inspectionIsUnchanged inspection then
      recordBatchOf H D stored spec principalId o (requeuedNode H spec (some inspection))
    else recordReconciliationRequired H D stored spec principalId o (some inspection) none

/-- The body of the loop of `reconcile_startup`: what is appended to the stream of one run. -/
def reconcileRun (retain : WorktreeExecutionSpec → Retention) :
    Except RuntimeApiFailureCode (List EventEnvelope) :=
  match stored.run.state.activeLease with
  | none => .ok []
  | some active => do
    let spec ← (specFromMapping H D.fs active.worktreeSpec).mapError
      fun _ ↦ RuntimeApiFailureCode.conflict
    Checked.require (spec.repositoryRoot = D.repositoryRoot ∧ spec.isolationRoot = D.isolationRoot ∧
      spec.digest H = active.worktreeSpecDigest ∧ spec.lease.digest H = active.leaseDigest)
      RuntimeApiFailureCode.conflict
    reconcileLease H D stored spec principalId o active (retain spec)

end Calls

end Blackcell.Bootstrap
