import Blackcell.Foundation.History
import Blackcell.Orchestration.ExecutionRuntime.State
import Blackcell.Orchestration.RunLifecycle.State

/-!
# The projection of a generated run

`ExecutionRunProjection` of `orchestration/execution_runtime.py`: the fold of a run stream into the
state of the generated run. Each kind of event is one definition that validates the payload against
the state and returns the state after it.

## Main definitions

* `payloadFields` : `_EVENT_PAYLOAD_FIELDS`.
* `applyPublic`, `goalAdmitted`, `replanStarted`, ..., `runTerminated` : the kinds of events.
* `apply`, `project` : one event, and the events of a stream.
* `validateStream`, `streamIdOf` : `_validate_stream` and `_stream_id`.
-/

namespace Blackcell.Orchestration.ExecutionRuntime

open Blackcell.Kernel Blackcell.Gateway Blackcell.Orchestration.ExecutionPlan

/-! ### Streams -/

/-- A run identifier that `_stream_id` accepts. -/
def isRunId (runId : String) : Bool :=
  runId ≠ "" && runId.length ≤ 128 &&
    runId.toList.all fun c ↦ c.isAlphanum || ['-', '.', '_', ':'].contains c

/-- `_stream_id`. -/
def streamIdOf (runId : String) : Runtime String := do
  check (isRunId runId) .invalidExecutionRunId
  pure ("run:" ++ runId)

/-- The kind of an event of the generated execution. -/
def executionEventType? (e : EventEnvelope) : Option ExecutionEventType :=
  if e.source = executionEventSource then StrEnum.ofValue? e.eventType else none

/-- `_validate_stream`, from the event that precedes the given ones. -/
def validateStream (streamId : String) :
    Option EventEnvelope → Int → List EventEnvelope → Runtime Unit
  | _, _, [] => .ok ()
  | previous, position, e :: es => do
    check (e.streamId = streamId ∧ e.streamSequence = position ∧ e.schemaVersion = 1 ∧
      ((RunLifecycle.runEventType? e).isSome ∨ (executionEventType? e).isSome))
      .invalidExecutionEvent
    check (∀ p ∈ previous, e.causationId = some p.eventId) .invalidExecutionEvent
    validateStream streamId (some e) (position + 1) es

/-- `_EVENT_PAYLOAD_FIELDS`. -/
def payloadFields : ExecutionEventType → List String
  | .goalAdmitted =>
    ["run_id", "goal_id", "goal_digest", "goal", "classification", "locality", "budget"]
  | .replanStarted => ["run_id", "previous_plan_id", "previous_plan_version", "next_plan_version"]
  | .planDraftReceived =>
    ["run_id", "draft_digest", "provider_output_digest", "profile_id", "adapter_id", "model_id",
      "input_tokens", "output_tokens", "latency_ms", "cost_microusd"]
  | .planAdmitted =>
    ["run_id", "plan_id", "plan_digest", "plan_version", "supersedes_plan_id", "plan"]
  | .policyDecided =>
    ["run_id", "task_id", "attempt", "allowed", "reason", "action_digest", "decision_id"]
  | .taskReady => ["run_id", "task_id", "attempt"]
  | .taskStarted =>
    ["run_id", "task_id", "attempt", "workspace_id", "base_commit", "action_digest",
      "decision_id"]
  | .taskVerifying => ["run_id", "task_id", "attempt", "workspace_id"]
  | .taskVerified =>
    ["run_id", "task_id", "attempt", "workspace_id", "route", "verifier_exit_code",
      "required_checks_passed", "workspace_clean", "error_signature", "same_error_count",
      "artifact_digests", "progress_digests", "new_evidence", "failure_class", "failure_summary",
      "head_commit", "input_tokens", "output_tokens", "latency_ms", "cost_microusd"]
  | .taskBlocked => ["run_id", "task_id", "reason"]
  | .runTerminated => ["run_id", "status", "reason"]

/-! ### Public events of the run -/

/-- The status of the run after a public event, and the one of its unfinished tasks if the event
ends them. -/
def publicStatus (t : RunLifecycle.RunEventType) (status : RunLifecycleStatus) :
    RunLifecycleStatus × Option TaskLifecycleStatus :=
  match t with
  | .runCancelRequested | .runCanceled => (.canceled, some .canceled)
  | .runSucceeded => (.succeeded, none)
  | .runFailed => (.terminalFailure, some .terminalFailure)
  | .runReconciliationRequired => (.escalated, some .escalated)
  | _ => (status, none)

/-- The task after a public event that ends unfinished tasks. -/
def ExecutionTaskState.endWith (status : TaskLifecycleStatus) (t : ExecutionTaskState) :
    ExecutionTaskState :=
  if t.status = .succeeded then t
  else { t.withoutPolicy with status := status, activeWorkspaceId := none }

/-- A public event of the run. -/
def applyPublic (t : RunLifecycle.RunEventType) (state : Option ExecutionRunState)
    (e : EventEnvelope) : Runtime (Option ExecutionRunState) := do
  check ("run:".toList.isPrefixOf e.streamId.toList) .invalidExecutionEvent
  match state with
  | none => pure none
  | some s =>
    let streamId ← streamIdOf s.runId
    check (e.streamId = streamId ∧ e.streamSequence = s.lastStreamSequence + 1)
      .invalidExecutionEvent
    let (status, taskStatus) := publicStatus t s.status
    check (isFinal s.status → status = s.status) .eventAfterExecutionTerminal
    check (status = .succeeded → s.allSucceeded) .invalidExecutionTransition
    pure (some { s with
      status := status
      tasks := match taskStatus with
        | none => s.tasks
        | some ended => s.tasks.map (·.endWith ended)
      latestEventId := e.eventId
      lastStreamSequence := e.streamSequence })

/-! ### Planning -/

/-- `_gateway_budget`. -/
def gatewayBudget (v : JsonValue) : Runtime GatewayBudget := do
  let raw ← Checked.ofOption v.fields? (Failure.runtime .invalidExecutionEvent)
  check (raw.exact ["max_input_tokens", "max_output_tokens", "max_latency_ms",
    "max_cost_microusd"]) .invalidExecutionEvent
  let maxInputTokens ← integer raw "max_input_tokens"
  let maxOutputTokens ← integer raw "max_output_tokens"
  let maxLatencyMs ← integer raw "max_latency_ms"
  let maxCostMicrousd ← integer raw "max_cost_microusd"
  pure ⟨maxInputTokens, maxOutputTokens, maxLatencyMs, maxCostMicrousd⟩

/-- `_gateway_budget_payload`. -/
def gatewayBudgetPayload (b : GatewayBudget) : JsonValue :=
  .object [
    ("max_input_tokens", .int b.maxInputTokens),
    ("max_output_tokens", .int b.maxOutputTokens),
    ("max_latency_ms", .int b.maxLatencyMs),
    ("max_cost_microusd", .int b.maxCostMicrousd)]

/-- `execution.goal.admitted`: it opens the run. -/
def goalAdmitted (H : Host) (e : EventEnvelope) (runId : String) (payload : Mapping)
    (state : Option ExecutionRunState) : Runtime ExecutionRunState := do
  check (state = none) .invalidExecutionEvent
  let goal ← validEvent (goalFromPayload (payload.get "goal"))
  let goalId ← text payload "goal_id"
  check (goal.goalId = goalId) .invalidExecutionEvent
  let goalDigest ← digest payload "goal_digest"
  check (goal.digest H = goalDigest) .invalidExecutionEvent
  let classification ← integer payload "classification"
  let classification ← Checked.ofOption (DataClassification.ofValue? classification) Failure.value
  let locality ← text payload "locality"
  let locality ← Checked.ofOption (StrEnum.ofValue? locality) Failure.value
  let budget ← gatewayBudget (payload.get "budget")
  pure {
    runId := runId
    goalId := goal.goalId
    goalDigest := goal.digest H
    projectId := goal.projectId
    intentId := goal.intentId
    goalBaseCommit := goal.baseCommit
    classification := classification
    locality := locality
    budget := budget
    planId := none
    planDigest := none
    planRevision := none
    status := .admitted
    tasks := []
    retainedWorkspaceIds := []
    latestEventId := e.eventId
    lastStreamSequence := e.streamSequence
    inputTokens := 0
    inputTokensComplete := true
    outputTokens := 0
    outputTokensComplete := true
    latencyMs := 0
    costMicrousd := 0
    costMicrousdComplete := true
    pendingDraftDigest := none }

section Branches

variable (H : Host) (e : EventEnvelope) (payload : Mapping) (s : ExecutionRunState)

/-- `execution.replan.started`. -/
def replanStarted : Runtime ExecutionRunState := do
  check (s.status = .replanRequired ∧ s.pendingDraftDigest = none ∧ s.planId.isSome ∧
    s.planRevision.isSome) .invalidExecutionTransition
  let previousPlanId ← text payload "previous_plan_id"
  check (some previousPlanId = s.planId) .invalidExecutionTransition
  let previousPlanVersion ← integer payload "previous_plan_version"
  check (some previousPlanVersion = s.planRevision) .invalidExecutionTransition
  let nextPlanVersion ← integer payload "next_plan_version"
  check (some nextPlanVersion = s.planRevision.map (· + 1)) .invalidExecutionTransition
  pure { s with status := .replanning }

/-- The state with the usage of one more call of a provider. Unknown usage counts as none, and
makes the sum incomplete. -/
def ExecutionRunState.addUsage (inputTokens outputTokens : Option Nat) (latencyMs : Nat)
    (costMicrousd : Option Nat) : ExecutionRunState :=
  { s with
    inputTokens := s.inputTokens + inputTokens.getD 0
    inputTokensComplete := s.inputTokensComplete && inputTokens.isSome
    outputTokens := s.outputTokens + outputTokens.getD 0
    outputTokensComplete := s.outputTokensComplete && outputTokens.isSome
    latencyMs := s.latencyMs + latencyMs
    costMicrousd := s.costMicrousd + costMicrousd.getD 0
    costMicrousdComplete := s.costMicrousdComplete && costMicrousd.isSome }

/-- `execution.plan-draft.received`. -/
def planDraftReceived : Runtime ExecutionRunState := do
  check ((s.status = .admitted ∨ s.status = .replanning) ∧ s.pendingDraftDigest = none)
    .invalidExecutionTransition
  let draftDigest ← digest payload "draft_digest"
  let _ ← digest payload "provider_output_digest"
  let _ ← text payload "profile_id"
  let _ ← text payload "adapter_id"
  let _ ← text payload "model_id"
  let inputTokens ← optionalInteger payload "input_tokens"
  let outputTokens ← optionalInteger payload "output_tokens"
  let costMicrousd ← optionalInteger payload "cost_microusd"
  let latencyMs ← integer payload "latency_ms"
  pure { s.addUsage inputTokens outputTokens latencyMs costMicrousd with
    pendingDraftDigest := some draftDigest }

/-- `execution.plan.admitted`: the first plan of the run, or the revision of a replan. The tasks of
a plan are sorted and distinct. -/
def planAdmitted : Runtime ExecutionRunState := do
  let fresh := s.planId = none ∧ s.status = .admitted
  let revised := s.planId.isSome ∧ s.status = .replanning
  check (fresh ∨ revised) .invalidExecutionEvent
  let plan ← validEvent (planFromPayload (payload.get "plan"))
  let planId ← text payload "plan_id"
  check (plan.planId = planId) .invalidExecutionEvent
  let planDigest ← digest payload "plan_digest"
  check (plan.planDigest H = planDigest) .invalidExecutionEvent
  let planVersion ← integer payload "plan_version"
  check (plan.planRevision = planVersion) .invalidExecutionEvent
  let supersedesPlanId ← optionalText payload "supersedes_plan_id"
  check (plan.supersedesPlanId = supersedesPlanId) .invalidExecutionEvent
  check (plan.goalId = s.goalId ∧ plan.projectId = s.projectId ∧ plan.intentId = s.intentId ∧
    plan.baseCommit = s.goalBaseCommit ∧ some plan.draftDigest = s.pendingDraftDigest)
    .invalidExecutionEvent
  check (revised → plan.supersedesPlanId = s.planId ∧
    some plan.planRevision = s.planRevision.map (· + 1)) .invalidExecutionTransition
  check (fresh → plan.planRevision = 1 ∧ plan.supersedesPlanId = none)
    .invalidExecutionTransition
  pure { s with
    planId := some plan.planId
    planDigest := some (plan.planDigest H)
    planRevision := some plan.planRevision
    status := .running
    tasks := plan.tasks.1.map ExecutionTaskState.initial
    pendingDraftDigest := none }

/-! ### Attempts -/

/-- `execution.policy.decided`. -/
def policyDecided : Runtime ExecutionRunState := do
  let taskId ← text payload "task_id"
  let task ← s.task taskId
  let attempt ← integer payload "attempt"
  check (task.status = .ready ∧ attempt = task.attempts + 1 ∧ task.pendingPolicyDecisionId = none)
    .invalidExecutionTransition
  let planId ← Checked.ofOption s.planId (Failure.runtime .invalidExecutionEvent)
  let expectedAction ← validEvent
    (ToolActionRequest.create s.runId planId task.taskId attempt task.allowedPaths)
  let allowed ← boolean payload "allowed"
  let reason ← text payload "reason"
  let actionDigest ← digest payload "action_digest"
  let decision ← validEvent (PolicyDecision.create allowed reason actionDigest)
  check (decision.actionDigest = expectedAction.digest H) .invalidExecutionEvent
  let decisionId ← digest payload "decision_id"
  check (decision.decisionId H = decisionId) .invalidExecutionEvent
  pure (s.replaceTask { task with
    pendingPolicyDecisionId := some (decision.decisionId H)
    pendingPolicyActionDigest := some decision.actionDigest
    pendingPolicyAllowed := some decision.allowed
    pendingPolicyReason := some decision.reason })

/-- `execution.task.ready`. -/
def taskReady : Runtime ExecutionRunState := do
  let taskId ← text payload "task_id"
  let task ← s.task taskId
  let attempt ← integer payload "attempt"
  check (s.status = .running ∧ (task.status = .pending ∨ task.status = .repairable) ∧
    attempt = task.attempts + 1 ∧ attempt ≤ task.maxAttempts ∧
    task.pendingPolicyDecisionId = none) .invalidExecutionTransition
  let satisfied ← s.succeeded task.dependsOn
  check satisfied .invalidExecutionTransition
  pure (s.replaceTask { task with status := .ready })

/-- `_workspace_id_from_ids`. -/
def workspaceId (planId taskId : String) (attempt : Nat) : String :=
  "workspace-" ++ shortDigest (H.jsonDigest (.object [
    ("plan_id", .str planId),
    ("task_id", .str taskId),
    ("attempt", .int attempt)]))

/-- `execution.task.started`. -/
def taskStarted : Runtime ExecutionRunState := do
  let taskId ← text payload "task_id"
  let task ← s.task taskId
  let attempt ← integer payload "attempt"
  let workspace ← text payload "workspace_id"
  check (task.status = .ready ∧ attempt = task.attempts + 1) .invalidExecutionTransition
  let planId ← Checked.ofOption s.planId (Failure.runtime .invalidExecutionTransition)
  check (workspace = workspaceId H planId task.taskId attempt) .invalidExecutionTransition
  let baseCommit ← commit payload "base_commit"
  let expectedBaseCommit ← s.expectedBaseCommit task
  check (baseCommit = expectedBaseCommit ∧ task.pendingPolicyAllowed = some true)
    .invalidExecutionTransition
  let decisionId ← digest payload "decision_id"
  check (task.pendingPolicyDecisionId = some decisionId) .invalidExecutionTransition
  let actionDigest ← digest payload "action_digest"
  check (task.pendingPolicyActionDigest = some actionDigest) .invalidExecutionTransition
  pure (s.replaceTask { task.withoutPolicy with
    status := .running
    attempts := attempt
    activeWorkspaceId := some workspace })

/-- `execution.task.verifying`. -/
def taskVerifying : Runtime ExecutionRunState := do
  let taskId ← text payload "task_id"
  let task ← s.task taskId
  check (task.status = .running) .invalidExecutionTransition
  let attempt ← integer payload "attempt"
  check (attempt = task.attempts) .invalidExecutionTransition
  let workspace ← text payload "workspace_id"
  check (some workspace = task.activeWorkspaceId) .invalidExecutionTransition
  pure (s.replaceTask { task with status := .verifying })

/-- The number of times in a row that the error of an attempt was seen. -/
def ExecutionTaskState.countError (t : ExecutionTaskState) (signature : Option String) : Nat :=
  match signature with
  | none => 0
  | some _ => if signature = t.lastErrorSignature then t.sameErrorCount + 1 else 1

/-- The progress of an attempt is new for the task. -/
def ExecutionTaskState.isNewEvidence (t : ExecutionTaskState) (progressDigests : List String) :
    Bool :=
  t.lastProgressDigests = [] || progressDigests ≠ t.lastProgressDigests

/-- The task after its attempt was verified. -/
def ExecutionTaskState.verified (t : ExecutionTaskState) (eventId : String) (route : AttemptRoute)
    (signature : Option String) (evidence : AttemptEvidence) : ExecutionTaskState :=
  { t with
    status := route.taskStatus
    lastErrorSignature := signature
    sameErrorCount := t.countError signature
    activeWorkspaceId := none
    retainedWorkspaceId := if route = .succeeded then t.retainedWorkspaceId
      else t.activeWorkspaceId
    evidenceEventIds := t.evidenceEventIds ++ [eventId]
    lastFailureClass := evidence.failureClass
    lastFailureSummary := evidence.failureSummary
    lastArtifactDigests := evidence.artifactDigests.1
    lastProgressDigests := evidence.progressDigests.1
    headCommit := some evidence.headCommit }

/-- The workspaces that a run retains after an attempt was verified. -/
def retainedAfter (retained : List String) (active : Option String) (route : AttemptRoute) :
    List String :=
  match active with
  | some workspace =>
    if route ≠ .succeeded ∧ workspace ∉ retained then retained ++ [workspace] else retained
  | none => retained

/-- `execution.task.verified`. -/
def taskVerified : Runtime ExecutionRunState := do
  let taskId ← text payload "task_id"
  let task ← s.task taskId
  check (task.status = .verifying) .invalidExecutionTransition
  let attempt ← integer payload "attempt"
  check (attempt = task.attempts) .invalidExecutionTransition
  let workspace ← text payload "workspace_id"
  check (some workspace = task.activeWorkspaceId) .invalidExecutionTransition
  let route ← text payload "route"
  let route ← Checked.ofOption (StrEnum.ofValue? route) Failure.value
  let verifierExitCode ← integer payload "verifier_exit_code"
  check (verifierExitCode ≤ 255) .invalidExecutionTransition
  let requiredChecksPassed ← boolean payload "required_checks_passed"
  let workspaceClean ← boolean payload "workspace_clean"
  let declaredNewEvidence ← boolean payload "new_evidence"
  let signature ← optionalDigest payload "error_signature"
  let sameErrorCount ← integer payload "same_error_count"
  check (sameErrorCount = task.countError signature) .invalidExecutionTransition
  let failureClass ← optionalFailureClass payload "failure_class"
  let failureSummary ← optionalText payload "failure_summary"
  check (route = .succeeded → failureClass = none ∧ failureSummary = none)
    .invalidExecutionTransition
  check (route ≠ .succeeded → failureClass.isSome ∧ failureSummary.isSome)
    .invalidExecutionTransition
  let artifactDigests ← digestTuple payload "artifact_digests"
  let progressDigests ← digestTuple payload "progress_digests"
  check (∀ d ∈ progressDigests, d ∈ artifactDigests) .invalidExecutionTransition
  let inputTokens ← optionalInteger payload "input_tokens"
  let outputTokens ← optionalInteger payload "output_tokens"
  let costMicrousd ← optionalInteger payload "cost_microusd"
  let headCommit ← commit payload "head_commit"
  let latencyMs ← integer payload "latency_ms"
  let evidence ← validEvent (AttemptEvidence.create workspaceClean verifierExitCode
    requiredChecksPassed failureClass failureSummary artifactDigests progressDigests headCommit
    inputTokens outputTokens latencyMs costMicrousd)
  check (evidence.errorSignature H = signature ∧
    declaredNewEvidence = task.isNewEvidence evidence.progressDigests.1 ∧
    (route = .succeeded ↔ evidence.workspaceClean = true ∧ evidence.passed = true))
    .invalidExecutionTransition
  let updated := s.replaceTask (task.verified e.eventId route signature evidence)
  pure { updated.addUsage inputTokens outputTokens latencyMs costMicrousd with
    retainedWorkspaceIds := retainedAfter s.retainedWorkspaceIds task.activeWorkspaceId route }

/-- `execution.task.blocked`. -/
def taskBlocked : Runtime ExecutionRunState := do
  let taskId ← text payload "task_id"
  let task ← s.task taskId
  let reason ← text payload "reason"
  check (task.status = .ready ∧ task.pendingPolicyAllowed = some false ∧
    task.pendingPolicyReason = some reason) .invalidExecutionTransition
  pure (s.replaceTask { task.withoutPolicy with status := .blocked, blockedReason := some reason })

/-- `execution.run.terminated`. -/
def runTerminated : Runtime ExecutionRunState := do
  let status ← text payload "status"
  let status : RunLifecycleStatus ← Checked.ofOption (StrEnum.ofValue? status) Failure.value
  check (isOutcome status) .invalidExecutionTransition
  let _ ← text payload "reason"
  check (status = .succeeded → s.allSucceeded) .invalidExecutionTransition
  pure { s with status := status }

/-- The branch of a kind of event that follows the admission of the goal. -/
def applyBranch : ExecutionEventType → Runtime ExecutionRunState
  | .goalAdmitted => .error (.runtime .invalidExecutionEvent)
  | .replanStarted => replanStarted payload s
  | .planDraftReceived => planDraftReceived payload s
  | .planAdmitted => planAdmitted H payload s
  | .policyDecided => policyDecided H payload s
  | .taskReady => taskReady payload s
  | .taskStarted => taskStarted H payload s
  | .taskVerifying => taskVerifying payload s
  | .taskVerified => taskVerified H e payload s
  | .taskBlocked => taskBlocked payload s
  | .runTerminated => runTerminated payload s

end Branches

/-! ### The projection -/

/-- An event of the generated execution. -/
def applyExecution (H : Host) (t : ExecutionEventType) (state : Option ExecutionRunState)
    (e : EventEnvelope) : Runtime ExecutionRunState := do
  check (e.payload.exact (payloadFields t)) .invalidExecutionEvent
  let runId ← text e.payload "run_id"
  let streamId ← streamIdOf runId
  check (e.streamId = streamId) .invalidExecutionEvent
  if t = .goalAdmitted then goalAdmitted H e runId e.payload state
  else
    let s ← Checked.ofOption state (Failure.runtime .invalidExecutionEvent)
    check (s.runId = runId ∧ e.streamSequence = s.lastStreamSequence + 1) .invalidExecutionEvent
    check (¬isFinal s.status) .eventAfterExecutionTerminal
    let updated ← applyBranch H e e.payload s t
    pure { updated with latestEventId := e.eventId, lastStreamSequence := e.streamSequence }

/-- `apply`. -/
def apply (H : Host) (state : Option ExecutionRunState) (e : EventEnvelope) :
    Runtime (Option ExecutionRunState) :=
  match RunLifecycle.runEventType? e with
  | some t => applyPublic t state e
  | none =>
    match executionEventType? e with
    | some t => some <$> applyExecution H t state e
    | none => .error (.runtime .invalidExecutionEvent)

/-- `ProjectionRunner.rebuild`: the state after the events of a stream. -/
def project (H : Host) (events : List EventEnvelope) : Runtime (Option ExecutionRunState) :=
  History.run (apply H) none events

end Blackcell.Orchestration.ExecutionRuntime
