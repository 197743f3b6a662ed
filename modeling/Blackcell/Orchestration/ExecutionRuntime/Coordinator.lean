import Blackcell.Orchestration.ExecutionRuntime.Journal

/-!
# The coordinator of generated runs

`ExecutionCoordinator` of `orchestration/execution_runtime.py`: the admission of a plan, and the
execution of its tasks with bounded repair. Every step of a call is an append to the journal of the
run, and a call finds out where an earlier one stopped by reading the journal.

The loop over the attempts of a task is given a number of rounds. A task is attempted at most three
times, so three rounds are enough for a call that no other one disturbs.

## Main definitions

* `goalAdmittedPayload`, ..., `runTerminatedPayload` : the payloads of the requests.
* `compileAndAdmit` : `compile_and_admit`.
* `attempt`, `attemptTask`, `runTasks`, `executeBound`, `execute` : `execute`, from the inside out.
* `reconcileIncompletePlanning`, `exhaustReplanBudget`, `exhaustProviderBudget` : the calls that
  end a run without executing it.
-/

namespace Blackcell.Orchestration.ExecutionRuntime

open Blackcell.Kernel Blackcell.Gateway Blackcell.Orchestration.ExecutionPlan

/-! ### Payloads -/

section Payloads

variable (H : Host)

/-- The payload of `execution.goal.admitted`. -/
def goalAdmittedPayload (request : PlanningRequest) : Mapping :=
  [("goal_id", .str request.goal.goalId), ("goal_digest", .str (request.goal.digest H)),
    ("goal", goalPayload request.goal), ("classification", .int request.classification.value),
    ("locality", .str (StrEnum.value request.locality)),
    ("budget", gatewayBudgetPayload request.budget)]

/-- The payload of `execution.replan.started`. -/
def replanStartedPayload (previous : Plan) : Mapping :=
  [("previous_plan_id", .str previous.planId),
    ("previous_plan_version", .int previous.planRevision),
    ("next_plan_version", .int (previous.planRevision + 1 : Nat))]

/-- The payload of `execution.plan-draft.received`. -/
def planDraftReceivedPayload (plan : Plan) (result : PlanningResult) : Mapping :=
  [("draft_digest", .str plan.draftDigest),
    ("provider_output_digest", .str result.providerOutputDigest),
    ("profile_id", .str result.profileId), ("adapter_id", .str result.adapterId),
    ("model_id", .str result.modelId), ("input_tokens", ofInteger? result.inputTokens),
    ("output_tokens", ofInteger? result.outputTokens), ("latency_ms", .int result.latencyMs),
    ("cost_microusd", ofInteger? result.costMicrousd)]

/-- The payload of `execution.plan.admitted`. -/
def planAdmittedPayload (plan : Plan) : Mapping :=
  [("plan_id", .str plan.planId), ("plan_digest", .str (plan.planDigest H)),
    ("plan_version", .int plan.planRevision),
    ("supersedes_plan_id", .ofText? plan.supersedesPlanId), ("plan", planPayload plan)]

/-- The payload of `execution.task.ready`. -/
def taskReadyPayload (taskId : String) (attempt : Nat) : Mapping :=
  [("task_id", .str taskId), ("attempt", .int attempt)]

/-- The payload of `execution.policy.decided`. -/
def policyDecidedPayload (taskId : String) (attempt : Nat) (decision : PolicyDecision) : Mapping :=
  [("task_id", .str taskId), ("attempt", .int attempt), ("allowed", .bool decision.allowed),
    ("reason", .str decision.reason), ("action_digest", .str decision.actionDigest),
    ("decision_id", .str (decision.decisionId H))]

/-- The payload of `execution.task.started`. -/
def taskStartedPayload (taskId : String) (attempt : Nat) (workspace baseCommit : String)
    (decision : PolicyDecision) : Mapping :=
  [("task_id", .str taskId), ("attempt", .int attempt), ("workspace_id", .str workspace),
    ("base_commit", .str baseCommit), ("action_digest", .str decision.actionDigest),
    ("decision_id", .str (decision.decisionId H))]

/-- The payload of `execution.task.verifying`. -/
def taskVerifyingPayload (taskId : String) (attempt : Nat) (workspace : String) : Mapping :=
  [("task_id", .str taskId), ("attempt", .int attempt), ("workspace_id", .str workspace)]

/-- The payload of `execution.task.verified`. -/
def taskVerifiedPayload (taskId : String) (attempt : Nat) (workspace : String)
    (route : AttemptRoute) (signature : Option String) (sameErrorCount : Nat) (newEvidence : Bool)
    (evidence : AttemptEvidence) : Mapping :=
  [("task_id", .str taskId), ("attempt", .int attempt), ("workspace_id", .str workspace),
    ("route", .str (StrEnum.value route)), ("verifier_exit_code", .int evidence.verifierExitCode),
    ("required_checks_passed", .bool evidence.requiredChecksPassed),
    ("workspace_clean", .bool evidence.workspaceClean), ("error_signature", .ofText? signature),
    ("same_error_count", .int sameErrorCount),
    ("artifact_digests", .ofTexts evidence.artifactDigests.1),
    ("progress_digests", .ofTexts evidence.progressDigests.1), ("new_evidence", .bool newEvidence),
    ("failure_class", .ofText? (evidence.failureClass.map StrEnum.value)),
    ("failure_summary", .ofText? evidence.failureSummary),
    ("head_commit", .str evidence.headCommit), ("input_tokens", ofInteger? evidence.inputTokens),
    ("output_tokens", ofInteger? evidence.outputTokens), ("latency_ms", .int evidence.latencyMs),
    ("cost_microusd", ofInteger? evidence.costMicrousd)]

/-- The payload of `execution.task.blocked`. -/
def taskBlockedPayload (taskId reason : String) : Mapping :=
  [("task_id", .str taskId), ("reason", .str reason)]

/-- The payload of `execution.run.terminated`. -/
def runTerminatedPayload (status : RunLifecycleStatus) (reason : String) : Mapping :=
  [("status", .str (StrEnum.value status)), ("reason", .str reason)]

end Payloads

/-! ### Ending a run -/

section Coordinator

variable (H : Host) (runId : String)

/-- `_terminate`. -/
def terminate (status : RunLifecycleStatus) (actor reason : String) : Call ExecutionRunState := do
  let _ ← append H runId .runTerminated (runTerminatedPayload status reason) actor
  rehydrate H runId

/-- `reconcile_incomplete_planning`. -/
def reconcileIncompletePlanning (actor : String) : Call ExecutionRunState := do
  let s ← rehydrate H runId
  if s.status = .canceled then pure s
  else
    check (s.status = .admitted ∨ s.status = .replanning) .executionPlanningNotAmbiguous
    terminate H runId .escalated actor "ambiguous-planning-dispatch"

/-- `exhaust_replan_budget`. -/
def exhaustReplanBudget (actor : String) : Call ExecutionRunState := do
  let s ← rehydrate H runId
  check (s.status = .replanRequired) .executionReplanNotRequired
  terminate H runId .escalated actor "replan-budget-exhausted"

/-- `exhaust_provider_budget`. -/
def exhaustProviderBudget (actor : String) : Call ExecutionRunState := do
  let s ← rehydrate H runId
  check (s.status = .replanRequired) .executionReplanNotRequired
  terminate H runId .escalated actor "cumulative-budget-exhausted"

/-! ### Admitting a plan -/

/-- The state binds the run to the goal and the authority of the request. -/
def boundToRequest (request : PlanningRequest) (s : ExecutionRunState) : Prop :=
  s.goalDigest = request.goal.digest H ∧ s.classification = request.classification ∧
    s.locality = request.locality ∧ s.budget = request.budget

instance (request : PlanningRequest) (s : ExecutionRunState) :
    Decidable (boundToRequest H request s) :=
  inferInstanceAs (Decidable (_ ∧ _ ∧ _ ∧ _))

/-- The request that fences a planning call: the admission of the goal, or the start of a replan. -/
def fencePlanning (request : PlanningRequest) (previous : Option Plan) (actor : String) :
    Call EventEnvelope := do
  match previous with
  | none => append H runId .goalAdmitted (goalAdmittedPayload H request) actor
  | some previous =>
    let s ← rehydrate H runId
    check (s.status = .replanRequired ∧ boundToRequest H request s ∧
      s.planId = some previous.planId ∧ s.planDigest = some (previous.planDigest H) ∧
      s.planRevision = some previous.planRevision) .executionRunBindingMismatch
    append H runId .replanStarted (replanStartedPayload previous) actor

/-- `compile_and_admit`. -/
def compileAndAdmit (request : PlanningRequest) (actor : String) (previous : Option Plan)
    (providerBudget : Option GatewayBudget) : Call (Plan × PlanningResult) := do
  check (request.runId = runId) .executionRunBindingMismatch
  check (∀ budget ∈ providerBudget, budgetWithin budget request.budget)
    .executionProviderBudgetInvalid
  let _ ← fencePlanning H runId request previous actor
  let providerRequest := { request with budget := providerBudget.getD request.budget }
  match ← proposePlan providerRequest with
  | none => throw .provider
  | some result =>
    let plan ← ofContract (compilePlan H request.goal result.draft previous)
    let _ ← append H runId .planDraftReceived (planDraftReceivedPayload plan result) actor
    let _ ← append H runId .planAdmitted (planAdmittedPayload H plan) actor
    pure (plan, result)

/-! ### Attempts -/

/-- `_pending_policy_decision`. -/
def pendingPolicyDecision (task : ExecutionTaskState) (action : ToolActionRequest) :
    Runtime (Option PolicyDecision) :=
  match task.pendingPolicyDecisionId with
  | none => .ok none
  | some decisionId =>
    match task.pendingPolicyActionDigest, task.pendingPolicyAllowed, task.pendingPolicyReason with
    | some actionDigest, some allowed, some reason => do
      let decision ← (PolicyDecision.create allowed reason actionDigest).mapError
        fun _ ↦ Failure.runtime .executionPendingPolicyInvalid
      check (decision.actionDigest = action.digest H ∧ decision.decisionId H = decisionId)
        .executionPendingPolicyInvalid
      pure (some decision)
    | _, _, _ => .error (.runtime .executionPendingPolicyInvalid)

/-- `_attempt_base_commit`. -/
def attemptBaseCommit (s : ExecutionRunState) (task : TaskSpec) (goalBaseCommit : String) :
    Runtime String := do
  check (s.goalBaseCommit = goalBaseCommit) .executionRunBindingMismatch
  let t ← s.task task.taskId
  s.expectedBaseCommit t

/-- How an attempt ends: the task is done, it is attempted again, or the call returns. -/
inductive AttemptEnd where
  | done
  | again
  | returned (state : ExecutionRunState)

variable (request : PlanningRequest) (plan : Plan) (task : TaskSpec) (actor : String)

/-- End the run, and with it the attempt. -/
def endRun (status : RunLifecycleStatus) (reason : String) : Call AttemptEnd :=
  AttemptEnd.returned <$> terminate H runId status actor reason

/-- A task that waits is made ready. -/
def makeReady : Call ExecutionTaskState := do
  let s ← rehydrate H runId
  let t ← s.task task.taskId
  if t.status = .pending ∨ t.status = .repairable then
    let _ ← append H runId .taskReady (taskReadyPayload task.taskId (t.attempts + 1)) actor
    let s ← rehydrate H runId
    s.task task.taskId
  else pure t

/-- The base of the attempt, `none` when there is no single one. -/
def attemptBase : Call (Option String) :=
  tryCatch
    (do
      let s ← rehydrate H runId
      let base ← attemptBaseCommit s task request.goal.baseCommit
      pure (some base))
    fun
      | .runtime _ => pure none
      | failure => throw failure

/-- The decision on the action: the pending one, or a new one that is recorded. -/
def decideAction (t : ExecutionTaskState) (action : ToolActionRequest) : Call PolicyDecision := do
  match ← pendingPolicyDecision H t action with
  | some decision => pure decision
  | none =>
    let decision ← ofContract (authorize H request.goal plan task action)
    let _ ← append H runId .policyDecided
      (policyDecidedPayload H task.taskId (t.attempts + 1) decision) actor
    pure decision

/-- What follows the evidence of an attempt: it is verified, and its route is taken. -/
def settle (attempt : Nat) (workspace : String) (evidence : AttemptEvidence) : Call AttemptEnd := do
  let _ ← append H runId .taskVerifying (taskVerifyingPayload task.taskId attempt workspace) actor
  let s ← rehydrate H runId
  let prior ← s.task task.taskId
  let signature := evidence.errorSignature H
  let newEvidence := prior.isNewEvidence evidence.progressDigests.1
  let sameErrorCount := prior.countError signature
  let route := route request.goal task evidence attempt sameErrorCount newEvidence
  let _ ← append H runId .taskVerified
    (taskVerifiedPayload task.taskId attempt workspace route signature sameErrorCount newEvidence
      evidence) actor
  if route = .succeeded ∨ route = .repairable then
    let s ← rehydrate H runId
    if budgetOverdrawn request.budget s then
      endRun H runId actor .escalated "cumulative-budget-exhausted"
    else pure (if route = .succeeded then .done else .again)
  else
    let status ← Checked.ofOption (StrEnum.ofValue? (StrEnum.value route)) Failure.value
    endRun H runId actor status (StrEnum.value route)

/-- The attempt is started, executed and settled, unless its action was denied. -/
def startAttempt (t : ExecutionTaskState) (baseCommit : String) (remaining : GatewayBudget)
    (decision : PolicyDecision) : Call AttemptEnd := do
  let attempt := t.attempts + 1
  if decision.allowed = false then
    let _ ← append H runId .taskBlocked (taskBlockedPayload task.taskId decision.reason) actor
    endRun H runId actor .blocked decision.reason
  else
    let workspace := workspaceId H plan.planId task.taskId attempt
    let _ ← append H runId .taskStarted
      (taskStartedPayload H task.taskId attempt workspace baseCommit decision) actor
    match ← executeAttempt ⟨runId, request.goal, plan, task, attempt, workspace, baseCommit,
      t.lastFailureClass, t.lastFailureSummary, decision, remaining⟩ with
    | .raised typeName =>
      let s ← rehydrate H runId
      if s.status = .canceled then pure (.returned s)
      else endRun H runId actor .escalated ("executor-" ++ H.casefold typeName)
    | .evidence evidence =>
      let s ← rehydrate H runId
      if s.status = .canceled then pure (.returned s)
      else settle H runId request task actor attempt workspace evidence

/-- One round of the loop over the attempts of a task. -/
def attempt : Call AttemptEnd := do
  let t ← makeReady H runId task actor
  match ← attemptBase H runId request task with
  | none => endRun H runId actor .replanRequired "base-commit-ambiguous"
  | some baseCommit =>
    let s ← rehydrate H runId
    let remaining := remainingBudget request.budget s
    if task.isWriter ∧ (providerUsageIncomplete s ∨ providerBudgetExhausted remaining) then
      endRun H runId actor .escalated "cumulative-budget-exhausted"
    else
      let action ← ofContract (ToolActionRequest.create runId plan.planId task.taskId
        (t.attempts + 1) task.allowedPaths.1)
      let decision ← decideAction H runId request plan task actor t action
      startAttempt H runId request plan task actor t baseCommit remaining decision

/-- The loop over the attempts of a task; it answers the state with which the call returns, and
nothing when the task is done. -/
def attemptTask : Nat → Call (Option ExecutionRunState)
  | 0 => throw .outOfRounds
  | rounds + 1 => do
    match ← attempt H runId request plan task actor with
    | .done => pure none
    | .again => attemptTask rounds
    | .returned s => pure (some s)

/-- The loop over the tasks of a plan. -/
def runTasks (rounds : Nat) : List String → Call (Option ExecutionRunState)
  | [] => pure none
  | taskId :: order => do
    let task ← Checked.ofOption (plan.byId taskId) Failure.value
    let s ← rehydrate H runId
    let t ← s.task taskId
    if t.status = .succeeded then runTasks rounds order
    else
      let satisfied ← s.succeeded task.dependsOn
      if satisfied then
        match ← attemptTask H runId request plan task actor rounds with
        | none => runTasks rounds order
        | some s => pure (some s)
      else some <$> terminate H runId .blocked actor "dependency-not-satisfied"

/-- What `execute` does with a state that is bound to its request and its plan. -/
def executeBound (s : ExecutionRunState) (rounds : Nat) : Call ExecutionRunState := do
  if isOutcome s.status then pure s
  else
    match s.tasks.find? fun t ↦ t.status = .blocked with
    | some blocked =>
      match blocked.blockedReason with
      | none => throw (.runtime .executionBlockedTaskInvalid)
      | some reason => terminate H runId .blocked actor reason
    | none =>
      if s.tasks.any fun t ↦ t.activeWorkspaceId.isSome then
        terminate H runId .escalated actor "ambiguous-active-attempt"
      else
        match ← runTasks H runId request plan actor rounds plan.topologicalOrder with
        | some s => pure s
        | none => terminate H runId .succeeded actor "verification-passed"

/-- `execute`. -/
def execute (rounds : Nat) : Call ExecutionRunState := do
  check (request.runId = runId) .executionRunBindingMismatch
  let s ← rehydrate H runId
  check (boundToRequest H request s ∧ s.planId = some plan.planId ∧
    s.planDigest = some (plan.planDigest H)) .executionRunBindingMismatch
  executeBound H runId request plan actor s rounds

end Coordinator

end Blackcell.Orchestration.ExecutionRuntime
