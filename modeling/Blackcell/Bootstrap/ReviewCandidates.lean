import Blackcell.Bootstrap.Admission
import Blackcell.Bootstrap.VerificationRuntime
import Blackcell.Orchestration.ExecutionRuntime.Checkpoint
import Blackcell.Orchestration.RunLifecycle.Payload

/-!
# Candidates for review and verification

What `bootstrap/runtime_service.py` offers to reviewers, and `bootstrap/verification_source.py` to
verifiers. A candidate is computed from the ledger: the run is loaded with the events it refers to, its
terminal event is looked up, and the state up to that event and the evidence of its artifacts are
digested. Before a review or a verification is prepared, its candidate is computed again and compared.

The service reads artifacts by their digests. What it makes of their bytes is given: the bytes of an
artifact never change, so each reader is a function of what it is asked for.

## Main definitions

* `StoredRun`, `loadStored` : a run with what it refers to.
* `RunArtifacts` : the readers of artifacts.
* `artifactExpectations`, `kernelExpectations` : what the nodes of a run, or the tasks of its generated
  execution, are expected to have left as artifacts.
* `reviewCandidate`, `prepareReviewContext` : the candidate of a run, and the context of its review.
* `verificationCandidate`, `prepareVerification` : the same for verifications.
-/

namespace Blackcell.Bootstrap

open Blackcell.Kernel Blackcell.Adapters.Worktree
open Blackcell.Interfaces.Http hiding check check_eq_ok
open Blackcell.Orchestration Blackcell.Orchestration.RunLifecycle
open Blackcell.Orchestration.ExecutionPlan (GoalSpec Plan TaskSpec VerificationCheck goalFromPayload
  planFromPayload sortedChecks shortDigest executionGoalSchema)
open Blackcell.Orchestration.ExecutionRuntime (ExecutionTaskState dumpState project)
open Blackcell.Orchestration.ReviewLifecycle (ReviewCandidate ReviewEvidence foldReviewLifecycle
  reviewId reviewStream)
open Blackcell.Orchestration.VerificationLifecycle (VerificationCandidate VerificationEvidence
  verificationId)

/-- `VerificationSourceFailureCode`. -/
inductive VerificationSourceFailureCode where
  | notFound | snapshotMismatch | executionEvidenceInvalid | reviewArtifactInvalid
  deriving DecidableEq, Repr

/-- The exceptions of the calls about candidates. -/
inductive CandidateError where
  /-- `RuntimeApiError`. -/
  | api (code : RuntimeApiFailureCode)
  /-- `PlanContractError`. -/
  | contract
  /-- `LifecycleError` and `ReviewLifecycleError`. -/
  | lifecycle
  /-- `ExecutionRuntimeError`. -/
  | execution
  /-- `ReviewEvidenceError` and `ReviewContractError`. -/
  | evidence
  /-- `VerificationSourceError`. -/
  | source (code : VerificationSourceFailureCode)
  /-- `KeyError`. -/
  | key
  deriving DecidableEq, Repr

/-- A call about candidates. -/
abbrev Candidacy := Except CandidateError

/-- Raise `CONFLICT` unless the condition holds. -/
def agree (p : Prop) [Decidable p] : Candidacy PUnit := Checked.require p (.api .conflict)

@[simp] theorem agree_eq_ok {p : Prop} [Decidable p] {u : PUnit} : agree p = .ok u ↔ p :=
  Checked.require_eq_ok

/-- Raise `CONFLICT` unless the value is present. -/
def found {α : Type} (x : Option α) : Candidacy α := Checked.ofOption x (.api .conflict)

@[simp] theorem found_eq_ok {α : Type} {x : Option α} {a : α} : found x = .ok a ↔ x = some a :=
  Checked.ofOption_eq_ok

/-- A step of the runtime service. -/
def ofApi {α : Type} (x : Except RuntimeApiFailureCode α) : Candidacy α := x.mapError .api

@[simp] theorem ofApi_eq_ok {α : Type} {x : Except RuntimeApiFailureCode α} {a : α} :
    ofApi x = .ok a ↔ x = .ok a :=
  Checked.mapError_eq_ok

attribute [ext] GoalSpec

instance : DecidableEq GoalSpec := fun _ _ ↦ decidable_of_iff' _ GoalSpec.ext_iff

/-! ### Loading a run -/

/-- `_LoadedRun`, with the requests that the run refers to. -/
structure StoredRun where
  request : RunRequest
  intent : IntentRequest
  plan : PlanRequest
  run : LoadedRun

section Kernel

variable (H : Host) (stored : StoredRun)

/-- One check of a plan in the loop of `_generated_checks`. -/
def generatedCheck (checks : List VerificationCheck) (check : AcceptanceCheck) :
    Candidacy (List VerificationCheck) := do
  let converted ← (VerificationCheck.create check.checkId check.argv check.expectedExitCode).mapError
    fun _ ↦ CandidateError.contract
  match checks.find? fun prior ↦ prior.checkId = check.checkId with
  | none => return checks ++ [converted]
  | some prior =>
    Checked.require (prior = converted) (CandidateError.api .invalidRequest)
    return checks

/-- `_generated_checks`. -/
def generatedChecks (plan : PlanRequest) : Candidacy (List VerificationCheck) := do
  let checks ← (plan.nodes.flatMap (·.checks)).foldlM generatedCheck []
  return sortedChecks checks

/-- The identity of the goal of a generated run. -/
def generatedIdentity (request : RunRequest) : String :=
  H.jsonDigest (.object [("run_id", .str request.runId), ("project_id", .str request.projectId),
    ("intent_id", .str request.intentId), ("bounds_plan_id", .str request.planId)])

/-- `_generated_goal`. -/
def generatedGoal (request : RunRequest) (intent : IntentRequest) (plan : PlanRequest) :
    Candidacy GoalSpec := do
  let checks ← generatedChecks plan
  (GoalSpec.create executionGoalSchema ("goal-" ++ shortDigest (generatedIdentity H request))
    request.projectId request.intentId intent.objective plan.baseCommit
    (ExecutionPlan.sortedSet (intent.constraints ++ intent.assumptions))
    (ExecutionPlan.sortedSet (plan.nodes.flatMap (·.allowedPaths))) checks 3 2).mapError
    fun _ ↦ CandidateError.contract

/-- `_kernel_plans`. -/
def kernelPlans (run : LoadedRun) : Candidacy (List Plan) := do
  let events := run.events.filter fun e ↦
    e.eventType = StrEnum.value ExecutionEventType.planAdmitted
  let plans ← events.mapM fun e ↦ (planFromPayload (e.payload.get "plan")).mapError
    fun _ ↦ CandidateError.api .conflict
  let kernel ← found run.kernelState
  agree (plans.getLast?.map (·.planId) = kernel.planId ∧
    plans.getLast?.map (·.planDigest H) = kernel.planDigest ∧
    plans.getLast?.map (·.planRevision) = kernel.planRevision)
  return plans

/-- `_kernel_plan`. -/
def kernelPlan (run : LoadedRun) : Candidacy Plan := do
  let plans ← kernelPlans H run
  found plans.getLast?

/-- `_kernel_goal`. -/
def kernelGoal (run : LoadedRun) : Candidacy GoalSpec := do
  let event ← found (run.events.find? fun e ↦
    e.eventType = StrEnum.value ExecutionEventType.goalAdmitted)
  let goal ← (goalFromPayload (event.payload.get "goal")).mapError
    fun _ ↦ CandidateError.api .conflict
  let kernel ← found run.kernelState
  agree (goal.goalId = kernel.goalId ∧ goal.digest H = kernel.goalDigest)
  return goal

/-- The checks of the tasks of a plan are those of its goal. -/
def ChecksAgree (goal : GoalSpec) (plan : Plan) : Prop :=
  let required := goal.verificationChecks.1
  let internal := plan.tasks.1.flatMap (·.checks.1)
  (∀ check ∈ required, check.checkId ∈ internal.map (·.checkId)) ∧ ∀ check ∈ internal, check ∈ required

instance (goal : GoalSpec) (plan : Plan) : Decidable (ChecksAgree goal plan) :=
  inferInstanceAs (Decidable (_ ∧ _))

/-- `_require_generated_kernel_binding`. -/
def requireGeneratedKernelBinding : Candidacy PUnit := do
  let goal ← kernelGoal H stored.run
  let generated ← generatedGoal H stored.request stored.intent stored.plan
  agree (goal = generated)
  let plans ← kernelPlans H stored.run
  agree (∀ plan ∈ plans, ChecksAgree goal plan)

/-- The check of a generated run whose execution has begun. -/
def requireBinding : Candidacy PUnit :=
  if stored.plan.generated ∧ stored.run.kernelState.isSome then
    requireGeneratedKernelBinding H stored
  else .ok ⟨⟩

end Kernel

section Load

variable (H : Host) (D : Deployment) (L : Ledger)

/-- `_required_event`. -/
def requiredFrom (streamId eventType : String) : Except RuntimeApiFailureCode EventEnvelope :=
  requiredEvent eventType ((L.readStream streamId).take 2)

/-- The events that a run refers to. -/
structure AdmissionEvents where
  project : EventEnvelope
  intent : EventEnvelope
  plan : EventEnvelope

/-- The three reads of admission events. -/
def admissionEvents (request : RunRequest) : Except RuntimeApiFailureCode AdmissionEvents := do
  let project ← requiredFrom L (projectStream request.projectId) projectRegistered
  let intent ← requiredFrom L (intentStream request.intentId) intentAccepted
  let plan ← requiredFrom L (planStream request.planId) planAccepted
  return ⟨project, intent, plan⟩

/-- The part of `_load_run` that follows the reads of the ledger. -/
def decodeStored (runId : String) (events : List EventEnvelope) (queued : EventEnvelope)
    (request : RunRequest) (admission : AdmissionEvents) : Candidacy StoredRun := do
  let project ← ofApi (decodeRequest H D.contracts.project admission.project)
  let intent ← ofApi (decodeRequest H D.contracts.intent admission.intent)
  let plan ← ofApi (decodeRequest H D.contracts.plan admission.plan)
  agree (project.projectId = request.projectId ∧ intent.projectId = request.projectId ∧
    intent.intentId = request.intentId ∧ plan.projectId = request.projectId ∧
    plan.intentId = request.intentId ∧ plan.planId = request.planId)
  ofApi (requireReference H queued "project" admission.project)
  ofApi (requireReference H queued "intent" admission.intent)
  ofApi (requireReference H queued "plan" admission.plan)
  let run ← ofApi (loadRun H D.fs D.repositoryRoot D.isolationRoot plan runId events)
  let stored : StoredRun := ⟨request, intent, plan, run⟩
  requireBinding H stored
  return stored

/-- `_load_run`. -/
def loadStored (runId : String) : Candidacy StoredRun := do
  let events := L.readStream (runStream runId)
  let queued ← Checked.ofOption events.head? (CandidateError.api .notFound)
  agree (queued.eventType = StrEnum.value RunEventType.runQueued)
  let request ← ofApi (decodeRequest H D.contracts.run queued)
  agree (request.runId = runId)
  let admission ← ofApi (admissionEvents L request)
  decodeStored H D runId events queued request admission

end Load

/-- `_effective_run_status`. -/
def effectiveRunStatus (run : LoadedRun) : RunStatus :=
  match run.kernelState with
  | none => run.state.status
  | some kernel =>
    match kernel.status with
    | .admitted | .running | .replanning => .running
    | .succeeded => .succeeded
    | .replanRequired | .blocked | .escalated => .reconciliationRequired
    | .canceled => .canceled
    | .terminalFailure => .failed

/-! ### Expectations -/

/-- `ReplayCheckExpectation`, whose timeout is a positive number. -/
structure ReplayCheckExpectation where
  checkId : String
  argv : List String
  expectedExitCode : ℕ
  timeoutSeconds : JsonValue
  deriving DecidableEq

/-- `ReplayNodeExpectation`. -/
structure ReplayNodeExpectation where
  nodeId : String
  objective : String
  constraints : List String
  dependsOn : List String
  repositoryWrite : Bool
  effects : List PlanEffect
  allowedPaths : List String
  maxChangedPaths : ℕ
  checks : List ReplayCheckExpectation
  status : String
  attempt : ℕ
  fencingToken : ℕ
  leaseDigest : Option String
  worktreeSpecDigest : Option String
  baseCommit : Option String
  headCommit : Option String
  failureCode : Option String
  resultDigest : Option String
  providerContextDigest : Option String
  deriving DecidableEq

/-- What `_kernel_outcome` returns: the digest of the outcome of a task, and what is read of its
manifest. -/
structure NodeOutcome where
  digest : String
  runId : String
  nodeId : String
  attempt : ℕ
  status : String
  leaseDigest : String
  worktreeSpecDigest : String
  contextArtifact : Option String
  /-- The identifier of each recorded check, with the digest of its command. -/
  checks : List (String × String)

/-- What `build_review_context_from_artifacts` is called with. -/
structure ReviewContextRequest where
  runId : String
  projectId : String
  intentId : String
  planId : String
  objective : String
  constraints : List String
  baseCommit : String
  stateDigest : String
  nodes : List ReplayNodeExpectation
  requireExactConstraints : Bool

/-- The readers of artifacts, whose bytes do not change. -/
structure RunArtifacts (Context Prepared : Type) where
  /-- The service has a store of artifacts. -/
  available : Bool
  /-- `_kernel_outcome`. -/
  outcome : List String → Candidacy NodeOutcome
  /-- `_artifact_mapping`. -/
  mapping : String → Candidacy Mapping
  /-- The evidence digest of `verify_run_artifacts`. -/
  evidenceDigest : String → List ReplayNodeExpectation → Candidacy String
  /-- `build_review_context_from_artifacts`. -/
  reviewContext : ReviewContextRequest → Candidacy Context
  /-- What `prepare_verification` checks once it has the context of the review. -/
  admittedReview : VerificationEvidence → Context → Candidacy Prepared

section Expectations

variable (run : LoadedRun)

/-- The event ends a node under a lease. -/
def isTerminalInspection (nodeId leaseDigest : String) (e : EventEnvelope) : Bool :=
  (e.eventType = StrEnum.value RunEventType.nodeSucceeded ||
    e.eventType = StrEnum.value RunEventType.nodeFailed ||
    e.eventType = StrEnum.value RunEventType.nodeCanceled) &&
  e.payload.get "node_id" = .str nodeId && e.payload.get "lease_digest" = .str leaseDigest

/-- `_terminal_inspection_head`. -/
def terminalInspectionHead (events : List EventEnvelope) (nodeId : String)
    (leaseDigest : Option String) : Option String :=
  leaseDigest.bind fun digest ↦
    (events.reverse.find? (isTerminalInspection nodeId digest)).bind fun e ↦
      if e.payload.get "retained_worktree" = .bool true then
        (e.payload.get "inspection").fields?.bind fun inspection ↦
          (inspection.get "head_commit").text?
      else none

/-- The event dispatches a node to its provider under a lease. -/
def isDispatch (nodeId leaseDigest : String) (e : EventEnvelope) : Bool :=
  e.eventType = StrEnum.value RunEventType.nodeProviderDispatchStarted &&
  e.payload.get "node_id" = .str nodeId && e.payload.get "lease_digest" = .str leaseDigest

/-- `_provider_context_digest`. -/
def providerContextDigest (events : List EventEnvelope) (nodeId : String)
    (leaseDigest : Option String) : Option String :=
  leaseDigest.bind fun digest ↦
    (events.reverse.find? (isDispatch nodeId digest)).bind fun e ↦
      (e.payload.get "context_artifact_digest").text?

/-- The expectation of a node of the plan. -/
def nodeExpectation (intent : IntentRequest) (events : List EventEnvelope) (node : PlanNode)
    (state : NodeLifecycleState) : ReplayNodeExpectation where
  nodeId := node.nodeId
  objective := node.objective
  constraints := intent.constraints
  dependsOn := node.dependsOn
  repositoryWrite := node.isWriter
  effects := node.effects
  allowedPaths := node.allowedPaths
  maxChangedPaths := node.budget.maxChangedFiles
  checks := node.checks.map fun check ↦
    ⟨check.checkId, check.argv, check.expectedExitCode, .int node.budget.timeoutSeconds⟩
  status := StrEnum.value state.status
  attempt := state.attempts
  fencingToken := state.fencingToken
  leaseDigest := state.leaseDigest
  worktreeSpecDigest := state.worktreeSpecDigest
  baseCommit := state.worktreeSpec.bind fun spec ↦ (spec.get "base_commit").text?
  headCommit := terminalInspectionHead events state.nodeId state.leaseDigest
  failureCode := state.failureCode
  resultDigest := state.resultDigest
  providerContextDigest := providerContextDigest events state.nodeId state.leaseDigest

/-- `_artifact_expectations`. -/
def artifactExpectations (stored : StoredRun) : Candidacy (List ReplayNodeExpectation) :=
  stored.run.state.nodes.mapM fun state ↦ do
    let node ← Checked.ofOption (byId stored.plan.nodes state.nodeId) CandidateError.key
    return nodeExpectation stored.intent stored.run.events node state

/-- The timeout of checks in `_generated_authority`. -/
def authorityTimeout (plan : PlanRequest) : ℕ :=
  (plan.nodes.map (·.budget.timeoutSeconds)).min?.getD 0

/-- The changed paths in `_generated_authority`. -/
def authorityChangedPaths (plan : PlanRequest) : ℕ :=
  min 10000 (plan.nodes.map (·.budget.maxChangedFiles)).sum

/-- `_artifact_integer`. -/
def artifactInteger (value : Mapping) (field : String) : Candidacy ℕ := do
  let n ← found (value.get field).int?
  agree (0 ≤ n)
  return n.toNat

/-- `_artifact_number`: a positive number, which no Boolean is. -/
def artifactNumber (value : Mapping) (field : String) : Candidacy JsonValue := do
  let v := value.get field
  agree (v.bool? = none)
  let number ← found v.numeric?
  agree (0 < number)
  return v

/-- The constraint that a repeated attempt adds to those of the goal. -/
def isPriorAttempt (constraint : String) : Bool :=
  "prior-attempt:".toList.isPrefixOf constraint.toList && constraint.utf8ByteSize ≤ 2 * 1024

/-- `_kernel_context_constraints`. -/
def kernelContextConstraints (value : Mapping) (accepted : List String) : Candidacy (List String) := do
  let raw ← found (value.get "constraints").items?
  let constraints ← raw.mapM fun item ↦ found item.text?
  agree (accepted <+: constraints ∧ (constraints.length = accepted.length ∨
    constraints.length = accepted.length + 1 ∧ isPriorAttempt (constraints.getLast?.getD "")))
  return constraints

/-- The head of a dependency. -/
def dependencyHead (states : List ExecutionTaskState) (taskId : String) : Candidacy (Option String) := do
  let state ← Checked.ofOption (states.find? fun state ↦ state.taskId = taskId) CandidateError.key
  return state.headCommit

/-- `_kernel_task_base_commit`. -/
def kernelTaskBaseCommit (plan : Plan) (states : List ExecutionTaskState) (taskId : String) :
    Candidacy String := do
  let task ← found (plan.byId taskId)
  let heads ← task.dependsOn.mapM (dependencyHead states)
  match heads.dedup with
  | [] => return plan.baseCommit
  | [some head] => return head
  | _ => throw (.api .conflict)

variable {Context Prepared : Type} (A : RunArtifacts Context Prepared)

/-- What the context of a writing task says: its constraints, the paths it may change, and the digest
of the context. A task that only reads has none. -/
def taskContext (limit : ℕ) (accepted : List String) (task : TaskSpec) (outcome : NodeOutcome) :
    Candidacy (List String × ℕ × Option String) :=
  if task.isWriter then do
    let context ← found outcome.contextArtifact
    let raw ← A.mapping context
    let constraints ← kernelContextConstraints raw accepted
    let maxChangedPaths ← artifactInteger raw "max_changed_paths"
    agree (maxChangedPaths ≤ limit)
    return (constraints, maxChangedPaths, some context)
  else return (accepted, 0, none)

/-- The expectation of a check of a task. -/
def taskCheck (timeout : ℕ) (outcome : NodeOutcome) (check : VerificationCheck) :
    Candidacy ReplayCheckExpectation := do
  let command ← found (outcome.checks.lookup check.checkId)
  let raw ← A.mapping command
  let timeoutSeconds ← artifactNumber raw "timeout_seconds"
  agree ((timeoutSeconds.numeric?.getD 0) ≤ timeout)
  return ⟨check.checkId, check.argv, check.expectedExitCode, timeoutSeconds⟩

/-- The expectation of a task of a generated execution. -/
def taskExpectation (stored : StoredRun) (plan : Plan) (goal : GoalSpec)
    (states : List ExecutionTaskState) (task : TaskSpec) : Candidacy ReplayNodeExpectation := do
  let state ← found (states.find? fun state ↦ state.taskId = task.taskId)
  let outcome ← A.outcome state.lastArtifactDigests
  agree (state.status = .succeeded ∧ outcome.runId = stored.request.runId ∧
    outcome.nodeId = task.taskId ∧ outcome.attempt = state.attempts ∧ outcome.status = "succeeded")
  let baseCommit ← kernelTaskBaseCommit plan states task.taskId
  let (constraints, maxChangedPaths, context) ←
    taskContext A (authorityChangedPaths stored.plan) goal.constraints.1 task outcome
  let checks ← task.checks.1.mapM (taskCheck A (authorityTimeout stored.plan) outcome)
  return {
    nodeId := task.taskId
    objective := task.objective
    constraints := constraints
    dependsOn := task.dependsOn
    repositoryWrite := task.isWriter
    effects := if task.isWriter then [.repositoryRead, .repositoryWrite, .process]
      else [.repositoryRead, .process]
    allowedPaths := task.allowedPaths.1
    maxChangedPaths := maxChangedPaths
    checks := checks
    status := StrEnum.value state.status
    attempt := state.attempts
    fencingToken := state.attempts
    leaseDigest := some outcome.leaseDigest
    worktreeSpecDigest := some outcome.worktreeSpecDigest
    baseCommit := some baseCommit
    headCommit := state.headCommit
    failureCode := state.lastFailureClass.map StrEnum.value
    resultDigest := some outcome.digest
    providerContextDigest := context }

/-- The expectations of a generated execution. -/
def kernelExpectations (H : Host) (stored : StoredRun)
    (kernel : ExecutionRuntime.ExecutionRunState) : Candidacy (List ReplayNodeExpectation) := do
  agree (A.available)
  let plan ← kernelPlan H stored.run
  let goal ← kernelGoal H stored.run
  plan.tasks.1.mapM (taskExpectation A stored plan goal kernel.tasks)

/-- `_review_artifact_expectations`. -/
def reviewArtifactExpectations (H : Host) (stored : StoredRun) :
    Candidacy (List ReplayNodeExpectation) :=
  match stored.run.kernelState with
  | none => artifactExpectations stored
  | some kernel => kernelExpectations A H stored kernel

end Expectations

/-! ### Candidates -/

/-- The index of the last event with a property. -/
def lastIndex? (p : EventEnvelope → Bool) : List EventEnvelope → Option ℕ
  | [] => none
  | e :: es =>
    match lastIndex? p es with
    | some i => some (i + 1)
    | none => if p e then some 0 else none

/-- `_review_terminal_index`. -/
def reviewTerminalIndex (run : LoadedRun) : Option ℕ :=
  match run.kernelState with
  | none => lastIndex? (fun e ↦ e.eventType = StrEnum.value RunEventType.runSucceeded) run.events
  | some kernel =>
    if kernel.status = .succeeded then
      lastIndex? (fun e ↦ e.eventId = kernel.latestEventId) run.events
    else none

instance (H : Host) : DecidableEq (ReviewCandidate H) := fun a b ↦
  decidable_of_iff (a.evidence = b.evidence ∧ a.correlationId = b.correlationId)
    (by cases a; cases b; simp)

instance (H : Host) : DecidableEq (VerificationCandidate H) := fun a b ↦
  decidable_of_iff (a.evidence = b.evidence ∧ a.correlationId = b.correlationId)
    (by cases a; cases b; simp)

section Candidates

variable (H : Host) (D : Deployment) {Context Prepared : Type} (A : RunArtifacts Context Prepared)
  (L : Ledger)

/-- `ReviewCandidate(...)`. -/
def createReviewCandidate (evidence : ReviewEvidence) (correlationId : String) :
    Candidacy (ReviewCandidate H) :=
  if h : evidence.Valid ∧ Stage.isStageIdentifier correlationId ∧
      evidence.reviewId = reviewId H evidence.runId evidence.runEventDigest then
    .ok ⟨evidence, correlationId, h.1, h.2.1, h.2.2⟩
  else .error .lifecycle

/-- The part of the digested state that is about a generated execution. -/
def kernelSection (run : LoadedRun) (events : List EventEnvelope) : Candidacy Mapping :=
  match run.kernelState with
  | none => .ok []
  | some _ => do
    let kernel ← (project H events).mapError fun _ ↦ CandidateError.execution
    agree (kernel.any fun s ↦ s.status = .succeeded)
    return [("kernel", dumpState kernel)]

/-- The digest of the state of a run up to its terminal event. -/
def stateDigest (stored : StoredRun) (admission : AdmissionEvents) (terminalState : RunLifecycleState)
    (kernel : Mapping) : Candidacy String := do
  let project ← ofApi (requestValue admission.project)
  let intent ← ofApi (requestValue admission.intent)
  let plan ← ofApi (requestValue admission.plan)
  let run ← ofApi (requestValue stored.run.state.queuedEvent)
  return H.jsonDigest (.object ([("project", .object project), ("intent", .object intent),
    ("plan", .object plan), ("run", .object run),
    ("lifecycle", .object (runLifecyclePayload H terminalState))] ++ kernel))

/-- The candidate of a loaded run, with the events that it refers to. -/
def candidateOf (stored : StoredRun) (admission : AdmissionEvents) (index : ℕ)
    (terminal : EventEnvelope) : Candidacy (ReviewCandidate H) := do
  let events := stored.run.events.take (index + 1)
  let terminalState ← (foldRunLifecycle H stored.request.runId (nodeDependencies stored.plan)
    events).mapError fun _ ↦ CandidateError.lifecycle
  let kernel ← kernelSection H stored.run events
  let digest ← stateDigest H stored admission terminalState kernel
  let expectations ← reviewArtifactExpectations A H stored
  let evidence ← A.evidenceDigest stored.request.runId expectations
  createReviewCandidate H
    ⟨stored.request.runId, reviewId H stored.request.runId (terminal.payloadHash H),
      terminal.eventId, terminal.payloadHash H, digest, evidence⟩
    stored.run.state.queuedEvent.correlationId

/-- `_review_candidate`. -/
def reviewCandidateOf (stored : StoredRun) : Candidacy (ReviewCandidate H) := do
  let index ← found (reviewTerminalIndex stored.run)
  let terminal ← found stored.run.events[index]?
  let admission ← ofApi (admissionEvents L stored.request)
  candidateOf H A stored admission index terminal

/-- `review_candidate`. -/
def reviewCandidate (runId : String) : Candidacy (ReviewCandidate H) := do
  Checked.require (isWireIdentifier runId) (CandidateError.api .invalidRequest)
  let stored ← loadStored H D L runId
  agree (effectiveRunStatus stored.run = .succeeded)
  reviewCandidateOf H A L stored

/-- The constraints of a review. -/
def reviewConstraints (stored : StoredRun) : Candidacy (List String) :=
  match stored.run.kernelState with
  | none => .ok stored.intent.constraints
  | some _ => (·.constraints.1) <$> kernelGoal H stored.run

/-- What the context of a review is built from. -/
def reviewContextRequest (candidate : ReviewCandidate H) (stored : StoredRun) :
    Candidacy ReviewContextRequest := do
  let expectations ← reviewArtifactExpectations A H stored
  let constraints ← reviewConstraints H stored
  return {
    runId := candidate.evidence.runId
    projectId := stored.request.projectId
    intentId := stored.request.intentId
    planId := stored.request.planId
    objective := stored.intent.objective
    constraints := constraints
    baseCommit := stored.plan.baseCommit
    stateDigest := candidate.evidence.stateDigest
    nodes := expectations
    requireExactConstraints := stored.run.kernelState.isNone }

/-- The part of `prepare_review_context` that computes the candidate again. -/
def reviewMaterial (candidate : ReviewCandidate H) : Candidacy ReviewContextRequest := do
  let stored ← loadStored H D L candidate.evidence.runId
  agree (effectiveRunStatus stored.run = .succeeded)
  let current ← reviewCandidateOf H A L stored
  agree (current = candidate)
  reviewContextRequest H A candidate stored

/-- `prepare_review_context`. -/
def prepareReviewContext (candidate : ReviewCandidate H) : Candidacy Context := do
  let request ← reviewMaterial H D A L candidate
  A.reviewContext request

/-! ### Verification -/

/-- Raise a `VerificationSourceError` unless the value is present. -/
def sourced {α : Type} (x : Option α) (code : VerificationSourceFailureCode) : Candidacy α :=
  Checked.ofOption x (.source code)

/-- `VerificationCandidate(...)`. -/
def createVerificationCandidate (evidence : VerificationEvidence) (correlationId : String) :
    Candidacy (VerificationCandidate H) :=
  if h : evidence.Valid H ∧ Stage.isStageIdentifier correlationId then
    .ok ⟨evidence, correlationId, h.1, h.2⟩
  else .error .lifecycle

/-- The candidate of a review that has succeeded. -/
def verificationCandidateOf (runId : String) (state : ReviewLifecycle.ReviewLifecycleState) :
    Candidacy (VerificationCandidate H) := do
  let terminal := state.latestEvent
  let lease := state.fold.lease.evidence
  let acceptance ← sourced state.fold.acceptanceDigest .snapshotMismatch
  let context ← sourced state.fold.contextDigest .snapshotMismatch
  let proposal ← sourced state.fold.proposalArtifactDigest .snapshotMismatch
  let provider ← sourced state.fold.providerResultArtifactDigest .snapshotMismatch
  let admitted ← sourced state.fold.admittedArtifactDigest .snapshotMismatch
  let findingCount ← sourced state.fold.findingCount .snapshotMismatch
  createVerificationCandidate H
    ⟨runId, verificationId H runId (terminal.payloadHash H), lease.runEventId, lease.runEventDigest,
      lease.stateDigest, lease.artifactEvidenceDigest, lease.reviewId, terminal.eventId,
      terminal.payloadHash H, acceptance, context, proposal, provider, admitted, findingCount⟩
    terminal.correlationId

/-- `verification_candidate`. -/
def verificationCandidate (runId : String) : Candidacy (VerificationCandidate H) := do
  let events := L.readStream (reviewStream runId)
  Checked.require (events ≠ []) (CandidateError.source .notFound)
  let state ← (foldReviewLifecycle H runId events).mapError
    fun _ ↦ CandidateError.source .snapshotMismatch
  Checked.require (state.fold.status = .succeeded) (CandidateError.source .snapshotMismatch)
  verificationCandidateOf H runId state

/-- The exceptions of `prepare_review_context` that `prepare_verification` turns into one of its own. -/
def ofExecution {α : Type} (x : Candidacy α) : Candidacy α :=
  x.mapError fun
    | .api _ | .evidence => .source .executionEvidenceInvalid
    | error => error

/-- The candidate of the review that a verification is about. -/
def reviewOf (v : VerificationCandidate H) : Candidacy (ReviewCandidate H) :=
  createReviewCandidate H
    ⟨v.evidence.runId, v.evidence.reviewId, v.evidence.runEventId, v.evidence.runEventDigest,
      v.evidence.stateDigest, v.evidence.artifactEvidenceDigest⟩ v.correlationId

/-- `prepare_verification`. -/
def prepareVerification (candidate : VerificationCandidate H) : Candidacy Prepared := do
  let current ← verificationCandidate H L candidate.evidence.runId
  Checked.require (current = candidate) (CandidateError.source .snapshotMismatch)
  let review ← reviewOf H candidate
  let context ← ofExecution (prepareReviewContext H D A L review)
  A.admittedReview candidate.evidence context

end Candidates

end Blackcell.Bootstrap
