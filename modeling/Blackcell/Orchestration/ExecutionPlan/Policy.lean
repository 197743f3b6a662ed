import Blackcell.Gateway.Models
import Blackcell.Orchestration.ExecutionPlan.Plan

/-!
# Requests, evidence and policy

The values that pass between the coordinator of a run, its planning provider and its task executor,
and the policy kernel of `orchestration/execution_plan.py`: the authorization of a tool action, and
the route that the evidence of an attempt takes.

## Main definitions

* `PlanningRequest`, `PlanningResult` : what a planning provider is asked, and what it answers.
* `ToolActionRequest`, `PolicyDecision` : a proposed action, and the decision bound to it.
* `AttemptEvidence`, `AttemptEvidence.errorSignature` : what an attempt leaves behind.
* `authorize`, `route` : `ExecutionPolicyKernel`.

## Main results

* `authorize_eq_allowed` : the tasks of a plan are authorized within their attempts.
* `route_eq_succeeded` : the evidence that succeeds.
-/

namespace Blackcell.Orchestration.ExecutionPlan

open Blackcell.Kernel Blackcell.Gateway

/-! ### Planning -/

/-- `PlanningRequest`. -/
structure PlanningRequest where
  goal : GoalSpec
  classification : DataClassification
  locality : LocalityPolicy
  budget : GatewayBudget
  estimatedInputTokens : Nat
  correlationId : String
  runId : String
  identifiers : isPlanIdentifier correlationId ∧ isPlanIdentifier runId

/-- `PlanningResult`. -/
structure PlanningResult where
  draft : Mapping
  providerOutputDigest : String
  profileId : String
  adapterId : String
  modelId : String
  inputTokens : Option Nat
  outputTokens : Option Nat
  latencyMs : Nat
  costMicrousd : Option Nat
  isDigest : isHexDigest providerOutputDigest
  identifiers : isPlanIdentifier profileId ∧ isPlanIdentifier adapterId ∧ isPlanIdentifier modelId

/-! ### Actions and decisions -/

/-- `ToolActionRequest`. -/
structure ToolActionRequest where
  runId : String
  planId : String
  taskId : String
  attempt : Nat
  capability : String
  allowedPaths : { paths // IsPathTuple paths }
  destructive : Bool
  identifiers : isPlanIdentifier runId ∧ isPlanIdentifier planId ∧ isPlanIdentifier taskId ∧
    isPlanIdentifier capability
  positive : 1 ≤ attempt

namespace ToolActionRequest

/-- The constructor, with the capability that the coordinator asks for. -/
def create (runId planId taskId : String) (attempt : Nat) (allowedPaths : List String) :
    Contract ToolActionRequest := do
  let allowedPaths ← pathTuple allowedPaths
  if h : isPlanIdentifier runId ∧ isPlanIdentifier planId ∧ isPlanIdentifier taskId ∧
      1 ≤ attempt then
    pure ⟨runId, planId, taskId, attempt, "repository-task", allowedPaths, false,
      ⟨h.1, h.2.1, h.2.2.1, by decide⟩, h.2.2.2⟩
  else throw .invalidExecutionContract

/-- `digest`: it binds a decision to the exact proposed action. -/
def digest (H : Host) (r : ToolActionRequest) : String :=
  H.jsonDigest (.object [
    ("run_id", .str r.runId),
    ("plan_id", .str r.planId),
    ("task_id", .str r.taskId),
    ("attempt", .int r.attempt),
    ("capability", .str r.capability),
    ("allowed_paths", .ofTexts r.allowedPaths.1),
    ("destructive", .bool r.destructive)])

theorem create_eq_ok {runId planId taskId : String} {attempt : Nat} {allowedPaths : List String}
    {r : ToolActionRequest} (h : create runId planId taskId attempt allowedPaths = .ok r) :
    r.runId = runId ∧ r.planId = planId ∧ r.taskId = taskId ∧ r.attempt = attempt ∧
      r.capability = "repository-task" ∧ pathTuple allowedPaths = .ok r.allowedPaths ∧
      r.destructive = false := by
  simp only [create, Checked.bind_eq_ok] at h
  obtain ⟨p, hp, h⟩ := h
  split at h
  · obtain rfl := Checked.pure_eq_ok.mp h
    exact ⟨rfl, rfl, rfl, rfl, rfl, hp, rfl⟩
  · exact absurd h (by simp)

/-- A request for a task of a plan is accepted, when its paths are. -/
theorem exists_create {runId planId taskId : String} {attempt : Nat}
    {paths : { paths // IsPathTuple paths }} (hrun : isPlanIdentifier runId)
    (hplan : isPlanIdentifier planId) (htask : isPlanIdentifier taskId) (hattempt : 1 ≤ attempt)
    (hpaths : pathTuple paths.1 = .ok paths) :
    ∃ r, create runId planId taskId attempt paths.1 = .ok r ∧ r.allowedPaths = paths := by
  refine ⟨⟨runId, planId, taskId, attempt, "repository-task", paths, false,
    ⟨hrun, hplan, htask, by decide⟩, hattempt⟩, ?_, rfl⟩
  simp [create, hpaths, hrun, hplan, htask, hattempt]

end ToolActionRequest

/-- `PolicyDecision`. -/
@[ext]
structure PolicyDecision where
  allowed : Bool
  reason : String
  actionDigest : String
  valid : isPlanIdentifier reason ∧ isHexDigest actionDigest

namespace PolicyDecision

/-- The constructor. -/
def create (allowed : Bool) (reason actionDigest : String) : Contract PolicyDecision :=
  if h : isPlanIdentifier reason ∧ isHexDigest actionDigest then
    .ok ⟨allowed, reason, actionDigest, h⟩
  else .error .invalidExecutionContract

@[simp] theorem create_eq_ok {allowed : Bool} {reason actionDigest : String} {d : PolicyDecision} :
    create allowed reason actionDigest = .ok d ↔
      d.allowed = allowed ∧ d.reason = reason ∧ d.actionDigest = actionDigest := by
  unfold create
  split
  · rw [Except.ok.injEq, PolicyDecision.ext_iff]
    simp only [eq_comm]
  · rename_i h
    simp only [reduceCtorEq, false_iff]
    rintro ⟨rfl, rfl, rfl⟩
    exact h d.valid

/-- `decision_id`. -/
def decisionId (H : Host) (d : PolicyDecision) : String :=
  H.jsonDigest (.object [
    ("allowed", .bool d.allowed),
    ("reason", .str d.reason),
    ("action_digest", .str d.actionDigest)])

end PolicyDecision

/-! ### Evidence -/

/-- A sorted tuple of digests. -/
def IsDigestTuple (digests : List String) : Prop :=
  IsSortedSet digests ∧ digests ≠ [] ∧ ∀ d ∈ digests, isHexDigest d

instance (digests : List String) : Decidable (IsDigestTuple digests) :=
  inferInstanceAs (Decidable (_ ∧ _ ∧ _))

/-- A failure summary: some text, of at most 4 KiB. -/
def isFailureSummary (s : String) : Bool := !isBlank s && s.utf8ByteSize ≤ 4096

/-- What the constructor of evidence demands of the outcome: a class and a summary of the failure
exactly when the verification did not pass. -/
def AttemptEvidence.IsOutcome (verifierExitCode : Nat) (requiredChecksPassed : Bool)
    (failureClass : Option FailureClass) (failureSummary : Option String) : Prop :=
  if verifierExitCode = 0 ∧ requiredChecksPassed then failureClass = none ∧ failureSummary = none
  else failureClass.isSome ∧ failureSummary.any isFailureSummary

instance (verifierExitCode : Nat) (requiredChecksPassed : Bool)
    (failureClass : Option FailureClass) (failureSummary : Option String) :
    Decidable (AttemptEvidence.IsOutcome verifierExitCode requiredChecksPassed failureClass
      failureSummary) :=
  inferInstanceAs (Decidable (ite _ _ _))

/-- `AttemptEvidence`. -/
@[ext]
structure AttemptEvidence where
  workspaceClean : Bool
  verifierExitCode : Nat
  requiredChecksPassed : Bool
  failureClass : Option FailureClass
  failureSummary : Option String
  artifactDigests : { digests // IsDigestTuple digests }
  progressDigests : { digests // IsDigestTuple digests }
  headCommit : String
  inputTokens : Option Nat
  outputTokens : Option Nat
  latencyMs : Nat
  costMicrousd : Option Nat
  isExitCode : verifierExitCode ≤ 255
  isOutcome : AttemptEvidence.IsOutcome verifierExitCode requiredChecksPassed failureClass
    failureSummary
  progress_subset : ∀ d ∈ progressDigests.1, d ∈ artifactDigests.1
  isCommit : isCommit headCommit

namespace AttemptEvidence

/-- The verification passed. -/
def passed (e : AttemptEvidence) : Bool := e.verifierExitCode = 0 && e.requiredChecksPassed

/-- The constructor, on digests that it would leave alone. -/
def create (workspaceClean : Bool) (verifierExitCode : Nat) (requiredChecksPassed : Bool)
    (failureClass : Option FailureClass) (failureSummary : Option String)
    (artifactDigests progressDigests : List String) (headCommit : String)
    (inputTokens outputTokens : Option Nat) (latencyMs : Nat) (costMicrousd : Option Nat) :
    Contract AttemptEvidence := do
  let artifactDigests ← Checked.certify IsDigestTuple (sortedSet artifactDigests)
    PlanContractError.invalidExecutionContract
  let progressDigests ← Checked.certify IsDigestTuple (sortedSet progressDigests)
    PlanContractError.invalidExecutionContract
  if h : verifierExitCode ≤ 255 ∧
      IsOutcome verifierExitCode requiredChecksPassed failureClass failureSummary ∧
      (∀ d ∈ progressDigests.1, d ∈ artifactDigests.1) ∧ Kernel.isCommit headCommit then
    pure ⟨workspaceClean, verifierExitCode, requiredChecksPassed, failureClass, failureSummary,
      artifactDigests, progressDigests, headCommit, inputTokens, outputTokens, latencyMs,
      costMicrousd, h.1, h.2.1, h.2.2.1, h.2.2.2⟩
  else throw .invalidExecutionContract

/-- The constructor keeps the fields of evidence. -/
theorem create_self (e : AttemptEvidence) :
    create e.workspaceClean e.verifierExitCode e.requiredChecksPassed e.failureClass
      e.failureSummary e.artifactDigests.1 e.progressDigests.1 e.headCommit e.inputTokens
      e.outputTokens e.latencyMs e.costMicrousd = .ok e := by
  have hartifacts : Checked.certify IsDigestTuple (sortedSet e.artifactDigests.1)
      PlanContractError.invalidExecutionContract = .ok e.artifactDigests :=
    Checked.certify_eq_ok.mpr e.artifactDigests.2.1.sortedSet_eq.symm
  have hprogress : Checked.certify IsDigestTuple (sortedSet e.progressDigests.1)
      PlanContractError.invalidExecutionContract = .ok e.progressDigests :=
    Checked.certify_eq_ok.mpr e.progressDigests.2.1.sortedSet_eq.symm
  have h : e.verifierExitCode ≤ 255 ∧
      IsOutcome e.verifierExitCode e.requiredChecksPassed e.failureClass e.failureSummary ∧
      (∀ d ∈ e.progressDigests.1, d ∈ e.artifactDigests.1) ∧ Kernel.isCommit e.headCommit :=
    ⟨e.isExitCode, e.isOutcome, e.progress_subset, e.isCommit⟩
  simp only [create, hartifacts, hprogress, Checked.ok_bind, dif_pos h]
  rfl

/-- What accepted evidence holds. -/
theorem create_eq_ok {workspaceClean : Bool} {verifierExitCode : Nat} {requiredChecksPassed : Bool}
    {failureClass : Option FailureClass} {failureSummary : Option String}
    {artifactDigests progressDigests : List String} {headCommit : String}
    {inputTokens outputTokens : Option Nat} {latencyMs : Nat} {costMicrousd : Option Nat}
    {e : AttemptEvidence}
    (h : create workspaceClean verifierExitCode requiredChecksPassed failureClass failureSummary
      artifactDigests progressDigests headCommit inputTokens outputTokens latencyMs costMicrousd =
        .ok e) :
    (e.workspaceClean = workspaceClean ∧ e.verifierExitCode = verifierExitCode ∧
      e.requiredChecksPassed = requiredChecksPassed) ∧
    (e.failureClass = failureClass ∧ e.failureSummary = failureSummary) ∧
    e.headCommit = headCommit ∧ e.inputTokens = inputTokens ∧ e.outputTokens = outputTokens ∧
    e.latencyMs = latencyMs ∧ e.costMicrousd = costMicrousd ∧
    e.artifactDigests.1 = sortedSet artifactDigests ∧
    e.progressDigests.1 = sortedSet progressDigests := by
  simp only [create, Checked.bind_eq_ok, Checked.certify_eq_ok] at h
  obtain ⟨_, ha, _, hp, h⟩ := h
  split at h
  · obtain rfl := Checked.pure_eq_ok.mp h
    exact ⟨⟨rfl, rfl, rfl⟩, ⟨rfl, rfl⟩, rfl, rfl, rfl, rfl, rfl, ha, hp⟩
  · exact absurd h (by simp)

/-- `re.sub(r"\b\d+\b", "#", text)`: a maximal run of word characters that are all digits becomes
one mark. -/
def maskNumbers (H : Host) (s : List Char) : List Char :=
  (s.splitBy fun a b ↦ H.isWord a && H.isWord b).flatMap fun run ↦
    if run.all H.isDecimal then ['#'] else run

/-- `re.sub(r"\s+", " ", text).strip()`. -/
def collapseSpaces (s : List Char) : List Char :=
  [' '].intercalate ((s.splitOnP isSpace).filter (· ≠ []))

/-- `error_signature`. -/
def errorSignature (H : Host) (e : AttemptEvidence) : Option String :=
  e.failureSummary.map fun summary ↦
    H.jsonDigest (.object [
      ("failure_class", .ofText? (e.failureClass.map StrEnum.value)),
      ("summary", .str (String.ofList
        (collapseSpaces (maskNumbers H (H.casefold summary).toList))))])

theorem failureClass_eq_none {e : AttemptEvidence} : e.failureClass = none ↔ e.passed = true := by
  have h := e.isOutcome
  unfold IsOutcome at h
  unfold passed
  split at h <;> rename_i hp
  · simp [hp, h.1]
  · cases hc : e.failureClass with
    | none => simp [hc] at h
    | some c => simpa using hp

theorem failureSummary_eq_none {e : AttemptEvidence} :
    e.failureSummary = none ↔ e.passed = true := by
  have h := e.isOutcome
  unfold IsOutcome at h
  unfold passed
  split at h <;> rename_i hp
  · simp [hp, h.2]
  · cases hc : e.failureSummary with
    | none => simp [hc] at h
    | some c => simpa using hp

theorem failureSummary_ne_empty (e : AttemptEvidence) : e.failureSummary ≠ some "" := by
  have h := e.isOutcome
  unfold IsOutcome at h
  split at h
  · simp [h.2]
  · intro hempty
    rw [hempty] at h
    exact absurd h.2 (by decide)

end AttemptEvidence

/-! ### The policy kernel -/

/-- `ExecutionPolicyKernel.authorize`. -/
def authorize (H : Host) (goal : GoalSpec) (plan : Plan) (task : TaskSpec)
    (request : ToolActionRequest) : Contract PolicyDecision :=
  if request.runId = "" ∨ request.planId ≠ plan.planId ∨ request.taskId ≠ task.taskId ∨
      request.capability ≠ "repository-task" ∨ request.destructive ∨
      ¬(1 ≤ request.attempt ∧ request.attempt ≤ min goal.maxAttempts task.maxAttempts) ∨
      ¬(∀ p ∈ request.allowedPaths.1, p ∈ goal.allowedPaths.1) ∨
      request.allowedPaths.1 ≠ task.allowedPaths.1 then
    PolicyDecision.create false "intent-scope-violation" (request.digest H)
  else PolicyDecision.create true "bounded-task-authorized" (request.digest H)

/-- `ExecutionPolicyKernel.route`. -/
def route (goal : GoalSpec) (task : TaskSpec) (evidence : AttemptEvidence)
    (attempt sameErrorCount : Nat) (newEvidence : Bool) : AttemptRoute :=
  if !evidence.workspaceClean then .blocked
  else if evidence.verifierExitCode = 0 ∧ evidence.requiredChecksPassed then .succeeded
  else if evidence.failureClass = some .missingDependency ∨
      evidence.failureClass = some .invalidAssumption then .replanRequired
  else if goal.sameErrorLimit ≤ sameErrorCount ∧ !newEvidence then .escalated
  else if min goal.maxAttempts task.maxAttempts ≤ attempt then .escalated
  else if evidence.failureClass = some .transient ∨ evidence.failureClass = some .logicBug ∨
      evidence.failureClass = some .contractMismatch then .repairable
  else if evidence.failureClass = some .policy then .blocked
  else .terminalFailure

/-- Every decision of the kernel is a valid one, bound to the requested action. -/
theorem exists_authorize (H : Host) (goal : GoalSpec) (plan : Plan) (task : TaskSpec)
    (request : ToolActionRequest) :
    ∃ d, authorize H goal plan task request = .ok d ∧ d.actionDigest = request.digest H := by
  have hdigest : isHexDigest (request.digest H) := H.isHexDigest_jsonDigest _
  unfold authorize PolicyDecision.create
  split
  · exact ⟨_, dif_pos ⟨by decide, hdigest⟩, rfl⟩
  · exact ⟨_, dif_pos ⟨by decide, hdigest⟩, rfl⟩

/-- **Authorization.** A task of the plan whose paths are within the goal is authorized within its
attempts. -/
theorem authorize_eq_allowed {H : Host} {goal : GoalSpec} {plan : Plan} {task : TaskSpec}
    {request : ToolActionRequest} {d : PolicyDecision}
    (h : authorize H goal plan task request = .ok d) (hrun : request.runId ≠ "")
    (hplan : request.planId = plan.planId) (htask : request.taskId = task.taskId)
    (hcapability : request.capability = "repository-task") (hdestructive : request.destructive = false)
    (hattempt : request.attempt ≤ min goal.maxAttempts task.maxAttempts)
    (hpaths : request.allowedPaths.1 = task.allowedPaths.1)
    (hgoal : ∀ p ∈ task.allowedPaths.1, p ∈ goal.allowedPaths.1) : d.allowed = true := by
  have hpositive := request.positive
  rw [authorize, if_neg, PolicyDecision.create_eq_ok] at h
  · exact h.1
  · simp only [hrun, hplan, htask, hcapability, hdestructive, hattempt, hpositive, hpaths]
    simpa using hgoal

/-- **Success.** An attempt succeeds exactly when its workspace is clean and its verification
passed. -/
theorem route_eq_succeeded {goal : GoalSpec} {task : TaskSpec} {evidence : AttemptEvidence}
    {attempt sameErrorCount : Nat} {newEvidence : Bool} :
    route goal task evidence attempt sameErrorCount newEvidence = .succeeded ↔
      evidence.workspaceClean = true ∧ evidence.passed = true := by
  unfold route AttemptEvidence.passed
  by_cases hclean : evidence.workspaceClean = true
  · by_cases hpassed : evidence.verifierExitCode = 0 ∧ evidence.requiredChecksPassed = true
    · simp [hclean, hpassed]
    · have hpassed' : ¬(decide (evidence.verifierExitCode = 0) && evidence.requiredChecksPassed) =
          true := by simpa using hpassed
      simp only [hclean, Bool.not_true, Bool.false_eq_true, if_false, if_neg hpassed, hpassed',
        and_false, iff_false]
      repeat' split <;> try simp
  · simp [hclean]

/-- An attempt is repaired only while attempts are left. -/
theorem lt_of_route_eq_repairable {goal : GoalSpec} {task : TaskSpec} {evidence : AttemptEvidence}
    {attempt sameErrorCount : Nat} {newEvidence : Bool}
    (h : route goal task evidence attempt sameErrorCount newEvidence = .repairable) :
    attempt < min goal.maxAttempts task.maxAttempts := by
  by_contra hle
  have hle : min goal.maxAttempts task.maxAttempts ≤ attempt := by omega
  unfold route at h
  simp only [hle, if_true] at h
  repeat' split at h
  all_goals simp at h

end Blackcell.Orchestration.ExecutionPlan
