import Blackcell.Gateway.CliAdapters
import Blackcell.Orchestration.ExecutionPlan.Policy
import Blackcell.Orchestration.ExecutionPlan.RoundTrip
import Blackcell.Orchestration.OutputSchemas

/-!
# The planner

The planner of `adapters/models/planner.py`: it asks the model gateway for the draft of a plan, and
hands on what the gateway responds with the usage that the adapter reported.

## Main definitions

* `proposePlan` : the planner.
* `Reported` : a planning result that hands on an answer of a shipped adapter.

## Main results

* `proposePlan_ne_ok` : the planner returns no draft.
* `Reported.costMicrousd` : the cost of a draft is not reported.
-/

namespace Blackcell.Orchestration

open Blackcell.Kernel Blackcell.Gateway Blackcell.Orchestration.ExecutionPlan

/-- What `propose_plan` raises. -/
inductive PlannerError where
  | gateway (error : GatewayError)
  | contract (error : PlanContractError)
  | invalidPlanningGatewayResult

/-- `planning_payload`: what a provider is told of a goal. -/
def planningPayload (goal : GoalSpec) : Mapping := [
  ("schema_version", .str executionGoalSchema),
  ("goal_id", .str goal.goalId),
  ("project_id", .str goal.projectId),
  ("intent_id", .str goal.intentId),
  ("objective", .str goal.objective),
  ("constraints", .ofTexts goal.constraints.1),
  ("allowed_paths", .ofTexts goal.allowedPaths.1),
  ("verification_check_ids", .ofTexts (goal.verificationChecks.1.map (·.checkId))),
  ("max_attempts", .int goal.maxAttempts),
  ("same_error_limit", .int goal.sameErrorLimit)]

theorem isBlank_of_uncaused : ∀ c ∈ (none : Option String), isBlank c = false := by simp

/-- The request of the planner to the gateway. -/
def gatewayRequest (request : PlanningRequest) : ModelRequest where
  requestId := "plan:" ++ request.goal.goalId
  capability := .reason
  input := planningPayload request.goal
  outputSchema := planDraftOutputSchema
  classification := request.classification
  locality := request.locality
  budget := request.budget
  estimatedInputTokens := request.estimatedInputTokens
  correlationId := request.correlationId
  runId := request.runId
  nodeId := "plan"
  deterministicRequired := false
  causationId := none
  identified := by
    have hplan : isBlank ("plan:" ++ request.goal.goalId) = false := by
      simp [isBlank, String.toList_append, show isSpace 'p' = false from by decide]
    simp only [List.forall_mem_cons, List.not_mem_nil, false_imp_iff, implies_true, and_true]
    exact ⟨hplan, isBlank_of_isPlanIdentifier request.identifiers.1,
      isBlank_of_isPlanIdentifier request.identifiers.2, by decide +kernel⟩
  caused := isBlank_of_uncaused

/-- What the planner returns for a response: the constructor checks the identifiers. -/
def planningResult (H : Host) (response : ModelResponse) : Except PlannerError PlanningResult :=
  if h : isPlanIdentifier response.profileId ∧ isPlanIdentifier response.adapterId ∧
      isPlanIdentifier response.modelId then
    .ok {
      draft := response.output
      providerOutputDigest := H.jsonDigest (.object response.output)
      profileId := response.profileId
      adapterId := response.adapterId
      modelId := response.modelId
      inputTokens := response.inputTokens
      outputTokens := response.outputTokens
      latencyMs := response.latencyMs
      costMicrousd := response.costMicrousd
      isDigest := H.isHexDigest_jsonDigest _
      identifiers := h }
  else .error (.contract .invalidExecutionContract)

/-- `propose_plan`. -/
def proposePlan (H : Host) (gateway : ModelGateway) (request : PlanningRequest) :
    Except PlannerError PlanningResult := do
  let result ← (gateway.invoke H (gatewayRequest request)).mapError PlannerError.gateway
  Checked.require (result.decision.capability = .reason ∧
    result.response.requestId = (gatewayRequest request).requestId ∧
    result.response.profileId = result.decision.profileId ∧
    result.response.adapterId = result.decision.adapterId ∧
    result.response.modelId = result.decision.modelId) .invalidPlanningGatewayResult
  planningResult H result.response

/-- **No draft.** The planner always raises, since the gateway refuses the schema of a draft. -/
theorem proposePlan_ne_ok (H : Host) (gateway : ModelGateway) (request : PlanningRequest)
    (result : PlanningResult) : proposePlan H gateway request ≠ .ok result := by
  intro h
  simp only [proposePlan, Checked.bind_eq_ok] at h
  obtain ⟨answer, hanswer, -⟩ := h
  cases hinvoke : gateway.invoke H (gatewayRequest request) with
  | error error => simp [hinvoke, Except.mapError] at hanswer
  | ok answer =>
    exact ModelGateway.invoke_ne_ok OutputKind.planDraft.nested_boundedArray
      OutputKind.planDraft.minItems_mem_boundedArray minItems_not_mem_allowedKeywords answer hinvoke

/-- A planning result hands on an answer of a shipped adapter, which any gateway has delivered. -/
def Reported (H : Host) (result : PlanningResult) : Prop :=
  ∃ (gateway : ModelGateway) (request : ModelRequest) (profile : GatewayProfile)
    (adapter : ModelAdapter) (answer : AdapterResult), FromCli answer ∧
    Affords request profile answer ∧
    planningResult H (gateway.responseOf request profile adapter answer) = .ok result

/-- **No cost.** The cost of a draft is not reported. -/
theorem Reported.costMicrousd {H : Host} {result : PlanningResult} (h : Reported H result) :
    result.costMicrousd = none := by
  obtain ⟨gateway, request, profile, adapter, answer, hcli, -, hresult⟩ := h
  unfold planningResult at hresult
  split at hresult
  · cases hresult
    exact hcli.costMicrousd
  · cases hresult

end Blackcell.Orchestration
