import Blackcell.Gateway.Router
import Blackcell.Orchestration.ExecutionRuntime.Runs

/-!
# Published output schemas

The schemas that the orchestration publishes to a provider through the model gateway: of a plan
draft (`execution_plan.py`), of a change proposal (`changes.py`) and of a review proposal
(`review.py`). Each bounds an array from below with `minItems`, which is not a keyword of the
gateway's vocabulary (`Blackcell.Gateway.supportedKeywords`).

## Main definitions

* `planDraftOutputSchema`, `changeProposalOutputSchema`, `reviewProposalOutputSchema` : the schemas.
* `OutputKind` : the three kinds of output.
* `Transports` : the gateway delivers a value.

## Main results

* `not_transports` : the gateway delivers no value of a published kind.
-/

namespace Blackcell.Orchestration

open Blackcell.Kernel Blackcell.Gateway Blackcell.Orchestration.ExecutionPlan

/-! ### Schemas -/

/-- The schema of an object with declared fields only, each with its schema. -/
def closedObject (properties : Mapping) : Mapping :=
  [("type", .str "object"), ("additionalProperties", .bool false),
    ("required", .ofTexts properties.keys), ("properties", .object properties)]

/-- The schema of an output: a closed object under the draft of JSON Schema. -/
def outputObject (properties : Mapping) : Mapping :=
  ("$schema", .str "https://json-schema.org/draft/2020-12/schema") :: closedObject properties

/-- The schema of a text whose length is bounded. -/
def textSchema (minLength maxLength : Int) : JsonValue :=
  .object [("type", .str "string"), ("minLength", .int minLength), ("maxLength", .int maxLength)]

/-- The schema of one of the given texts. -/
def choiceSchema (values : List String) : JsonValue :=
  .object [("type", .str "string"), ("enum", .ofTexts values)]

/-- The schema of one given text. -/
def constSchema (value : String) : JsonValue :=
  .object [("type", .str "string"), ("const", .str value)]

/-- The properties of a task of a plan draft. -/
def draftTaskProperties : Mapping := [
  ("task_id", textSchema 1 128),
  ("objective", textSchema 1 16384),
  ("depends_on", .object [("type", .str "array"), ("items", .object [("type", .str "string")])]),
  ("allowed_paths", .object [("type", .str "array"), ("items", .object [("type", .str "string")])]),
  ("checks", .object [("type", .str "array"), ("minItems", .int 1), ("maxItems", .int maxChecks),
    ("items", textSchema 1 128)])]

/-- The schema of the tasks of a plan draft. -/
def draftTasksSchema : Mapping :=
  [("type", .str "array"), ("minItems", .int 1), ("maxItems", .int maxTasks),
    ("items", .object (closedObject draftTaskProperties))]

/-- `PLAN_DRAFT_OUTPUT_SCHEMA`. -/
def planDraftOutputSchema : Mapping := outputObject [
  ("schema_version", constSchema executionPlanDraftSchema),
  ("tasks", .object draftTasksSchema)]

/-- The properties of an operation of a change proposal. -/
def operationProperties : Mapping := [
  ("operation", choiceSchema ["create", "replace", "delete"]),
  ("path", textSchema 1 4096),
  ("expected_digest", .object [("type", .ofTexts ["string", "null"]), ("maxLength", .int 71)]),
  ("content", .object [("type", .ofTexts ["string", "null"]), ("maxLength", .int (1024 * 1024))])]

/-- The schema of the operations of a change proposal. -/
def operationsSchema : Mapping :=
  [("type", .str "array"), ("minItems", .int 1), ("maxItems", .int 256),
    ("items", .object (closedObject operationProperties))]

/-- `CHANGE_PROPOSAL_OUTPUT_SCHEMA`. -/
def changeProposalOutputSchema : Mapping := outputObject [
  ("schema_version", constSchema "change-proposal/v1"),
  ("proposal_id", textSchema 1 128),
  ("evidence_digest", textSchema 71 71),
  ("operations", .object operationsSchema),
  ("summary", textSchema 1 (4 * 1024))]

/-- `_MAX_TEXT_BYTES` of a review. -/
def maxReviewTextBytes : Int := 4 * 1024

/-- `_MAX_FINDINGS`. -/
def maxFindings : Int := 64

/-- The schema of a line number, up to `_MAX_LINE`. -/
def lineSchema : JsonValue :=
  .object [("type", .str "integer"), ("minimum", .int 1), ("maximum", .int 10000000)]

/-- The schema of the citations of a finding or of an assessment. -/
def citationsSchema : Mapping :=
  [("type", .str "array"), ("minItems", .int 1), ("maxItems", .int 8), ("uniqueItems", .bool true),
    ("items", .object (closedObject [("evidence_id", textSchema 71 71),
      ("start_line", lineSchema), ("end_line", lineSchema)]))]

/-- The properties of a finding. -/
def findingProperties : Mapping := [
  ("finding_id", textSchema 1 128),
  ("category", choiceSchema ["correctness", "weakened-test", "altered-expected-output",
    "hidden-shortcut", "suppressed-failure", "scope-drift"]),
  ("severity", choiceSchema ["blocker", "high", "medium", "low"]),
  ("claim", textSchema 1 maxReviewTextBytes),
  ("impact", textSchema 1 maxReviewTextBytes),
  ("recommendation", textSchema 1 maxReviewTextBytes),
  ("citations", .object citationsSchema)]

/-- The values of `EpistemicDimension`. -/
def epistemicDimensions : List String :=
  ["evidence-grounding", "counterevidence", "acceptance-coverage", "causal-overreach",
    "scope-challenge", "uncertainty", "provenance-freshness", "independent-corroboration",
    "order-sensitivity"]

/-- The properties of an assessment. -/
def assessmentProperties : Mapping := [
  ("dimension", choiceSchema epistemicDimensions),
  ("disposition", choiceSchema ["supported", "concern", "unknown", "not-applicable"]),
  ("claim", textSchema 1 maxReviewTextBytes),
  ("falsification_question", textSchema 1 maxReviewTextBytes),
  ("citations", .object citationsSchema),
  ("finding_ids", .object [("type", .str "array"), ("maxItems", .int maxFindings),
    ("uniqueItems", .bool true), ("items", textSchema 1 128)])]

/-- The schema of the assessments of a review: one for each dimension. -/
def assessmentsSchema : Mapping :=
  [("type", .str "array"), ("minItems", .int epistemicDimensions.length),
    ("maxItems", .int epistemicDimensions.length),
    ("items", .object (closedObject assessmentProperties))]

/-- `REVIEW_PROPOSAL_OUTPUT_SCHEMA`. -/
def reviewProposalOutputSchema : Mapping := outputObject [
  ("schema_version", constSchema "review-proposal/v2"),
  ("context_digest", textSchema 71 71),
  ("findings", .object [("type", .str "array"), ("maxItems", .int maxFindings),
    ("items", .object (closedObject findingProperties))]),
  ("summary", textSchema 1 maxReviewTextBytes),
  ("epistemic_assessments", .object assessmentsSchema)]

/-! ### Transport -/

/-- The kinds of output that are published to a provider. -/
inductive OutputKind where
  | planDraft | changeProposal | reviewProposal

namespace OutputKind

/-- The schema of a kind. -/
def outputSchema : OutputKind → Mapping
  | planDraft => planDraftOutputSchema
  | changeProposal => changeProposalOutputSchema
  | reviewProposal => reviewProposalOutputSchema

/-- The schema of an array that a kind bounds from below. -/
def boundedArray : OutputKind → Mapping
  | planDraft => draftTasksSchema
  | changeProposal => operationsSchema
  | reviewProposal => assessmentsSchema

/-- The schema of the bounded array is a property of the schema of the kind. -/
theorem nested_boundedArray (kind : OutputKind) :
    Nested (.object kind.outputSchema) true (.object kind.boundedArray) false := by
  obtain ⟨name, properties, hproperties, hmem⟩ : ∃ name properties,
      kind.outputSchema.lookup "properties" = some (.object properties) ∧
        (name, JsonValue.object kind.boundedArray) ∈ properties := by
    cases kind with
    | planDraft => exact ⟨"tasks", _, rfl, List.mem_cons_of_mem _ List.mem_cons_self⟩
    | changeProposal => exact ⟨"operations", _, rfl, by simp [boundedArray]⟩
    | reviewProposal => exact ⟨"epistemic_assessments", _, rfl, by simp [boundedArray]⟩
  exact .property hproperties hmem (.here _ _)

theorem minItems_mem_boundedArray (kind : OutputKind) :
    "minItems" ∈ Mapping.keys kind.boundedArray := by
  cases kind <;> decide +kernel

end OutputKind

theorem minItems_not_mem_allowedKeywords : "minItems" ∉ allowedKeywords false := by
  decide

/-- An eligible route is selected for a request, its adapter answers with a payload, and the usage
that it reports is inside the budgets. -/
def Delivered (gateway : ModelGateway) (request : ModelRequest) (payload : Mapping) : Prop :=
  ∃ route result, gateway.select request = .ok route ∧
    route.1.2.invoke { request with budget := ModelGateway.effectiveBudget request route.1.1 }
      route.1.1.modelId = .ok result ∧
    Affords request route.1.1 result ∧ result.output = payload

/-- The gateway responds to a request with an output that is decoded to a value. -/
def Transports (H : Host) (gateway : ModelGateway) (request : ModelRequest) {α : Type}
    (decode : Mapping → Option α) (value : α) : Prop :=
  ∃ answer, gateway.invoke H request = .ok answer ∧ decode answer.response.output = some value

/-- **No value is transported.** Whatever the gateway, the request, the decoder and the value, the
gateway does not respond to a request with a published schema. -/
theorem not_transports (H : Host) (gateway : ModelGateway) (kind : OutputKind)
    (request : ModelRequest) (hschema : request.outputSchema = kind.outputSchema) {α : Type}
    (decode : Mapping → Option α) (value : α) : ¬Transports H gateway request decode value := by
  rintro ⟨answer, hanswer, -⟩
  refine ModelGateway.invoke_ne_ok ?_ kind.minItems_mem_boundedArray
    minItems_not_mem_allowedKeywords answer hanswer
  rw [hschema]
  exact kind.nested_boundedArray

namespace Sample

open ExecutionRuntime.Sample (documentHost goal draft plan)

/-- A profile with room for one hundred units of each kind. -/
def profile : GatewayProfile where
  profileId := "profile-1"
  capability := .reason
  adapterId := "adapter-1"
  modelId := "model-1"
  priority := 0
  isLocal := true
  deterministic := true
  maximumClassification := .internal
  maxInputTokens := 100
  maxOutputTokens := 100
  maxCostMicrousd := 100
  enabled := true
  identified := by decide +kernel

/-- What the adapter answers: the draft, at the cost of one unit of each kind. -/
def answer : AdapterResult := ⟨draft, some 1, some 1, 1, some 1, true⟩

def adapter : ModelAdapter := ⟨"adapter-1", [.reason], true, true, fun _ _ ↦ .ok answer⟩

/-- The gateway with this profile and this adapter. -/
def gateway : ModelGateway where
  profiles := [profile]
  adapters := [("adapter-1", adapter)]
  auditSink := none
  clock := 1767225600000000
  nodup_profiles := List.nodup_singleton _
  nodup_adapters := List.nodup_singleton _
  registered := List.forall_mem_singleton.mpr rfl

/-- The request for a draft of the plan. -/
def modelRequest : ModelRequest where
  requestId := "plan:goal-1"
  capability := .reason
  input := []
  outputSchema := planDraftOutputSchema
  classification := .internal
  locality := .localOnly
  budget := ⟨100, 100, 100, 100⟩
  estimatedInputTokens := 1
  correlationId := "run-1"
  runId := "run-1"
  nodeId := "plan"
  deterministicRequired := false
  causationId := none
  identified := by decide +kernel
  caused := nofun

theorem delivered : Delivered gateway modelRequest draft := by
  refine ⟨⟨(profile, adapter), by decide +kernel⟩, answer, rfl, rfl, ?_, rfl⟩
  exact ModelGateway.checkUsage_eq_ok.mp (rfl : ModelGateway.checkUsage modelRequest profile answer
    (gateway.completionOf documentHost answer) = .ok ())

end Sample

theorem not_transports_sample : ¬Transports ExecutionRuntime.Sample.documentHost Sample.gateway
    Sample.modelRequest (fun output ↦ some output) ExecutionRuntime.Sample.draft :=
  not_transports _ Sample.gateway .planDraft Sample.modelRequest rfl some _

/-- A draft that the compiler accepts is not transported, although an eligible profile and its
adapter deliver it inside the budgets. -/
theorem not_always_transports : ¬∀ (H : Host) (gateway : ModelGateway) (request : ModelRequest)
    (goal : GoalSpec) (draft : Mapping) (plan : Plan),
    compilePlan H goal draft none = .ok plan →
      request.outputSchema = OutputKind.planDraft.outputSchema → Delivered gateway request draft →
        Transports H gateway request (fun output ↦ (compilePlan H goal output none).toOption)
          plan := by
  intro h
  have hcompiled : compilePlan ExecutionRuntime.Sample.documentHost ExecutionRuntime.Sample.goal
      ExecutionRuntime.Sample.draft none = .ok ExecutionRuntime.Sample.plan := by decide +kernel
  obtain ⟨answer, hanswer, -⟩ := h _ Sample.gateway Sample.modelRequest _ _ _ hcompiled rfl
    Sample.delivered
  exact ModelGateway.invoke_ne_ok OutputKind.planDraft.nested_boundedArray
    OutputKind.planDraft.minItems_mem_boundedArray minItems_not_mem_allowedKeywords answer hanswer

end Blackcell.Orchestration
