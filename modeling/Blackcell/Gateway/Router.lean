import Blackcell.Gateway.Models
import Blackcell.Gateway.Schema
import Blackcell.Kernel.Event

/-!
# The model gateway

The router of `gateway/router.py`. A request is admitted on the best of the profiles that satisfy
its policy, the adapter of the profile is invoked once, and what the adapter reports is held against
the budgets of the request and of the profile before the output is held against the schema.

An adapter, the audit sink and the clock are outside of this code: an adapter and the sink are
functions that may raise, and the clock is the instant that it shows.

## Main definitions

* `ModelRequest`, `AdapterResult`, `GatewayProfile`, `ModelAdapter` : what goes into the gateway.
* `ModelGateway.select`, `ModelGateway.prepare`, `ModelGateway.invokePrepared`,
  `ModelGateway.invoke` : the gateway.
* `Affords` : a result is inside the budgets.

## Main results

* `ModelGateway.invoke_eq_ok` : what an invocation that returns is.
* `ModelGateway.invoke_ne_ok` : a schema outside of the vocabulary gets no response.
-/

namespace Blackcell.Gateway

open Blackcell.Kernel

/-! ### Requests and results -/

/-- `ModelCapability`. -/
inductive ModelCapability where
  | reason | code | review | verify | embed
  deriving DecidableEq, Repr

/-- `GatewayFailureCode`. -/
inductive GatewayFailureCode where
  | requestInputBudgetExceeded
  | noProfile
  | preparedCallInvalid
  | adapterInputBudgetExceeded
  | profileInputLimitExceeded
  | adapterOutputBudgetExceeded
  | profileOutputLimitExceeded
  | adapterLatencyBudgetExceeded
  | adapterCostBudgetExceeded
  | profileCostLimitExceeded
  | profileDeterminismViolated
  | requestDeterminismViolated
  deriving DecidableEq, Repr

/-- `ModelRequest`. The constructor of the source refuses a request that allows tools. -/
structure ModelRequest where
  requestId : String
  capability : ModelCapability
  input : Mapping
  outputSchema : Mapping
  classification : DataClassification
  locality : LocalityPolicy
  budget : GatewayBudget
  estimatedInputTokens : Nat
  correlationId : String
  runId : String
  nodeId : String
  deterministicRequired : Bool
  causationId : Option String
  identified : ∀ s ∈ [requestId, correlationId, runId, nodeId], isBlank s = false
  caused : ∀ s ∈ causationId, isBlank s = false
  deriving DecidableEq

/-- `AdapterResult`. -/
structure AdapterResult where
  output : Mapping
  inputTokens : Option Nat
  outputTokens : Option Nat
  latencyMs : Nat
  costMicrousd : Option Nat
  deterministic : Bool
  deriving DecidableEq

/-- `GatewayCompletion`: evidence of a call without the content of it. -/
structure GatewayCompletion where
  outputDigest : String
  inputTokens : Option Nat
  outputTokens : Option Nat
  latencyMs : Nat
  costMicrousd : Option Nat
  deterministic : Bool
  completedAt : Timestamp
  deriving DecidableEq

/-- `RoutingDecision`. -/
structure RoutingDecision where
  profileId : String
  adapterId : String
  modelId : String
  capability : ModelCapability
  isLocal : Bool
  deterministic : Bool
  deriving DecidableEq

/-- `ModelResponse`. -/
structure ModelResponse where
  requestId : String
  output : Mapping
  profileId : String
  adapterId : String
  modelId : String
  inputTokens : Option Nat
  outputTokens : Option Nat
  latencyMs : Nat
  costMicrousd : Option Nat
  deterministic : Bool
  completedAt : Timestamp
  deriving DecidableEq

/-- `GatewayAuditRecord`. -/
structure GatewayAuditRecord where
  requestId : String
  capability : ModelCapability
  classification : DataClassification
  profileId : String
  adapterId : String
  modelId : String
  correlationId : String
  runId : String
  nodeId : String
  inputTokens : Option Nat
  outputTokens : Option Nat
  latencyMs : Nat
  costMicrousd : Option Nat
  deterministic : Bool

/-- `GatewayResult`. -/
structure GatewayResult where
  decision : RoutingDecision
  response : ModelResponse
  deriving DecidableEq

/-- `PreparedGatewayCall`: a route with the checks of its constructor. -/
structure PreparedGatewayCall where
  request : ModelRequest
  decision : RoutingDecision
  effectiveBudget : GatewayBudget
  capability : decision.capability = request.capability
  isLocal : request.locality = .localOnly → decision.isLocal = true
  deterministic : request.deterministicRequired = true → decision.deterministic = true
  maxInputTokens : effectiveBudget.maxInputTokens ≤ request.budget.maxInputTokens
  maxOutputTokens : effectiveBudget.maxOutputTokens ≤ request.budget.maxOutputTokens
  maxLatencyMs : effectiveBudget.maxLatencyMs ≤ request.budget.maxLatencyMs
  maxCostMicrousd : effectiveBudget.maxCostMicrousd ≤ request.budget.maxCostMicrousd
  deriving DecidableEq

/-- What an invocation raises: a refusal of the gateway, an output that its schema refuses, or an
error of the adapter or of the audit sink. -/
inductive GatewayError where
  | admission (code : GatewayFailureCode) (message : String) (completion : Option GatewayCompletion)
  | outputSchema (error : OutputSchemaError) (completion : GatewayCompletion)
  | adapter (message : String)
  | audit (message : String)
  deriving DecidableEq

/-- A step of the gateway. -/
abbrev Routed := Except GatewayError

/-! ### Profiles and adapters -/

/-- `GatewayProfile`. -/
structure GatewayProfile where
  profileId : String
  capability : ModelCapability
  adapterId : String
  modelId : String
  priority : Nat
  isLocal : Bool
  deterministic : Bool
  maximumClassification : DataClassification
  maxInputTokens : Nat
  maxOutputTokens : Nat
  maxCostMicrousd : Nat
  enabled : Bool
  identified : ∀ s ∈ [profileId, adapterId, modelId], isBlank s = false

/-- `ModelAdapter`. -/
structure ModelAdapter where
  adapterId : String
  capabilities : List ModelCapability
  isLocal : Bool
  deterministic : Bool
  invoke : ModelRequest → String → Routed AdapterResult

/-- `ModelGateway`, with the checks of its constructor. -/
structure ModelGateway where
  profiles : List GatewayProfile
  adapters : List (String × ModelAdapter)
  auditSink : Option (GatewayAuditRecord → Routed Unit)
  clock : Timestamp
  nodup_profiles : (profiles.map GatewayProfile.profileId).Nodup
  nodup_adapters : (adapters.map Prod.fst).Nodup
  registered : ∀ entry ∈ adapters, entry.1 = entry.2.adapterId

/-- The policy of a request admits a profile with its adapter. -/
def Eligible (request : ModelRequest) (profile : GatewayProfile) (adapter : ModelAdapter) : Prop :=
  profile.enabled = true ∧ profile.capability = request.capability ∧
    request.capability ∈ adapter.capabilities ∧
    profile.isLocal = adapter.isLocal ∧ profile.deterministic = adapter.deterministic ∧
    (request.locality = .localOnly → adapter.isLocal = true) ∧
    (request.deterministicRequired = true → adapter.deterministic = true) ∧
    request.classification.value ≤ profile.maximumClassification.value ∧
    request.estimatedInputTokens ≤ profile.maxInputTokens

instance (request : ModelRequest) (profile : GatewayProfile) (adapter : ModelAdapter) :
    Decidable (Eligible request profile adapter) :=
  inferInstanceAs (Decidable (_ ∧ _))

/-- The order of the candidates: `(priority, profile_id)`. -/
def Precedes (a b : GatewayProfile) : Prop :=
  a.priority < b.priority ∨ a.priority = b.priority ∧ a.profileId ≤ b.profileId

instance (a b : GatewayProfile) : Decidable (Precedes a b) :=
  inferInstanceAs (Decidable (_ ∨ _))

/-- What an adapter reports is inside the budget of the request and the limits of the profile. -/
structure Affords (request : ModelRequest) (profile : GatewayProfile) (result : AdapterResult) :
    Prop where
  inputTokens : ∀ n ∈ result.inputTokens,
    n ≤ request.budget.maxInputTokens ∧ n ≤ profile.maxInputTokens
  outputTokens : ∀ n ∈ result.outputTokens,
    n ≤ request.budget.maxOutputTokens ∧ n ≤ profile.maxOutputTokens
  latencyMs : result.latencyMs ≤ request.budget.maxLatencyMs
  costMicrousd : ∀ n ∈ result.costMicrousd,
    n ≤ request.budget.maxCostMicrousd ∧ n ≤ profile.maxCostMicrousd
  deterministic : profile.deterministic = true ∨ request.deterministicRequired = true →
    result.deterministic = true

namespace ModelGateway

variable (H : Host) (gateway : ModelGateway)

/-- Raise a refusal of the gateway unless a condition holds. -/
def ensure (p : Prop) [Decidable p] (code : GatewayFailureCode) (message : String)
    (completion : Option GatewayCompletion) : Routed Unit :=
  Checked.require p (.admission code message completion)

@[simp] theorem admit_eq_ok {p : Prop} [Decidable p] {code : GatewayFailureCode} {message : String}
    {completion : Option GatewayCompletion} {u : Unit} :
    ensure p code message completion = .ok u ↔ p := Checked.require_eq_ok

/-- The profiles that satisfy the policy of a request, each with its adapter. -/
def candidates (request : ModelRequest) :
    List { route : GatewayProfile × ModelAdapter // Eligible request route.1 route.2 } :=
  gateway.profiles.filterMap fun profile ↦
    (gateway.adapters.lookup profile.adapterId).bind fun adapter ↦
      if h : Eligible request profile adapter then some ⟨(profile, adapter), h⟩ else none

/-- `_select`. -/
def select (request : ModelRequest) :
    Routed { route : GatewayProfile × ModelAdapter // Eligible request route.1 route.2 } := do
  ensure (request.estimatedInputTokens ≤ request.budget.maxInputTokens)
    .requestInputBudgetExceeded "request exceeds its input-token budget" none
  match (gateway.candidates request).insertionSort fun a b ↦ Precedes a.1.1 b.1.1 with
  | [] => throw (.admission .noProfile "no model profile satisfies the request policy" none)
  | route :: _ => pure route

/-- `_decision`. -/
def decision (request : ModelRequest) (profile : GatewayProfile) (adapter : ModelAdapter) :
    RoutingDecision where
  profileId := profile.profileId
  adapterId := adapter.adapterId
  modelId := profile.modelId
  capability := request.capability
  isLocal := adapter.isLocal
  deterministic := adapter.deterministic

/-- `_effective_budget`. -/
def effectiveBudget (request : ModelRequest) (profile : GatewayProfile) : GatewayBudget where
  maxInputTokens := min request.budget.maxInputTokens profile.maxInputTokens
  maxOutputTokens := min request.budget.maxOutputTokens profile.maxOutputTokens
  maxLatencyMs := request.budget.maxLatencyMs
  maxCostMicrousd := min request.budget.maxCostMicrousd profile.maxCostMicrousd

end ModelGateway

/-- The route of an eligible profile. -/
def PreparedGatewayCall.ofRoute (request : ModelRequest)
    (route : { route : GatewayProfile × ModelAdapter // Eligible request route.1 route.2 }) :
    PreparedGatewayCall where
  request := request
  decision := ModelGateway.decision request route.1.1 route.1.2
  effectiveBudget := ModelGateway.effectiveBudget request route.1.1
  capability := rfl
  isLocal := route.2.2.2.2.2.2.1
  deterministic := route.2.2.2.2.2.2.2.1
  maxInputTokens := min_le_left _ _
  maxOutputTokens := min_le_left _ _
  maxLatencyMs := le_rfl
  maxCostMicrousd := min_le_left _ _

namespace ModelGateway

variable (H : Host) (gateway : ModelGateway)

/-- `prepare`. -/
def prepare (request : ModelRequest) : Routed PreparedGatewayCall := do
  let route ← gateway.select request
  pure (.ofRoute request route)

/-- `_profile_adapter`. -/
def profileAdapter (decision : RoutingDecision) : Routed (GatewayProfile × ModelAdapter) :=
  match gateway.profiles.find? fun profile ↦ profile.profileId = decision.profileId,
    gateway.adapters.lookup decision.adapterId with
  | some profile, some adapter => pure (profile, adapter)
  | _, _ => throw (.admission .preparedCallInvalid
      "prepared gateway route is no longer registered" none)

/-- The checks on what an adapter reports, in the order of the source. -/
def checkUsage (request : ModelRequest) (profile : GatewayProfile) (result : AdapterResult)
    (completion : GatewayCompletion) : Routed Unit := do
  ensure (∀ n ∈ result.inputTokens, n ≤ request.budget.maxInputTokens)
    .adapterInputBudgetExceeded "adapter exceeded the input-token budget" completion
  ensure (∀ n ∈ result.inputTokens, n ≤ profile.maxInputTokens)
    .profileInputLimitExceeded "adapter exceeded the profile input-token limit" completion
  ensure (∀ n ∈ result.outputTokens, n ≤ request.budget.maxOutputTokens)
    .adapterOutputBudgetExceeded "adapter exceeded the output-token budget" completion
  ensure (∀ n ∈ result.outputTokens, n ≤ profile.maxOutputTokens)
    .profileOutputLimitExceeded "adapter exceeded the profile output-token limit" completion
  ensure (result.latencyMs ≤ request.budget.maxLatencyMs)
    .adapterLatencyBudgetExceeded "adapter exceeded the latency budget" completion
  ensure (∀ n ∈ result.costMicrousd, n ≤ request.budget.maxCostMicrousd)
    .adapterCostBudgetExceeded "adapter exceeded the cost budget" completion
  ensure (∀ n ∈ result.costMicrousd, n ≤ profile.maxCostMicrousd)
    .profileCostLimitExceeded "adapter exceeded the profile cost limit" completion
  ensure (profile.deterministic = true → result.deterministic = true)
    .profileDeterminismViolated
    "adapter returned a non-deterministic result for a deterministic profile" completion
  ensure (request.deterministicRequired = true → result.deterministic = true)
    .requestDeterminismViolated "adapter returned a non-deterministic result" completion

/-- The evidence that a call completed. -/
def completionOf (result : AdapterResult) : GatewayCompletion where
  outputDigest := H.jsonDigest (.object result.output)
  inputTokens := result.inputTokens
  outputTokens := result.outputTokens
  latencyMs := result.latencyMs
  costMicrousd := result.costMicrousd
  deterministic := result.deterministic
  completedAt := gateway.clock

/-- The response to a request. -/
def responseOf (request : ModelRequest) (profile : GatewayProfile) (adapter : ModelAdapter)
    (result : AdapterResult) : ModelResponse where
  requestId := request.requestId
  output := result.output
  profileId := profile.profileId
  adapterId := adapter.adapterId
  modelId := profile.modelId
  inputTokens := result.inputTokens
  outputTokens := result.outputTokens
  latencyMs := result.latencyMs
  costMicrousd := result.costMicrousd
  deterministic := result.deterministic
  completedAt := gateway.clock

/-- `_audit`. -/
def audit (request : ModelRequest) (response : ModelResponse) : Routed Unit :=
  match gateway.auditSink with
  | none => pure ()
  | some record => record {
      requestId := request.requestId
      capability := request.capability
      classification := request.classification
      profileId := response.profileId
      adapterId := response.adapterId
      modelId := response.modelId
      correlationId := request.correlationId
      runId := request.runId
      nodeId := request.nodeId
      inputTokens := response.inputTokens
      outputTokens := response.outputTokens
      latencyMs := response.latencyMs
      costMicrousd := response.costMicrousd
      deterministic := response.deterministic }

/-- `validate_output`, whose error the gateway completes. -/
def validate (result : AdapterResult) (schema : Mapping) (completion : GatewayCompletion) :
    Routed Unit :=
  (validateOutput result.output schema).mapError (.outputSchema · completion)

/-- `invoke_prepared`. -/
def invokePrepared (call : PreparedGatewayCall) : Routed GatewayResult := do
  let expected ← gateway.prepare call.request
  ensure (call = expected) .preparedCallInvalid
    "prepared gateway call no longer matches gateway policy" none
  let (profile, adapter) ← gateway.profileAdapter expected.decision
  let result ← adapter.invoke { call.request with budget := call.effectiveBudget } profile.modelId
  let completion := gateway.completionOf H result
  checkUsage call.request profile result completion
  validate result call.request.outputSchema completion
  let response := gateway.responseOf call.request profile adapter result
  gateway.audit call.request response
  pure ⟨call.decision, response⟩

/-- `invoke`. -/
def invoke (request : ModelRequest) : Routed GatewayResult := do
  let call ← gateway.prepare request
  gateway.invokePrepared H call

section Accepted

variable {H gateway} {request : ModelRequest} {profile : GatewayProfile} {adapter : ModelAdapter}
  {result : AdapterResult} {completion : GatewayCompletion}

/-- A usage that passes the checks is affordable. -/
theorem checkUsage_eq_ok {u : Unit} :
    checkUsage request profile result completion = .ok u ↔ Affords request profile result := by
  simp only [checkUsage, Checked.bind_eq_ok, admit_eq_ok, Checked.exists_unit]
  constructor
  · rintro ⟨hinput, hinput', houtput, houtput', hlatency, hcost, hcost', hprofile, hrequest⟩
    exact ⟨fun n hn ↦ ⟨hinput n hn, hinput' n hn⟩, fun n hn ↦ ⟨houtput n hn, houtput' n hn⟩,
      hlatency, fun n hn ↦ ⟨hcost n hn, hcost' n hn⟩, fun h ↦ h.elim hprofile hrequest⟩
  · intro h
    exact ⟨fun n hn ↦ (h.inputTokens n hn).1, fun n hn ↦ (h.inputTokens n hn).2,
      fun n hn ↦ (h.outputTokens n hn).1, fun n hn ↦ (h.outputTokens n hn).2, h.latencyMs,
      fun n hn ↦ (h.costMicrousd n hn).1, fun n hn ↦ (h.costMicrousd n hn).2,
      fun hp ↦ h.deterministic (.inl hp), fun hr ↦ h.deterministic (.inr hr)⟩

/-- An output that passes is one that the schema accepts. -/
theorem validate_eq_ok {schema : Mapping} {u : Unit} :
    validate result schema completion = .ok u ↔ validateOutput result.output schema = .ok () := by
  cases h : validateOutput result.output schema <;> simp [validate, Except.mapError, h]

/-- A candidate is a registered profile with its adapter. -/
theorem mem_candidates {route : { route : GatewayProfile × ModelAdapter //
    Eligible request route.1 route.2 }} :
    route ∈ gateway.candidates request ↔
      route.1.1 ∈ gateway.profiles ∧
        gateway.adapters.lookup route.1.1.adapterId = some route.1.2 := by
  obtain ⟨⟨profile, adapter⟩, heligible⟩ := route
  simp only [candidates, List.mem_filterMap, Option.bind_eq_some_iff]
  constructor
  · rintro ⟨p, hp, a, ha, hroute⟩
    split at hroute
    · obtain ⟨rfl, rfl⟩ : p = profile ∧ a = adapter := by simpa using hroute
      exact ⟨hp, ha⟩
    · cases hroute
  · rintro ⟨hp, ha⟩
    exact ⟨profile, hp, adapter, ha, dif_pos heligible⟩

/-- The selected route is a candidate. -/
theorem mem_of_select {route : { route : GatewayProfile × ModelAdapter //
    Eligible request route.1 route.2 }} (h : gateway.select request = .ok route) :
    route ∈ gateway.candidates request := by
  simp only [select, Checked.bind_eq_ok] at h
  obtain ⟨_, -, h⟩ := h
  split at h
  · cases h
  · rename_i first rest hsorted
    obtain rfl : first = route := by simpa using h
    rw [← List.mem_insertionSort fun a b ↦ Precedes a.1.1 b.1.1, hsorted]
    exact List.mem_cons_self

/-- The route of a decision is the one that was selected: profiles are found by their ids. -/
theorem profileAdapter_of_select {route : { route : GatewayProfile × ModelAdapter //
    Eligible request route.1 route.2 }} (h : gateway.select request = .ok route) :
    gateway.profileAdapter (decision request route.1.1 route.1.2) = .ok route.1 := by
  obtain ⟨hprofile, hadapter⟩ := mem_candidates.mp (mem_of_select h)
  obtain ⟨⟨profile, adapter⟩, heligible⟩ := route
  have hid : profile.adapterId = adapter.adapterId := by
    obtain ⟨before, after, hsplit, -⟩ := List.lookup_eq_some_iff.mp hadapter
    exact gateway.registered (profile.adapterId, adapter) (by simp [hsplit])
  have hfind : gateway.profiles.find? (fun p ↦ p.profileId = profile.profileId) = some profile := by
    cases hfound : gateway.profiles.find? fun p ↦ p.profileId = profile.profileId with
    | none => simpa using List.find?_eq_none.mp hfound profile hprofile
    | some p =>
      have hsame : p.profileId = profile.profileId := by simpa using List.find?_some hfound
      rw [List.inj_on_of_nodup_map gateway.nodup_profiles (List.mem_of_find?_eq_some hfound)
        hprofile hsame]
  dsimp only [profileAdapter, decision] at hadapter ⊢
  rw [hfind, ← hid, hadapter]
  rfl

/-- A prepared call is invoked on the route that was selected. -/
theorem invokePrepared_ofRoute {route : { route : GatewayProfile × ModelAdapter //
    Eligible request route.1 route.2 }} (h : gateway.select request = .ok route) :
    gateway.invokePrepared H (.ofRoute request route) = (do
      let result ← route.1.2.invoke { request with budget := effectiveBudget request route.1.1 }
        route.1.1.modelId
      checkUsage request route.1.1 result (gateway.completionOf H result)
      validate result request.outputSchema (gateway.completionOf H result)
      let response := gateway.responseOf request route.1.1 route.1.2 result
      gateway.audit request response
      pure ⟨decision request route.1.1 route.1.2, response⟩) := by
  have hprepare : gateway.prepare request = .ok (.ofRoute request route) := by
    rw [prepare, h]
    rfl
  have hroute : gateway.profileAdapter (PreparedGatewayCall.ofRoute request route).decision =
      .ok route.1 := profileAdapter_of_select h
  simp only [invokePrepared]
  rw [show (PreparedGatewayCall.ofRoute request route).request = request from rfl, hprepare,
    Checked.ok_bind, ensure, Checked.require_bind_of_true rfl, hroute, Checked.ok_bind]
  rfl

/-- **What an invocation that returns is.** The adapter of the selected profile was invoked with the
effective budget, its usage is affordable, the schema of the request accepts its output, and the
response carries that output. -/
theorem invoke_eq_ok {answer : GatewayResult} :
    gateway.invoke H request = .ok answer ↔ ∃ route, gateway.select request = .ok route ∧
      ∃ result, route.1.2.invoke { request with budget := effectiveBudget request route.1.1 }
          route.1.1.modelId = .ok result ∧
        Affords request route.1.1 result ∧
        validateOutput result.output request.outputSchema = .ok () ∧
        gateway.audit request (gateway.responseOf request route.1.1 route.1.2 result) = .ok () ∧
        answer = ⟨decision request route.1.1 route.1.2,
          gateway.responseOf request route.1.1 route.1.2 result⟩ := by
  simp only [invoke, prepare, Checked.bind_eq_ok, Checked.pure_eq_ok]
  constructor
  · rintro ⟨_, ⟨route, hroute, rfl⟩, h⟩
    rw [invokePrepared_ofRoute hroute] at h
    simp only [Checked.bind_eq_ok, checkUsage_eq_ok, validate_eq_ok, Checked.exists_unit,
      Checked.pure_eq_ok] at h
    obtain ⟨result, hresult, hafford, hvalid, haudit, rfl⟩ := h
    exact ⟨route, hroute, result, hresult, hafford, hvalid, haudit, rfl⟩
  · rintro ⟨route, hroute, result, hresult, hafford, hvalid, haudit, rfl⟩
    refine ⟨_, ⟨route, hroute, rfl⟩, ?_⟩
    rw [invokePrepared_ofRoute hroute]
    simp only [Checked.bind_eq_ok, checkUsage_eq_ok, validate_eq_ok, Checked.exists_unit,
      Checked.pure_eq_ok]
    exact ⟨result, hresult, hafford, hvalid, haudit, rfl⟩

/-- No response comes from a schema with an unsupported keyword at some depth. -/
theorem invoke_ne_ok {fields : Mapping} {key : String} {below : Bool}
    (hnested : Nested (.object request.outputSchema) true (.object fields) below)
    (hkey : key ∈ Mapping.keys fields) (hunsupported : key ∉ allowedKeywords below)
    (answer : GatewayResult) : gateway.invoke H request ≠ .ok answer := by
  intro h
  obtain ⟨_, -, _, -, -, hvalid, -⟩ := invoke_eq_ok.mp h
  exact validateOutput_ne_ok hnested hkey hunsupported hvalid

end Accepted

end ModelGateway

end Blackcell.Gateway
