import Blackcell.Bootstrap.ReviewCandidates

/-!
# What is shown of a run

What `bootstrap/runtime_service.py` shows of a run in a search and in the window of the newest runs: the
run itself, its nodes or the tasks of its generated execution, and the usage of that execution.

## Main definitions

* `RunQueryItem`, `runQueryItem` : what is shown of a run.
* `Presentable` : the runs that can be shown.

## Main results

* `exists_runQueryItem` : a run is shown exactly when it is presentable.
* `runQueryItem_spec` : the identity of a run that is shown.
-/

namespace Blackcell.Bootstrap

open Blackcell.Kernel
open Blackcell.Interfaces.Http hiding check check_eq_ok
open Blackcell.Orchestration Blackcell.Orchestration.RunLifecycle
open Blackcell.Orchestration.ExecutionPlan (Plan TaskLifecycleStatus TaskSpec)
open Blackcell.Orchestration.ExecutionRuntime (ExecutionRunState ExecutionTaskState)

/-- `MAX_RUN_QUERY_PAGE_SIZE`. -/
def maxRunQueryPageSize : ℕ := 100

/-- `MAX_RUN_QUERY_SCAN_EVENTS`. -/
def maxRunQueryScanEvents : ℕ := 1000

/-- The events that are read at once. -/
def scanBatch : ℕ := 200

/-- The exceptions of a query. -/
inductive QueryError where
  /-- An exception of the loading of a run, or of its plan. -/
  | candidate (error : CandidateError)
  /-- `RuntimeApiError`. -/
  | api (code : RuntimeApiFailureCode)
  /-- `WireContractError`. -/
  | wire
  /-- An exception of the database. -/
  | database (error : DatabaseError)
  /-- `KeyError`. -/
  | key
  /-- `ValueError`, of the maximum of nothing. -/
  | value
  deriving DecidableEq

/-- A step of a query. -/
abbrev Querying := Except QueryError

/-- A condition of a wire contract. -/
def wire (p : Prop) [Decidable p] : Querying PUnit := Checked.require p .wire

/-! ### What is shown of a run -/

/-- Identifiers that `_unique_identifiers` of the wire contracts accepts. -/
def UniqueWireIdentifiers (values : List String) : Prop :=
  values.length ≤ 64 ∧ (∀ value ∈ values, isWireIdentifier value) ∧ values.Nodup

instance (values : List String) : Decidable (UniqueWireIdentifiers values) :=
  inferInstanceAs (Decidable (_ ∧ _ ∧ _))

/-- `RunNodeQueryResponse`. -/
structure RunNodeQueryResponse where
  nodeId : String
  status : String
  attempts : ℕ
  fencingToken : ℕ
  failureCode : Option String
  retainedWorktree : Bool
  headCommit : Option String
  dependsOn : List String
  maxAttempts : Option ℕ

/-- What the constructor of `RunNodeQueryResponse` demands. -/
def IsRunNode (nodeId : String) (dependsOn : List String) (maxAttempts : Option ℕ) : Prop :=
  isWireIdentifier nodeId ∧ UniqueWireIdentifiers dependsOn ∧ ∀ n ∈ maxAttempts, 1 ≤ n ∧ n ≤ 3

instance (nodeId : String) (dependsOn : List String) (maxAttempts : Option ℕ) :
    Decidable (IsRunNode nodeId dependsOn maxAttempts) :=
  inferInstanceAs (Decidable (_ ∧ _ ∧ _))

/-- `RunNodeQueryResponse(...)`. -/
def RunNodeQueryResponse.create (r : RunNodeQueryResponse) : Querying RunNodeQueryResponse := do
  wire (IsRunNode r.nodeId r.dependsOn r.maxAttempts)
  return r

/-- `RunBudgetUsageResponse`. -/
structure RunBudgetUsageResponse where
  inputTokens : ℕ
  inputTokensComplete : Bool
  maxInputTokens : ℕ
  outputTokens : ℕ
  outputTokensComplete : Bool
  maxOutputTokens : ℕ
  latencyMs : ℕ
  maxLatencyMs : ℕ
  costMicrousd : ℕ
  costMicrousdComplete : Bool
  maxCostMicrousd : ℕ

/-- The numbers of a usage are those of the wire. -/
def RunBudgetUsageResponse.IsBounded (r : RunBudgetUsageResponse) : Prop :=
  ∀ n ∈ [r.inputTokens, r.maxInputTokens, r.outputTokens, r.maxOutputTokens, r.latencyMs,
    r.maxLatencyMs, r.costMicrousd, r.maxCostMicrousd], n ≤ 2 ^ 63 - 1

instance (r : RunBudgetUsageResponse) : Decidable r.IsBounded :=
  inferInstanceAs (Decidable (∀ n ∈ _, _))

/-- `RunBudgetUsageResponse(...)`. -/
def RunBudgetUsageResponse.create (r : RunBudgetUsageResponse) : Querying RunBudgetUsageResponse := do
  wire r.IsBounded
  return r

/-- `RunResponse`. -/
structure RunResponse where
  runId : String
  projectId : String
  intentId : String
  planId : String
  status : RunStatus
  cancellationRequested : Bool
  activeNodeId : Option String
  attempt : ℕ
  fencingToken : ℕ
  retainedWorktree : Bool
  principalId : String
  eventId : String
  cursor : ℤ
  eventDigest : String

/-- `RunQueryItem`. -/
structure RunQueryItem where
  queuedCursor : ℤ
  run : RunResponse
  nodes : List RunNodeQueryResponse
  usage : Option RunBudgetUsageResponse

section Item

variable (H : Host) (stored : StoredRun)

/-- The tasks of a generated execution. -/
def kernelTasks (run : LoadedRun) : List ExecutionTaskState :=
  (run.kernelState.map (·.tasks)).getD []

/-- The task is at work. -/
def ExecutionTaskState.isActive (task : ExecutionTaskState) : Bool :=
  [TaskLifecycleStatus.ready, .running, .verifying].contains task.status

/-- `max(...)` of some numbers, none when there are none. -/
def maximumOf (values : List ℕ) : Querying ℕ := Checked.ofOption values.max? .value

/-- `_run_response`. -/
def fullRunResponse : Querying RunResponse := do
  let run := stored.run
  let event ← (presentedEvent run).mapError QueryError.api
  let attempt ← maximumOf (run.state.nodes.map (·.attempts))
  let fencingToken ← maximumOf (run.state.nodes.map (·.fencingToken))
  let principalId ← (eventPrincipal run.state.queuedEvent).mapError QueryError.api
  let cursor ← (globalPosition event).mapError QueryError.api
  return {
    runId := stored.request.runId
    projectId := stored.request.projectId
    intentId := stored.request.intentId
    planId := stored.request.planId
    status := effectiveRunStatus run
    cancellationRequested := run.state.cancellationRequested ||
      run.kernelState.any fun kernel ↦ kernel.status = .canceled
    activeNodeId :=
      (((kernelTasks run).find? (ExecutionTaskState.isActive ·)).map (·.taskId)).or
        (run.state.activeLease.map (·.nodeId))
    attempt := max attempt (((kernelTasks run).map (·.attempts)).max?.getD 0)
    fencingToken := fencingToken
    retainedWorktree := run.state.nodes.any (·.retainedWorktree) ||
      run.kernelState.any fun kernel ↦ kernel.retainedWorkspaceIds ≠ [] ||
        kernel.tasks.any (·.retainedWorkspaceId.isSome)
    principalId := principalId
    eventId := event.eventId
    cursor := cursor
    eventDigest := event.payloadHash H }

/-- A node of the plan in `_run_query_item`. -/
def publicNode (plan : PlanRequest) (node : NodeLifecycleState) : Querying RunNodeQueryResponse := do
  let declared ← Checked.ofOption (byId plan.nodes node.nodeId) QueryError.key
  RunNodeQueryResponse.create ⟨node.nodeId, StrEnum.value node.status, node.attempts,
    node.fencingToken, node.failureCode, node.retainedWorktree, node.headCommit, declared.dependsOn,
    none⟩

/-- A task of a generated execution in `_run_query_item`. -/
def kernelNode (plan : Plan) (task : ExecutionTaskState) : Querying RunNodeQueryResponse := do
  let declared ← Checked.ofOption (plan.byId task.taskId) QueryError.key
  RunNodeQueryResponse.create ⟨task.taskId, StrEnum.value task.status, task.attempts, 0,
    task.lastFailureClass.map StrEnum.value, task.retainedWorkspaceId.isSome, task.headCommit,
    declared.dependsOn, some declared.maxAttempts⟩

/-- The usage of a generated execution. -/
def usageOf (kernel : ExecutionRunState) : RunBudgetUsageResponse where
  inputTokens := kernel.inputTokens
  inputTokensComplete := kernel.inputTokensComplete
  maxInputTokens := kernel.budget.maxInputTokens
  outputTokens := kernel.outputTokens
  outputTokensComplete := kernel.outputTokensComplete
  maxOutputTokens := kernel.budget.maxOutputTokens
  latencyMs := kernel.latencyMs
  maxLatencyMs := kernel.budget.maxLatencyMs
  costMicrousd := kernel.costMicrousd
  costMicrousdComplete := kernel.costMicrousdComplete
  maxCostMicrousd := kernel.budget.maxCostMicrousd

/-- The nodes and the usage in `_run_query_item`. -/
def queryNodes : Querying (List RunNodeQueryResponse × Option RunBudgetUsageResponse) :=
  match stored.run.kernelState with
  | none => do
    let nodes ← stored.run.state.nodes.mapM (publicNode stored.plan)
    return (nodes, none)
  | some kernel => do
    let plan ← (kernelPlan H stored.run).mapError QueryError.candidate
    let nodes ← kernel.tasks.mapM (kernelNode plan)
    let usage ← (usageOf kernel).create
    return (nodes, some usage)

/-- `_run_query_item`. -/
def runQueryItem : Querying RunQueryItem := do
  let (nodes, usage) ← queryNodes H stored
  let queuedCursor ← (globalPosition stored.run.state.queuedEvent).mapError QueryError.api
  let run ← fullRunResponse H stored
  return ⟨queuedCursor, run, nodes, usage⟩

/-! ### The runs that can be shown -/

/-- What is shown of the run itself exists. -/
structure HasResponse : Prop where
  latest : ∃ e, presentedEvent stored.run = .ok e ∧ e.globalPosition.isSome
  nodes : stored.run.state.nodes ≠ []
  principal : stored.run.state.queuedEvent.payload.get "principal_id" =
    .str stored.run.state.queuedEvent.actor
  position : stored.run.state.queuedEvent.globalPosition.isSome

/-- The nodes of a run without a generated execution are declared, with identifiers of the wire. -/
def HasPublicNodes : Prop :=
  ∀ node ∈ stored.run.state.nodes, ∃ declared, byId stored.plan.nodes node.nodeId = some declared ∧
    IsRunNode node.nodeId declared.dependsOn none

/-- A generated execution has a plan, its tasks are those of the plan, with identifiers of the wire, and
the numbers of its budget are those of the wire. -/
def HasKernelNodes (kernel : ExecutionRunState) : Prop :=
  (∃ plan, kernelPlan H stored.run = .ok plan ∧ ∀ task ∈ kernel.tasks, ∃ declared,
    plan.byId task.taskId = some declared ∧
    IsRunNode task.taskId declared.dependsOn (some declared.maxAttempts)) ∧
  (usageOf kernel).IsBounded

/-- A run that can be shown. -/
structure Presentable : Prop extends HasResponse stored where
  declared : stored.run.kernelState = none → HasPublicNodes stored
  generated : ∀ kernel, stored.run.kernelState = some kernel → HasKernelNodes H stored kernel

variable {H stored}

theorem wire_eq_ok {p : Prop} [Decidable p] {u : PUnit} : wire p = .ok u ↔ p := Checked.require_eq_ok

theorem globalPosition_eq_ok {e : EventEnvelope} {n : ℤ} :
    globalPosition e = .ok n ↔ e.globalPosition = some n := Checked.ofOption_eq_ok

theorem eventPrincipal_eq_ok {e : EventEnvelope} {s : String} :
    eventPrincipal e = .ok s ↔ e.payload.get "principal_id" = .str e.actor ∧ e.actor = s := by
  unfold eventPrincipal
  split <;> simp_all

theorem maximumOf_eq_ok {values : List ℕ} : (∃ n, maximumOf values = .ok n) ↔ values ≠ [] := by
  simp only [maximumOf, Checked.ofOption_eq_ok, ← Option.isSome_iff_exists, List.isSome_max?_iff]

theorem exists_fullRunResponse : (∃ r, fullRunResponse H stored = .ok r) ↔
    (∃ e, presentedEvent stored.run = .ok e ∧ e.globalPosition.isSome) ∧
      stored.run.state.nodes ≠ [] ∧ stored.run.state.queuedEvent.payload.get "principal_id" =
        .str stored.run.state.queuedEvent.actor := by
  have hattempts : ∀ f : NodeLifecycleState → ℕ, (∃ n, maximumOf (stored.run.state.nodes.map f) = .ok n) ↔
      stored.run.state.nodes ≠ [] := fun f ↦ by
    rw [maximumOf_eq_ok, ne_eq, List.map_eq_nil_iff]
  simp only [fullRunResponse, Checked.bind_eq_ok, Checked.mapError_eq_ok, Checked.pure_eq_ok,
    globalPosition_eq_ok, eventPrincipal_eq_ok]
  constructor
  · rintro ⟨r, e, he, n, hn, -, -, -, ⟨hprincipal, -⟩, cursor, hcursor, -⟩
    exact ⟨⟨e, he, Option.isSome_of_eq_some hcursor⟩, (hattempts _).mp ⟨n, hn⟩, hprincipal⟩
  · rintro ⟨⟨e, he, hcursor⟩, hnodes, hprincipal⟩
    obtain ⟨cursor, hcursor⟩ := Option.isSome_iff_exists.mp hcursor
    obtain ⟨n, hn⟩ := (hattempts (·.attempts)).mpr hnodes
    obtain ⟨k, hk⟩ := (hattempts (·.fencingToken)).mpr hnodes
    exact ⟨_, e, he, n, hn, k, hk, _, ⟨hprincipal, rfl⟩, cursor, hcursor, rfl⟩

theorem RunNodeQueryResponse.create_eq_ok {r r' : RunNodeQueryResponse} :
    r.create = .ok r' ↔ IsRunNode r.nodeId r.dependsOn r.maxAttempts ∧ r = r' := by
  simp [create, wire_eq_ok]

/-- A traversal is accepted when each of its elements is. -/
theorem exists_mapM_eq_ok {ε α β : Type} {f : α → Except ε β} {l : List α} :
    (∃ r, l.mapM f = .ok r) ↔ ∀ a ∈ l, ∃ b, f a = .ok b := by
  simpa [Checked.mapM_eq_ok] using
    Checked.exists_forall₂_iff (R := fun a b ↦ f a = .ok b) (p := fun _ ↦ True) (l := l)

theorem exists_publicNode {plan : PlanRequest} {node : NodeLifecycleState} :
    (∃ r, publicNode plan node = .ok r) ↔ ∃ declared, byId plan.nodes node.nodeId = some declared ∧
      IsRunNode node.nodeId declared.dependsOn none := by
  simp only [publicNode, Checked.bind_eq_ok, Checked.ofOption_eq_ok]
  constructor
  · rintro ⟨r, declared, hdeclared, hr⟩
    exact ⟨declared, hdeclared, (RunNodeQueryResponse.create_eq_ok.mp hr).1⟩
  · rintro ⟨declared, hdeclared, hnode⟩
    exact ⟨_, declared, hdeclared, RunNodeQueryResponse.create_eq_ok.mpr ⟨hnode, rfl⟩⟩

theorem exists_kernelNode {plan : Plan} {task : ExecutionTaskState} :
    (∃ r, kernelNode plan task = .ok r) ↔ ∃ declared, plan.byId task.taskId = some declared ∧
      IsRunNode task.taskId declared.dependsOn (some declared.maxAttempts) := by
  simp only [kernelNode, Checked.bind_eq_ok, Checked.ofOption_eq_ok]
  constructor
  · rintro ⟨r, declared, hdeclared, hr⟩
    exact ⟨declared, hdeclared, (RunNodeQueryResponse.create_eq_ok.mp hr).1⟩
  · rintro ⟨declared, hdeclared, hnode⟩
    exact ⟨_, declared, hdeclared, RunNodeQueryResponse.create_eq_ok.mpr ⟨hnode, rfl⟩⟩

/-- The nodes of a run are shown in one of two ways. -/
theorem exists_queryNodes : (∃ r, queryNodes H stored = .ok r) ↔
    (stored.run.kernelState = none → HasPublicNodes stored) ∧
      ∀ kernel, stored.run.kernelState = some kernel → HasKernelNodes H stored kernel := by
  unfold queryNodes
  cases stored.run.kernelState with
  | none =>
    simp only [Checked.bind_eq_ok, Checked.pure_eq_ok, forall_const, reduceCtorEq, false_imp_iff,
      implies_true, and_true, HasPublicNodes, ← exists_publicNode, ← exists_mapM_eq_ok]
    constructor
    · rintro ⟨r, nodes, hnodes, -⟩
      exact ⟨nodes, hnodes⟩
    · rintro ⟨nodes, hnodes⟩
      exact ⟨_, nodes, hnodes, rfl⟩
  | some kernel =>
    simp only [Checked.bind_eq_ok, Checked.pure_eq_ok, Checked.mapError_eq_ok, reduceCtorEq,
      false_imp_iff, true_and, Option.some.injEq, forall_eq', HasKernelNodes, ← exists_kernelNode,
      ← exists_mapM_eq_ok, RunBudgetUsageResponse.create, wire_eq_ok, Checked.exists_unit]
    constructor
    · rintro ⟨r, plan, hplan, nodes, hnodes, usage, ⟨husage, -⟩, -⟩
      exact ⟨⟨plan, hplan, nodes, hnodes⟩, husage⟩
    · rintro ⟨⟨plan, hplan, nodes, hnodes⟩, husage⟩
      exact ⟨_, plan, hplan, nodes, hnodes, _, ⟨husage, rfl⟩, rfl⟩

/-- **Presentation.** A run is shown exactly when it is presentable. -/
theorem exists_runQueryItem : (∃ item, runQueryItem H stored = .ok item) ↔ Presentable H stored := by
  simp only [runQueryItem, Checked.bind_eq_ok, Checked.mapError_eq_ok, Checked.pure_eq_ok,
    globalPosition_eq_ok]
  constructor
  · rintro ⟨item, nodes, hnodes, cursor, hcursor, run, hrun, -⟩
    obtain ⟨hdeclared, hgenerated⟩ := exists_queryNodes.mp ⟨nodes, hnodes⟩
    obtain ⟨hlatest, hne, hprincipal⟩ := exists_fullRunResponse.mp ⟨run, hrun⟩
    exact ⟨⟨hlatest, hne, hprincipal, Option.isSome_of_eq_some hcursor⟩, hdeclared, hgenerated⟩
  · intro h
    obtain ⟨nodes, hnodes⟩ := exists_queryNodes.mpr ⟨h.declared, h.generated⟩
    obtain ⟨cursor, hcursor⟩ := Option.isSome_iff_exists.mp h.position
    obtain ⟨run, hrun⟩ := exists_fullRunResponse.mpr ⟨h.latest, h.nodes, h.principal⟩
    exact ⟨_, nodes, hnodes, cursor, hcursor, run, hrun, rfl⟩

/-- What a shown run says about its identity. -/
theorem runQueryItem_spec {item : RunQueryItem} (h : runQueryItem H stored = .ok item) :
    item.run.runId = stored.request.runId ∧ item.run.status = effectiveRunStatus stored.run ∧
      stored.run.state.queuedEvent.globalPosition = some item.queuedCursor := by
  simp only [runQueryItem, fullRunResponse, Checked.bind_eq_ok, Checked.mapError_eq_ok,
    Checked.pure_eq_ok, globalPosition_eq_ok] at h
  obtain ⟨nodes, -, cursor, hcursor, run, ⟨_, -, _, -, _, -, _, -, _, -, rfl⟩, rfl⟩ := h
  exact ⟨rfl, rfl, hcursor⟩

end Item

end Blackcell.Bootstrap
