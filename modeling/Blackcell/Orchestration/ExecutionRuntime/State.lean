import Blackcell.Kernel.Store
import Blackcell.Orchestration.ExecutionPlan.Policy

/-!
# The state of a generated run

The data of `orchestration/execution_runtime.py`: the projected state of a run and of its tasks, the
exceptions of the runtime, and the readers of event payloads.

## Main definitions

* `ExecutionRuntimeError`, `Failure` : the rejections of the runtime, and whatever a call can raise.
* `ExecutionTaskState`, `ExecutionRunState` : the projected state.
* `ExecutionRunState.expectedBaseCommit` : the commit on which an attempt starts.
* `remainingBudget`, `budgetOverdrawn` : the recorded usage of a run against a budget.

## Main results

* `ExecutionRunState.expectedBaseCommit_eq_ok` : the base is the common head of the direct
  dependencies.
-/

namespace Blackcell.Orchestration.ExecutionRuntime

open Blackcell.Kernel Blackcell.Gateway Blackcell.Orchestration.ExecutionPlan

/-! ### Failures -/

/-- `ExecutionRuntimeError`, by its code. -/
inductive ExecutionRuntimeError where
  | invalidExecutionEvent | invalidExecutionTransition | eventAfterExecutionTerminal
  | executionTaskNotFound | executionBaseCommitAmbiguous | executionRunBindingMismatch
  | executionProviderBudgetInvalid | executionBlockedTaskInvalid | executionPendingPolicyInvalid
  | executionPublicRunAlreadyActive | executionIdempotencyConflict | executionConcurrencyConflict
  | executionRunNotFound | executionPlanNotFound | executionPlanningNotAmbiguous
  | executionReplanNotRequired | invalidExecutionRunId | invalidExecutionCheckpoint
  deriving DecidableEq, Repr

/-- `code`. -/
def ExecutionRuntimeError.code : ExecutionRuntimeError → String
  | .invalidExecutionEvent => "invalid-execution-event"
  | .invalidExecutionTransition => "invalid-execution-transition"
  | .eventAfterExecutionTerminal => "event-after-execution-terminal"
  | .executionTaskNotFound => "execution-task-not-found"
  | .executionBaseCommitAmbiguous => "execution-base-commit-ambiguous"
  | .executionRunBindingMismatch => "execution-run-binding-mismatch"
  | .executionProviderBudgetInvalid => "execution-provider-budget-invalid"
  | .executionBlockedTaskInvalid => "execution-blocked-task-invalid"
  | .executionPendingPolicyInvalid => "execution-pending-policy-invalid"
  | .executionPublicRunAlreadyActive => "execution-public-run-already-active"
  | .executionIdempotencyConflict => "execution-idempotency-conflict"
  | .executionConcurrencyConflict => "execution-concurrency-conflict"
  | .executionRunNotFound => "execution-run-not-found"
  | .executionPlanNotFound => "execution-plan-not-found"
  | .executionPlanningNotAmbiguous => "execution-planning-not-ambiguous"
  | .executionReplanNotRequired => "execution-replan-not-required"
  | .invalidExecutionRunId => "invalid-execution-run-id"
  | .invalidExecutionCheckpoint => "invalid-execution-checkpoint"

/-- What a call of the runtime can raise. -/
inductive Failure where
  /-- `ExecutionRuntimeError`. -/
  | runtime (error : ExecutionRuntimeError)
  /-- `PlanContractError`. -/
  | contract (error : PlanContractError)
  /-- A `ValueError` or `KeyError` of the language. -/
  | value
  /-- An exception of the store that the journal does not translate. -/
  | store (error : StoreError)
  /-- An exception of the planning provider. -/
  | provider
  /-- A loop did not end within the rounds that the model gives it. -/
  | outOfRounds
  deriving DecidableEq, Repr

/-- A computation of the runtime. -/
abbrev Runtime := Except Failure

/-- Raise `ExecutionRuntimeError` unless the condition holds. -/
def check (p : Prop) [Decidable p] (error : ExecutionRuntimeError) : Runtime Unit :=
  Checked.require p (.runtime error)

@[simp] theorem check_eq_ok {p : Prop} [Decidable p] {error : ExecutionRuntimeError} {u : Unit} :
    check p error = .ok u ↔ p :=
  Checked.require_eq_ok

/-- A reader of the contract, whose rejection is raised as it is. -/
def ofContract {α : Type} (x : Contract α) : Runtime α := x.mapError .contract

/-- A reader of the contract, whose rejection makes an event invalid. -/
def validEvent {α : Type} (x : Contract α) : Runtime α :=
  x.mapError fun _ ↦ .runtime .invalidExecutionEvent

@[simp] theorem ofContract_eq_ok {α : Type} {x : Contract α} {a : α} :
    ofContract x = .ok a ↔ x = .ok a := by
  cases x <;> simp [ofContract, Except.mapError]

@[simp] theorem validEvent_eq_ok {α : Type} {x : Contract α} {a : α} :
    validEvent x = .ok a ↔ x = .ok a := by
  cases x <;> simp [validEvent, Except.mapError]

/-! ### Payload readers -/

section Readers

variable (m : Mapping) (field : String)

/-- `_text`. -/
def text : Runtime String := do
  let s ← Checked.ofOption (m.get field).text? (Failure.runtime .invalidExecutionEvent)
  check (s ≠ "") .invalidExecutionEvent
  pure s

/-- `_optional_text`. -/
def optionalText : Runtime (Option String) :=
  if m.get field = .null then pure none else some <$> text m field

/-- `_integer`. -/
def integer : Runtime Nat := do
  let n ← Checked.ofOption (m.get field).int? (Failure.runtime .invalidExecutionEvent)
  check (0 ≤ n) .invalidExecutionEvent
  pure n.toNat

/-- `_optional_integer`. -/
def optionalInteger : Runtime (Option Nat) :=
  if m.get field = .null then pure none else some <$> integer m field

/-- `_boolean`. -/
def boolean : Runtime Bool :=
  Checked.ofOption (m.get field).bool? (Failure.runtime .invalidExecutionEvent)

/-- A text that `_digest` accepts. -/
def isDigestText (s : String) : Bool := hasDigestPrefix s && s.length = 71

/-- `_digest`. -/
def digest : Runtime String := do
  let s ← text m field
  check (isDigestText s) .invalidExecutionEvent
  pure s

/-- `_commit`. -/
def commit : Runtime String := do
  let s ← text m field
  check (isCommit s) .invalidExecutionEvent
  pure s

/-- A digest, or `None`. -/
def optionalDigest : Runtime (Option String) :=
  if m.get field = .null then pure none else some <$> digest m field

/-- A failure class, or `None`. -/
def optionalFailureClass : Runtime (Option FailureClass) :=
  if m.get field = .null then pure none
  else do
    let value ← text m field
    some <$> Checked.ofOption (StrEnum.ofValue? value) Failure.value

/-- `_digest_tuple`, of a nonempty tuple. -/
def digestTuple : Runtime (List String) := do
  let items ← Checked.ofOption (m.get field).items? (Failure.runtime .invalidExecutionEvent)
  check (items ≠ []) .invalidExecutionEvent
  let digests ← items.mapM fun v ↦
    Checked.ofOption v.text? (Failure.runtime .invalidExecutionEvent)
  check (digests.all isDigestText) .invalidExecutionEvent
  check (digests = sortedSet digests) .invalidExecutionEvent
  pure digests

end Readers

section

variable {m : Mapping} {field : String}

@[simp] theorem text_eq_ok {s : String} : text m field = .ok s ↔ m.get field = .str s ∧ s ≠ "" := by
  simp only [text, Checked.bind_eq_ok, Checked.ofOption_eq_ok, JsonValue.text?_eq_some,
    check_eq_ok, Checked.exists_unit, Checked.pure_eq_ok]
  constructor
  · rintro ⟨t, ht, hne, rfl⟩
    exact ⟨ht, hne⟩
  · rintro ⟨hv, hne⟩
    exact ⟨s, hv, hne, rfl⟩

@[simp] theorem optionalText_eq_ok {s : Option String} : optionalText m field = .ok s ↔
    m.get field = .ofText? s ∧ s ≠ some "" := by
  unfold optionalText
  split
  · rename_i hnull
    cases s <;> simp [hnull, JsonValue.ofText?]
  · rename_i hnull
    cases s <;> simp [hnull, JsonValue.ofText?]

@[simp] theorem integer_eq_ok {n : Nat} : integer m field = .ok n ↔ m.get field = .int n := by
  simp only [integer, Checked.bind_eq_ok, Checked.ofOption_eq_ok, JsonValue.int?_eq_some,
    check_eq_ok, Checked.exists_unit, Checked.pure_eq_ok]
  constructor
  · rintro ⟨k, hk, hnonneg, rfl⟩
    rw [hk, Int.toNat_of_nonneg hnonneg]
  · intro h
    exact ⟨n, h, Int.natCast_nonneg n, rfl⟩

/-- An integer, or `None`. -/
def ofInteger? : Option Nat → JsonValue
  | some n => .int n
  | none => .null

@[simp] theorem optionalInteger_eq_ok {n : Option Nat} :
    optionalInteger m field = .ok n ↔ m.get field = ofInteger? n := by
  unfold optionalInteger
  split
  · rename_i hnull
    cases n <;> simp [hnull, ofInteger?]
  · rename_i hnull
    cases n <;> simp [hnull, ofInteger?]

@[simp] theorem boolean_eq_ok {b : Bool} : boolean m field = .ok b ↔ m.get field = .bool b := by
  simp [boolean]

@[simp] theorem digest_eq_ok {s : String} :
    digest m field = .ok s ↔ m.get field = .str s ∧ isDigestText s := by
  simp only [digest, Checked.bind_eq_ok, text_eq_ok, check_eq_ok, Checked.exists_unit,
    Checked.pure_eq_ok]
  constructor
  · rintro ⟨t, ⟨ht, -⟩, hd, rfl⟩
    exact ⟨ht, hd⟩
  · rintro ⟨hv, hd⟩
    refine ⟨s, ⟨hv, ?_⟩, hd, rfl⟩
    rintro rfl
    revert hd
    decide

@[simp] theorem commit_eq_ok {s : String} :
    commit m field = .ok s ↔ m.get field = .str s ∧ isCommit s := by
  simp only [commit, Checked.bind_eq_ok, text_eq_ok, check_eq_ok, Checked.exists_unit,
    Checked.pure_eq_ok]
  constructor
  · rintro ⟨t, ⟨ht, -⟩, hc, rfl⟩
    exact ⟨ht, hc⟩
  · rintro ⟨hv, hc⟩
    refine ⟨s, ⟨hv, ?_⟩, hc, rfl⟩
    rintro rfl
    revert hc
    decide

@[simp] theorem optionalDigest_eq_ok {s : Option String} : optionalDigest m field = .ok s ↔
    m.get field = .ofText? s ∧ s.all isDigestText := by
  unfold optionalDigest
  split
  · rename_i hnull
    cases s <;> simp [hnull, JsonValue.ofText?]
  · rename_i hnull
    cases s <;> simp [hnull, JsonValue.ofText?]

@[simp] theorem optionalFailureClass_eq_ok {c : Option FailureClass} :
    optionalFailureClass m field = .ok c ↔ m.get field = .ofText? (c.map StrEnum.value) := by
  unfold optionalFailureClass
  split
  · rename_i hnull
    cases c <;> simp [hnull, JsonValue.ofText?]
  · rename_i hnull
    cases c with
    | none => simp [hnull, JsonValue.ofText?]
    | some c =>
      simp only [Checked.bind_eq_ok, text_eq_ok, Checked.map_eq_ok, Checked.ofOption_eq_ok,
        StrEnum.ofValue?_eq_some, Option.some.injEq, exists_eq_right, JsonValue.ofText?,
        Option.map_some]
      constructor
      · rintro ⟨value, ⟨hv, -⟩, rfl⟩
        exact hv
      · intro hv
        exact ⟨_, ⟨hv, by cases c <;> decide⟩, rfl⟩

@[simp] theorem digestTuple_eq_ok {digests : List String} : digestTuple m field = .ok digests ↔
    m.get field = .ofTexts digests ∧ digests ≠ [] ∧ digests.all isDigestText ∧
      digests = sortedSet digests := by
  simp only [digestTuple, Checked.bind_eq_ok, Checked.ofOption_eq_ok, JsonValue.items?_eq_some,
    check_eq_ok, Checked.exists_unit, Checked.pure_eq_ok, Checked.mapM_eq_ok,
    JsonValue.text?_eq_some, Checked.forall₂_eq_map]
  constructor
  · rintro ⟨_, hv, hne, digests', rfl, hall, hsorted, rfl⟩
    exact ⟨hv, by simpa using hne, hall, hsorted⟩
  · rintro ⟨hv, hne, hall, hsorted⟩
    exact ⟨_, hv, by simpa using hne, digests, rfl, hall, hsorted, rfl⟩

theorem isDigestText_jsonDigest (H : Host) (v : JsonValue) : isDigestText (H.jsonDigest v) := by
  simp [isDigestText, H.hasDigestPrefix_jsonDigest, H.length_jsonDigest]

/-- A hexadecimal digest is a digest for the readers of payloads. -/
theorem isDigestText_of_isHexDigest {s : String} (h : isHexDigest s) : isDigestText s := by
  have hlength := length_of_isHexDigest h
  simp only [isHexDigest, Bool.and_eq_true] at h
  simp [isDigestText, h.1, hlength]

/-- The digests of evidence satisfy what `_digest_tuple` demands. -/
theorem readable_of_isDigestTuple {digests : List String} (h : IsDigestTuple digests) :
    digests ≠ [] ∧ digests.all isDigestText ∧ digests = sortedSet digests := by
  refine ⟨h.2.1, List.all_eq_true.mpr fun d hd ↦ ?_, h.1.sortedSet_eq.symm⟩
  exact isDigestText_of_isHexDigest (h.2.2 d hd)

/-- The error signature of evidence is a digest. -/
theorem all_errorSignature (H : Host) (e : AttemptEvidence) :
    (e.errorSignature H).all isDigestText := by
  unfold AttemptEvidence.errorSignature
  cases e.failureSummary with
  | none => rfl
  | some summary => exact isDigestText_jsonDigest H _

end

/-! ### The projected state -/

/-- `ExecutionTaskState`. -/
structure ExecutionTaskState where
  taskId : String
  status : TaskLifecycleStatus
  dependsOn : List String
  allowedPaths : List String
  maxAttempts : Nat
  attempts : Nat
  lastErrorSignature : Option String
  sameErrorCount : Nat
  activeWorkspaceId : Option String
  retainedWorkspaceId : Option String
  blockedReason : Option String
  evidenceEventIds : List String
  lastFailureClass : Option FailureClass
  lastFailureSummary : Option String
  lastArtifactDigests : List String
  lastProgressDigests : List String
  headCommit : Option String
  pendingPolicyDecisionId : Option String
  pendingPolicyActionDigest : Option String
  pendingPolicyAllowed : Option Bool
  pendingPolicyReason : Option String
  deriving DecidableEq

/-- The state of a task of a plan that was just admitted. -/
def ExecutionTaskState.initial (t : TaskSpec) : ExecutionTaskState where
  taskId := t.taskId
  status := .pending
  dependsOn := t.dependsOn
  allowedPaths := t.allowedPaths.1
  maxAttempts := t.maxAttempts
  attempts := 0
  lastErrorSignature := none
  sameErrorCount := 0
  activeWorkspaceId := none
  retainedWorkspaceId := none
  blockedReason := none
  evidenceEventIds := []
  lastFailureClass := none
  lastFailureSummary := none
  lastArtifactDigests := []
  lastProgressDigests := []
  headCommit := none
  pendingPolicyDecisionId := none
  pendingPolicyActionDigest := none
  pendingPolicyAllowed := none
  pendingPolicyReason := none

/-- The task without the decision that waits for its start. -/
def ExecutionTaskState.withoutPolicy (t : ExecutionTaskState) : ExecutionTaskState :=
  { t with
    pendingPolicyDecisionId := none
    pendingPolicyActionDigest := none
    pendingPolicyAllowed := none
    pendingPolicyReason := none }

/-- `ExecutionRunState`. -/
structure ExecutionRunState where
  runId : String
  goalId : String
  goalDigest : String
  projectId : String
  intentId : String
  goalBaseCommit : String
  classification : DataClassification
  locality : LocalityPolicy
  budget : GatewayBudget
  planId : Option String
  planDigest : Option String
  planRevision : Option Nat
  status : RunLifecycleStatus
  tasks : List ExecutionTaskState
  retainedWorkspaceIds : List String
  latestEventId : String
  lastStreamSequence : Int
  inputTokens : Nat
  inputTokensComplete : Bool
  outputTokens : Nat
  outputTokensComplete : Bool
  latencyMs : Nat
  costMicrousd : Nat
  costMicrousdComplete : Bool
  pendingDraftDigest : Option String
  deriving DecidableEq

/-- `_RUN_OUTCOME_STATUSES`. -/
def isOutcome : RunLifecycleStatus → Bool
  | .succeeded | .replanRequired | .blocked | .canceled | .escalated | .terminalFailure => true
  | _ => false

/-- `_FINAL_RUN_STATUSES`. -/
def isFinal (s : RunLifecycleStatus) : Bool := isOutcome s && s ≠ .replanRequired

namespace ExecutionRunState

variable (s : ExecutionRunState)

/-- The task with an identifier. -/
def find (taskId : String) : Option ExecutionTaskState :=
  s.tasks.find? fun t ↦ t.taskId = taskId

/-- `task`. -/
def task (taskId : String) : Runtime ExecutionTaskState :=
  Checked.ofOption (s.find taskId) (.runtime .executionTaskNotFound)

/-- `_replace_task`. -/
def replaceTask (t : ExecutionTaskState) : ExecutionRunState :=
  { s with tasks := s.tasks.map fun t' ↦ if t'.taskId = t.taskId then t else t' }

/-- All tasks succeeded, and there is one. -/
def allSucceeded : Bool := s.tasks ≠ [] && s.tasks.all fun t ↦ t.status = .succeeded

/-- All of the tasks with the given identifiers succeeded; the first one that did not, or that does
not exist, ends the search. -/
def succeeded : List String → Runtime Bool
  | [] => .ok true
  | d :: ds => do
    let t ← s.task d
    if t.status = .succeeded then succeeded ds else .ok false

/-- The one commit that all of the heads are. -/
def commonHead : List (Option String) → Runtime String
  | some head :: heads => do
    check (∀ h ∈ heads, h = some head) .executionBaseCommitAmbiguous
    pure head
  | _ => .error (.runtime .executionBaseCommitAmbiguous)

/-- `_expected_base_commit`. -/
def expectedBaseCommit (t : ExecutionTaskState) : Runtime String :=
  if t.dependsOn = [] then .ok s.goalBaseCommit
  else do
    let dependencies ← t.dependsOn.mapM s.task
    commonHead (dependencies.map (·.headCommit))

end ExecutionRunState

/-! ### Budgets -/

/-- `_remaining_budget`. -/
def remainingBudget (budget : GatewayBudget) (s : ExecutionRunState) : GatewayBudget where
  maxInputTokens := budget.maxInputTokens - s.inputTokens
  maxOutputTokens := budget.maxOutputTokens - s.outputTokens
  maxLatencyMs := budget.maxLatencyMs - s.latencyMs
  maxCostMicrousd := budget.maxCostMicrousd - s.costMicrousd

/-- `_budget_within`. -/
def budgetWithin (candidate maximum : GatewayBudget) : Bool :=
  candidate.maxInputTokens ≤ maximum.maxInputTokens &&
    candidate.maxOutputTokens ≤ maximum.maxOutputTokens &&
    candidate.maxLatencyMs ≤ maximum.maxLatencyMs &&
    candidate.maxCostMicrousd ≤ maximum.maxCostMicrousd

/-- `_provider_budget_exhausted`. -/
def providerBudgetExhausted (budget : GatewayBudget) : Bool :=
  budget.maxInputTokens = 0 || budget.maxOutputTokens = 0 || budget.maxLatencyMs = 0

/-- `_provider_usage_incomplete`. -/
def providerUsageIncomplete (s : ExecutionRunState) : Bool :=
  !s.inputTokensComplete || !s.outputTokensComplete || !s.costMicrousdComplete

/-- `_budget_overdrawn`. -/
def budgetOverdrawn (budget : GatewayBudget) (s : ExecutionRunState) : Bool :=
  budget.maxInputTokens < s.inputTokens || budget.maxOutputTokens < s.outputTokens ||
    budget.maxLatencyMs < s.latencyMs || budget.maxCostMicrousd < s.costMicrousd

/-! ### Finding and replacing tasks -/

namespace ExecutionRunState

variable {s : ExecutionRunState}

@[simp] theorem task_eq_ok {taskId : String} {t : ExecutionTaskState} :
    s.task taskId = .ok t ↔ s.find taskId = some t :=
  Checked.ofOption_eq_ok

theorem mem_of_find {taskId : String} {t : ExecutionTaskState} (h : s.find taskId = some t) :
    t ∈ s.tasks ∧ t.taskId = taskId :=
  ⟨List.mem_of_find?_eq_some h, by simpa using List.find?_some h⟩

theorem find_of_mem (hnodup : (s.tasks.map (·.taskId)).Nodup) {t : ExecutionTaskState}
    (ht : t ∈ s.tasks) : s.find t.taskId = some t := by
  obtain ⟨t', ht'⟩ := Option.isSome_iff_exists.mp
    (List.find?_isSome.mpr ⟨t, ht, decide_eq_true rfl⟩ :
      (s.tasks.find? fun x ↦ x.taskId = t.taskId).isSome)
  have hmem := mem_of_find ht'
  rw [find, ht', List.inj_on_of_nodup_map hnodup hmem.1 ht hmem.2]

/-- Replacing a task keeps the identifiers. -/
theorem map_taskId_replaceTask (s : ExecutionRunState) (t : ExecutionTaskState) :
    (s.replaceTask t).tasks.map (·.taskId) = s.tasks.map (·.taskId) := by
  simp only [replaceTask, List.map_map]
  refine List.map_congr_left fun t' _ ↦ ?_
  simp only [Function.comp]
  split
  · rename_i h
    exact h.symm
  · rfl

theorem find_replaceTask_self {t t₀ : ExecutionTaskState} (h : s.find t.taskId = some t₀) :
    (s.replaceTask t).find t.taskId = some t := by
  have hmem := mem_of_find h
  unfold find replaceTask at *
  rw [List.find?_map]
  have hp : ((fun x : ExecutionTaskState ↦ decide (x.taskId = t.taskId)) ∘
      fun t' ↦ if t'.taskId = t.taskId then t else t') =
      fun x ↦ decide (x.taskId = t.taskId) := by
    funext x
    by_cases hx : x.taskId = t.taskId <;> simp [hx]
  rw [hp, h]
  simp [hmem.2]

theorem find_replaceTask_of_ne {t : ExecutionTaskState} {taskId : String} (h : taskId ≠ t.taskId) :
    (s.replaceTask t).find taskId = s.find taskId := by
  unfold find replaceTask
  rw [List.find?_map]
  have hp : ((fun x : ExecutionTaskState ↦ decide (x.taskId = taskId)) ∘
      fun t' ↦ if t'.taskId = t.taskId then t else t') =
      fun x ↦ decide (x.taskId = taskId) := by
    funext x
    by_cases hx : x.taskId = t.taskId
    · simp [hx, h.symm]
    · simp [hx]
  rw [hp]
  cases hf : s.tasks.find? fun x ↦ decide (x.taskId = taskId) with
  | none => rfl
  | some t' =>
    have hid : t'.taskId = taskId := by simpa using List.find?_some hf
    simp [hid, h]

/-- A task of the state after a replacement is the new one, or one that was there. -/
theorem mem_replaceTask {t t' : ExecutionTaskState} (h : t' ∈ (s.replaceTask t).tasks) :
    t' = t ∨ t' ∈ s.tasks ∧ t'.taskId ≠ t.taskId := by
  simp only [replaceTask, List.mem_map] at h
  obtain ⟨x, hx, rfl⟩ := h
  split
  · exact .inl rfl
  · exact .inr ⟨hx, ‹_›⟩

@[simp] theorem succeeded_eq_true {ds : List String} : s.succeeded ds = .ok true ↔
    ∀ d ∈ ds, ∃ t, s.find d = some t ∧ t.status = .succeeded := by
  induction ds with
  | nil => simp [succeeded]
  | cons d ds ih =>
    simp only [succeeded, Checked.bind_eq_ok, task_eq_ok, List.forall_mem_cons]
    constructor
    · rintro ⟨t, ht, h⟩
      split at h
      · exact ⟨⟨t, ht, ‹_›⟩, ih.mp h⟩
      · simp at h
    · rintro ⟨⟨t, ht, hs⟩, h⟩
      exact ⟨t, ht, by rw [if_pos hs, ih.mpr h]⟩

theorem commonHead_eq_ok {heads : List (Option String)} {head : String} (hne : heads ≠ []) :
    commonHead heads = .ok head ↔ ∀ h ∈ heads, h = some head := by
  cases heads with
  | nil => exact absurd rfl hne
  | cons h₀ heads =>
    cases h₀ with
    | none => simp [commonHead]
    | some head₀ =>
      simp only [commonHead, Checked.bind_eq_ok, check_eq_ok, Checked.exists_unit,
        Checked.pure_eq_ok, List.forall_mem_cons, Option.some.injEq]
      constructor
      · rintro ⟨hall, rfl⟩
        exact ⟨rfl, hall⟩
      · rintro ⟨rfl, hall⟩
        exact ⟨hall, rfl⟩

/-- **The base of an attempt.** A task without dependencies starts on the commit of the goal, and
any other one on the common head of its direct dependencies. -/
theorem expectedBaseCommit_eq_ok {t : ExecutionTaskState} {base : String} :
    s.expectedBaseCommit t = .ok base ↔
      (t.dependsOn = [] → base = s.goalBaseCommit) ∧
        ∀ d ∈ t.dependsOn, ∃ t', s.find d = some t' ∧ t'.headCommit = some base := by
  unfold expectedBaseCommit
  split
  · rename_i hnil
    simp [hnil, eq_comm]
  · rename_i hne
    simp only [Checked.bind_eq_ok, hne, false_implies, true_and, Checked.mapM_eq_ok, task_eq_ok]
    rw [← Checked.exists_forall₂_iff]
    refine exists_congr fun ts ↦ and_congr_right fun hts ↦ ?_
    have hts_ne : ts.map (·.headCommit) ≠ [] := by
      rintro h
      obtain rfl := List.map_eq_nil_iff.mp h
      exact hne (List.forall₂_nil_right_iff.mp hts)
    rw [commonHead_eq_ok hts_ne, List.forall_mem_map]

end ExecutionRunState

end Blackcell.Orchestration.ExecutionRuntime
