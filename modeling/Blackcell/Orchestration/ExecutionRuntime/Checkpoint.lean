import Blackcell.Orchestration.ExecutionRuntime.Runs
import Blackcell.Orchestration.ExecutionRuntime.Sound

/-!
# Checkpoints of a generated run

`dump_state` and `load_state` of `ExecutionRunProjection`: the projected state as JSON, and the
reader that restores it from a checkpoint. The reader checks every field, and rules between the
fields of a task. The projection establishes all of these rules but one: a task has a recorded reason
exactly if it is blocked. An attempt that is routed to `blocked` leaves a blocked task without a
reason, and a public event that ends the run leaves the reason on a task that is no longer blocked.

## Main definitions

* `dumpState`, `loadState` : `dump_state` and `load_state`.
* `ExecutionTaskState.Readable`, `ExecutionRunState.Readable`, `ExecutionRunState.Storable` : what
  the reader demands, apart from the reasons of blocked tasks.
* `Reasoned` : blocked tasks, and no others, have a recorded reason.
* `KeepsReasons` : an event that does not separate the status of a task from its reason.

## Main results

* `loadState_dumpState` : the states that a checkpoint restores.
* `storable_of_project` : what the projection guarantees of the fields of a state.
* `reasoned_of_project` : the runs whose states are reasoned.
* `checkpoint_roundTrip` : the checkpoint of an accepted stream is restored exactly if its state is
  reasoned.
-/

namespace Blackcell.Orchestration.ExecutionRuntime

open Blackcell.Kernel Blackcell.Gateway Blackcell.Orchestration.ExecutionPlan

/-! ### Readers -/

section Readers

variable (m : Mapping) (field : String)

/-- `_optional_boolean`. -/
def optionalBoolean : Runtime (Option Bool) :=
  if m.get field = .null then pure none else some <$> boolean m field

/-- `_optional_commit`. -/
def optionalCommit : Runtime (Option String) :=
  if m.get field = .null then pure none else some <$> commit m field

/-- `_text_tuple`. -/
def textTuple : Runtime (List String) := do
  let items ← Checked.ofOption (m.get field).items? (Failure.runtime .invalidExecutionEvent)
  items.mapM fun v ↦ Checked.ofOption v.text? (Failure.runtime .invalidExecutionEvent)

/-- `_digest_tuple`, of a tuple that may be empty. -/
def digestTupleOrEmpty : Runtime (List String) := do
  let digests ← textTuple m field
  check (digests.all isDigestText) .invalidExecutionEvent
  check (digests = sortedSet digests) .invalidExecutionEvent
  pure digests

variable {m} {field}

/-- A Boolean, or `None`. -/
def ofBoolean? : Option Bool → JsonValue
  | some b => .bool b
  | none => .null

@[simp] theorem optionalBoolean_eq_ok {b : Option Bool} :
    optionalBoolean m field = .ok b ↔ m.get field = ofBoolean? b := by
  unfold optionalBoolean
  split
  · rename_i hnull
    cases b <;> simp [hnull, ofBoolean?]
  · rename_i hnull
    cases b <;> simp [hnull, ofBoolean?]

@[simp] theorem optionalCommit_eq_ok {s : Option String} : optionalCommit m field = .ok s ↔
    m.get field = .ofText? s ∧ s.all isCommit := by
  unfold optionalCommit
  split
  · rename_i hnull
    cases s <;> simp [hnull, JsonValue.ofText?]
  · rename_i hnull
    cases s <;> simp [hnull, JsonValue.ofText?]

@[simp] theorem textTuple_eq_ok {texts : List String} :
    textTuple m field = .ok texts ↔ m.get field = .ofTexts texts := by
  simp [textTuple, Checked.mapM_eq_ok, Checked.forall₂_eq_map, JsonValue.ofTexts]

@[simp] theorem digestTupleOrEmpty_eq_ok {digests : List String} :
    digestTupleOrEmpty m field = .ok digests ↔
      m.get field = .ofTexts digests ∧ digests.all isDigestText ∧ digests = sortedSet digests := by
  simp only [digestTupleOrEmpty, Checked.bind_eq_ok, textTuple_eq_ok, check_eq_ok,
    Checked.exists_unit, Checked.pure_eq_ok]
  constructor
  · rintro ⟨_, hget, hall, hsorted, rfl⟩
    exact ⟨hget, hall, hsorted⟩
  · rintro ⟨hget, hall, hsorted⟩
    exact ⟨digests, hget, hall, hsorted, rfl⟩

end Readers

/-! ### Tasks -/

/-- The fields of a task in a checkpoint. -/
def taskFields : List String :=
  ["task_id", "status", "depends_on", "allowed_paths", "max_attempts", "attempts",
    "last_error_signature", "same_error_count", "active_workspace_id", "retained_workspace_id",
    "blocked_reason", "evidence_event_ids", "last_failure_class", "last_failure_summary",
    "last_artifact_digests", "last_progress_digests", "head_commit", "pending_policy_decision_id",
    "pending_policy_action_digest", "pending_policy_allowed", "pending_policy_reason"]

/-- A task in the payload of `dump_state`. -/
def dumpTask (t : ExecutionTaskState) : Mapping := [
    ("task_id", .str t.taskId),
    ("status", .str (StrEnum.value t.status)),
    ("depends_on", .ofTexts t.dependsOn),
    ("allowed_paths", .ofTexts t.allowedPaths),
    ("max_attempts", .int t.maxAttempts),
    ("attempts", .int t.attempts),
    ("last_error_signature", .ofText? t.lastErrorSignature),
    ("same_error_count", .int t.sameErrorCount),
    ("active_workspace_id", .ofText? t.activeWorkspaceId),
    ("retained_workspace_id", .ofText? t.retainedWorkspaceId),
    ("blocked_reason", .ofText? t.blockedReason),
    ("evidence_event_ids", .ofTexts t.evidenceEventIds),
    ("last_failure_class", .ofText? (t.lastFailureClass.map StrEnum.value)),
    ("last_failure_summary", .ofText? t.lastFailureSummary),
    ("last_artifact_digests", .ofTexts t.lastArtifactDigests),
    ("last_progress_digests", .ofTexts t.lastProgressDigests),
    ("head_commit", .ofText? t.headCommit),
    ("pending_policy_decision_id", .ofText? t.pendingPolicyDecisionId),
    ("pending_policy_action_digest", .ofText? t.pendingPolicyActionDigest),
    ("pending_policy_allowed", ofBoolean? t.pendingPolicyAllowed),
    ("pending_policy_reason", .ofText? t.pendingPolicyReason)]

/-- The decision on the next attempt is complete and the task is ready, or there is none. -/
def ExecutionTaskState.PolicyComplete (t : ExecutionTaskState) : Prop :=
  (t.pendingPolicyDecisionId = none ∧ t.pendingPolicyActionDigest = none ∧
      t.pendingPolicyAllowed = none ∧ t.pendingPolicyReason = none) ∨
    (t.pendingPolicyDecisionId.isSome ∧ t.pendingPolicyActionDigest.isSome ∧
      t.pendingPolicyAllowed.isSome ∧ t.pendingPolicyReason.isSome) ∧ t.status = .ready

instance : DecidablePred ExecutionTaskState.PolicyComplete := fun _ ↦
  inferInstanceAs (Decidable (_ ∨ _))

/-- The fields of a task, each read by itself. -/
def readTask (raw : Mapping) : Runtime ExecutionTaskState := do
  let taskId ← text raw "task_id"
  let status ← text raw "status"
  let status ← Checked.ofOption (StrEnum.ofValue? status) Failure.value
  let dependsOn ← textTuple raw "depends_on"
  let allowedPaths ← textTuple raw "allowed_paths"
  let maxAttempts ← integer raw "max_attempts"
  let attempts ← integer raw "attempts"
  let lastErrorSignature ← optionalDigest raw "last_error_signature"
  let sameErrorCount ← integer raw "same_error_count"
  let activeWorkspaceId ← optionalText raw "active_workspace_id"
  let retainedWorkspaceId ← optionalText raw "retained_workspace_id"
  let blockedReason ← optionalText raw "blocked_reason"
  let evidenceEventIds ← textTuple raw "evidence_event_ids"
  let lastFailureClass ← optionalFailureClass raw "last_failure_class"
  let lastFailureSummary ← optionalText raw "last_failure_summary"
  let lastArtifactDigests ← digestTupleOrEmpty raw "last_artifact_digests"
  let lastProgressDigests ← digestTupleOrEmpty raw "last_progress_digests"
  let headCommit ← optionalCommit raw "head_commit"
  let pendingPolicyDecisionId ← optionalDigest raw "pending_policy_decision_id"
  let pendingPolicyActionDigest ← optionalDigest raw "pending_policy_action_digest"
  let pendingPolicyAllowed ← optionalBoolean raw "pending_policy_allowed"
  let pendingPolicyReason ← optionalText raw "pending_policy_reason"
  pure {
    taskId, status, dependsOn, allowedPaths, maxAttempts, attempts, lastErrorSignature,
    sameErrorCount, activeWorkspaceId, retainedWorkspaceId, blockedReason, evidenceEventIds,
    lastFailureClass, lastFailureSummary, lastArtifactDigests, lastProgressDigests, headCommit,
    pendingPolicyDecisionId, pendingPolicyActionDigest, pendingPolicyAllowed, pendingPolicyReason }

/-- `_task_state_from_checkpoint`. -/
def taskStateFromCheckpoint (value : JsonValue) : Runtime ExecutionTaskState := do
  let raw ← Checked.ofOption value.fields? (Failure.runtime .invalidExecutionEvent)
  check (raw.exact taskFields) .invalidExecutionCheckpoint
  let task ← readTask raw
  check task.PolicyComplete .invalidExecutionCheckpoint
  check (task.status = .blocked ↔ task.blockedReason.isSome) .invalidExecutionCheckpoint
  check (1 ≤ task.maxAttempts ∧ task.maxAttempts ≤ 3 ∧ task.attempts ≤ task.maxAttempts ∧
    task.taskId ∉ task.dependsOn ∧ task.dependsOn.Nodup ∧ task.allowedPaths.Nodup)
    .invalidExecutionCheckpoint
  pure task

/-- What the reader demands of the fields of a task, each by itself. -/
structure ExecutionTaskState.Readable (t : ExecutionTaskState) : Prop where
  taskId : t.taskId ≠ ""
  signature : t.lastErrorSignature.all isDigestText
  active : t.activeWorkspaceId ≠ some ""
  retained : t.retainedWorkspaceId ≠ some ""
  reason : t.blockedReason ≠ some ""
  summary : t.lastFailureSummary ≠ some ""
  artifacts : t.lastArtifactDigests.all isDigestText ∧
    t.lastArtifactDigests = sortedSet t.lastArtifactDigests
  progress : t.lastProgressDigests.all isDigestText ∧
    t.lastProgressDigests = sortedSet t.lastProgressDigests
  head : t.headCommit.all isCommit
  decisionId : t.pendingPolicyDecisionId.all isDigestText
  actionDigest : t.pendingPolicyActionDigest.all isDigestText
  policyReason : t.pendingPolicyReason ≠ some ""

/-- The bounds of a task and of its lists. -/
structure ExecutionTaskState.Bounded (t : ExecutionTaskState) : Prop where
  attempts : 1 ≤ t.maxAttempts ∧ t.maxAttempts ≤ 3 ∧ t.attempts ≤ t.maxAttempts
  irreflexive : t.taskId ∉ t.dependsOn
  dependsOn : t.dependsOn.Nodup
  allowedPaths : t.allowedPaths.Nodup

/-- A task is blocked exactly if it has a recorded reason. -/
def ExecutionTaskState.Reasoned (t : ExecutionTaskState) : Prop :=
  t.status = .blocked ↔ t.blockedReason.isSome

instance : DecidablePred ExecutionTaskState.Reasoned := fun _ ↦ inferInstanceAs (Decidable (_ ↔ _))

theorem readTask_dumpTask {t : ExecutionTaskState} (h : t.Readable) :
    readTask (dumpTask t) = .ok t := by
  have h1 : text (dumpTask t) "task_id" = .ok t.taskId := text_eq_ok.mpr ⟨rfl, h.taskId⟩
  have h2 : text (dumpTask t) "status" = .ok (StrEnum.value t.status) :=
    text_eq_ok.mpr ⟨rfl, by cases t.status <;> decide⟩
  have h3 : textTuple (dumpTask t) "depends_on" = .ok t.dependsOn := textTuple_eq_ok.mpr rfl
  have h4 : textTuple (dumpTask t) "allowed_paths" = .ok t.allowedPaths := textTuple_eq_ok.mpr rfl
  have h5 : integer (dumpTask t) "max_attempts" = .ok t.maxAttempts := integer_eq_ok.mpr rfl
  have h6 : integer (dumpTask t) "attempts" = .ok t.attempts := integer_eq_ok.mpr rfl
  have h7 : optionalDigest (dumpTask t) "last_error_signature" = .ok t.lastErrorSignature :=
    optionalDigest_eq_ok.mpr ⟨rfl, h.signature⟩
  have h8 : integer (dumpTask t) "same_error_count" = .ok t.sameErrorCount := integer_eq_ok.mpr rfl
  have h9 : optionalText (dumpTask t) "active_workspace_id" = .ok t.activeWorkspaceId :=
    optionalText_eq_ok.mpr ⟨rfl, h.active⟩
  have h10 : optionalText (dumpTask t) "retained_workspace_id" = .ok t.retainedWorkspaceId :=
    optionalText_eq_ok.mpr ⟨rfl, h.retained⟩
  have h11 : optionalText (dumpTask t) "blocked_reason" = .ok t.blockedReason :=
    optionalText_eq_ok.mpr ⟨rfl, h.reason⟩
  have h12 : textTuple (dumpTask t) "evidence_event_ids" = .ok t.evidenceEventIds :=
    textTuple_eq_ok.mpr rfl
  have h13 : optionalFailureClass (dumpTask t) "last_failure_class" = .ok t.lastFailureClass :=
    optionalFailureClass_eq_ok.mpr rfl
  have h14 : optionalText (dumpTask t) "last_failure_summary" = .ok t.lastFailureSummary :=
    optionalText_eq_ok.mpr ⟨rfl, h.summary⟩
  have h15 : digestTupleOrEmpty (dumpTask t) "last_artifact_digests" = .ok t.lastArtifactDigests :=
    digestTupleOrEmpty_eq_ok.mpr ⟨rfl, h.artifacts⟩
  have h16 : digestTupleOrEmpty (dumpTask t) "last_progress_digests" = .ok t.lastProgressDigests :=
    digestTupleOrEmpty_eq_ok.mpr ⟨rfl, h.progress⟩
  have h17 : optionalCommit (dumpTask t) "head_commit" = .ok t.headCommit :=
    optionalCommit_eq_ok.mpr ⟨rfl, h.head⟩
  have h18 : optionalDigest (dumpTask t) "pending_policy_decision_id" =
      .ok t.pendingPolicyDecisionId := optionalDigest_eq_ok.mpr ⟨rfl, h.decisionId⟩
  have h19 : optionalDigest (dumpTask t) "pending_policy_action_digest" =
      .ok t.pendingPolicyActionDigest := optionalDigest_eq_ok.mpr ⟨rfl, h.actionDigest⟩
  have h20 : optionalBoolean (dumpTask t) "pending_policy_allowed" = .ok t.pendingPolicyAllowed :=
    optionalBoolean_eq_ok.mpr rfl
  have h21 : optionalText (dumpTask t) "pending_policy_reason" = .ok t.pendingPolicyReason :=
    optionalText_eq_ok.mpr ⟨rfl, h.policyReason⟩
  simp only [readTask, h1, h2, h3, h4, h5, h6, h7, h8, h9, h10, h11, h12, h13, h14, h15, h16, h17,
    h18, h19, h20, h21, StrEnum.ofValue?_value, Checked.ofOption_some, Checked.ok_bind,
    Checked.pure_eq_ok]

/-- **Tasks.** A task is restored from a checkpoint when its reason agrees with its status. -/
theorem taskStateFromCheckpoint_dumpTask {t : ExecutionTaskState} (hread : t.Readable)
    (hpolicy : t.PolicyComplete) (hbounded : t.Bounded) (hreason : t.Reasoned) :
    taskStateFromCheckpoint (.object (dumpTask t)) = .ok t := by
  have hfields : (dumpTask t).exact taskFields := ⟨by simp [dumpTask, Mapping.keys, taskFields], by
    simp [dumpTask, Mapping.keys, taskFields]⟩
  have hbounds := hbounded.attempts
  have hlists := hbounded.dependsOn
  simp only [taskStateFromCheckpoint, Checked.bind_eq_ok, Checked.ofOption_eq_ok,
    JsonValue.fields?_eq_some, check_eq_ok, Checked.exists_unit, Checked.pure_eq_ok]
  exact ⟨_, rfl, hfields, t, readTask_dumpTask hread, hpolicy, hreason,
    ⟨hbounds.1, hbounds.2.1, hbounds.2.2, hbounded.irreflexive, hlists, hbounded.allowedPaths⟩, rfl⟩

/-- A task that was read from a checkpoint is reasoned. -/
theorem reasoned_of_taskStateFromCheckpoint {value : JsonValue} {t : ExecutionTaskState}
    (h : taskStateFromCheckpoint value = .ok t) : t.Reasoned := by
  simp only [taskStateFromCheckpoint, Checked.bind_eq_ok, check_eq_ok, Checked.exists_unit,
    Checked.pure_eq_ok] at h
  obtain ⟨raw, -, -, task, -, -, hreason, -, rfl⟩ := h
  exact hreason

/-! ### Runs -/

/-- The fields of a checkpoint. -/
def stateFields : List String :=
  ["run_id", "goal_id", "goal_digest", "project_id", "intent_id", "goal_base_commit",
    "classification", "locality", "budget", "plan_id", "plan_digest", "plan_version", "status",
    "retained_workspace_ids", "tasks", "latest_event_id", "last_stream_sequence", "input_tokens",
    "input_tokens_complete", "output_tokens", "output_tokens_complete", "latency_ms",
    "cost_microusd", "cost_microusd_complete", "pending_draft_digest"]

/-- The payload of `dump_state`. -/
def dumpRun (s : ExecutionRunState) : Mapping := [
    ("run_id", .str s.runId),
    ("goal_id", .str s.goalId),
    ("goal_digest", .str s.goalDigest),
    ("project_id", .str s.projectId),
    ("intent_id", .str s.intentId),
    ("goal_base_commit", .str s.goalBaseCommit),
    ("classification", .int s.classification.value),
    ("locality", .str (StrEnum.value s.locality)),
    ("budget", gatewayBudgetPayload s.budget),
    ("plan_id", .ofText? s.planId),
    ("plan_digest", .ofText? s.planDigest),
    ("plan_version", ofInteger? s.planRevision),
    ("status", .str (StrEnum.value s.status)),
    ("retained_workspace_ids", .ofTexts s.retainedWorkspaceIds),
    ("tasks", .list (s.tasks.map fun t ↦ .object (dumpTask t))),
    ("latest_event_id", .str s.latestEventId),
    ("last_stream_sequence", .int s.lastStreamSequence),
    ("input_tokens", .int s.inputTokens),
    ("input_tokens_complete", .bool s.inputTokensComplete),
    ("output_tokens", .int s.outputTokens),
    ("output_tokens_complete", .bool s.outputTokensComplete),
    ("latency_ms", .int s.latencyMs),
    ("cost_microusd", .int s.costMicrousd),
    ("cost_microusd_complete", .bool s.costMicrousdComplete),
    ("pending_draft_digest", .ofText? s.pendingDraftDigest)]

/-- `dump_state`. -/
def dumpState : Option ExecutionRunState → JsonValue
  | none => .null
  | some s => .object (dumpRun s)

/-- The version of a plan in a checkpoint: an integer, or `None`. The source does not look at its
sign, and a version is a natural number here. -/
def planVersion (raw : Mapping) : Runtime (Option Nat) :=
  match raw.get "plan_version" with
  | .null => .ok none
  | .int n => .ok (some n.toNat)
  | _ => .error (.runtime .invalidExecutionCheckpoint)

/-- The arguments of the state, read from a checkpoint whose lists were read. -/
def readRun (raw : Mapping) (tasks : List ExecutionTaskState) (planRevision : Option Nat)
    (retainedWorkspaceIds : List String) : Runtime ExecutionRunState := do
  let runId ← text raw "run_id"
  let goalId ← text raw "goal_id"
  let goalDigest ← digest raw "goal_digest"
  let projectId ← text raw "project_id"
  let intentId ← text raw "intent_id"
  let goalBaseCommit ← commit raw "goal_base_commit"
  let classification ← integer raw "classification"
  let classification ← Checked.ofOption (DataClassification.ofValue? classification) Failure.value
  let locality ← text raw "locality"
  let locality ← Checked.ofOption (StrEnum.ofValue? locality) Failure.value
  let budget ← gatewayBudget (raw.get "budget")
  let planId ← optionalText raw "plan_id"
  let planDigest ← optionalDigest raw "plan_digest"
  let status ← text raw "status"
  let status ← Checked.ofOption (StrEnum.ofValue? status) Failure.value
  let latestEventId ← text raw "latest_event_id"
  let lastStreamSequence ← integer raw "last_stream_sequence"
  let inputTokens ← integer raw "input_tokens"
  let inputTokensComplete ← boolean raw "input_tokens_complete"
  let outputTokens ← integer raw "output_tokens"
  let outputTokensComplete ← boolean raw "output_tokens_complete"
  let latencyMs ← integer raw "latency_ms"
  let costMicrousd ← integer raw "cost_microusd"
  let costMicrousdComplete ← boolean raw "cost_microusd_complete"
  let pendingDraftDigest ← optionalDigest raw "pending_draft_digest"
  pure {
    runId, goalId, goalDigest, projectId, intentId, goalBaseCommit, classification, locality,
    budget, planId, planDigest, planRevision, status, tasks, retainedWorkspaceIds, latestEventId,
    lastStreamSequence, inputTokens, inputTokensComplete, outputTokens, outputTokensComplete,
    latencyMs, costMicrousd, costMicrousdComplete, pendingDraftDigest }

/-- `load_state`. -/
def loadState (value : JsonValue) : Runtime (Option ExecutionRunState) :=
  if value = .null then pure none
  else do
    let raw ← Checked.ofOption value.fields? (Failure.runtime .invalidExecutionEvent)
    check (raw.exact stateFields) .invalidExecutionCheckpoint
    let rawTasks ← Checked.ofOption (raw.get "tasks").items?
      (Failure.runtime .invalidExecutionCheckpoint)
    let tasks ← rawTasks.mapM taskStateFromCheckpoint
    let planRevision ← planVersion raw
    let retainedWorkspaceIds ← textTuple raw "retained_workspace_ids"
    check retainedWorkspaceIds.Nodup .invalidExecutionCheckpoint
    some <$> readRun raw tasks planRevision retainedWorkspaceIds

/-- What the reader demands of the fields of a run, each by itself. -/
structure ExecutionRunState.Readable (s : ExecutionRunState) : Prop where
  runId : s.runId ≠ ""
  goalId : s.goalId ≠ ""
  goalDigest : isDigestText s.goalDigest
  projectId : s.projectId ≠ ""
  intentId : s.intentId ≠ ""
  base : isCommit s.goalBaseCommit
  planId : s.planId ≠ some ""
  planDigest : s.planDigest.all isDigestText
  retained : s.retainedWorkspaceIds.Nodup
  latestEventId : s.latestEventId ≠ ""
  sequence : 0 ≤ s.lastStreamSequence
  draftDigest : s.pendingDraftDigest.all isDigestText

theorem gatewayBudget_payload (b : GatewayBudget) :
    gatewayBudget (gatewayBudgetPayload b) = .ok b := by
  simp only [gatewayBudget, gatewayBudgetPayload, JsonValue.fields?, Checked.ofOption_some,
    Checked.ok_bind, Checked.bind_eq_ok, check_eq_ok, Checked.exists_unit, integer_eq_ok,
    Checked.pure_eq_ok]
  exact ⟨by simp [Mapping.exact, Mapping.keys], _, rfl, _, rfl, _, rfl, _, rfl, rfl⟩

theorem readRun_dumpRun {s : ExecutionRunState} (h : s.Readable) :
    readRun (dumpRun s) s.tasks s.planRevision s.retainedWorkspaceIds = .ok s := by
  have h1 : text (dumpRun s) "run_id" = .ok s.runId := text_eq_ok.mpr ⟨rfl, h.runId⟩
  have h2 : text (dumpRun s) "goal_id" = .ok s.goalId := text_eq_ok.mpr ⟨rfl, h.goalId⟩
  have h3 : digest (dumpRun s) "goal_digest" = .ok s.goalDigest :=
    digest_eq_ok.mpr ⟨rfl, h.goalDigest⟩
  have h4 : text (dumpRun s) "project_id" = .ok s.projectId := text_eq_ok.mpr ⟨rfl, h.projectId⟩
  have h5 : text (dumpRun s) "intent_id" = .ok s.intentId := text_eq_ok.mpr ⟨rfl, h.intentId⟩
  have h6 : commit (dumpRun s) "goal_base_commit" = .ok s.goalBaseCommit :=
    commit_eq_ok.mpr ⟨rfl, h.base⟩
  have h7 : integer (dumpRun s) "classification" = .ok s.classification.value :=
    integer_eq_ok.mpr rfl
  have h8 : text (dumpRun s) "locality" = .ok (StrEnum.value s.locality) :=
    text_eq_ok.mpr ⟨rfl, by cases s.locality <;> decide⟩
  have h9 : gatewayBudget ((dumpRun s).get "budget") = .ok s.budget := gatewayBudget_payload _
  have h10 : optionalText (dumpRun s) "plan_id" = .ok s.planId :=
    optionalText_eq_ok.mpr ⟨rfl, h.planId⟩
  have h11 : optionalDigest (dumpRun s) "plan_digest" = .ok s.planDigest :=
    optionalDigest_eq_ok.mpr ⟨rfl, h.planDigest⟩
  have h12 : text (dumpRun s) "status" = .ok (StrEnum.value s.status) :=
    text_eq_ok.mpr ⟨rfl, by cases s.status <;> decide⟩
  have h13 : text (dumpRun s) "latest_event_id" = .ok s.latestEventId :=
    text_eq_ok.mpr ⟨rfl, h.latestEventId⟩
  have h14 : integer (dumpRun s) "last_stream_sequence" = .ok s.lastStreamSequence.toNat :=
    integer_eq_ok.mpr (congrArg JsonValue.int (Int.toNat_of_nonneg h.sequence).symm)
  have h15 : integer (dumpRun s) "input_tokens" = .ok s.inputTokens := integer_eq_ok.mpr rfl
  have h16 : boolean (dumpRun s) "input_tokens_complete" = .ok s.inputTokensComplete :=
    boolean_eq_ok.mpr rfl
  have h17 : integer (dumpRun s) "output_tokens" = .ok s.outputTokens := integer_eq_ok.mpr rfl
  have h18 : boolean (dumpRun s) "output_tokens_complete" = .ok s.outputTokensComplete :=
    boolean_eq_ok.mpr rfl
  have h19 : integer (dumpRun s) "latency_ms" = .ok s.latencyMs := integer_eq_ok.mpr rfl
  have h20 : integer (dumpRun s) "cost_microusd" = .ok s.costMicrousd := integer_eq_ok.mpr rfl
  have h21 : boolean (dumpRun s) "cost_microusd_complete" = .ok s.costMicrousdComplete :=
    boolean_eq_ok.mpr rfl
  have h22 : optionalDigest (dumpRun s) "pending_draft_digest" = .ok s.pendingDraftDigest :=
    optionalDigest_eq_ok.mpr ⟨rfl, h.draftDigest⟩
  simp only [readRun, h1, h2, h3, h4, h5, h6, h7, h8, h9, h10, h11, h12, h13, h14, h15, h16, h17,
    h18, h19, h20, h21, h22, StrEnum.ofValue?_value, DataClassification.ofValue?_value,
    Checked.ofOption_some, Checked.ok_bind, Int.toNat_of_nonneg h.sequence, Checked.pure_eq_ok]

/-- What the reader demands, apart from the reasons of blocked tasks. -/
structure ExecutionRunState.Storable (s : ExecutionRunState) : Prop extends s.Readable where
  tasks : ∀ t ∈ s.tasks, t.Readable ∧ t.PolicyComplete ∧ t.Bounded

/-- Blocked tasks, and no others, have a recorded reason. -/
def Reasoned (state : Option ExecutionRunState) : Prop :=
  ∀ s ∈ state, ∀ t ∈ s.tasks, t.Reasoned

/-- **Restored states.** The checkpoint of a storable state is restored exactly if its tasks are
reasoned. -/
theorem loadState_dumpState {s : ExecutionRunState} (h : s.Storable) :
    loadState (dumpState (some s)) = .ok (some s) ↔ Reasoned (some s) := by
  have hfields : (dumpRun s).exact stateFields := ⟨by simp [dumpRun, Mapping.keys, stateFields], by
    simp [dumpRun, Mapping.keys, stateFields]⟩
  have hitems : ((dumpRun s).get "tasks").items? = some (s.tasks.map fun t ↦ .object (dumpTask t)) :=
    rfl
  have hversion : planVersion (dumpRun s) = .ok s.planRevision := by
    change (match ofInteger? s.planRevision with | .null => _ | .int n => _ | _ => _) = _
    cases s.planRevision <;> rfl
  have hretained : textTuple (dumpRun s) "retained_workspace_ids" = .ok s.retainedWorkspaceIds :=
    textTuple_eq_ok.mpr rfl
  constructor
  · rintro hload _ ⟨⟩ t ht
    simp only [loadState, dumpState, reduceCtorEq, if_false, Checked.bind_eq_ok, check_eq_ok,
      Checked.exists_unit, Checked.map_eq_ok, Option.some.injEq, exists_eq_right] at hload
    obtain ⟨raw, hraw, -, rawTasks, hraws, tasks, htasks, planRevision, -, retained, -, -, hrun⟩ :=
      hload
    have hsame : s.tasks = tasks := by
      simp only [readRun, Checked.bind_eq_ok, Checked.pure_eq_ok] at hrun
      grind
    obtain ⟨value, -, hvalue⟩ := Checked.exists_of_mem_mapM htasks (hsame ▸ ht)
    exact reasoned_of_taskStateFromCheckpoint hvalue
  · intro hreasoned
    have htasks : (s.tasks.map fun t ↦ JsonValue.object (dumpTask t)).mapM taskStateFromCheckpoint =
        .ok s.tasks := by
      refine Checked.mapM_eq_ok.mpr (List.forall₂_map_left_iff.mpr (List.forall₂_same.mpr ?_))
      intro t ht
      obtain ⟨hread, hpolicy, hbounded⟩ := h.tasks t ht
      exact taskStateFromCheckpoint_dumpTask hread hpolicy hbounded (hreasoned s rfl t ht)
    simp only [loadState, dumpState, reduceCtorEq, if_false, JsonValue.fields?,
      Checked.ofOption_some, Checked.ok_bind, hitems, htasks, hversion, hretained,
      readRun_dumpRun h.toReadable]
    simp [check, Checked.require, hfields, h.retained, Functor.map, Except.map]

/-! ### Reached states -/

section Reached

variable {H : Host} {s s' : ExecutionRunState} {t t' : ExecutionTaskState}

/-- What the projection guarantees of the recorded fields of a task. -/
structure ExecutionTaskState.Recorded (t : ExecutionTaskState) : Prop where
  signature : t.lastErrorSignature.all isDigestText
  active : t.activeWorkspaceId ≠ some ""
  retained : t.retainedWorkspaceId ≠ some ""
  summary : t.lastFailureSummary ≠ some ""
  artifacts : t.lastArtifactDigests.all isDigestText ∧
    t.lastArtifactDigests = sortedSet t.lastArtifactDigests
  progress : t.lastProgressDigests.all isDigestText ∧
    t.lastProgressDigests = sortedSet t.lastProgressDigests
  attempts : 1 ≤ t.maxAttempts ∧ t.maxAttempts ≤ 3 ∧ t.attempts ≤ t.maxAttempts
  dependsOn : t.dependsOn.Nodup
  allowedPaths : t.allowedPaths.Nodup

/-- What the projection guarantees of the recorded fields of a run. -/
structure ExecutionRunState.Recorded (s : ExecutionRunState) : Prop extends s.Readable where
  tasks : ∀ t ∈ s.tasks, t.Recorded

theorem recorded_initial (task : TaskSpec) : (ExecutionTaskState.initial task).Recorded where
  signature := rfl
  active := nofun
  retained := nofun
  summary := nofun
  artifacts := ⟨rfl, rfl⟩
  progress := ⟨rfl, rfl⟩
  attempts := ⟨task.attempts.1, task.attempts.2, Nat.zero_le _⟩
  dependsOn := task.dependencies.1.2
  allowedPaths := task.allowedPaths.2.1.2

/-- Replacing one task by a recorded one. -/
theorem ExecutionRunState.Recorded.replaceTask (h : s.Recorded)
    (hfind : s.find t.taskId = some t) (htask : t.Recorded → t'.Recorded) :
    (s.replaceTask t').Recorded where
  toReadable := { h.toReadable with }
  tasks x hx := by
    rcases ExecutionRunState.mem_replaceTask hx with rfl | ⟨hx, -⟩
    · exact htask (h.tasks t (ExecutionRunState.mem_of_find hfind).1)
    · exact h.tasks x hx

/-- The task after a verified attempt. -/
theorem ExecutionTaskState.Recorded.verified (h : t.Recorded) (eventId : String)
    (route : AttemptRoute) (evidence : AttemptEvidence) :
    (t.verified eventId route (evidence.errorSignature H) evidence).Recorded where
  signature := all_errorSignature H evidence
  active := nofun
  retained := by
    rw [ExecutionTaskState.verified]
    dsimp only
    split
    · exact h.retained
    · exact h.active
  summary := evidence.failureSummary_ne_empty
  artifacts := (readable_of_isDigestTuple evidence.artifactDigests.2).2
  progress := (readable_of_isDigestTuple evidence.progressDigests.2).2
  attempts := h.attempts
  dependsOn := h.dependsOn
  allowedPaths := h.allowedPaths

/-- A workspace is retained once. -/
theorem nodup_retainedAfter {retained : List String} (h : retained.Nodup) (active : Option String)
    (route : AttemptRoute) : (retainedAfter retained active route).Nodup := by
  unfold retainedAfter
  split
  · split
    case isTrue workspace hnew =>
      exact List.nodup_append.mpr ⟨h, List.nodup_singleton _, by grind⟩
    case isFalse => exact h
  · exact h

/-- A change keeps what is recorded. -/
theorem Change.recorded {eventId : String} {payload : Mapping} {type : ExecutionEventType}
    (h : Change H eventId payload s type s') (hsound : RunSound H s) (hs : s.Recorded) :
    s'.Recorded := by
  cases h with
  | replanStarted => exact { hs with }
  | runTerminated => exact { hs with }
  | planDraftReceived draftDigest outputDigest profileId adapterId modelId inputTokens outputTokens
    costMicrousd latencyMs status draft draftGet isDraft =>
    exact { hs with draftDigest := isDraft }
  | planAdmitted plan status planGet idGet nonempty =>
    refine { hs with
      planId := by simpa using nonempty
      planDigest := isDigestText_jsonDigest H _
      draftDigest := rfl
      tasks := fun t ht ↦ ?_ }
    obtain ⟨task, -, rfl⟩ := List.mem_map.mp ht
    exact recorded_initial task
  | policyDecided task planId action decision names =>
    exact hs.replaceTask names.find fun h ↦ { h with }
  | taskReady task names => exact hs.replaceTask names.find fun h ↦ { h with }
  | taskStarted task planId baseCommit decisionId actionDigest names status =>
    have hready := (hsound.tasks task (ExecutionRunState.mem_of_find names.find).1).ready status
    refine hs.replaceTask names.find fun h ↦ { h with
      active := fun hempty ↦ workspaceId_ne_empty planId task.taskId _ (Option.some.inj hempty)
      attempts := ⟨h.attempts.1, h.attempts.2.1, hready⟩ }
  | taskVerifying task workspace names => exact hs.replaceTask names.find fun h ↦ { h with }
  | taskVerified task workspace route evidence names =>
    have hverified := hs.replaceTask names.find fun h ↦
      h.verified (H := H) eventId route evidence
    exact { hverified with retained := nodup_retainedAfter hs.retained (some workspace) route }
  | taskBlocked task reason names => exact hs.replaceTask names.find fun h ↦ { h with }

/-- A public event keeps what is recorded. -/
theorem ExecutionRunState.Recorded.afterPublic (h : s.Recorded) (type : RunLifecycle.RunEventType)
    {e : EventEnvelope} (he : e.IsConstructed) : (s.afterPublic type e).Recorded where
  toReadable := { h.toReadable with
    latestEventId := he.eventId_ne_empty
    sequence := Int.le_trans (by decide) he.streamSequence }
  tasks t ht := by
    rw [ExecutionRunState.afterPublic] at ht
    dsimp only at ht
    unfold endTasks at ht
    split at ht
    · exact h.tasks t ht
    · obtain ⟨x, hx, rfl⟩ := List.mem_map.mp ht
      unfold ExecutionTaskState.endWith
      split
      · exact h.tasks x hx
      · exact { h.tasks x hx with active := by rintro ⟨⟩ }

/-- An accepted event keeps what is recorded. -/
theorem Step.recorded {e : EventEnvelope} {state state' : Option ExecutionRunState}
    (h : Step H e state state') (he : e.IsConstructed)
    (hstate : ∀ s ∈ state, RunSound H s ∧ s.Recorded) : ∀ s ∈ state', s.Recorded := by
  rintro s rfl
  have hsequence : 0 ≤ e.streamSequence := Int.le_trans (by decide) he.streamSequence
  cases h with
  | published t s₀ => exact (hstate s₀ rfl).2.afterPublic t he
  | opened runId goal classification locality budget type fields run isRun stream goalGet idGet
    nonempty =>
    exact {
      runId := isRunId_ne_empty isRun
      goalId := nonempty
      goalDigest := isDigestText_jsonDigest H _
      projectId := isPlanIdentifier_ne_empty goal.identifiers.2.1
      intentId := isPlanIdentifier_ne_empty goal.identifiers.2.2
      base := goal.isCommit
      planId := nofun
      planDigest := rfl
      retained := List.nodup_nil
      latestEventId := he.eventId_ne_empty
      sequence := hsequence
      draftDigest := rfl
      tasks := by simp [ExecutionRunState.opened] }
  | changed t s₀ s₁ type fields run isRun stream sequence active change =>
    have hrecorded := change.recorded (hstate s₀ rfl).1 (hstate s₀ rfl).2
    exact { hrecorded with
      latestEventId := he.eventId_ne_empty
      sequence := hsequence }

/-- **Recorded states.** What the projection guarantees of the fields of a state. -/
theorem recorded_of_project {E : List EventEnvelope} (hE : ∀ e ∈ E, e.IsConstructed)
    (h : project H E = .ok (some s)) : s.Recorded := by
  refine (History.keeps (fun state ↦ ∀ s ∈ state, RunSound H s ∧ s.Recorded) ?_ (by simp) h
    s rfl).2
  intro e state state' he hstate hstep s hs
  have hstep := apply_eq_ok.mp hstep
  exact ⟨hstep.sound (fun s hs ↦ (hstate s hs).1) s hs, hstep.recorded (hE e he) hstate s hs⟩

/-- A recorded and sound task satisfies all that the reader demands, but its reason. -/
theorem ExecutionTaskState.Recorded.storable (h : t.Recorded) (hsound : TaskSound H s t) :
    t.Readable ∧ t.PolicyComplete ∧ t.Bounded := by
  have hhead : t.headCommit.all isCommit := by
    cases hc : t.headCommit with
    | none => rfl
    | some c => exact hsound.head c hc
  have hbounded : t.Bounded := ⟨h.attempts, hsound.dependencies.1, h.dependsOn, h.allowedPaths⟩
  cases hsound.policy with
  | undecided id digest allowed reason =>
    refine ⟨?_, .inl ⟨id, digest, allowed, reason⟩, hbounded⟩
    exact { h with
      taskId := isPlanIdentifier_ne_empty hsound.identifier
      reason := hsound.reason
      head := hhead
      decisionId := by simp [id]
      actionDigest := by simp [digest]
      policyReason := by simp [reason] }
  | decided planId action decision status plan actionEq bound nonempty id digest allowed reason =>
    refine ⟨?_, .inr ⟨⟨by simp [id], by simp [digest], by simp [allowed], by simp [reason]⟩, status⟩,
      hbounded⟩
    exact { h with
      taskId := isPlanIdentifier_ne_empty hsound.identifier
      reason := hsound.reason
      head := hhead
      decisionId := by
        rw [id]
        exact isDigestText_jsonDigest H _
      actionDigest := by
        rw [digest, bound]
        exact isDigestText_jsonDigest H _
      policyReason := by simpa [reason] using nonempty }

/-- **Storable states.** The state of an accepted stream is storable. -/
theorem storable_of_project {E : List EventEnvelope} (hE : ∀ e ∈ E, e.IsConstructed)
    (h : project H E = .ok (some s)) : s.Storable := by
  have hrecorded := recorded_of_project hE h
  exact { hrecorded with
    tasks := fun t ht ↦ (hrecorded.tasks t ht).storable ((runSound_of_project h).tasks t ht) }

/-! ### Reasons -/

/-- The event does not separate the status of a task from its reason: it does not route an attempt
to `blocked`, and it does not end the tasks of a run one of which is blocked. -/
structure KeepsReasons (e : EventEnvelope) (state : Option ExecutionRunState) : Prop where
  route : executionEventType? e = some .taskVerified →
    e.payload.get "route" ≠ .str (StrEnum.value AttemptRoute.blocked)
  ends : ∀ type, RunLifecycle.runEventType? e = some type → ∀ s ∈ state,
    (publicStatus type s.status).2.isSome → ∀ t ∈ s.tasks, t.status ≠ .blocked

theorem AttemptRoute.taskStatus_eq_blocked {route : AttemptRoute} :
    route.taskStatus = .blocked ↔ route = .blocked := by
  cases route <;> simp [AttemptRoute.taskStatus]

/-- Replacing one task by a reasoned one. -/
theorem reasoned_replaceTask (hs : ∀ t ∈ s.tasks, t.Reasoned) (hfind : s.find t.taskId = some t)
    (htask : t.Reasoned → t'.Reasoned) : ∀ x ∈ (s.replaceTask t').tasks, x.Reasoned := by
  intro x hx
  rcases ExecutionRunState.mem_replaceTask hx with rfl | ⟨hx, -⟩
  · exact htask (hs t (ExecutionRunState.mem_of_find hfind).1)
  · exact hs x hx

/-- A task that is not blocked, and stays so, has no reason. -/
theorem ExecutionTaskState.Reasoned.of_ne (h : t.Reasoned) (hstatus : t.status ≠ .blocked)
    (hstatus' : t'.status ≠ .blocked) (hreason : t'.blockedReason = t.blockedReason) :
    t'.Reasoned := by
  have hnone : ¬t.blockedReason.isSome := fun hsome ↦ hstatus (h.mpr hsome)
  exact ⟨fun hblocked ↦ absurd hblocked hstatus', fun hsome ↦ absurd (hreason ▸ hsome) hnone⟩

/-- A change that routes no attempt to `blocked` keeps a run reasoned. -/
theorem Change.reasoned {eventId : String} {payload : Mapping} {type : ExecutionEventType}
    (h : Change H eventId payload s type s') (hs : ∀ t ∈ s.tasks, t.Reasoned)
    (hroute : type = .taskVerified →
      payload.get "route" ≠ .str (StrEnum.value AttemptRoute.blocked)) :
    ∀ t ∈ s'.tasks, t.Reasoned := by
  cases h with
  | replanStarted => exact hs
  | planDraftReceived => exact hs
  | runTerminated => exact hs
  | planAdmitted plan =>
    intro t ht
    obtain ⟨task, -, rfl⟩ := List.mem_map.mp ht
    exact ⟨nofun, nofun⟩
  | policyDecided task planId action decision names => exact reasoned_replaceTask hs names.find id
  | taskReady task names running status =>
    refine reasoned_replaceTask hs names.find fun h ↦ h.of_ne ?_ (by simp) rfl
    rcases status with status | status <;> simp [status]
  | taskStarted task planId baseCommit decisionId actionDigest names status =>
    exact reasoned_replaceTask hs names.find fun h ↦ h.of_ne (by simp [status]) (by simp) rfl
  | taskVerifying task workspace names status =>
    exact reasoned_replaceTask hs names.find fun h ↦ h.of_ne (by simp [status]) (by simp) rfl
  | taskVerified task workspace route evidence names status workspaceGet nonempty active routeGet =>
    refine reasoned_replaceTask hs names.find fun h ↦ h.of_ne (by simp [status]) ?_ rfl
    intro hblocked
    obtain rfl := AttemptRoute.taskStatus_eq_blocked.mp hblocked
    exact hroute rfl routeGet
  | taskBlocked task reason names =>
    exact reasoned_replaceTask hs names.find fun _ ↦ ⟨fun _ ↦ rfl, fun _ ↦ rfl⟩

/-- An accepted event that keeps reasons keeps a state reasoned. -/
theorem Step.reasoned {e : EventEnvelope} {state state' : Option ExecutionRunState}
    (h : Step H e state state') (hkeeps : KeepsReasons e state) (hstate : Reasoned state) :
    Reasoned state' := by
  rintro s rfl
  cases h with
  | opened => simp [ExecutionRunState.opened]
  | changed t s₀ s₁ type fields run isRun stream sequence active change =>
    exact change.reasoned (hstate s₀ rfl) fun ht ↦ hkeeps.route (ht ▸ type)
  | published t s₀ type =>
    intro x hx
    rw [ExecutionRunState.afterPublic] at hx
    dsimp only at hx
    cases hended : (publicStatus t s₀.status).2 with
    | none =>
      rw [hended] at hx
      exact hstate s₀ rfl x hx
    | some status =>
      rw [hended] at hx
      obtain ⟨y, hy, rfl⟩ := List.mem_map.mp hx
      have hne := hkeeps.ends t type s₀ rfl (by simp [hended]) y hy
      have hstatus : status ≠ .blocked := by
        rintro rfl
        cases t <;> simp [publicStatus] at hended
      unfold ExecutionTaskState.endWith
      split
      · exact hstate s₀ rfl y hy
      · exact (hstate s₀ rfl y hy).of_ne hne hstatus rfl

/-- **Reasoned runs.** A run each of whose events keeps reasons is reasoned. -/
theorem reasoned_of_project {E : List EventEnvelope} {state : Option ExecutionRunState}
    (h : project H E = .ok state)
    (hkeeps : ∀ pre e post before, E = pre ++ e :: post → project H pre = .ok before →
      KeepsReasons e before) : Reasoned state := by
  induction E using List.reverseRecOn generalizing state with
  | nil =>
    obtain rfl : none = state := by simpa [project] using h
    simp [Reasoned]
  | append_singleton E e ih =>
    obtain ⟨before, hbefore, hstep⟩ := project_concat.mp h
    refine hstep.reasoned (hkeeps E e [] before rfl hbefore) (ih hbefore ?_)
    intro pre x post before' hsplit
    exact hkeeps pre x (post ++ [e]) before' (by rw [hsplit, List.append_assoc, List.cons_append])

end Reached

/-- **Checkpoints.** The checkpoint of the state of an accepted stream is restored to that state
exactly if, in that state, the blocked tasks and no others have a recorded reason. This is so when no
event of the stream routes an attempt to `blocked`, or ends the tasks of the run while one of them is
blocked. -/
theorem checkpoint_roundTrip {H : Host} {E : List EventEnvelope} {state : Option ExecutionRunState}
    (hE : ∀ e ∈ E, e.IsConstructed) (h : project H E = .ok state) :
    (loadState (dumpState state) = .ok state ↔ Reasoned state) ∧
      ((∀ pre e post before, E = pre ++ e :: post → project H pre = .ok before →
        KeepsReasons e before) → loadState (dumpState state) = .ok state) := by
  have hload : loadState (dumpState state) = .ok state ↔ Reasoned state := by
    cases state with
    | none => simp [loadState, dumpState, Reasoned]
    | some s => exact loadState_dumpState (storable_of_project hE h)
  exact ⟨hload, fun hkeeps ↦ hload.mpr (reasoned_of_project h hkeeps)⟩

namespace Sample

/-- The stream of the submitted run with the events of the given kinds and payloads. -/
def recorded (changes : List (ExecutionEventType × Mapping)) : List EventEnvelope :=
  changes.foldl (fun E change ↦ E ++ [requestEvent "run-1" change.1 change.2 "actor-1" "key" E
    (frugal.stamps E.length)]) [queued]

/-- The admission of the goal and of the plan. -/
def admission : List (ExecutionEventType × Mapping) := [
  (.goalAdmitted, goalAdmittedPayload documentHost request),
  (.planDraftReceived, planDraftReceivedPayload plan (result 1 (some 1))),
  (.planAdmitted, planAdmittedPayload documentHost plan)]

/-- The attempt, which fails and leaves its workspace unclean, so that it is routed to `blocked`. -/
def uncleanAttempt : List (ExecutionEventType × Mapping) := [
  (.taskReady, taskReadyPayload "task-1" 1),
  (.policyDecided, policyDecidedPayload documentHost "task-1" 1 decision),
  (.taskStarted, taskStartedPayload documentHost "task-1" 1 workspace goal.baseCommit decision),
  (.taskVerifying, taskVerifyingPayload "task-1" 1 workspace),
  (.taskVerified, taskVerifiedPayload "task-1" 1 workspace .blocked
    (some (digestPrefix ++ errorHex.1)) 1 true { failed with workspaceClean := false })]

/-- The stream is projected to a state of a kind, and its envelopes are constructed. -/
def projectsTo (E : List EventEnvelope) (p : ExecutionRunState → Bool) : Bool :=
  (project host E).toOption.join.any p && decide (∀ e ∈ E, e.IsConstructed)

theorem exists_projectsTo {E : List EventEnvelope} {p : ExecutionRunState → Bool}
    (h : projectsTo E p = true) :
    ∃ s, project host E = .ok (some s) ∧ p s = true ∧ ∀ e ∈ E, e.IsConstructed := by
  simp only [projectsTo, Bool.and_eq_true, Option.any_eq_true, decide_eq_true_eq] at h
  obtain ⟨⟨s, hs, hp⟩, hconstructed⟩ := h
  refine ⟨s, ?_, hp, hconstructed⟩
  cases hproject : project host E with
  | ok state => simpa [hproject, Except.toOption] using hs
  | error => simp [hproject, Except.toOption] at hs

/-- The state after the admission is reasoned, and the one after the attempt is not. -/
theorem checkpoint_checked :
    projectsTo (recorded admission) (fun s ↦ s.tasks.all fun t ↦ decide t.Reasoned) = true ∧
      projectsTo (recorded (admission ++ uncleanAttempt))
        (fun s ↦ s.tasks.any fun t ↦ !decide t.Reasoned) = true := by
  decide +kernel

example : projectsTo [] (fun _ ↦ true) = false := by decide +kernel

end Sample

/-- The law on the sample run after its plan was admitted. -/
theorem checkpoint_roundTrip_sample :
    ∃ s, project Sample.host (Sample.recorded Sample.admission) = .ok (some s) ∧
      loadState (dumpState (some s)) = .ok (some s) := by
  obtain ⟨s, hproject, hs, hconstructed⟩ := Sample.exists_projectsTo Sample.checkpoint_checked.1
  refine ⟨s, hproject, (checkpoint_roundTrip hconstructed hproject).1.mpr ?_⟩
  rintro _ ⟨⟩ t ht
  exact of_decide_eq_true (List.all_eq_true.mp hs t ht)

/-- The checkpoint of the sample run is refused, when its attempt was routed to `blocked`. -/
theorem not_always_checkpoint_roundTrip : ¬ ∀ (H : Host) (E : List EventEnvelope)
    (state : Option ExecutionRunState), (∀ e ∈ E, e.IsConstructed) → project H E = .ok state →
      loadState (dumpState state) = .ok state := by
  intro h
  obtain ⟨s, hproject, hs, hconstructed⟩ := Sample.exists_projectsTo Sample.checkpoint_checked.2
  obtain ⟨t, ht, hreason⟩ := List.any_eq_true.mp hs
  have hload := h Sample.host _ _ hconstructed hproject
  have hreasoned := (loadState_dumpState (storable_of_project hconstructed hproject)).mp hload
  simp [hreasoned s rfl t ht] at hreason

end Blackcell.Orchestration.ExecutionRuntime
