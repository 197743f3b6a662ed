import Blackcell.Orchestration.ExecutionRuntime.Checkpoint
import Blackcell.Orchestration.ExecutionRuntime.Proceeding
import Mathlib.Data.List.DropRight

/-!
# The attempts of a run

What the events of a run say about the attempts of its tasks. An attempt is told apart by the plan
under which it is started, its task and its number. Plans are told apart as a whole: a later plan
has a higher revision, while its identifier is compared only with that of the plan it replaces.

The projection checks an event against the status of the run and of one task. The law on the events
is read off what these fields record of the events since the plan was admitted (`TaskRecorded`).

## Main definitions

* `currentPlan`, `sincePlan` : the plan that was admitted last, and the events that follow it.
* `activeStart` : the start of the attempt that a task is in.
* `Authorizes` : a decision is about the attempt that a later event starts.
* `AttemptSafe` : the law on the attempts of a run.

## Main results

* `attemptSafe_of_project` : the law holds of every stream that the projection accepts.
-/

namespace Blackcell.Orchestration.ExecutionRuntime

open Blackcell.Kernel Blackcell.Gateway Blackcell.Orchestration.ExecutionPlan

/-! ### What events record -/

/-- The event is one of a kind, and names a task. -/
def recordsTask (type : ExecutionEventType) (taskId : String) (e : EventEnvelope) : Bool :=
  executionEventType? e = some type ∧ e.payload.get "task_id" = .str taskId

/-- The event is one of a kind, and names an attempt of a task. -/
def recordsAttempt (type : ExecutionEventType) (taskId : String) (attempt : Nat)
    (e : EventEnvelope) : Bool :=
  recordsTask type taskId e && e.payload.get "attempt" = .int attempt

/-- The plan that an event admits. -/
def admittedPlan? (e : EventEnvelope) : Option Plan :=
  if executionEventType? e = some .planAdmitted then
    (planFromPayload (e.payload.get "plan")).toOption
  else none

/-- The plan that was admitted last. -/
def currentPlan (E : List EventEnvelope) : Option Plan := (E.filterMap admittedPlan?).getLast?

/-- The events since the current plan was admitted. -/
def sincePlan (E : List EventEnvelope) : List EventEnvelope :=
  E.rtakeWhile fun e ↦ executionEventType? e ≠ some .planAdmitted

/-- The number of attempts of a task that were started under the current plan. -/
def startsOf (E : List EventEnvelope) (taskId : String) : Nat :=
  (sincePlan E).countP (recordsTask .taskStarted taskId)

/-- The start of the attempt that a task is in, after one more event. -/
def startAfter (taskId : String) (start : Option EventEnvelope) (e : EventEnvelope) :
    Option EventEnvelope :=
  if recordsTask .taskStarted taskId e then some e
  else if recordsTask .taskVerified taskId e then none
  else start

/-- The start of the attempt that a task is in: the last one that no verification follows. -/
def activeStart (E : List EventEnvelope) (taskId : String) : Option EventEnvelope :=
  E.foldl (startAfter taskId) none

/-- **Authorizations.** A decision is about the attempt that a later event starts, under the same
plan; the events between the two are given. -/
structure Authorizes (d : EventEnvelope) (between : List EventEnvelope) (e : EventEnvelope)
    (taskId : String) (attempt : Nat) : Prop where
  decides : recordsAttempt .policyDecided taskId attempt d
  starts : recordsAttempt .taskStarted taskId attempt e
  current : ∀ x ∈ between, executionEventType? x ≠ some .planAdmitted

/-- The event names the attempt that a task is in, and its workspace. -/
def NamesActive (E : List EventEnvelope) (taskId : String) (e : EventEnvelope) : Prop :=
  ∀ start ∈ activeStart E taskId, e.payload.get "attempt" = start.payload.get "attempt" ∧
    e.payload.get "workspace_id" = start.payload.get "workspace_id"

/-- **Safe attempts.** No attempt is started twice. The attempts of a task count up from one, under
each plan, and do not exceed the number that the plan allows. A task is made ready when its
dependencies have succeeded under the same plan. One decision is about each attempt that is started;
it allows the action on the run, the plan, the task, the attempt and the paths, and no other start
rests on it. And while a task is in an attempt, its events name this attempt and its workspace. -/
structure AttemptSafe (H : Host) (E : List EventEnvelope) : Prop where
  startedOnce : ∀ E₁ e E₂ e' E₃ taskId attempt, E = E₁ ++ e :: (E₂ ++ e' :: E₃) →
    recordsAttempt .taskStarted taskId attempt e → recordsAttempt .taskStarted taskId attempt e' →
    currentPlan (E₁ ++ e :: E₂) ≠ currentPlan E₁
  counted : ∀ E₁ e E₂ taskId, E = E₁ ++ e :: E₂ → recordsTask .taskStarted taskId e →
    ∃ plan task, currentPlan E₁ = some plan ∧ task ∈ plan.tasks.1 ∧ task.taskId = taskId ∧
      recordsAttempt .taskStarted taskId (startsOf E₁ taskId + 1) e ∧
      startsOf E₁ taskId + 1 ≤ task.maxAttempts ∧
      e.payload.get "workspace_id" =
        .str (workspaceId H plan.planId taskId (startsOf E₁ taskId + 1))
  satisfied : ∀ E₁ e E₂ taskId, E = E₁ ++ e :: E₂ → recordsTask .taskReady taskId e →
    ∃ plan task, currentPlan E₁ = some plan ∧ task ∈ plan.tasks.1 ∧ task.taskId = taskId ∧
      ∀ d ∈ task.dependsOn, ∃ v ∈ sincePlan E₁, recordsTask .taskVerified d v ∧
        v.payload.get "route" = .str (StrEnum.value AttemptRoute.succeeded)
  authorized : ∀ E₁ e E₂ taskId attempt, E = E₁ ++ e :: E₂ →
    recordsAttempt .taskStarted taskId attempt e →
    ∃ plan task runId action d, currentPlan E₁ = some plan ∧ task ∈ plan.tasks.1 ∧
      task.taskId = taskId ∧ e.payload.get "run_id" = .str runId ∧
      ToolActionRequest.create runId plan.planId taskId attempt task.allowedPaths.1 = .ok action ∧
      (sincePlan E₁).filter (recordsAttempt .policyDecided taskId attempt) = [d] ∧
      d.payload.get "allowed" = .bool true ∧
      d.payload.get "action_digest" = .str (action.digest H) ∧
      e.payload.get "action_digest" = .str (action.digest H) ∧
      d.payload.get "decision_id" = e.payload.get "decision_id"
  unshared : ∀ E₁ d E₂ e E₃ e' E₄ taskId attempt taskId' attempt',
    E = E₁ ++ d :: (E₂ ++ e :: (E₃ ++ e' :: E₄)) → Authorizes d E₂ e taskId attempt →
    ¬Authorizes d (E₂ ++ e :: E₃) e' taskId' attempt'
  bound : ∀ E₁ e E₂ type taskId, E = E₁ ++ e :: E₂ → isTaskEvent type → recordsTask type taskId e →
    NamesActive (sincePlan E₁) taskId e ∧
      (type = .taskVerifying ∨ type = .taskVerified →
        (activeStart (sincePlan E₁) taskId).isSome)

section Events

variable {type type' : ExecutionEventType} {taskId : String} {attempt : Nat} {e : EventEnvelope}
  {E F : List EventEnvelope}

theorem recordsTask_iff : recordsTask type taskId e = true ↔
    executionEventType? e = some type ∧ e.payload.get "task_id" = .str taskId := by
  simp [recordsTask]

theorem recordsAttempt_iff : recordsAttempt type taskId attempt e = true ↔
    recordsTask type taskId e = true ∧ e.payload.get "attempt" = .int attempt := by
  simp [recordsAttempt]

theorem recordsTask_of_type (htype : executionEventType? e ≠ some type) :
    recordsTask type taskId e = false := by
  simp [recordsTask, htype]

theorem recordsTask_of_get {x : String} (hget : e.payload.get "task_id" = .str x)
    (hne : taskId ≠ x) : recordsTask type taskId e = false := by
  simp [recordsTask, hget, Ne.symm hne]

theorem recordsAttempt_of_recordsTask (h : recordsTask type taskId e = false) :
    recordsAttempt type taskId attempt e = false := by
  simp [recordsAttempt, h]

theorem sincePlan_concat_of_ne (h : executionEventType? e ≠ some .planAdmitted) :
    sincePlan (E ++ [e]) = sincePlan E ++ [e] :=
  List.rtakeWhile_concat_pos _ _ _ (by simpa using h)

theorem sincePlan_concat (h : executionEventType? e = some .planAdmitted) :
    sincePlan (E ++ [e]) = [] :=
  List.rtakeWhile_concat_neg _ _ _ (by simpa using h)

theorem sincePlan_append (h : ∀ x ∈ F, executionEventType? x ≠ some .planAdmitted) :
    sincePlan (E ++ F) = sincePlan E ++ F := by
  induction F using List.reverseRecOn with
  | nil => simp
  | append_singleton F e ih =>
    rw [← List.append_assoc, sincePlan_concat_of_ne (h e (by simp)),
      ih fun x hx ↦ h x (List.mem_append_left _ hx), List.append_assoc]

theorem currentPlan_concat_of_ne (h : executionEventType? e ≠ some .planAdmitted) :
    currentPlan (E ++ [e]) = currentPlan E := by
  simp [currentPlan, admittedPlan?, h]

theorem currentPlan_concat {plan : Plan} (h : executionEventType? e = some .planAdmitted)
    (hplan : planFromPayload (e.payload.get "plan") = .ok plan) :
    currentPlan (E ++ [e]) = some plan := by
  simp [currentPlan, admittedPlan?, h, hplan, Except.toOption]

theorem currentPlan_append (h : ∀ x ∈ F, executionEventType? x ≠ some .planAdmitted) :
    currentPlan (E ++ F) = currentPlan E := by
  induction F using List.reverseRecOn with
  | nil => simp
  | append_singleton F e ih =>
    rw [← List.append_assoc, currentPlan_concat_of_ne (h e (by simp)),
      ih fun x hx ↦ h x (List.mem_append_left _ hx)]

theorem activeStart_concat : activeStart (F ++ [e]) taskId =
    startAfter taskId (activeStart F taskId) e := by
  simp [activeStart]

end Events

/-! ### What a task records -/

/-- **Recorded tasks.** What the fields of a task say about the events since its plan was
admitted. -/
structure TaskRecorded (F : List EventEnvelope) (t : ExecutionTaskState) : Prop where
  attempts : F.countP (recordsTask .taskStarted t.taskId) = t.attempts
  succeeded : t.status = .succeeded → ∃ v ∈ F, recordsTask .taskVerified t.taskId v ∧
    v.payload.get "route" = .str (StrEnum.value AttemptRoute.succeeded)
  decided : ∀ d ∈ F, ∀ n, recordsAttempt .policyDecided t.taskId n d → n ≤ t.attempts + 1
  undecided : t.pendingPolicyDecisionId = none → t.status ≠ .blocked →
    ∀ d ∈ F, ∀ n, recordsAttempt .policyDecided t.taskId n d → n ≤ t.attempts
  pending : ∀ id ∈ t.pendingPolicyDecisionId, ∃ d,
    F.filter (recordsAttempt .policyDecided t.taskId (t.attempts + 1)) = [d] ∧
      d.payload.get "decision_id" = .str id ∧
      (∀ digest ∈ t.pendingPolicyActionDigest, d.payload.get "action_digest" = .str digest) ∧
      ∀ allowed ∈ t.pendingPolicyAllowed, d.payload.get "allowed" = .bool allowed
  active : ∀ workspace ∈ t.activeWorkspaceId, ∃ start, activeStart F t.taskId = some start ∧
    start.payload.get "attempt" = .int t.attempts ∧
    start.payload.get "workspace_id" = .str workspace
  idle : t.activeWorkspaceId = none → activeStart F t.taskId = none

section TaskRecorded

variable {F : List EventEnvelope} {e : EventEnvelope} {t t' : ExecutionTaskState}

/-- The tasks of a plan that was just admitted. -/
theorem taskRecorded_initial (task : TaskSpec) :
    TaskRecorded [] (ExecutionTaskState.initial task) where
  attempts := rfl
  succeeded := nofun
  decided _ hd := absurd hd List.not_mem_nil
  undecided _ _ _ hd := absurd hd List.not_mem_nil
  pending := nofun
  active := nofun
  idle _ := rfl

/-- An event that decides on no attempt of a task, and starts and verifies none, adds nothing. -/
theorem TaskRecorded.frame (h : TaskRecorded F t)
    (hdecided : recordsTask .policyDecided t.taskId e = false)
    (hstarted : recordsTask .taskStarted t.taskId e = false)
    (hverified : recordsTask .taskVerified t.taskId e = false) : TaskRecorded (F ++ [e]) t := by
  have hstart : activeStart (F ++ [e]) t.taskId = activeStart F t.taskId := by
    simp [activeStart_concat, startAfter, hstarted, hverified]
  have hnone : ∀ n, recordsAttempt .policyDecided t.taskId n e = false := fun n ↦
    recordsAttempt_of_recordsTask hdecided
  have hmem : ∀ d ∈ F ++ [e], ∀ n, recordsAttempt .policyDecided t.taskId n d → d ∈ F := by
    intro d hd n hrecords
    rcases List.mem_append.mp hd with hd | hd
    · exact hd
    · simp [List.mem_singleton.mp hd, hnone] at hrecords
  refine ⟨?_, fun hsucceeded ↦ ?_, fun d hd n hn ↦ h.decided d (hmem d hd n hn) n hn,
    fun hpending hblocked d hd n hn ↦ h.undecided hpending hblocked d (hmem d hd n hn) n hn,
    fun id hid ↦ ?_, fun workspace hworkspace ↦ ?_, fun hidle ↦ hstart.trans (h.idle hidle)⟩
  · simp [List.countP_append, hstarted, h.attempts]
  · obtain ⟨v, hv, hroute⟩ := h.succeeded hsucceeded
    exact ⟨v, List.mem_append_left _ hv, hroute⟩
  · obtain ⟨d, hd, hfields⟩ := h.pending id hid
    exact ⟨d, by simp [List.filter_append, hnone, hd], hfields⟩
  · obtain ⟨start, hstart', hfields⟩ := h.active workspace hworkspace
    exact ⟨start, hstart.trans hstart', hfields⟩

/-- What a task records does not rest on its other fields. -/
theorem TaskRecorded.congr (h : TaskRecorded F t) (hid : t'.taskId = t.taskId)
    (hattempts : t'.attempts = t.attempts) (hactive : t'.activeWorkspaceId = t.activeWorkspaceId)
    (hpending : t'.pendingPolicyDecisionId = t.pendingPolicyDecisionId)
    (hdigest : t'.pendingPolicyActionDigest = t.pendingPolicyActionDigest)
    (hallowed : t'.pendingPolicyAllowed = t.pendingPolicyAllowed)
    (hsucceeded : t'.status ≠ .succeeded) (hblocked : t.status ≠ .blocked) :
    TaskRecorded F t' where
  attempts := by rw [hid, hattempts, h.attempts]
  succeeded hstatus := absurd hstatus hsucceeded
  decided := by
    rw [hid, hattempts]
    exact h.decided
  undecided hnone _ := by
    rw [hid, hattempts]
    exact h.undecided (hpending ▸ hnone) hblocked
  pending := by
    rw [hid, hattempts, hpending, hdigest, hallowed]
    exact h.pending
  active := by
    rw [hid, hattempts, hactive]
    exact h.active
  idle := by
    rw [hid, hactive]
    exact h.idle

/-- A decision on the next attempt of a task is the only one. -/
theorem TaskRecorded.decide (h : TaskRecorded F t) {decisionId digest reason : String}
    {allowed : Bool} (htype : executionEventType? e = some .policyDecided)
    (hid : e.payload.get "task_id" = .str t.taskId)
    (hattempt : e.payload.get "attempt" = .int (t.attempts + 1 : Nat))
    (hblocked : t.status ≠ .blocked) (hnone : t.pendingPolicyDecisionId = none)
    (hsucceeded : t.status ≠ .succeeded) (hdecision : e.payload.get "decision_id" = .str decisionId)
    (hdigest : e.payload.get "action_digest" = .str digest)
    (hallowed : e.payload.get "allowed" = .bool allowed) :
    TaskRecorded (F ++ [e]) { t with
      pendingPolicyDecisionId := some decisionId
      pendingPolicyActionDigest := some digest
      pendingPolicyAllowed := some allowed
      pendingPolicyReason := some reason } := by
  have hstarted : recordsTask .taskStarted t.taskId e = false :=
    recordsTask_of_type (by simp [htype])
  have hverified : recordsTask .taskVerified t.taskId e = false :=
    recordsTask_of_type (by simp [htype])
  have hstart : activeStart (F ++ [e]) t.taskId = activeStart F t.taskId := by
    simp [activeStart_concat, startAfter, hstarted, hverified]
  have hrecords : recordsAttempt .policyDecided t.taskId (t.attempts + 1) e = true := by
    simp [recordsAttempt, recordsTask, htype, hid, hattempt]
  refine ⟨by simp [List.countP_append, hstarted, h.attempts],
    fun hstatus ↦ absurd hstatus hsucceeded, fun d hd n hn ↦ ?_, nofun, ?_,
    fun workspace hworkspace ↦ ?_,
    fun hidle ↦ hstart.trans (h.idle hidle)⟩
  · rcases List.mem_append.mp hd with hd | hd
    · exact h.decided d hd n hn
    · obtain rfl := List.mem_singleton.mp hd
      simp only [recordsAttempt_iff, hattempt, JsonValue.int.injEq, Int.natCast_inj] at hn
      exact hn.2.ge
  · rintro _ ⟨⟩
    have hearlier : F.filter (recordsAttempt .policyDecided t.taskId (t.attempts + 1)) = [] := by
      refine List.filter_eq_nil_iff.mpr fun d hd hn ↦ ?_
      have hle := h.undecided hnone hblocked d hd _ hn
      omega
    refine ⟨e, by simp [List.filter_append, hearlier, hrecords], hdecision, ?_, ?_⟩
    · rintro _ ⟨⟩
      exact hdigest
    · rintro _ ⟨⟩
      exact hallowed
  · obtain ⟨start, hstart', hfields⟩ := h.active workspace hworkspace
    exact ⟨start, hstart.trans hstart', hfields⟩

/-- The start of an attempt is the one that its task is in. -/
theorem TaskRecorded.start (h : TaskRecorded F t) {workspace : String}
    (htype : executionEventType? e = some .taskStarted)
    (hid : e.payload.get "task_id" = .str t.taskId)
    (hattempt : e.payload.get "attempt" = .int (t.attempts + 1 : Nat))
    (hworkspace : e.payload.get "workspace_id" = .str workspace) :
    TaskRecorded (F ++ [e]) { t.withoutPolicy with
      status := .running
      attempts := t.attempts + 1
      activeWorkspaceId := some workspace } := by
  have hstarted : recordsTask .taskStarted t.taskId e = true := recordsTask_iff.mpr ⟨htype, hid⟩
  have hdecided : ∀ d ∈ F ++ [e], ∀ n, recordsAttempt .policyDecided t.taskId n d →
      n ≤ t.attempts + 1 := by
    intro d hd n hn
    rcases List.mem_append.mp hd with hd | hd
    · exact h.decided d hd n hn
    · simp [List.mem_singleton.mp hd, recordsAttempt, recordsTask, htype] at hn
  refine ⟨?_, nofun, fun d hd n hn ↦ (hdecided d hd n hn).trans (Nat.le_succ _),
    fun _ _ ↦ hdecided, nofun, ?_, nofun⟩
  · have hcount : (F ++ [e]).countP (recordsTask .taskStarted t.taskId) = t.attempts + 1 := by
      simp [List.countP_append, hstarted, h.attempts]
    exact hcount
  · rintro _ ⟨⟩
    exact ⟨e, by simp [activeStart_concat, startAfter, ExecutionTaskState.withoutPolicy, hstarted],
      hattempt, hworkspace⟩

/-- The verification of an attempt ends it. -/
theorem TaskRecorded.verify (h : TaskRecorded F t) {eventId : String} {route : AttemptRoute}
    {signature : Option String} {evidence : AttemptEvidence}
    (htype : executionEventType? e = some .taskVerified)
    (hid : e.payload.get "task_id" = .str t.taskId)
    (hroute : e.payload.get "route" = .str (StrEnum.value route)) (hblocked : t.status ≠ .blocked)
    (hnone : t.pendingPolicyDecisionId = none) :
    TaskRecorded (F ++ [e]) (t.verified eventId route signature evidence) := by
  have hverified : recordsTask .taskVerified t.taskId e = true := recordsTask_iff.mpr ⟨htype, hid⟩
  have hstarted : recordsTask .taskStarted t.taskId e = false :=
    recordsTask_of_type (by simp [htype])
  have hundecided : ∀ d ∈ F ++ [e], ∀ n, recordsAttempt .policyDecided t.taskId n d →
      n ≤ t.attempts := by
    intro d hd n hn
    rcases List.mem_append.mp hd with hd | hd
    · exact h.undecided hnone hblocked d hd n hn
    · simp [List.mem_singleton.mp hd, recordsAttempt, recordsTask, htype] at hn
  refine ⟨?_, fun hsucceeded ↦ ?_, fun d hd n hn ↦ (hundecided d hd n hn).trans (Nat.le_succ _),
    fun _ _ ↦ hundecided, ?_, nofun, fun _ ↦ ?_⟩
  · have hcount : (F ++ [e]).countP (recordsTask .taskStarted t.taskId) = t.attempts := by
      simp [List.countP_append, hstarted, h.attempts]
    exact hcount
  · refine ⟨e, by simp, hverified, ?_⟩
    cases route <;> simp_all [ExecutionTaskState.verified, AttemptRoute.taskStatus]
  · rintro id hpending
    change t.pendingPolicyDecisionId = some id at hpending
    simp [hnone] at hpending
  · simp [activeStart_concat, startAfter, ExecutionTaskState.verified, hverified, hstarted]

/-- A task that is blocked has no decision left. -/
theorem TaskRecorded.block (h : TaskRecorded F t) (reason : String) :
    TaskRecorded F { t.withoutPolicy with status := .blocked, blockedReason := some reason } where
  attempts := h.attempts
  succeeded := nofun
  decided := h.decided
  undecided _ hblocked := absurd rfl hblocked
  pending := nofun
  active := h.active
  idle := h.idle

end TaskRecorded

/-! ### What a run records -/

/-- **Recorded runs.** The plan of a run is the one that was admitted last, its tasks are those of
the plan, and while the run goes on they record the events since then. -/
structure RunRecorded (E : List EventEnvelope) (s : ExecutionRunState) : Prop where
  planned : ∀ planId ∈ s.planId, ∃ plan, currentPlan E = some plan ∧ plan.planId = planId ∧
    s.planRevision = some plan.planRevision ∧
    s.tasks.map (·.shape) = plan.tasks.1.map fun t ↦ (ExecutionTaskState.initial t).shape
  unplanned : s.planId = none → s.tasks = []
  tasks : ¬isFinal s.status → ∀ t ∈ s.tasks, TaskRecorded (sincePlan E) t

section RunRecorded

variable {H : Host} {E : List EventEnvelope} {e : EventEnvelope} {s s' : ExecutionRunState}
  {t t' : ExecutionTaskState} {type : ExecutionEventType}

/-- The task of a run is one of its plan. -/
theorem RunRecorded.exists_task (h : RunRecorded E s) {planId : String}
    (hplan : s.planId = some planId) (ht : t ∈ s.tasks) :
    ∃ plan task, currentPlan E = some plan ∧ plan.planId = planId ∧ task ∈ plan.tasks.1 ∧
      task.taskId = t.taskId ∧ task.dependsOn = t.dependsOn ∧ task.allowedPaths.1 = t.allowedPaths ∧
      task.maxAttempts = t.maxAttempts := by
  obtain ⟨plan, hcurrent, hid, -, htasks⟩ := h.planned planId hplan
  have hshape : t.shape ∈ plan.tasks.1.map fun t ↦ (ExecutionTaskState.initial t).shape := by
    rw [← htasks]
    exact List.mem_map_of_mem ht
  obtain ⟨task, hmem, heq⟩ := List.mem_map.mp hshape
  simp only [ExecutionTaskState.shape, ExecutionTaskState.initial, Prod.mk.injEq] at heq
  exact ⟨plan, task, hcurrent, hid, hmem, heq⟩

/-- A run with a task has a plan. -/
theorem RunRecorded.exists_plan (h : RunRecorded E s) (ht : t ∈ s.tasks) :
    ∃ planId, s.planId = some planId := by
  cases hplan : s.planId with
  | none => simp [h.unplanned hplan] at ht
  | some planId => exact ⟨planId, rfl⟩

/-- An event that leaves the plan and the tasks of a run alone. -/
theorem RunRecorded.frame (h : RunRecorded E s) (hplan : s'.planId = s.planId)
    (hrevision : s'.planRevision = s.planRevision) (htasks : s'.tasks = s.tasks)
    (hfinal : ¬isFinal s'.status → ¬isFinal s.status)
    (hadmitted : executionEventType? e ≠ some .planAdmitted)
    (htype : ∀ type, isTaskEvent type → executionEventType? e ≠ some type) :
    RunRecorded (E ++ [e]) s' where
  planned := by
    rw [hplan, hrevision, htasks, currentPlan_concat_of_ne hadmitted]
    exact h.planned
  unplanned := by
    rw [hplan, htasks]
    exact h.unplanned
  tasks hactive t ht := by
    rw [sincePlan_concat_of_ne hadmitted]
    exact (h.tasks (hfinal hactive) t (htasks ▸ ht)).frame (recordsTask_of_type (htype _ rfl))
      (recordsTask_of_type (htype _ rfl)) (recordsTask_of_type (htype _ rfl))

/-- An event that replaces one task of a run. -/
theorem RunRecorded.replaceTask (h : RunRecorded E s) (names : NamesTask e.payload s t)
    (htasks : s'.tasks = (s.replaceTask t').tasks) (hshape : t'.shape = t.shape)
    (hplan : s'.planId = s.planId) (hrevision : s'.planRevision = s.planRevision)
    (hadmitted : executionEventType? e ≠ some .planAdmitted) (hactive : ¬isFinal s.status)
    (hnodup : (s.tasks.map (·.taskId)).Nodup)
    (ht : TaskRecorded (sincePlan E) t → TaskRecorded (sincePlan E ++ [e]) t') :
    RunRecorded (E ++ [e]) s' where
  planned := by
    have hid : t'.taskId = t.taskId := congrArg Prod.fst hshape
    rw [hplan, hrevision, htasks, currentPlan_concat_of_ne hadmitted,
      map_shape_replaceTask (hid ▸ names.find) hshape hnodup]
    exact h.planned
  unplanned hnone := by
    rw [hplan] at hnone
    simp [htasks, ExecutionRunState.replaceTask, h.unplanned hnone]
  tasks _ x hx := by
    have hid : t'.taskId = t.taskId := congrArg Prod.fst hshape
    rw [sincePlan_concat_of_ne hadmitted]
    rw [htasks] at hx
    rcases ExecutionRunState.mem_replaceTask hx with rfl | ⟨hx, hne⟩
    · exact ht (h.tasks hactive t (ExecutionRunState.mem_of_find names.find).1)
    · rw [hid] at hne
      exact (h.tasks hactive x hx).frame (recordsTask_of_get names.get hne)
        (recordsTask_of_get names.get hne) (recordsTask_of_get names.get hne)

/-- A change of a run is recorded. -/
theorem Change.recordedRun (h : Change H e.eventId e.payload s type s')
    (htype : executionEventType? e = some type) (hactive : ¬isFinal s.status)
    (hsound : RunSound H s) (hs : RunRecorded E s) : RunRecorded (E ++ [e]) s' := by
  have hne : ∀ {type'}, type ≠ type' → executionEventType? e ≠ some type' := by
    intro type' hne heq
    exact hne (Option.some.inj (htype.symm.trans heq))
  have hquiet : ∀ {type' taskId}, type ≠ type' → recordsTask type' taskId e = false := fun h ↦
    recordsTask_of_type (hne h)
  have hother : isTaskEvent type = false → ∀ type', isTaskEvent type' →
      executionEventType? e ≠ some type' := by
    rintro hnot type' ht heq
    simp [Option.some.inj (htype.symm.trans heq), ht] at hnot
  have hundecided : ∀ {t}, s.find t.taskId = some t → t.status ≠ .ready →
      t.pendingPolicyDecisionId = none := fun hfind hready ↦
    ((hsound.tasks _ (ExecutionRunState.mem_of_find hfind).1).policy.undecided_of_ne hready).1
  cases h with
  | replanStarted => exact hs.frame rfl rfl rfl (fun _ ↦ hactive) (hne nofun) (hother rfl)
  | planDraftReceived => exact hs.frame rfl rfl rfl (fun _ ↦ hactive) (hne nofun) (hother rfl)
  | runTerminated => exact hs.frame rfl rfl rfl (fun _ ↦ hactive) (hne nofun) (hother rfl)
  | planAdmitted plan status planGet =>
    refine ⟨?_, nofun, fun _ t ht ↦ ?_⟩
    · rintro _ ⟨⟩
      exact ⟨plan, currentPlan_concat htype planGet, rfl, rfl, by simp [List.map_map]⟩
    · obtain ⟨task, -, rfl⟩ := List.mem_map.mp ht
      rw [sincePlan_concat htype]
      exact taskRecorded_initial task
  | policyDecided task planId action decision names status pending plan actionEq allowedGet
    reasonGet reason actionGet actionDigest decisionGet =>
    exact hs.replaceTask names.toNamesTask rfl rfl rfl rfl (hne nofun) hactive hsound.nodup fun h ↦
      h.decide htype names.get names.attempt (by simp [status]) pending (by simp [status])
        decisionGet actionGet allowedGet
  | taskReady task names running status bound pending =>
    refine hs.replaceTask names.toNamesTask rfl rfl rfl rfl (hne nofun) hactive hsound.nodup
      fun h ↦ ?_
    refine (h.frame (hquiet nofun) (hquiet nofun) (hquiet nofun)).congr rfl rfl rfl rfl rfl rfl
      nofun ?_
    rcases status with status | status <;> simp [status]
  | taskStarted task planId baseCommit decisionId actionDigest names status plan workspaceGet =>
    exact hs.replaceTask names.toNamesTask rfl rfl rfl rfl (hne nofun) hactive hsound.nodup fun h ↦
      h.start htype names.get names.attempt workspaceGet
  | taskVerifying task workspace names status =>
    refine hs.replaceTask names.toNamesTask rfl rfl rfl rfl (hne nofun) hactive hsound.nodup
      fun h ↦ ?_
    exact (h.frame (hquiet nofun) (hquiet nofun) (hquiet nofun)).congr rfl rfl rfl rfl rfl rfl nofun
      (by simp [status])
  | taskVerified task workspace route evidence names status workspaceGet nonempty active routeGet =>
    exact hs.replaceTask names.toNamesTask rfl rfl rfl rfl (hne nofun) hactive hsound.nodup fun h ↦
      h.verify htype names.get routeGet (by simp [status])
        (hundecided names.find (by simp [status]))
  | taskBlocked task reason names =>
    exact hs.replaceTask names rfl rfl rfl rfl (hne nofun) hactive hsound.nodup fun h ↦
      (h.frame (hquiet nofun) (hquiet nofun) (hquiet nofun)).block reason

/-- A public event that ends the tasks of a run leaves their forms alone. -/
theorem map_shape_endTasks (ended : Option TaskLifecycleStatus) (tasks : List ExecutionTaskState) :
    (endTasks ended tasks).map (·.shape) = tasks.map (·.shape) := by
  cases ended with
  | none => rfl
  | some status =>
    simp only [endTasks, List.map_map]
    refine List.map_congr_left fun t _ ↦ ?_
    simp only [Function.comp, ExecutionTaskState.endWith]
    split <;> rfl

/-- A public event that changes the status of a run ends the run. -/
theorem publicStatus_eq_or_isFinal (type : RunLifecycle.RunEventType)
    (status : RunLifecycleStatus) :
    publicStatus type status = (status, none) ∨ isFinal (publicStatus type status).1 := by
  cases type <;> simp [publicStatus, isFinal, isOutcome]

/-- **Recorded runs.** The state of an accepted stream records it. -/
theorem runRecorded_of_project (h : project H E = .ok (some s)) : RunRecorded E s := by
  refine (History.invariant (fun E state ↦ project H E = .ok state ∧
    ∀ s ∈ state, RunRecorded E s) ⟨rfl, by simp⟩ ?_ h).2 s rfl
  rintro E e before state ⟨hbefore, hrecorded⟩ hstep
  have hstep := apply_eq_ok.mp hstep
  refine ⟨project_concat.mpr ⟨before, hbefore, hstep⟩, ?_⟩
  rintro s rfl
  cases hstep with
  | opened => exact ⟨nofun, fun _ ↦ rfl, by simp [ExecutionRunState.opened]⟩
  | published type s₀ type' =>
    have hnone := executionEventType?_eq_none type'
    have hs := hrecorded s₀ rfl
    rcases publicStatus_eq_or_isFinal type s₀.status with hsame | hfinal
    · refine hs.frame rfl rfl ?_ ?_ (by simp [hnone]) (by simp [hnone])
      · simp [ExecutionRunState.afterPublic, hsame, endTasks]
      · simp [ExecutionRunState.afterPublic, hsame]
    · refine ⟨fun planId hplan ↦ ?_, fun hplan ↦ ?_, fun hactive ↦ absurd hfinal hactive⟩
      · obtain ⟨plan, hcurrent, hid, hrevision, htasks⟩ := hs.planned planId hplan
        refine ⟨plan, (currentPlan_concat_of_ne (by simp [hnone])).trans hcurrent, hid, hrevision,
          ?_⟩
        exact (map_shape_endTasks _ _).trans htasks
      · have htasks := congrArg (List.map (·.shape)) (hs.unplanned hplan)
        rw [← map_shape_endTasks (publicStatus type s₀.status).2] at htasks
        exact List.map_eq_nil_iff.mp htasks
  | changed type s₀ s₁ htype fields run isRun stream sequence active change =>
    have hchanged := change.recordedRun htype active (runSound_of_project hbefore)
      (hrecorded s₀ rfl)
    exact ⟨hchanged.planned, hchanged.unplanned, hchanged.tasks⟩

end RunRecorded

/-! ### The law -/

section AttemptSafe

variable {H : Host} {E E₁ E₂ : List EventEnvelope} {e : EventEnvelope} {s s' : ExecutionRunState}
  {state : Option ExecutionRunState} {type : ExecutionEventType}

/-- An event of a task changes a run that goes on, with a sound and recorded state. -/
theorem exists_change (h : project H E = .ok state) (hsplit : E = E₁ ++ e :: E₂)
    (htype : executionEventType? e = some type) (hne : type ≠ .goalAdmitted) :
    ∃ s s', project H E₁ = .ok (some s) ∧ RunSound H s ∧ RunRecorded E₁ s ∧ ¬isFinal s.status ∧
      e.payload.get "run_id" = .str s.runId ∧ Change H e.eventId e.payload s type s' := by
  rw [hsplit] at h
  obtain ⟨before, after, hbefore, hstep, -⟩ := History.split h
  cases apply_eq_ok.mp hstep with
  | unopened _ type' => simp [executionEventType?_eq_none type'] at htype
  | published _ _ type' => simp [executionEventType?_eq_none type'] at htype
  | opened _ _ _ _ _ type' => exact absurd (Option.some.inj (htype.symm.trans type')) hne
  | changed type' s s' htype' fields run isRun stream sequence active change =>
    obtain rfl := Option.some.inj (htype.symm.trans htype')
    exact ⟨s, s', hbefore, runSound_of_project hbefore, runRecorded_of_project hbefore, active, run,
      change⟩

/-- The admission of a plan raises the revision of a run. -/
theorem Step.rank_lt (h : Step H e (some s) (some s')) (hs : s.Unplanned)
    (htype : executionEventType? e = some .planAdmitted) : s.rank < s'.rank := by
  cases h with
  | published _ _ type' => simp [executionEventType?_eq_none type'] at htype
  | changed type s s' htype' fields run isRun stream sequence active change =>
    obtain rfl := Option.some.inj (htype.symm.trans htype')
    cases change with
    | planAdmitted plan status =>
      rcases status with ⟨hplan, -, -, -⟩ | ⟨-, -, -, hrevision⟩
      · simp [ExecutionRunState.rank, hs hplan]
      · cases hr : s.planRevision with
        | none => simp [hr] at hrevision
        | some revision =>
          simp only [hr, Option.map_some, Option.some.injEq] at hrevision
          simp [ExecutionRunState.rank, hr, hrevision]

/-- The revision of a run that admits a plan exceeds the one before. -/
theorem Follow.rank_lt {F : List EventEnvelope} (h : Follow H F s s') (hs : s.Unplanned)
    (hplan : ∃ a ∈ F, executionEventType? a = some .planAdmitted) : s.rank < s'.rank := by
  induction F using List.reverseRecOn generalizing s' with
  | nil => simp at hplan
  | append_singleton F a ih =>
    obtain ⟨m, hm, hstep⟩ := h.concat
    obtain ⟨hm', hle⟩ := hm.rank_le hs
    by_cases ha : executionEventType? a = some .planAdmitted
    · exact hle.trans_lt (hstep.rank_lt hm' ha)
    · obtain ⟨x, hx, hxtype⟩ := hplan
      have hmem : x ∈ F := by
        rcases List.mem_append.mp hx with hx | hx
        · exact hx
        · exact absurd (List.mem_singleton.mp hx ▸ hxtype) ha
      exact (ih hm ⟨x, hmem, hxtype⟩).trans_le (hstep.rank_le hm')

/-- The start of an attempt names the next one of its task. -/
theorem started_of_project (h : project H E = .ok state) {taskId : String}
    (hsplit : E = E₁ ++ e :: E₂) (hstarts : recordsTask .taskStarted taskId e) :
    ∃ plan task, currentPlan E₁ = some plan ∧ task ∈ plan.tasks.1 ∧ task.taskId = taskId ∧
      recordsAttempt .taskStarted taskId (startsOf E₁ taskId + 1) e ∧
      startsOf E₁ taskId + 1 ≤ task.maxAttempts ∧
      e.payload.get "workspace_id" =
        .str (workspaceId H plan.planId taskId (startsOf E₁ taskId + 1)) := by
  obtain ⟨htype, hget⟩ := recordsTask_iff.mp hstarts
  obtain ⟨s, s', hs, hsound, hrecorded, hactive, -, change⟩ := exists_change h hsplit htype nofun
  cases change with
  | taskStarted t planId baseCommit decisionId actionDigest names status plan workspaceGet =>
    obtain rfl : t.taskId = taskId := JsonValue.str.inj (names.get.symm.trans hget)
    have ht := (ExecutionRunState.mem_of_find names.find).1
    obtain ⟨p, task, hp, rfl, hmem, hid, -, -, hmax⟩ := hrecorded.exists_task plan ht
    have hstarts' : startsOf E₁ t.taskId = t.attempts := (hrecorded.tasks hactive t ht).attempts
    rw [hstarts']
    exact ⟨p, task, hp, hmem, hid, recordsAttempt_iff.mpr ⟨hstarts, names.attempt⟩,
      hmax ▸ (hsound.tasks t ht).ready status, workspaceGet⟩

/-- An attempt is started once. -/
theorem startedOnce_of_project (h : project H E = .ok state) {e' : EventEnvelope}
    {E₃ : List EventEnvelope} {taskId : String} {attempt : Nat}
    (hsplit : E = E₁ ++ e :: (E₂ ++ e' :: E₃))
    (hstarts : recordsAttempt .taskStarted taskId attempt e)
    (hstarts' : recordsAttempt .taskStarted taskId attempt e') :
    currentPlan (E₁ ++ e :: E₂) ≠ currentPlan E₁ := by
  have hsplit' : E = (E₁ ++ e :: E₂) ++ e' :: E₃ := by simp [hsplit]
  obtain ⟨hstarted, hattempt⟩ := recordsAttempt_iff.mp hstarts
  obtain ⟨hstarted', hattempt'⟩ := recordsAttempt_iff.mp hstarts'
  by_cases hplan : ∃ a ∈ E₂, executionEventType? a = some .planAdmitted
  · -- the revision of the plan has been raised
    intro hsame
    obtain ⟨s, _, hs, -, hrecorded, -, -, change⟩ :=
      exists_change h hsplit (recordsTask_iff.mp hstarted).1 nofun
    obtain ⟨s', _, hs', -, hrecorded', -, -, change'⟩ :=
      exists_change h hsplit' (recordsTask_iff.mp hstarted').1 nofun
    obtain ⟨planId, hplanId⟩ : ∃ planId, s.planId = some planId := by
      cases change with
      | taskStarted _ _ _ _ _ _ _ plan => exact ⟨_, plan⟩
    obtain ⟨planId', hplanId'⟩ : ∃ planId, s'.planId = some planId := by
      cases change' with
      | taskStarted _ _ _ _ _ _ _ plan => exact ⟨_, plan⟩
    obtain ⟨p, hp, -, hrevision, -⟩ := hrecorded.planned planId hplanId
    obtain ⟨p', hp', -, hrevision', -⟩ := hrecorded'.planned planId' hplanId'
    obtain rfl : p' = p := Option.some.inj (hp'.symm.trans (hsame.trans hp))
    have hfollow : Follow H (e :: E₂) s s' := by
      obtain ⟨before, hbefore, hrest⟩ := History.run_append_eq_ok.mp hs'
      obtain rfl := Except.ok.inj (hbefore.symm.trans hs)
      exact hrest
    obtain ⟨a, ha, hatype⟩ := hplan
    have hlt := hfollow.rank_lt (unplanned_of_project hs)
      ⟨a, List.mem_cons_of_mem _ ha, hatype⟩
    simp [ExecutionRunState.rank, hrevision, hrevision'] at hlt
  · -- the start has been counted
    exfalso
    obtain ⟨-, -, -, -, -, hcount, -⟩ := started_of_project h hsplit hstarted
    obtain ⟨-, -, -, -, -, hcount', -⟩ := started_of_project h hsplit' hstarted'
    have hnumber := hattempt.symm.trans (recordsAttempt_iff.mp hcount).2
    have hnumber' := hattempt'.symm.trans (recordsAttempt_iff.mp hcount').2
    simp only [JsonValue.int.injEq, Int.natCast_inj] at hnumber hnumber'
    have hsince : sincePlan (E₁ ++ e :: E₂) = sincePlan E₁ ++ e :: E₂ := by
      refine sincePlan_append fun x hx ↦ ?_
      rcases List.mem_cons.mp hx with rfl | hx
      · simp [(recordsTask_iff.mp hstarted).1]
      · exact fun htype ↦ hplan ⟨x, hx, htype⟩
    have hmore : startsOf E₁ taskId + 1 ≤ startsOf (E₁ ++ e :: E₂) taskId := by
      simp only [startsOf, hsince, List.countP_append, List.countP_cons, hstarted, if_true]
      omega
    omega

/-- A task is made ready when its dependencies have succeeded. -/
theorem satisfied_of_project (h : project H E = .ok state) {taskId : String}
    (hsplit : E = E₁ ++ e :: E₂) (hready : recordsTask .taskReady taskId e) :
    ∃ plan task, currentPlan E₁ = some plan ∧ task ∈ plan.tasks.1 ∧ task.taskId = taskId ∧
      ∀ d ∈ task.dependsOn, ∃ v ∈ sincePlan E₁, recordsTask .taskVerified d v ∧
        v.payload.get "route" = .str (StrEnum.value AttemptRoute.succeeded) := by
  obtain ⟨htype, hget⟩ := recordsTask_iff.mp hready
  obtain ⟨s, s', hs, hsound, hrecorded, hactive, -, change⟩ := exists_change h hsplit htype nofun
  cases change with
  | taskReady t names running status bound pending dependencies =>
    obtain rfl : t.taskId = taskId := JsonValue.str.inj (names.get.symm.trans hget)
    have ht := (ExecutionRunState.mem_of_find names.find).1
    obtain ⟨planId, hplan⟩ := hrecorded.exists_plan ht
    obtain ⟨p, task, hp, rfl, hmem, hid, hdependsOn, -, -⟩ := hrecorded.exists_task hplan ht
    refine ⟨p, task, hp, hmem, hid, fun d hd ↦ ?_⟩
    rw [hdependsOn] at hd
    obtain ⟨t', hfind, hsucceeded⟩ := dependencies d hd
    obtain ⟨hmem', rfl⟩ := ExecutionRunState.mem_of_find hfind
    exact (hrecorded.tasks hactive t' hmem').succeeded hsucceeded

/-- The start of an attempt rests on one decision, which allows its action. -/
theorem authorized_of_project (h : project H E = .ok state) {taskId : String} {attempt : Nat}
    (hsplit : E = E₁ ++ e :: E₂) (hstarts : recordsAttempt .taskStarted taskId attempt e) :
    ∃ plan task runId action d, currentPlan E₁ = some plan ∧ task ∈ plan.tasks.1 ∧
      task.taskId = taskId ∧ e.payload.get "run_id" = .str runId ∧
      ToolActionRequest.create runId plan.planId taskId attempt task.allowedPaths.1 = .ok action ∧
      (sincePlan E₁).filter (recordsAttempt .policyDecided taskId attempt) = [d] ∧
      d.payload.get "allowed" = .bool true ∧
      d.payload.get "action_digest" = .str (action.digest H) ∧
      e.payload.get "action_digest" = .str (action.digest H) ∧
      d.payload.get "decision_id" = e.payload.get "decision_id" := by
  obtain ⟨hstarted, hattempt⟩ := recordsAttempt_iff.mp hstarts
  obtain ⟨htype, hget⟩ := recordsTask_iff.mp hstarted
  obtain ⟨s, s', hs, hsound, hrecorded, hactive, hrun, change⟩ := exists_change h hsplit htype nofun
  cases change with
  | taskStarted t planId baseCommit decisionId actionDigest names status plan workspaceGet baseGet
    isBase base allowed decisionGet isDecision decision actionGet isAction action =>
    obtain rfl : t.taskId = taskId := JsonValue.str.inj (names.get.symm.trans hget)
    obtain rfl : t.attempts + 1 = attempt :=
      Int.natCast_inj.mp (JsonValue.int.inj (names.attempt.symm.trans hattempt))
    have ht := (ExecutionRunState.mem_of_find names.find).1
    obtain ⟨p, task, hp, rfl, hmem, hid, -, hpaths, -⟩ := hrecorded.exists_task plan ht
    obtain ⟨d, hd, hdecision, hdigest, hallowed⟩ :=
      (hrecorded.tasks hactive t ht).pending decisionId decision
    cases (hsound.tasks t ht).policy with
    | undecided id => simp [id] at decision
    | decided planId' action' decision' _ plan' actionEq bound' _ _ digest =>
      obtain rfl : p.planId = planId' := Option.some.inj (plan.symm.trans plan')
      have hsame : actionDigest = action'.digest H := by
        rw [← bound']
        exact Option.some.inj (action.symm.trans digest)
      rw [← hpaths] at actionEq
      rw [hsame] at actionGet action
      exact ⟨p, task, s.runId, action', d, hp, hmem, hid, hrun, actionEq, hd, hallowed _ allowed,
        hdigest _ action, actionGet, hdecision.trans decisionGet.symm⟩

/-- A decision authorizes one start. -/
theorem unshared_of_project (h : project H E = .ok state) {d e' : EventEnvelope}
    {E₃ E₄ : List EventEnvelope} {taskId taskId' : String} {attempt attempt' : Nat}
    (hsplit : E = E₁ ++ d :: (E₂ ++ e :: (E₃ ++ e' :: E₄)))
    (hd : Authorizes d E₂ e taskId attempt) : ¬Authorizes d (E₂ ++ e :: E₃) e' taskId' attempt' := by
  intro hd'
  obtain ⟨hdecides, hattempt⟩ := recordsAttempt_iff.mp hd.decides
  obtain ⟨hdecides', hattempt'⟩ := recordsAttempt_iff.mp hd'.decides
  obtain rfl : taskId = taskId' :=
    JsonValue.str.inj ((recordsTask_iff.mp hdecides).2.symm.trans (recordsTask_iff.mp hdecides').2)
  obtain rfl : attempt = attempt' :=
    Int.natCast_inj.mp (JsonValue.int.inj (hattempt.symm.trans hattempt'))
  have hsplit' : E = (E₁ ++ d :: E₂) ++ e :: (E₃ ++ e' :: E₄) := by simp [hsplit]
  refine startedOnce_of_project h hsplit' hd.starts hd'.starts ?_
  exact currentPlan_append fun x hx ↦ hd'.current x (List.mem_append_right _ hx)

/-- The events of a task name the attempt that it is in, and its workspace. -/
theorem bound_of_project (h : project H E = .ok state) {taskId : String}
    (hsplit : E = E₁ ++ e :: E₂) (htask : isTaskEvent type) (hrecords : recordsTask type taskId e) :
    NamesActive (sincePlan E₁) taskId e ∧
      (type = .taskVerifying ∨ type = .taskVerified →
        (activeStart (sincePlan E₁) taskId).isSome) := by
  obtain ⟨htype, hget⟩ := recordsTask_iff.mp hrecords
  have hne : type ≠ .goalAdmitted := by
    rintro rfl
    simp [isTaskEvent] at htask
  obtain ⟨s, s', hs, hsound, hrecorded, hactive, -, change⟩ := exists_change h hsplit htype hne
  -- a task in no attempt has no start that is not verified
  have hidle : ∀ t, s.find t.taskId = some t → t.taskId = taskId → t.status ≠ .running →
      t.status ≠ .verifying → activeStart (sincePlan E₁) taskId = none := by
    rintro t hfind rfl hrunning hverifying
    have ht := (ExecutionRunState.mem_of_find hfind).1
    refine (hrecorded.tasks hactive t ht).idle (Option.not_isSome_iff_eq_none.mp fun hsome ↦ ?_)
    exact ((hsound.tasks t ht).idle hsome).elim hrunning hverifying
  -- a task in an attempt has the workspace of its start
  have hbusy : ∀ t, s.find t.taskId = some t → t.taskId = taskId → ∀ workspace,
      t.activeWorkspaceId = some workspace → e.payload.get "attempt" = .int t.attempts →
      e.payload.get "workspace_id" = .str workspace →
      NamesActive (sincePlan E₁) taskId e ∧ (activeStart (sincePlan E₁) taskId).isSome := by
    rintro t hfind rfl workspace hworkspace hattempt hget
    obtain ⟨start, hstart, hnumber, hplace⟩ :=
      (hrecorded.tasks hactive t (ExecutionRunState.mem_of_find hfind).1).active workspace
        hworkspace
    refine ⟨fun start' hstart' ↦ ?_, hstart ▸ rfl⟩
    obtain rfl := Option.some.inj (hstart.symm.trans hstart')
    exact ⟨hattempt.trans hnumber.symm, hget.trans hplace.symm⟩
  have hnone : activeStart (sincePlan E₁) taskId = none → NamesActive (sincePlan E₁) taskId e :=
    fun hnone start hstart ↦ absurd (hnone.symm.trans hstart) (by simp)
  cases change with
  | policyDecided t planId action decision names status =>
    exact ⟨hnone (hidle t names.find (JsonValue.str.inj (names.get.symm.trans hget))
      (by simp [status]) (by simp [status])), by simp⟩
  | taskReady t names running status =>
    refine ⟨hnone (hidle t names.find (JsonValue.str.inj (names.get.symm.trans hget)) ?_ ?_),
      by simp⟩
    · rcases status with status | status <;> simp [status]
    · rcases status with status | status <;> simp [status]
  | taskStarted t planId baseCommit decisionId actionDigest names status =>
    exact ⟨hnone (hidle t names.find (JsonValue.str.inj (names.get.symm.trans hget))
      (by simp [status]) (by simp [status])), by simp⟩
  | taskBlocked t reason names reasonGet nonempty status =>
    exact ⟨hnone (hidle t names.find (JsonValue.str.inj (names.get.symm.trans hget))
      (by simp [status]) (by simp [status])), by simp⟩
  | taskVerifying t workspace names status workspaceGet nonempty active =>
    exact (hbusy t names.find (JsonValue.str.inj (names.get.symm.trans hget)) workspace active
      names.attempt workspaceGet).imp_right fun h _ ↦ h
  | taskVerified t workspace route evidence names status workspaceGet nonempty active =>
    exact (hbusy t names.find (JsonValue.str.inj (names.get.symm.trans hget)) workspace active
      names.attempt workspaceGet).imp_right fun h _ ↦ h
  | _ => simp [isTaskEvent] at htask

/-- **Safe attempts.** The attempts of every run that the projection accepts are safe. -/
theorem attemptSafe_of_project (h : project H E = .ok state) : AttemptSafe H E where
  startedOnce _ _ _ _ _ _ _ := startedOnce_of_project h
  counted _ _ _ _ := started_of_project h
  satisfied _ _ _ _ := satisfied_of_project h
  authorized _ _ _ _ _ := authorized_of_project h
  unshared _ _ _ _ _ _ _ _ _ _ _ := unshared_of_project h
  bound _ _ _ _ _ := bound_of_project h

/-- The law on the sample run, whose task is started once. -/
theorem attemptSafe_of_project_sample :
    AttemptSafe Sample.host (Sample.recorded (Sample.admission ++ Sample.uncleanAttempt)) := by
  obtain ⟨s, hproject, -⟩ := Sample.exists_projectsTo Sample.checkpoint_checked.2
  exact attemptSafe_of_project hproject

end AttemptSafe

end Blackcell.Orchestration.ExecutionRuntime
