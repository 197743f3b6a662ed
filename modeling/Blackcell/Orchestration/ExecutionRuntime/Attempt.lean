import Blackcell.Orchestration.ExecutionRuntime.Guard
import Blackcell.Orchestration.ExecutionRuntime.Proceeding

/-!
# Attempts

What one round of the loop over the attempts of a task does, from any state in which the task can be
attempted: the task was never attempted, or it is to be repaired, or an earlier call was stopped
after it made the task ready or decided on its action.

## Main definitions

* `Doing` : a state in which a task has a given form, and nothing else was changed or counted.
* `Verified` : a state after the attempt of a task was verified.
* `Ending` : why a call ends the run in an attempt.
* `AttemptOutcome` : the ends of an attempt.

## Main results

* `meets_makeReady`, `meets_attemptBase`, `meets_decideAction`, `meets_startAttempt_ready`,
  `meets_settle_running` : the parts of an attempt.
* `meets_attempt_open` : an attempt has one of its outcomes.
-/

namespace Blackcell.Orchestration.ExecutionRuntime

open Blackcell.Kernel Blackcell.Gateway Blackcell.Orchestration.ExecutionPlan

/-! ### States of an attempt -/

/-- Nothing of the run was changed but one task, and what is counted. -/
structure Aside (taskId : String) (s s' : ExecutionRunState) : Prop where
  status : s'.status = s.status
  base : s'.goalBaseCommit = s.goalBaseCommit
  budget : s'.budget = s.budget
  others : ∀ id ≠ taskId, s'.find id = s.find id

/-- A task has a form, and nothing else of the run was changed or counted. -/
structure Doing (s s' : ExecutionRunState) (t' : ExecutionTaskState) : Prop
    extends Aside t'.taskId s s' where
  usage : s'.usage = s.usage
  find : s'.find t'.taskId = some t'

section States

variable {s s' s'' : ExecutionRunState} {t t' : ExecutionTaskState} {taskId : String}

theorem Aside.refl (taskId : String) (s : ExecutionRunState) : Aside taskId s s :=
  ⟨rfl, rfl, rfl, fun _ _ ↦ rfl⟩

theorem Aside.trans (h : Aside taskId s s') (h' : Aside taskId s' s'') : Aside taskId s s'' :=
  ⟨h'.status.trans h.status, h'.base.trans h.base, h'.budget.trans h.budget,
    fun id hid ↦ (h'.others id hid).trans (h.others id hid)⟩

theorem Doing.refl (hfind : s.find t.taskId = some t) : Doing s s t :=
  { Aside.refl t.taskId s with usage := rfl, find := hfind }

/-- The next form of the same task. -/
theorem Doing.trans (h : Doing s s' t) (h' : Doing s' s'' t') (hid : t'.taskId = t.taskId) :
    Doing s s'' t' where
  toAside := (hid ▸ h.toAside : Aside t'.taskId s s').trans h'.toAside
  usage := h'.usage.trans h.usage
  find := h'.find

/-- A task is replaced by its next form. -/
theorem Doing.replaceTask (e : EventEnvelope) (hfind : s.find t.taskId = some t)
    (hid : t'.taskId = t.taskId) : Doing s ((s.replaceTask t').noted e) t' where
  status := rfl
  base := rfl
  budget := rfl
  others _ hne := ExecutionRunState.find_replaceTask_of_ne hne
  usage := rfl
  find := ExecutionRunState.find_replaceTask_self (hid ▸ hfind)

/-- The base of a task depends on other tasks only. -/
theorem Doing.expectedBaseCommit (h : Doing s s' t') (hid : t'.taskId = t.taskId)
    (hself : t.taskId ∉ t.dependsOn) (hdependsOn : t'.dependsOn = t.dependsOn) {base : String} :
    s'.expectedBaseCommit t' = .ok base ↔ s.expectedBaseCommit t = .ok base := by
  rw [ExecutionRunState.expectedBaseCommit_eq_ok, ExecutionRunState.expectedBaseCommit_eq_ok,
    hdependsOn, h.base]
  refine and_congr_right fun _ ↦ forall₂_congr fun d hd ↦ ?_
  rw [h.others d]
  rw [hid]
  rintro rfl
  exact hself hd

/-- **Verified attempts.** The attempt of a task was verified: it has its route and its head, and
the run has counted its usage. -/
structure Verified (s s' : ExecutionRunState) (t' : ExecutionTaskState) (evidence : AttemptEvidence)
    (route : AttemptRoute) : Prop extends Aside t'.taskId s s' where
  find : s'.find t'.taskId = some t'
  taskStatus : t'.status = route.taskStatus
  head : t'.headCommit = some evidence.headCommit
  usage : s'.usage = (s.addUsage evidence.inputTokens evidence.outputTokens evidence.latencyMs
    evidence.costMicrousd).usage

theorem usage_addUsage_congr (h : s'.usage = s.usage) (inputTokens outputTokens : Option Nat)
    (latencyMs : Nat) (costMicrousd : Option Nat) :
    (s'.addUsage inputTokens outputTokens latencyMs costMicrousd).usage =
      (s.addUsage inputTokens outputTokens latencyMs costMicrousd).usage := by
  simp only [ExecutionRunState.usage, Usage.mk.injEq] at h
  simp [ExecutionRunState.usage, ExecutionRunState.addUsage, h]

/-- The attempt of a task that was prepared is verified. -/
theorem Doing.verified {evidence : AttemptEvidence} {route : AttemptRoute} (h : Doing s s' t)
    (h' : Verified s' s'' t' evidence route) (hid : t'.taskId = t.taskId) :
    Verified s s'' t' evidence route where
  toAside := (hid ▸ h.toAside : Aside t'.taskId s s').trans h'.toAside
  find := h'.find
  taskStatus := h'.taskStatus
  head := h'.head
  usage := h'.usage.trans (usage_addUsage_congr h.usage ..)

end States

/-! ### The parts of an attempt -/

/-- The exceptions of the runtime. -/
def Failure.IsRuntime (error : Failure) : Prop := ∃ e, error = .runtime e

/-- The base of an attempt is refused with exceptions of the runtime only. -/
theorem raises_attemptBaseCommit (s : ExecutionRunState) (task : TaskSpec) (base : String) :
    Checked.Raises Failure.IsRuntime (attemptBaseCommit s task base) := by
  have htask : ∀ taskId, Checked.Raises Failure.IsRuntime (s.task taskId) :=
    fun _ ↦ Checked.raises_ofOption ⟨_, rfl⟩
  refine Checked.raises_bind (Checked.raises_require ⟨_, rfl⟩) fun _ ↦
    Checked.raises_bind (htask _) fun t ↦ ?_
  unfold ExecutionRunState.expectedBaseCommit
  split
  · exact Checked.raises_ok _
  · refine Checked.raises_bind (Checked.raises_mapM htask _) fun dependencies ↦ ?_
    unfold ExecutionRunState.commonHead
    split
    · exact Checked.raises_bind (Checked.raises_require ⟨_, rfl⟩) fun _ ↦ Checked.raises_ok _
    · exact Checked.raises_error ⟨_, rfl⟩

section Parts

variable {env : Environment} {caller : Nat} {runId : String} {C : operations.Op → World → Prop}
  {J : World → Prop} {plan : Plan} {w : World} {s : ExecutionRunState} {actor : String}
  {request : PlanningRequest} {task : TaskSpec} {t : ExecutionTaskState}

variable (h : Proceeds env caller runId C J plan) (hactor : isBlank actor = false)
  (hmem : task ∈ plan.tasks.1)

include h hactor hmem

/-- A task that can be attempted is made ready. -/
theorem meets_makeReady (hJ : J w) (hopen : Open env.host runId w.ledger s)
    (hrunning : s.status = .running) (hfind : s.find task.taskId = some t)
    (hstatus : t.status = .pending ∨ t.status = .repairable ∨ t.status = .ready)
    (hdone : ∀ d ∈ task.dependsOn, ∃ t', s.find d = some t' ∧ t'.status = .succeeded) :
    Prog.Meets (handle env caller) Quiet C J (makeReady env.host runId task actor)
      (fun r w' ↦ r = .ok { t with status := .ready } ∧ ∃ s', Open env.host runId w'.ledger s' ∧
        Doing s s' { t with status := .ready }) w := by
  have hplanned := h.planned hJ hopen
  obtain ⟨hid, hdependsOn, -, -⟩ := hplanned.shape_eq hmem hfind
  have hsound := (runSound_of_project hopen.state).tasks t (ExecutionRunState.mem_of_find hfind).1
  have hfind' : s.find t.taskId = some t := hid ▸ hfind
  simp only [makeReady, Prog.bind_eq, Prog.liftM_eq, Prog.pure_eq]
  refine (meets_state h hJ hopen).bind ?_ (by simp)
  rintro _ w₁ - ⟨⟨⟩, hJ₁, hquiet₁, hopen₁⟩
  refine Prog.meets_ofExcept_bind.mpr ⟨hJ₁, fun t₁ ht₁ ↦ ?_, fun error herror ↦ ?_⟩
  swap
  · simp [ExecutionRunState.task, hfind, Checked.ofOption] at herror
  obtain rfl : t = t₁ := by simpa [hfind] using ht₁
  split
  · rename_i hwaits
    have hbound : t.attempts + 1 ≤ t.maxAttempts := by
      rcases hwaits with hwaits | hwaits
      · have hzero := hsound.waiting hwaits
        have hshape := hplanned.shape_eq hmem hfind
        have := task.attempts
        omega
      · exact hplanned.repairable t (ExecutionRunState.mem_of_find hfind).1 hwaits
    have hpending : t.pendingPolicyDecisionId = none := by
      refine (hsound.policy.undecided_of_ne ?_).1
      rcases hwaits with hwaits | hwaits <;> simp [hwaits]
    refine (meets_request h (fun _ ↦ s.replaceTask { t with status := .ready }) hJ₁ hopen₁
      hrunning hactor (.taskReady task.taskId (t.attempts + 1)) ?_).bind ?_ (by simp)
    · intro eventId
      exact .taskReady t ⟨⟨hid ▸ rfl, isPlanIdentifier_ne_empty hsound.identifier, hfind'⟩, rfl⟩
        hrunning hwaits hbound hpending (hdependsOn ▸ hdone)
    · rintro _ w₂ hJ₂ ⟨e, -, hstored⟩
      refine (meets_state h hJ₂ hstored.opened).bind ?_ (by simp)
      rintro _ w₃ - ⟨⟨⟩, hJ₃, -, hopen₃⟩
      have hdoing : Doing s ((s.replaceTask { t with status := .ready }).noted e)
          { t with status := .ready } := .replaceTask e hfind' rfl
      refine Prog.meets_ofExcept.mpr ⟨hJ₃, ?_, _, hopen₃, hdoing⟩
      rw [ExecutionRunState.task_eq_ok, ← hid]
      exact hdoing.find
  · rename_i hwaits
    have hready : t.status = .ready := by
      rcases hstatus with hstatus | hstatus | hstatus
      · exact absurd (.inl hstatus) hwaits
      · exact absurd (.inr hstatus) hwaits
      · exact hstatus
    have hsame : { t with status := .ready } = t := by rw [← hready]
    rw [hsame]
    exact Prog.meets_done.mpr ⟨hJ₁, rfl, s, hopen₁, .refl hfind'⟩

omit hactor hmem in
/-- The base of an attempt, when there is a single one. -/
theorem meets_attemptBase (hJ : J w) (hopen : Open env.host runId w.ledger s)
    (hfind : s.find task.taskId = some t) :
    Prog.Meets (handle env caller) Quiet C J (attemptBase env.host runId request task)
      (fun r w' ↦ ∃ base, r = .ok base ∧ Open env.host runId w'.ledger s ∧
        ∀ b, base = some b ↔
          s.goalBaseCommit = request.goal.baseCommit ∧ s.expectedBaseCommit t = .ok b) w := by
  have hbase : ∀ b, attemptBaseCommit s task request.goal.baseCommit = .ok b ↔
      s.goalBaseCommit = request.goal.baseCommit ∧ s.expectedBaseCommit t = .ok b := by
    intro b
    simp [attemptBaseCommit, hfind]
  simp only [attemptBase, Prog.tryCatch_eq, Prog.bind_eq, Prog.liftM_eq, Prog.pure_eq]
  refine Prog.meets_tryCatch.mpr ?_
  refine (meets_state h hJ hopen).bind ?_ (by simp)
  rintro _ w₁ - ⟨⟨⟩, hJ₁, -, hopen₁⟩
  refine Prog.meets_ofExcept_bind.mpr ⟨hJ₁, fun b hb ↦ ?_, fun error herror ↦ ?_⟩
  · refine Prog.meets_done.mpr ⟨hJ₁, some b, rfl, hopen₁, fun b' ↦ ?_⟩
    rw [← hbase b', hb, Option.some.injEq, Except.ok.injEq]
  · obtain ⟨error, rfl⟩ := raises_attemptBaseCommit _ _ _ error herror
    refine Prog.meets_done.mpr ⟨hJ₁, none, rfl, hopen₁, fun b ↦ ?_⟩
    rw [← hbase b, herror]
    simp

/-- The action of a ready task is decided: the pending decision is taken, or a new one recorded. -/
theorem meets_decideAction {action : ToolActionRequest} (hJ : J w)
    (hopen : Open env.host runId w.ledger s) (hrunning : s.status = .running)
    (hfind : s.find task.taskId = some t) (hready : t.status = .ready)
    (haction : ToolActionRequest.create runId plan.planId task.taskId (t.attempts + 1)
      task.allowedPaths.1 = .ok action) :
    Prog.Meets (handle env caller) Quiet C J
      (decideAction env.host runId request plan task actor t action)
      (fun r w' ↦ ∃ decision s', r = .ok decision ∧ Open env.host runId w'.ledger s' ∧
        Doing s s' { t with
          pendingPolicyDecisionId := some (decision.decisionId env.host)
          pendingPolicyActionDigest := some decision.actionDigest
          pendingPolicyAllowed := some decision.allowed
          pendingPolicyReason := some decision.reason } ∧ decision.reason ≠ "" ∧
        (t.pendingPolicyAllowed = some decision.allowed ∨
          authorize env.host request.goal plan task action = .ok decision)) w := by
  have hplanned := h.planned hJ hopen
  obtain ⟨hid, -, hpaths, -⟩ := hplanned.shape_eq hmem hfind
  have hsound := (runSound_of_project hopen.state).tasks t (ExecutionRunState.mem_of_find hfind).1
  have hfind' : s.find t.taskId = some t := hid ▸ hfind
  simp only [decideAction, Prog.bind_eq, Prog.liftM_eq, Prog.pure_eq]
  cases hsound.policy with
  | decided planId action' decision status planEq actionEq bound nonempty id digest allowed reason =>
    -- The decision that waits is the one on this action.
    obtain rfl : plan.planId = planId := by simpa [hplanned.planId] using planEq
    rw [hopen.runId_eq, hid, hpaths] at actionEq
    obtain rfl : action = action' := by simpa [haction] using actionEq
    have hcreate : PolicyDecision.create decision.allowed decision.reason decision.actionDigest =
        .ok decision := PolicyDecision.create_eq_ok.mpr ⟨rfl, rfl, rfl⟩
    have hpending : pendingPolicyDecision env.host t action = .ok (some decision) := by
      simp only [pendingPolicyDecision, id, digest, allowed, reason, hcreate, Except.mapError,
        Checked.ok_bind]
      exact Checked.bind_eq_ok.mpr ⟨⟨⟩, check_eq_ok.mpr ⟨bound, trivial⟩, rfl⟩
    rw [hpending]
    refine Prog.meets_ofExcept_bind.mpr ⟨hJ, ?_, by rintro _ ⟨⟩⟩
    rintro _ ⟨⟩
    refine Prog.meets_done.mpr ⟨hJ, decision, s, rfl, hopen, ?_, nonempty, .inl allowed⟩
    have hsame : { t with
        pendingPolicyDecisionId := some (decision.decisionId env.host)
        pendingPolicyActionDigest := some decision.actionDigest
        pendingPolicyAllowed := some decision.allowed
        pendingPolicyReason := some decision.reason } = t := by
      rw [← id, ← digest, ← allowed, ← reason]
    rw [hsame]
    exact .refl hfind'
  | undecided id digest allowed reason =>
    have hpending : pendingPolicyDecision env.host t action = .ok none := by
      simp [pendingPolicyDecision, id]
    rw [hpending]
    refine Prog.meets_ofExcept_bind.mpr ⟨hJ, ?_, by rintro _ ⟨⟩⟩
    rintro _ ⟨⟩
    obtain ⟨decision, hdecision, hdigest⟩ := exists_authorize env.host request.goal plan task action
    refine Prog.meets_ofExcept_bind.mpr ⟨hJ, ?_, fun error herror ↦ ?_⟩
    swap
    · simp [ofContract, hdecision, Except.mapError] at herror
    rintro decision' hdecision'
    obtain rfl : decision = decision' := by simpa [hdecision] using hdecision'
    have hreason := isPlanIdentifier_ne_empty decision.valid.1
    have hallowed : ExecutionRequests env.host plan .policyDecided
      (policyDecidedPayload env.host task.taskId (t.attempts + 1) decision) := .policyDecided ..
    refine (meets_request h (fun _ ↦ s.replaceTask { t with
      pendingPolicyDecisionId := some (decision.decisionId env.host)
      pendingPolicyActionDigest := some decision.actionDigest
      pendingPolicyAllowed := some decision.allowed
      pendingPolicyReason := some decision.reason }) hJ hopen hrunning hactor hallowed ?_).bind ?_
      (by simp)
    · intro eventId
      have hcreate : ToolActionRequest.create s.runId plan.planId t.taskId (t.attempts + 1)
          t.allowedPaths = .ok action := by
        rw [hopen.runId_eq, hid, hpaths, haction]
      exact .policyDecided t plan.planId action decision
        ⟨⟨hid ▸ rfl, isPlanIdentifier_ne_empty hsound.identifier, hfind'⟩, rfl⟩ hready id
        hplanned.planId hcreate rfl rfl hreason rfl hdigest rfl
    · rintro _ w₁ hJ₁ ⟨e, -, hstored⟩
      exact Prog.meets_done.mpr ⟨hJ₁, decision, _, rfl, hstored.opened, .replaceTask e hfind' rfl,
        hreason, .inr hdecision⟩

end Parts

/-! ### The ends of an attempt -/

section Ends

variable (env : Environment) (C : operations.Op → World → Prop) (runId : String)
  (request : PlanningRequest) (plan : Plan) (task : TaskSpec) (s : ExecutionRunState)
  (t : ExecutionTaskState)

/-- The executor answered the attempt of a task, when it was asked under the assumption. -/
def Answered (answer : AttemptAnswer) : Prop :=
  ∃ w asked, C (.execute asked) w ∧ env.executor w.calls.length asked = answer ∧
    asked.task = task ∧ asked.attempt = t.attempts + 1

/-- The attempt of a task can start: there is a single base, and a task that writes is attempted
only while all usage is known and the budget of the run is not exhausted. -/
structure Startable : Prop where
  goal : s.goalBaseCommit = request.goal.baseCommit
  base : ∃ base, s.expectedBaseCommit t = .ok base
  gate : task.isWriter = true → providerUsageIncomplete s = false ∧
    providerBudgetExhausted (remainingBudget request.budget s) = false

/-- **Endings.** Why the call ends the run in an attempt, and with which status. -/
inductive Ending : RunLifecycleStatus → Prop where
  | ambiguous (h : ¬(s.goalBaseCommit = request.goal.baseCommit ∧
      ∃ base, s.expectedBaseCommit t = .ok base)) : Ending .replanRequired
  | exhausted (writer : task.isWriter = true) (h : providerUsageIncomplete s = true ∨
      providerBudgetExhausted (remainingBudget request.budget s) = true) : Ending .escalated
  | denied (decision : PolicyDecision) (h : decision.allowed = false)
      (decided : t.pendingPolicyAllowed = some false ∨ ∃ action,
        ToolActionRequest.create runId plan.planId task.taskId (t.attempts + 1)
          task.allowedPaths.1 = .ok action ∧
        authorize env.host request.goal plan task action = .ok decision) : Ending .blocked
  | raised (typeName : String) (answered : Answered env C task t (.raised typeName)) :
      Ending .escalated
  | refuted (evidence : AttemptEvidence) (status : RunLifecycleStatus)
      (answered : Answered env C task t (.evidence evidence)) (h : evidence.passed = false)
      (ends : isOutcome status) (failed : status ≠ .succeeded) : Ending status
  | overdrawn (evidence : AttemptEvidence) (s' : ExecutionRunState) (t' : ExecutionTaskState)
      (route : AttemptRoute) (answered : Answered env C task t (.evidence evidence))
      (taskId : t'.taskId = t.taskId) (verified : Verified s s' t' evidence route)
      (h : budgetOverdrawn request.budget s' = true) : Ending .escalated

/-- **The ends of an attempt.** The run has ended, or the attempt was verified within the budget,
and the task is done or is to be repaired. -/
inductive AttemptOutcome : Except Failure AttemptEnd → World → Prop where
  | ended (s' : ExecutionRunState) (w' : World) (opened : Open env.host runId w'.ledger s')
      (ending : Ending env C runId request plan task s t s'.status) :
      AttemptOutcome (.ok (.returned s')) w'
  | succeeded (evidence : AttemptEvidence) (s' : ExecutionRunState) (t' : ExecutionTaskState)
      (w' : World) (opened : Open env.host runId w'.ledger s')
      (startable : Startable request task s t)
      (answered : Answered env C task t (.evidence evidence)) (taskId : t'.taskId = t.taskId)
      (verified : Verified s s' t' evidence .succeeded)
      (within : budgetOverdrawn request.budget s' = false) : AttemptOutcome (.ok .done) w'
  | repairable (evidence : AttemptEvidence) (s' : ExecutionRunState) (t' : ExecutionTaskState)
      (w' : World) (opened : Open env.host runId w'.ledger s')
      (startable : Startable request task s t)
      (answered : Answered env C task t (.evidence evidence)) (refuted : evidence.passed = false)
      (taskId : t'.taskId = t.taskId) (attempts : t'.attempts = t.attempts + 1)
      (verified : Verified s s' t' evidence .repairable)
      (within : budgetOverdrawn request.budget s' = false) : AttemptOutcome (.ok .again) w'

end Ends

/-- The outcome of the run after a failed attempt. -/
theorem exists_status_of_route {route : AttemptRoute}
    (hroute : ¬(route = .succeeded ∨ route = .repairable)) :
    ∃ status : RunLifecycleStatus, StrEnum.ofValue? (StrEnum.value route) = some status ∧
      isOutcome status := by
  simp only [StrEnum.ofValue?_eq_some]
  cases route with
  | succeeded | repairable => simp at hroute
  | replanRequired => exact ⟨.replanRequired, rfl, rfl⟩
  | blocked => exact ⟨.blocked, rfl, rfl⟩
  | escalated => exact ⟨.escalated, rfl, rfl⟩
  | terminalFailure => exact ⟨.terminalFailure, rfl, rfl⟩

/-- An ending is an outcome of a run, and no success. -/
theorem Ending.isOutcome {env : Environment} {C : operations.Op → World → Prop} {runId : String}
    {request : PlanningRequest} {plan : Plan} {task : TaskSpec} {s : ExecutionRunState}
    {t : ExecutionTaskState} {status : RunLifecycleStatus}
    (h : Ending env C runId request plan task s t status) :
    ExecutionRuntime.isOutcome status = true ∧ status ≠ .succeeded := by
  cases h with
  | refuted evidence _ answered h ends failed => exact ⟨ends, failed⟩
  | _ => exact ⟨rfl, nofun⟩

section Verification

variable {env : Environment} {caller : Nat} {runId : String} {C : operations.Op → World → Prop}
  {J : World → Prop} {plan : Plan} {w : World} {s : ExecutionRunState} {actor : String}
  {request : PlanningRequest} {task : TaskSpec} {t : ExecutionTaskState}

variable (h : Proceeds env caller runId C J plan) (hactor : isBlank actor = false)
  (hmem : task ∈ plan.tasks.1)

include h hactor

/-- A run is ended in an attempt. -/
theorem meets_endRun_open {status : RunLifecycleStatus} {reason : String} (hJ : J w)
    (hopen : Open env.host runId w.ledger s) (hrunning : s.status = .running)
    (houtcome : isOutcome status) (hreason : reason ≠ "") (hfailed : status ≠ .succeeded) :
    Prog.Meets (handle env caller) Quiet C J (endRun env.host runId actor status reason)
      (fun r w' ↦ ∃ s', r = .ok (.returned s') ∧ Open env.host runId w'.ledger s' ∧
        s'.status = status) w := by
  rw [endRun_eq]
  refine (meets_terminate h hJ hopen hrunning hactor houtcome hreason
    fun hsucceeded ↦ absurd hsucceeded hfailed).bind ?_ ?_
  · rintro s' w₁ hJ₁ ⟨_, ⟨⟩, hopen', hstatus⟩
    exact Prog.meets_done.mpr ⟨hJ₁, s', rfl, hopen', hstatus⟩
  · rintro _ _ _ ⟨_, he, _⟩
    simp at he

include hmem

/-- The route of an attempt that is being verified. -/
def routeOf (H : Host) (request : PlanningRequest) (task : TaskSpec) (t : ExecutionTaskState)
    (evidence : AttemptEvidence) : AttemptRoute :=
  route request.goal task evidence t.attempts (t.countError (evidence.errorSignature H))
    (t.isNewEvidence evidence.progressDigests.1)

omit h hactor hmem in
/-- An attempt that does not succeed did not pass, when a passed attempt leaves its workspace clean. -/
theorem routeOf_failed {H : Host} {r : PlanningRequest} {k : TaskSpec} {t : ExecutionTaskState}
    {evidence : AttemptEvidence} (hclean : evidence.passed = true → evidence.workspaceClean = true)
    (hne : routeOf H r k t evidence ≠ .succeeded) : evidence.passed = false := by
  by_contra hpassed
  rw [Bool.not_eq_false] at hpassed
  exact hne (route_eq_succeeded.mpr ⟨hclean hpassed, hpassed⟩)

/-- The evidence of an attempt that is being verified is recorded, with its route. -/
theorem meets_verified {workspace : String} {evidence : AttemptEvidence} (hJ : J w)
    (hopen : Open env.host runId w.ledger s) (hrunning : s.status = .running)
    (hfind : s.find t.taskId = some t) (hid : t.taskId = task.taskId)
    (hstatus : t.status = .verifying) (hactive : t.activeWorkspaceId = some workspace)
    (hworkspace : workspace ≠ "")
    (hclean : evidence.passed = true → evidence.workspaceClean = true) :
    Prog.Meets (handle env caller) Quiet C J
      (append env.host runId .taskVerified
        (taskVerifiedPayload task.taskId t.attempts workspace
          (routeOf env.host request task t evidence) (evidence.errorSignature env.host)
          (t.countError (evidence.errorSignature env.host))
          (t.isNewEvidence evidence.progressDigests.1) evidence) actor)
      (fun r w' ↦ ∃ s' t' e, r = .ok e ∧ Open env.host runId w'.ledger s' ∧
        t'.taskId = t.taskId ∧ t'.attempts = t.attempts ∧
        Verified s s' t' evidence (routeOf env.host request task t evidence)) w := by
  have hsound := (runSound_of_project hopen.state).tasks t
    (ExecutionRunState.mem_of_find hfind).1
  have hagrees : routeOf env.host request task t evidence = .succeeded ↔
      evidence.workspaceClean = true ∧ evidence.passed = true := route_eq_succeeded
  have hfailed := routeOf_failed (H := env.host) (r := request) (k := task) (t := t) hclean
  have hallowed : ExecutionRequests env.host plan .taskVerified
      (taskVerifiedPayload task.taskId t.attempts workspace
        (routeOf env.host request task t evidence) (evidence.errorSignature env.host)
        (t.countError (evidence.errorSignature env.host))
        (t.isNewEvidence evidence.progressDigests.1) evidence) :=
    .taskVerified task _ _ _ _ _ _ _ hmem fun hrepairable ↦
      (lt_of_route_eq_repairable hrepairable).trans_le (min_le_right _ _)
  refine (meets_request h (fun eventId ↦ { (s.replaceTask (t.verified eventId
        (routeOf env.host request task t evidence) (evidence.errorSignature env.host)
        evidence)).addUsage evidence.inputTokens evidence.outputTokens evidence.latencyMs
        evidence.costMicrousd with
      retainedWorkspaceIds := retainedAfter s.retainedWorkspaceIds (some workspace)
        (routeOf env.host request task t evidence) }) hJ hopen hrunning hactor hallowed ?_).mono ?_
  · exact fun eventId ↦ .taskVerified t workspace (routeOf env.host request task t evidence) evidence
      ⟨⟨hid ▸ rfl, isPlanIdentifier_ne_empty hsound.identifier, hfind⟩, rfl⟩ hstatus rfl hworkspace
      hactive rfl rfl rfl rfl rfl rfl rfl rfl rfl rfl rfl rfl rfl rfl rfl rfl hagrees hfailed
  · rintro r w' hJ' ⟨e, rfl, hstored⟩
    refine ⟨_, t.verified e.eventId (routeOf env.host request task t evidence)
      (evidence.errorSignature env.host) evidence, e, rfl, hstored.opened, rfl, rfl, ?_⟩
    exact {
      status := rfl
      base := rfl
      budget := rfl
      others := fun _ hne ↦ ExecutionRunState.find_replaceTask_of_ne hne
      find := ExecutionRunState.find_replaceTask_self hfind
      taskStatus := rfl
      head := rfl
      usage := rfl }

/-- The evidence of an attempt that runs is verified, and its route is taken. -/
theorem meets_settle_running {workspace : String} {evidence : AttemptEvidence}
    {s₀ : ExecutionRunState} {t₀ : ExecutionTaskState} (hJ : J w)
    (hopen : Open env.host runId w.ledger s) (hrunning : s.status = .running)
    (hdoing : Doing s₀ s t) (hid₀ : t.taskId = t₀.taskId) (hid : t.taskId = task.taskId)
    (hattempts : t.attempts = t₀.attempts + 1) (hstatus : t.status = .running)
    (hactive : t.activeWorkspaceId = some workspace) (hworkspace : workspace ≠ "")
    (hclean : evidence.passed = true → evidence.workspaceClean = true)
    (hstartable : Startable request task s₀ t₀)
    (hanswered : Answered env C task t₀ (.evidence evidence)) :
    Prog.Meets (handle env caller) Quiet C J
      (settle env.host runId request task actor t.attempts workspace evidence)
      (AttemptOutcome env C runId request plan task s₀ t₀) w := by
  have hsound := (runSound_of_project hopen.state).tasks t
    (ExecutionRunState.mem_of_find hdoing.find).1
  have hnonempty := isPlanIdentifier_ne_empty hsound.identifier
  simp only [settle, Prog.bind_eq, Prog.liftM_eq]
  -- The task is verified.
  refine (meets_request h (fun _ ↦ s.replaceTask { t with status := .verifying }) hJ hopen
    hrunning hactor (.taskVerifying task.taskId t.attempts workspace) ?_).bind ?_ (by simp)
  · intro eventId
    exact .taskVerifying t workspace ⟨⟨hid ▸ rfl, hnonempty, hdoing.find⟩, rfl⟩ hstatus rfl hworkspace
      hactive
  rintro _ w₁ hJ₁ ⟨e₁, -, hstored₁⟩
  obtain ⟨s₁, hs₁⟩ : ∃ s₁, s₁ = (s.replaceTask { t with status := .verifying }).noted e₁ := ⟨_, rfl⟩
  obtain ⟨t₁, ht₁⟩ : ∃ t₁, t₁ = { t with status := .verifying } := ⟨_, rfl⟩
  have hdoing₁ : Doing s₀ s₁ t₁ := by
    rw [hs₁, ht₁]
    exact hdoing.trans (.replaceTask e₁ hdoing.find rfl) rfl
  have hopen₁ : Open env.host runId w₁.ledger s₁ := by
    rw [hs₁]
    exact hstored₁.opened
  have hid₁ : t₁.taskId = task.taskId := by rw [ht₁, ← hid]
  have hfind₁ : s₁.find task.taskId = some t₁ := by
    rw [← hid₁]
    exact hdoing₁.find
  have hrunning₁ : s₁.status = .running := by
    rw [hs₁]
    exact hrunning
  refine (meets_state h hJ₁ hopen₁).bind ?_ (by simp)
  rintro _ w₂ - ⟨⟨⟩, hJ₂, -, hopen₂⟩
  refine Prog.Meets.ok_bind (ExecutionRunState.task_eq_ok.mpr hfind₁) ?_
  have hattempts₁ : t.attempts = t₁.attempts := by rw [ht₁]
  have hroute : route request.goal task evidence t₁.attempts
      (t₁.countError (evidence.errorSignature env.host))
      (t₁.isNewEvidence evidence.progressDigests.1) = routeOf env.host request task t₁ evidence := rfl
  simp only [hattempts₁, hroute]
  refine (meets_verified h hactor hmem hJ₂ hopen₂ hrunning₁ hdoing₁.find hid₁ (by rw [ht₁])
    (by rw [ht₁]; exact hactive) hworkspace hclean).bind ?_ (by simp)
  rintro _ w₃ hJ₃ ⟨s₃, t₃, e₃, -, hopen₃, hid₃, hattempts₃, hverified₃⟩
  -- The route of the attempt is taken.
  have hverified := hdoing₁.verified hverified₃ hid₃
  have htaskId : t₃.taskId = t₀.taskId := by rw [hid₃, hid₁, ← hid, hid₀]
  have hrunning₃ : s₃.status = .running := hverified₃.status.trans hrunning₁
  have hfailed := routeOf_failed (H := env.host) (r := request) (k := task) (t := t₁) hclean
  generalize routeOf env.host request task t₁ evidence = r at hverified hfailed
  split
  · rename_i hgoes
    refine (meets_state h hJ₃ hopen₃).bind ?_ (by simp)
    rintro _ w₄ - ⟨⟨⟩, hJ₄, -, hopen₄⟩
    split
    · rename_i hover
      refine (meets_endRun_open h hactor hJ₄ hopen₄ hrunning₃ rfl (by decide) (by decide)).mono ?_
      rintro _ w₅ - ⟨s₅, rfl, hopen₅, hstatus₅⟩
      refine .ended s₅ w₅ hopen₅ ?_
      rw [hstatus₅]
      exact .overdrawn evidence s₃ t₃ r hanswered htaskId hverified hover
    · rename_i hwithin
      rw [Bool.not_eq_true] at hwithin
      rcases hgoes with rfl | rfl
      · exact Prog.meets_done.mpr
          ⟨hJ₄, .succeeded evidence s₃ t₃ w₄ hopen₄ hstartable hanswered htaskId hverified hwithin⟩
      · have hattempts : t₃.attempts = t₀.attempts + 1 := by
          rw [hattempts₃, ← hattempts₁, hattempts]
        exact Prog.meets_done.mpr ⟨hJ₄, .repairable evidence s₃ t₃ w₄ hopen₄ hstartable hanswered
          (hfailed (by rintro ⟨⟩)) htaskId hattempts hverified hwithin⟩
  · rename_i hends
    obtain ⟨status, hvalue, houtcome⟩ := exists_status_of_route hends
    refine Prog.Meets.ok_bind (Checked.ofOption_eq_ok.mpr hvalue) ?_
    have hne := ne_succeeded_of_route hvalue hends
    refine (meets_endRun_open h hactor hJ₃ hopen₃ hrunning₃ houtcome (by cases r <;> decide)
      hne).mono ?_
    rintro _ w₅ - ⟨s₅, rfl, hopen₅, rfl⟩
    exact .ended s₅ w₅ hopen₅ (.refuted evidence _ hanswered
      (hfailed fun hr ↦ hends (.inl hr)) houtcome hne)

/-- An attempt whose action is decided is started, executed and settled, or its task is blocked. -/
theorem meets_startAttempt_ready {s₀ : ExecutionRunState} {t₀ t' : ExecutionTaskState}
    {baseCommit : String} {remaining : GatewayBudget} {decision : PolicyDecision} (hJ : J w)
    (hopen : Open env.host runId w.ledger s) (hrunning : s.status = .running)
    (hdoing : Doing s₀ s t')
    (ht' : t' = { t with
      pendingPolicyDecisionId := some (decision.decisionId env.host)
      pendingPolicyActionDigest := some decision.actionDigest
      pendingPolicyAllowed := some decision.allowed
      pendingPolicyReason := some decision.reason })
    (hready : t.status = .ready) (hid₀ : t.taskId = t₀.taskId) (hid : t.taskId = task.taskId)
    (hattempts : t.attempts = t₀.attempts) (hreason : decision.reason ≠ "")
    (hbase : s.expectedBaseCommit t' = .ok baseCommit) (hisBase : isCommit baseCommit)
    (hstartable : Startable request task s₀ t₀)
    (hdecided : decision.allowed = false → t₀.pendingPolicyAllowed = some false ∨ ∃ action,
      ToolActionRequest.create runId plan.planId task.taskId (t₀.attempts + 1)
        task.allowedPaths.1 = .ok action ∧
      authorize env.host request.goal plan task action = .ok decision) :
    Prog.Meets (handle env caller) Quiet C J
      (startAttempt env.host runId request plan task actor t baseCommit remaining decision)
      (AttemptOutcome env C runId request plan task s₀ t₀) w := by
  have hplanned := h.planned hJ hopen
  have hsound := (runSound_of_project hopen.state).tasks t'
    (ExecutionRunState.mem_of_find hdoing.find).1
  have hid' : t'.taskId = task.taskId := by rw [ht', ← hid]
  have hattempts' : t'.attempts = t.attempts := by rw [ht']
  have hnonempty := isPlanIdentifier_ne_empty hsound.identifier
  have hready' : t'.status = .ready := by rw [ht', ← hready]
  have hallowed' : t'.pendingPolicyAllowed = some decision.allowed := by rw [ht']
  have hreason' : t'.pendingPolicyReason = some decision.reason := by rw [ht']
  have hdecision' : t'.pendingPolicyDecisionId = some (decision.decisionId env.host) := by rw [ht']
  have haction' : t'.pendingPolicyActionDigest = some decision.actionDigest := by rw [ht']
  simp only [startAttempt, Prog.bind_eq]
  split
  · rename_i hdenied
    -- The action was denied: the task is blocked, and the run ends.
    rw [hdenied] at hallowed'
    refine (meets_request h (fun _ ↦ s.replaceTask { t'.withoutPolicy with
      status := .blocked, blockedReason := some decision.reason }) hJ hopen hrunning hactor
      (.taskBlocked task.taskId decision.reason) ?_).bind ?_ (by simp)
    · exact fun eventId ↦ .taskBlocked t' decision.reason ⟨hid' ▸ rfl, hnonempty, hdoing.find⟩ rfl
        hreason hready' hallowed' hreason'
    rintro _ w₁ hJ₁ ⟨e₁, -, hstored₁⟩
    refine (meets_endRun_open h hactor hJ₁ hstored₁.opened hrunning rfl hreason (by decide)).mono ?_
    rintro _ w₂ - ⟨s₂, rfl, hopen₂, hstatus₂⟩
    refine .ended s₂ w₂ hopen₂ ?_
    rw [hstatus₂]
    exact .denied decision hdenied (hdecided hdenied)
  · rename_i hgranted
    rw [Bool.not_eq_false] at hgranted
    rw [hgranted] at hallowed'
    -- The attempt starts in its own workspace.
    set workspace := workspaceId env.host plan.planId task.taskId (t.attempts + 1) with hworkspace
    refine (meets_request h (fun _ ↦ s.replaceTask { t'.withoutPolicy with
      status := .running
      attempts := t'.attempts + 1
      activeWorkspaceId :=
        some (workspaceId env.host plan.planId t'.taskId (t'.attempts + 1)) }) hJ hopen hrunning
      hactor (.taskStarted task.taskId (t.attempts + 1) workspace baseCommit decision) ?_).bind ?_
      (by simp)
    · intro eventId
      exact .taskStarted t' plan.planId baseCommit (decision.decisionId env.host)
        decision.actionDigest ⟨⟨hid' ▸ rfl, hnonempty, hdoing.find⟩, hattempts' ▸ rfl⟩ hready'
        hplanned.planId (by rw [hid', hattempts']; rfl) rfl hisBase hbase hallowed' rfl
        (isDigestText_jsonDigest _ _) hdecision' rfl
        (isDigestText_of_isHexDigest decision.valid.2) haction'
    rintro _ w₁ hJ₁ ⟨e₁, -, hstored₁⟩
    obtain ⟨t₁, ht₁⟩ : ∃ t₁, t₁ = { t'.withoutPolicy with
      status := .running
      attempts := t'.attempts + 1
      activeWorkspaceId :=
        some (workspaceId env.host plan.planId t'.taskId (t'.attempts + 1)) } := ⟨_, rfl⟩
    obtain ⟨s₁, hs₁⟩ : ∃ s₁, s₁ = (s.replaceTask t₁).noted e₁ := ⟨_, rfl⟩
    have hopen₁ : Open env.host runId w₁.ledger s₁ := by
      rw [hs₁, ht₁]
      exact hstored₁.opened
    have hid₁ : t₁.taskId = t'.taskId := by
      rw [ht₁]
      rfl
    have hdoing₁ : Doing s₀ s₁ t₁ := by
      rw [hs₁]
      exact hdoing.trans (.replaceTask e₁ hdoing.find hid₁) hid₁
    have hrunning₁ : s₁.status = .running := by
      rw [hs₁]
      exact hrunning
    have hattempts₁ : t₁.attempts = t.attempts + 1 := by rw [ht₁, ← hattempts']
    -- The executor is asked, which changes nothing of the run.
    refine Prog.meets_perform_bind.mpr ⟨hJ₁, fun w₂ hquiet₂ hJ₂ hC₂ ↦ ?_⟩
    obtain ⟨asked, hasked⟩ : ∃ asked : AttemptRequest, asked = ⟨runId, request.goal, plan, task,
        t.attempts + 1, workspace, baseCommit, t.lastFailureClass, t.lastFailureSummary, decision,
        remaining⟩ := ⟨_, rfl⟩
    rw [← hasked] at hC₂ ⊢
    have hJ₃ := h.attempt asked hJ₂
    have hopen₃ : Open env.host runId (handle env caller (.execute asked) w₂).2.ledger s₁ := by
      change Open env.host runId w₂.ledger s₁
      rw [hquiet₂.ledger]
      exact hopen₁
    have hanswered : Answered env C task t₀ (handle env caller (.execute asked) w₂).1 :=
      ⟨w₂, asked, hC₂, rfl, by rw [hasked], by rw [hasked, hattempts]⟩
    have hclean : ∀ evidence, (handle env caller (.execute asked) w₂).1 = .evidence evidence →
        evidence.passed = true → evidence.workspaceClean = true :=
      fun evidence hanswer ↦ h.clean hJ₂ hC₂ hanswer
    cases hanswer : (handle env caller (.execute asked) w₂).1 with
    | raised typeName =>
      refine (meets_state h hJ₃ hopen₃).bind ?_ (by simp)
      rintro _ w₄ - ⟨⟨⟩, hJ₄, -, hopen₄⟩
      rw [if_neg (by simp [hrunning₁])]
      refine (meets_endRun_open h hactor hJ₄ hopen₄ hrunning₁ rfl ?_ (by decide)).mono ?_
      · exact fun hempty ↦ absurd (congrArg String.length hempty) (by simp)
      rintro _ w₅ - ⟨s₅, rfl, hopen₅, hstatus₅⟩
      refine .ended s₅ w₅ hopen₅ ?_
      rw [hstatus₅]
      rw [hanswer] at hanswered
      exact .raised typeName hanswered
    | evidence evidence =>
      refine (meets_state h hJ₃ hopen₃).bind ?_ (by simp)
      rintro _ w₄ - ⟨⟨⟩, hJ₄, -, hopen₄⟩
      rw [if_neg (by simp [hrunning₁])]
      rw [← hattempts₁]
      refine meets_settle_running h hactor hmem hJ₄ hopen₄ hrunning₁ hdoing₁ ?_ (hid₁.trans hid')
        ?_ (by rw [ht₁]) ?_ ?_ (hclean evidence hanswer) hstartable (hanswer ▸ hanswered)
      · rw [hid₁, hid', ← hid, hid₀]
      · rw [hattempts₁, hattempts]
      · rw [ht₁, hworkspace, hid', hattempts']
      · exact fun hempty ↦ absurd (congrArg String.length hempty) (by simp [hworkspace, workspaceId])

/-- **Attempts.** An attempt of a task whose dependencies are done has one of its outcomes. -/
theorem meets_attempt_open (hJ : J w) (hopen : Open env.host runId w.ledger s)
    (hrunning : s.status = .running) (hfind : s.find task.taskId = some t)
    (hstatus : t.status = .pending ∨ t.status = .repairable ∨ t.status = .ready)
    (hdone : ∀ d ∈ task.dependsOn, ∃ t', s.find d = some t' ∧ t'.status = .succeeded) :
    Prog.Meets (handle env caller) Quiet C J (attempt env.host runId request plan task actor)
      (AttemptOutcome env C runId request plan task s t) w := by
  have hplanned := h.planned hJ hopen
  obtain ⟨hid, hdependsOn, hpaths, -⟩ := hplanned.shape_eq hmem hfind
  have hself : t.taskId ∉ t.dependsOn := by
    rw [hid, hdependsOn]
    exact task.dependencies.2.1
  simp only [attempt, Prog.bind_eq, Prog.liftM_eq]
  refine (meets_makeReady h hactor hmem hJ hopen hrunning hfind hstatus hdone).bind ?_ (by simp)
  rintro _ w₁ hJ₁ ⟨⟨⟩, s₁, hopen₁, hdoing₁⟩
  obtain ⟨t₁, ht₁⟩ : ∃ t₁, t₁ = { t with status := .ready } := ⟨_, rfl⟩
  rw [← ht₁] at hdoing₁ ⊢
  have hid₁ : t₁.taskId = t.taskId := by rw [ht₁]
  have hrunning₁ : s₁.status = .running := hdoing₁.status.trans hrunning
  have hfind₁ : s₁.find task.taskId = some t₁ := by
    rw [← hid, ← hid₁]
    exact hdoing₁.find
  refine (meets_attemptBase h hJ₁ hopen₁ hfind₁).bind ?_ (by simp)
  rintro base w₂ hJ₂ ⟨_, ⟨⟩, hopen₂, hbase⟩
  have hbase' : ∀ b, base = some b ↔
      s.goalBaseCommit = request.goal.baseCommit ∧ s.expectedBaseCommit t = .ok b := by
    intro b
    rw [hbase b, hdoing₁.base, hdoing₁.expectedBaseCommit hid₁ hself (by rw [ht₁])]
  cases base with
  | none =>
    refine (meets_endRun_open h hactor hJ₂ hopen₂ hrunning₁ rfl (by decide) (by decide)).mono ?_
    rintro _ w₃ - ⟨s₃, rfl, hopen₃, hstatus₃⟩
    refine .ended s₃ w₃ hopen₃ ?_
    rw [hstatus₃]
    refine .ambiguous ?_
    rintro ⟨hgoal, b, hb⟩
    exact absurd ((hbase' b).mpr ⟨hgoal, hb⟩) (by simp)
  | some baseCommit =>
    obtain ⟨-, hcommon⟩ := (hbase baseCommit).mp rfl
    obtain ⟨hgoal, hcommon₀⟩ := (hbase' baseCommit).mp rfl
    refine (meets_state h hJ₂ hopen₂).bind ?_ (by simp)
    rintro _ w₃ - ⟨⟨⟩, hJ₃, -, hopen₃⟩
    split
    · rename_i hgate
      rw [providerUsageIncomplete_congr hdoing₁.usage, remainingBudget_congr hdoing₁.usage] at hgate
      refine (meets_endRun_open h hactor hJ₃ hopen₃ hrunning₁ rfl (by decide) (by decide)).mono ?_
      rintro _ w₄ - ⟨s₄, rfl, hopen₄, hstatus₄⟩
      refine .ended s₄ w₄ hopen₄ ?_
      rw [hstatus₄]
      exact .exhausted hgate.1 hgate.2
    · rename_i hgate
      rw [providerUsageIncomplete_congr hdoing₁.usage, remainingBudget_congr hdoing₁.usage] at hgate
      have hstartable : Startable request task s t := by
        refine ⟨hgoal, ⟨_, hcommon₀⟩, fun hwriter ↦ ?_⟩
        simpa [hwriter] using hgate
      have hattempt : 1 ≤ t₁.attempts + 1 := Nat.succ_pos _
      obtain ⟨action, haction, -⟩ := ToolActionRequest.exists_create h.isPlanRunId plan.valid.1.1
        task.identifier hattempt (h.readablePlan task hmem)
      refine Prog.Meets.ok_bind (ofContract_eq_ok.mpr haction) ?_
      refine (meets_decideAction h hactor hmem hJ₃ hopen₃ hrunning₁ hfind₁ (by rw [ht₁])
        haction).bind ?_ (by simp)
      rintro _ w₄ hJ₄ ⟨decision, s₄, ⟨⟩, hopen₄, hdoing₄, hreason, hdecided⟩
      have hself₁ : t₁.taskId ∉ t₁.dependsOn := by
        rw [ht₁]
        exact hself
      refine meets_startAttempt_ready h hactor hmem hJ₄ hopen₄ (hdoing₄.status.trans hrunning₁)
        (hdoing₁.trans hdoing₄ rfl) rfl (by rw [ht₁]) hid₁ (hid₁.trans hid) (by rw [ht₁]) hreason
        ((hdoing₄.expectedBaseCommit rfl hself₁ rfl).mpr hcommon)
        (isCommit_expectedBaseCommit (runSound_of_project hopen₁.state) hcommon) hstartable
        fun hdenied ↦ ?_
      have hsame : t.attempts = t₁.attempts ∧ t.pendingPolicyAllowed = t₁.pendingPolicyAllowed := by
        rw [ht₁]
        exact ⟨rfl, rfl⟩
      rw [hsame.1, hsame.2]
      rcases hdecided with hpending | hauthorized
      · exact .inl (hdenied ▸ hpending)
      · exact .inr ⟨action, haction, hauthorized⟩

end Verification

end Blackcell.Orchestration.ExecutionRuntime
