import Blackcell.Orchestration.ExecutionRuntime.Projection

/-!
# What an event of a generated run changes

The branches of the projection, told once: which payloads each of them accepts in which states, and
the state that it returns (`Change`). Both directions are used: invariants are read off an accepted
event, and a call that builds a payload shows that the event will be accepted.

## Main definitions

* `Change` : the accepted events of each kind, with the states before and after them.
* `Step` : the accepted events of a stream.

## Main results

* `applyBranch_eq_ok`, `apply_eq_ok` : an event is accepted exactly when it is such a change.
-/

namespace Blackcell.Orchestration.ExecutionRuntime

open Blackcell.Kernel Blackcell.Gateway Blackcell.Orchestration.ExecutionPlan

/-- The payload names a task of the state. -/
structure NamesTask (payload : Mapping) (s : ExecutionRunState) (task : ExecutionTaskState) :
    Prop where
  get : payload.get "task_id" = .str task.taskId
  nonempty : task.taskId ≠ ""
  find : s.find task.taskId = some task

/-- The payload names a task of the state, with an attempt. -/
structure NamesAttempt (payload : Mapping) (s : ExecutionRunState) (task : ExecutionTaskState)
    (attempt : Nat) : Prop extends NamesTask payload s task where
  attempt : payload.get "attempt" = .int attempt

/-- **Changes.** The accepted events of a kind, by their payload, and the states before and after
them; the state after an event also records its identifier and its sequence number. -/
inductive Change (H : Host) (eventId : String) (payload : Mapping) (s : ExecutionRunState) :
    ExecutionEventType → ExecutionRunState → Prop where
  | replanStarted (planId : String) (revision : Nat) (status : s.status = .replanRequired)
      (draft : s.pendingDraftDigest = none) (plan : s.planId = some planId)
      (version : s.planRevision = some revision) (nonempty : planId ≠ "")
      (previousPlan : payload.get "previous_plan_id" = .str planId)
      (previousVersion : payload.get "previous_plan_version" = .int revision)
      (nextVersion : payload.get "next_plan_version" = .int (revision + 1 : Nat)) :
      Change H eventId payload s .replanStarted { s with status := .replanning }
  | planDraftReceived (draftDigest outputDigest profileId adapterId modelId : String)
      (inputTokens outputTokens costMicrousd : Option Nat) (latencyMs : Nat)
      (status : s.status = .admitted ∨ s.status = .replanning)
      (draft : s.pendingDraftDigest = none)
      (draftGet : payload.get "draft_digest" = .str draftDigest)
      (isDraft : isDigestText draftDigest)
      (outputGet : payload.get "provider_output_digest" = .str outputDigest)
      (isOutput : isDigestText outputDigest)
      (profileGet : payload.get "profile_id" = .str profileId) (profile : profileId ≠ "")
      (adapterGet : payload.get "adapter_id" = .str adapterId) (adapter : adapterId ≠ "")
      (modelGet : payload.get "model_id" = .str modelId) (model : modelId ≠ "")
      (inputGet : payload.get "input_tokens" = ofInteger? inputTokens)
      (outputTokensGet : payload.get "output_tokens" = ofInteger? outputTokens)
      (costGet : payload.get "cost_microusd" = ofInteger? costMicrousd)
      (latencyGet : payload.get "latency_ms" = .int latencyMs) :
      Change H eventId payload s .planDraftReceived
        { s.addUsage inputTokens outputTokens latencyMs costMicrousd with
          pendingDraftDigest := some draftDigest }
  | planAdmitted (plan : Plan)
      (status : s.planId = none ∧ s.status = .admitted ∧ plan.planRevision = 1 ∧
          plan.supersedesPlanId = none ∨
        s.planId.isSome ∧ s.status = .replanning ∧ plan.supersedesPlanId = s.planId ∧
          some plan.planRevision = s.planRevision.map (· + 1))
      (planGet : planFromPayload (payload.get "plan") = .ok plan)
      (idGet : payload.get "plan_id" = .str plan.planId) (nonempty : plan.planId ≠ "")
      (digestGet : payload.get "plan_digest" = .str (plan.planDigest H))
      (versionGet : payload.get "plan_version" = .int plan.planRevision)
      (supersedesGet : payload.get "supersedes_plan_id" = .ofText? plan.supersedesPlanId)
      (supersedes : plan.supersedesPlanId ≠ some "")
      (binding : plan.goalId = s.goalId ∧ plan.projectId = s.projectId ∧
        plan.intentId = s.intentId ∧ plan.baseCommit = s.goalBaseCommit ∧
        some plan.draftDigest = s.pendingDraftDigest) :
      Change H eventId payload s .planAdmitted { s with
        planId := some plan.planId
        planDigest := some (plan.planDigest H)
        planRevision := some plan.planRevision
        status := .running
        tasks := plan.tasks.1.map ExecutionTaskState.initial
        pendingDraftDigest := none }
  | policyDecided (task : ExecutionTaskState) (planId : String) (action : ToolActionRequest)
      (decision : PolicyDecision) (names : NamesAttempt payload s task (task.attempts + 1))
      (status : task.status = .ready) (pending : task.pendingPolicyDecisionId = none)
      (plan : s.planId = some planId)
      (actionEq : ToolActionRequest.create s.runId planId task.taskId (task.attempts + 1)
        task.allowedPaths = .ok action)
      (allowedGet : payload.get "allowed" = .bool decision.allowed)
      (reasonGet : payload.get "reason" = .str decision.reason) (reason : decision.reason ≠ "")
      (actionGet : payload.get "action_digest" = .str decision.actionDigest)
      (actionDigest : decision.actionDigest = action.digest H)
      (decisionGet : payload.get "decision_id" = .str (decision.decisionId H)) :
      Change H eventId payload s .policyDecided (s.replaceTask { task with
        pendingPolicyDecisionId := some (decision.decisionId H)
        pendingPolicyActionDigest := some decision.actionDigest
        pendingPolicyAllowed := some decision.allowed
        pendingPolicyReason := some decision.reason })
  | taskReady (task : ExecutionTaskState)
      (names : NamesAttempt payload s task (task.attempts + 1)) (running : s.status = .running)
      (status : task.status = .pending ∨ task.status = .repairable)
      (bound : task.attempts + 1 ≤ task.maxAttempts)
      (pending : task.pendingPolicyDecisionId = none)
      (dependencies : ∀ d ∈ task.dependsOn, ∃ t, s.find d = some t ∧ t.status = .succeeded) :
      Change H eventId payload s .taskReady (s.replaceTask { task with status := .ready })
  | taskStarted (task : ExecutionTaskState) (planId baseCommit decisionId actionDigest : String)
      (names : NamesAttempt payload s task (task.attempts + 1)) (status : task.status = .ready)
      (plan : s.planId = some planId)
      (workspaceGet : payload.get "workspace_id" =
        .str (workspaceId H planId task.taskId (task.attempts + 1)))
      (baseGet : payload.get "base_commit" = .str baseCommit) (isBase : isCommit baseCommit)
      (base : s.expectedBaseCommit task = .ok baseCommit)
      (allowed : task.pendingPolicyAllowed = some true)
      (decisionGet : payload.get "decision_id" = .str decisionId)
      (isDecision : isDigestText decisionId)
      (decision : task.pendingPolicyDecisionId = some decisionId)
      (actionGet : payload.get "action_digest" = .str actionDigest)
      (isAction : isDigestText actionDigest)
      (action : task.pendingPolicyActionDigest = some actionDigest) :
      Change H eventId payload s .taskStarted (s.replaceTask { task.withoutPolicy with
        status := .running
        attempts := task.attempts + 1
        activeWorkspaceId := some (workspaceId H planId task.taskId (task.attempts + 1)) })
  | taskVerifying (task : ExecutionTaskState) (workspace : String)
      (names : NamesAttempt payload s task task.attempts) (status : task.status = .running)
      (workspaceGet : payload.get "workspace_id" = .str workspace) (nonempty : workspace ≠ "")
      (active : task.activeWorkspaceId = some workspace) :
      Change H eventId payload s .taskVerifying (s.replaceTask { task with status := .verifying })
  | taskVerified (task : ExecutionTaskState) (workspace : String) (route : AttemptRoute)
      (evidence : AttemptEvidence) (names : NamesAttempt payload s task task.attempts)
      (status : task.status = .verifying)
      (workspaceGet : payload.get "workspace_id" = .str workspace) (nonempty : workspace ≠ "")
      (active : task.activeWorkspaceId = some workspace)
      (routeGet : payload.get "route" = .str (StrEnum.value route))
      (exitGet : payload.get "verifier_exit_code" = .int evidence.verifierExitCode)
      (checksGet : payload.get "required_checks_passed" = .bool evidence.requiredChecksPassed)
      (cleanGet : payload.get "workspace_clean" = .bool evidence.workspaceClean)
      (newGet : payload.get "new_evidence" =
        .bool (task.isNewEvidence evidence.progressDigests.1))
      (signatureGet : payload.get "error_signature" = .ofText? (evidence.errorSignature H))
      (countGet : payload.get "same_error_count" =
        .int (task.countError (evidence.errorSignature H)))
      (classGet : payload.get "failure_class" =
        .ofText? (evidence.failureClass.map StrEnum.value))
      (summaryGet : payload.get "failure_summary" = .ofText? evidence.failureSummary)
      (artifactsGet : payload.get "artifact_digests" = .ofTexts evidence.artifactDigests.1)
      (progressGet : payload.get "progress_digests" = .ofTexts evidence.progressDigests.1)
      (inputGet : payload.get "input_tokens" = ofInteger? evidence.inputTokens)
      (outputGet : payload.get "output_tokens" = ofInteger? evidence.outputTokens)
      (costGet : payload.get "cost_microusd" = ofInteger? evidence.costMicrousd)
      (headGet : payload.get "head_commit" = .str evidence.headCommit)
      (latencyGet : payload.get "latency_ms" = .int evidence.latencyMs)
      (agrees : route = .succeeded ↔ evidence.workspaceClean = true ∧ evidence.passed = true)
      (failed : route ≠ .succeeded → evidence.passed = false) :
      Change H eventId payload s .taskVerified
        { (s.replaceTask (task.verified eventId route (evidence.errorSignature H)
            evidence)).addUsage evidence.inputTokens evidence.outputTokens evidence.latencyMs
            evidence.costMicrousd with
          retainedWorkspaceIds := retainedAfter s.retainedWorkspaceIds (some workspace) route }
  | taskBlocked (task : ExecutionTaskState) (reason : String) (names : NamesTask payload s task)
      (reasonGet : payload.get "reason" = .str reason) (nonempty : reason ≠ "")
      (status : task.status = .ready) (denied : task.pendingPolicyAllowed = some false)
      (pending : task.pendingPolicyReason = some reason) :
      Change H eventId payload s .taskBlocked
        (s.replaceTask { task.withoutPolicy with status := .blocked, blockedReason := some reason })
  | runTerminated (status : RunLifecycleStatus) (reason : String)
      (statusGet : payload.get "status" = .str (StrEnum.value status))
      (outcome : isOutcome status) (reasonGet : payload.get "reason" = .str reason)
      (nonempty : reason ≠ "") (finished : status = .succeeded → s.allSucceeded) :
      Change H eventId payload s .runTerminated { s with status := status }

section Branches

variable {H : Host} {e : EventEnvelope} {payload : Mapping} {s s' : ExecutionRunState}

/-- Reading the task that a payload names. -/
theorem namesTask_iff {task : ExecutionTaskState} :
    (∃ taskId, (payload.get "task_id" = .str taskId ∧ taskId ≠ "") ∧ s.find taskId = some task) ↔
      NamesTask payload s task := by
  constructor
  · rintro ⟨taskId, ⟨hget, hne⟩, hfind⟩
    obtain rfl := (ExecutionRunState.mem_of_find hfind).2
    exact ⟨hget, hne, hfind⟩
  · rintro ⟨hget, hne, hfind⟩
    exact ⟨_, ⟨hget, hne⟩, hfind⟩

theorem replanStarted_eq_ok : replanStarted payload s = .ok s' ↔
    Change H e.eventId payload s .replanStarted s' := by
  simp only [replanStarted, Checked.bind_eq_ok, check_eq_ok, Checked.exists_unit, text_eq_ok,
    integer_eq_ok, Checked.pure_eq_ok]
  constructor
  · rintro ⟨⟨hstatus, hdraft, hplan, hversion⟩, planId, ⟨hid, hne⟩, hplan', revision, hrev, hrev',
      next, hnext, hnext', rfl⟩
    rw [← hrev', Option.map_some, Option.some.injEq] at hnext'
    subst hnext'
    exact .replanStarted planId revision hstatus hdraft hplan'.symm hrev'.symm hne hid hrev hnext
  · intro h
    cases h with
    | replanStarted planId revision hstatus hdraft hplan hversion hne hid hrev hnext =>
      exact ⟨⟨hstatus, hdraft, by simp [hplan], by simp [hversion]⟩, planId, ⟨hid, hne⟩, hplan.symm,
        revision, hrev, hversion.symm, revision + 1, hnext, by simp [hversion], rfl⟩

theorem planDraftReceived_eq_ok : planDraftReceived payload s = .ok s' ↔
    Change H e.eventId payload s .planDraftReceived s' := by
  simp only [planDraftReceived, Checked.bind_eq_ok, check_eq_ok, Checked.exists_unit, text_eq_ok,
    integer_eq_ok, digest_eq_ok, optionalInteger_eq_ok, Checked.pure_eq_ok]
  constructor
  · rintro ⟨⟨hstatus, hdraft⟩, _, ⟨h1, h2⟩, _, ⟨h3, h4⟩, _, ⟨h5, h6⟩, _, ⟨h7, h8⟩, _, ⟨h9, h10⟩, _,
      h11, _, h12, _, h13, _, h14, rfl⟩
    exact .planDraftReceived _ _ _ _ _ _ _ _ _ hstatus hdraft h1 h2 h3 h4 h5 h6 h7 h8 h9 h10 h11
      h12 h13 h14
  · intro h
    cases h with
    | planDraftReceived _ _ _ _ _ _ _ _ _ hstatus hdraft h1 h2 h3 h4 h5 h6 h7 h8 h9 h10 h11 h12 h13
      h14 =>
      exact ⟨⟨hstatus, hdraft⟩, _, ⟨h1, h2⟩, _, ⟨h3, h4⟩, _, ⟨h5, h6⟩, _, ⟨h7, h8⟩, _, ⟨h9, h10⟩, _,
        h11, _, h12, _, h13, _, h14, rfl⟩

theorem planAdmitted_eq_ok : planAdmitted H payload s = .ok s' ↔
    Change H e.eventId payload s .planAdmitted s' := by
  simp only [planAdmitted, Checked.bind_eq_ok, check_eq_ok, Checked.exists_unit, text_eq_ok,
    integer_eq_ok, digest_eq_ok, optionalText_eq_ok, validEvent_eq_ok, Checked.pure_eq_ok]
  constructor
  · rintro ⟨hstatus, plan, hplan, _, ⟨hid, hne⟩, rfl, _, ⟨hdigest, -⟩, rfl, _, hversion, rfl, _,
      ⟨hsupersedes, hsne⟩, rfl, hbinding, hrevised, hfresh, rfl⟩
    refine .planAdmitted plan ?_ hplan hid hne hdigest hversion hsupersedes hsne hbinding
    rcases hstatus with h | h
    · exact .inl ⟨h.1, h.2, hfresh h⟩
    · exact .inr ⟨h.1, h.2, hrevised h⟩
  · intro h
    cases h with
    | planAdmitted plan hstatus hplan hid hne hdigest hversion hsupersedes hsne hbinding =>
      refine ⟨?_, plan, hplan, _, ⟨hid, hne⟩, rfl, _, ⟨hdigest, isDigestText_jsonDigest H _⟩, rfl, _,
        hversion, rfl, _, ⟨hsupersedes, hsne⟩, rfl, hbinding, ?_, ?_, rfl⟩
      · exact hstatus.imp (fun h ↦ ⟨h.1, h.2.1⟩) fun h ↦ ⟨h.1, h.2.1⟩
      · rintro ⟨hsome, -⟩
        rcases hstatus with h | h
        · simp [h.1] at hsome
        · exact h.2.2
      · rintro ⟨hnone, -⟩
        rcases hstatus with h | h
        · exact h.2.2
        · simp [hnone] at h

theorem policyDecided_eq_ok : policyDecided H payload s = .ok s' ↔
    Change H e.eventId payload s .policyDecided s' := by
  simp only [policyDecided, Checked.bind_eq_ok, check_eq_ok, Checked.exists_unit, text_eq_ok,
    ExecutionRunState.task_eq_ok, integer_eq_ok, digest_eq_ok, boolean_eq_ok, validEvent_eq_ok,
    PolicyDecision.create_eq_ok, Checked.ofOption_eq_ok, Checked.pure_eq_ok]
  constructor
  · rintro ⟨taskId, hget, task, hfind, attempt, hattempt, ⟨hstatus, rfl, hpending⟩, h⟩
    obtain ⟨planId, hplan, action, haction, _, hallowed, _, ⟨hreason, hrne⟩, h⟩ := h
    obtain ⟨_, ⟨hdigest, -⟩, decision, ⟨rfl, rfl, rfl⟩, hsame, h⟩ := h
    obtain ⟨_, ⟨hdecision, -⟩, rfl, rfl⟩ := h
    exact .policyDecided task planId action decision
      ⟨namesTask_iff.mp ⟨taskId, hget, hfind⟩, hattempt⟩ hstatus hpending hplan haction hallowed
      hreason hrne hdigest hsame hdecision
  · intro h
    cases h with
    | policyDecided task planId action decision names hstatus hpending hplan haction hallowed
      hreason hrne hdigest hsame hdecision =>
      exact ⟨_, ⟨names.get, names.nonempty⟩, task, names.find, _, names.attempt,
        ⟨hstatus, rfl, hpending⟩, planId, hplan, action, haction, _, hallowed, _, ⟨hreason, hrne⟩, _,
        ⟨hdigest, hsame ▸ isDigestText_jsonDigest H _⟩, decision, ⟨rfl, rfl, rfl⟩, hsame, _,
        ⟨hdecision, isDigestText_jsonDigest H _⟩, rfl, rfl⟩

theorem taskReady_eq_ok : taskReady payload s = .ok s' ↔
    Change H e.eventId payload s .taskReady s' := by
  simp only [taskReady, Checked.bind_eq_ok, check_eq_ok, Checked.exists_unit, text_eq_ok,
    ExecutionRunState.task_eq_ok, integer_eq_ok, Checked.pure_eq_ok]
  constructor
  · rintro ⟨taskId, hget, task, hfind, attempt, hattempt, ⟨hrunning, hstatus, rfl, hbound, hpending⟩,
      satisfied, hdependencies, rfl, rfl⟩
    exact .taskReady task ⟨namesTask_iff.mp ⟨taskId, hget, hfind⟩, hattempt⟩ hrunning hstatus hbound
      hpending (ExecutionRunState.succeeded_eq_true.mp hdependencies)
  · intro h
    cases h with
    | taskReady task names hrunning hstatus hbound hpending hdependencies =>
      exact ⟨_, ⟨names.get, names.nonempty⟩, task, names.find, _, names.attempt,
        ⟨hrunning, hstatus, rfl, hbound, hpending⟩, true,
        ExecutionRunState.succeeded_eq_true.mpr hdependencies, rfl, rfl⟩

theorem workspaceId_ne_empty (planId taskId : String) (attempt : Nat) :
    workspaceId H planId taskId attempt ≠ "" := by
  intro h
  have hlength := congrArg String.length h
  have hbegins : "workspace-".length = 10 := rfl
  rw [workspaceId, String.length_append, hbegins, String.length_empty] at hlength
  omega

theorem taskStarted_eq_ok : taskStarted H payload s = .ok s' ↔
    Change H e.eventId payload s .taskStarted s' := by
  simp only [taskStarted, Checked.bind_eq_ok, check_eq_ok, Checked.exists_unit, text_eq_ok,
    ExecutionRunState.task_eq_ok, integer_eq_ok, digest_eq_ok, commit_eq_ok,
    Checked.ofOption_eq_ok, Checked.pure_eq_ok]
  constructor
  · rintro ⟨taskId, hget, task, hfind, attempt, hattempt, _, ⟨hworkspace, -⟩, h⟩
    obtain ⟨⟨hstatus, rfl⟩, planId, hplan, rfl, _, ⟨hbase, hisBase⟩, h⟩ := h
    obtain ⟨_, hexpected, ⟨rfl, hallowed⟩, decisionId, ⟨hdecision, hd⟩, hdecision', h⟩ := h
    obtain ⟨actionDigest, ⟨haction, ha⟩, haction', rfl⟩ := h
    exact .taskStarted task planId _ decisionId actionDigest
      ⟨namesTask_iff.mp ⟨taskId, hget, hfind⟩, hattempt⟩ hstatus hplan hworkspace hbase hisBase
      hexpected hallowed hdecision hd hdecision' haction ha haction'
  · intro h
    cases h with
    | taskStarted task planId baseCommit decisionId actionDigest names hstatus hplan hworkspace
      hbase hisBase hexpected hallowed hdecision hd hdecision' haction ha haction' =>
      exact ⟨_, ⟨names.get, names.nonempty⟩, task, names.find, _, names.attempt, _,
        ⟨hworkspace, workspaceId_ne_empty _ _ _⟩, ⟨hstatus, rfl⟩, planId, hplan, rfl, _,
        ⟨hbase, hisBase⟩, _, hexpected, ⟨rfl, hallowed⟩, decisionId, ⟨hdecision, hd⟩, hdecision',
        actionDigest, ⟨haction, ha⟩, haction', rfl⟩

theorem taskVerifying_eq_ok : taskVerifying payload s = .ok s' ↔
    Change H e.eventId payload s .taskVerifying s' := by
  simp only [taskVerifying, Checked.bind_eq_ok, check_eq_ok, Checked.exists_unit, text_eq_ok,
    ExecutionRunState.task_eq_ok, integer_eq_ok, Checked.pure_eq_ok]
  constructor
  · rintro ⟨taskId, hget, task, hfind, hstatus, _, hattempt, rfl, workspace, ⟨hworkspace, hne⟩,
      hactive, rfl⟩
    exact .taskVerifying task workspace ⟨namesTask_iff.mp ⟨taskId, hget, hfind⟩, hattempt⟩ hstatus
      hworkspace hne hactive.symm
  · intro h
    cases h with
    | taskVerifying task workspace names hstatus hworkspace hne hactive =>
      exact ⟨_, ⟨names.get, names.nonempty⟩, task, names.find, hstatus, _, names.attempt, rfl,
        workspace, ⟨hworkspace, hne⟩, hactive.symm, rfl⟩

theorem taskVerified_eq_ok : taskVerified H e payload s = .ok s' ↔
    Change H e.eventId payload s .taskVerified s' := by
  simp only [taskVerified, Checked.bind_eq_ok, check_eq_ok, Checked.exists_unit, text_eq_ok,
    ExecutionRunState.task_eq_ok, integer_eq_ok, boolean_eq_ok, commit_eq_ok, digestTuple_eq_ok,
    optionalText_eq_ok, optionalInteger_eq_ok, optionalDigest_eq_ok, optionalFailureClass_eq_ok,
    validEvent_eq_ok, Checked.ofOption_eq_ok, StrEnum.ofValue?_eq_some, Checked.pure_eq_ok]
  constructor
  · rintro ⟨taskId, hget, task, hfind, hstatus, _, hattempt, rfl, h⟩
    obtain ⟨workspace, ⟨hworkspace, hne⟩, hactive, _, ⟨hroute, -⟩, route, h⟩ := h
    obtain ⟨rfl, _, hexit, -, _, hchecks, _, hclean, h⟩ := h
    obtain ⟨_, hnew, _, ⟨hsignature, -⟩, _, hcount, rfl, h⟩ := h
    obtain ⟨_, hclass, _, ⟨hsummary, -⟩, -, hfailed, _, h⟩ := h
    obtain ⟨⟨hartifacts, -, -, hasorted⟩, _, ⟨hprogress, -, -, hpsorted⟩, h⟩ := h
    obtain ⟨-, _, hinput, _, houtput, _, hcost, _, h⟩ := h
    obtain ⟨⟨hhead, -⟩, _, hlatency, evidence, hevidence, ⟨rfl, rfl, hagrees⟩, rfl⟩ := h
    obtain ⟨⟨rfl, rfl, rfl⟩, ⟨rfl, rfl⟩, rfl, rfl, rfl, rfl, rfl, ha, hp⟩ :=
      AttemptEvidence.create_eq_ok hevidence
    rw [← hasorted] at ha
    rw [← hpsorted] at hp
    subst ha hp
    rw [← hactive]
    refine .taskVerified task workspace route evidence
      ⟨namesTask_iff.mp ⟨taskId, hget, hfind⟩, hattempt⟩ hstatus hworkspace hne hactive.symm hroute
      hexit hchecks hclean hnew hsignature hcount hclass hsummary hartifacts hprogress hinput
      houtput hcost hhead hlatency hagrees fun hne ↦ ?_
    have hclass := (hfailed hne).1
    rw [Option.isSome_iff_ne_none, ne_eq, AttemptEvidence.failureClass_eq_none] at hclass
    simpa using hclass
  · intro h
    cases h with
    | taskVerified task workspace route evidence names hstatus hworkspace hne hactive hroute hexit
      hchecks hclean hnew hsignature hcount hclass hsummary hartifacts hprogress hinput houtput
      hcost hhead hlatency hagrees hfailed =>
      have hsummary_ne : evidence.failureSummary ≠ some "" := evidence.failureSummary_ne_empty
      refine ⟨_, ⟨names.get, names.nonempty⟩, task, names.find, hstatus, _, names.attempt, rfl,
        workspace, ⟨hworkspace, hne⟩, hactive.symm, _, ⟨hroute, by cases route <;> decide⟩, route, rfl,
        _, hexit, evidence.isExitCode, _, hchecks, _, hclean, _, hnew, _,
        ⟨hsignature, all_errorSignature H evidence⟩, _, hcount, rfl, _, hclass, _,
        ⟨hsummary, hsummary_ne⟩, ?_, ?_, _, ⟨hartifacts, ?_⟩, _, ⟨hprogress, ?_⟩,
        evidence.progress_subset, _, hinput, _, houtput, _, hcost, _, ⟨hhead, evidence.isCommit⟩, _,
        hlatency, evidence, evidence.create_self, ⟨rfl, rfl, hagrees⟩, ?_⟩
      · intro hsucceeded
        have hpassed := (hagrees.mp hsucceeded).2
        exact ⟨AttemptEvidence.failureClass_eq_none.mpr hpassed,
          AttemptEvidence.failureSummary_eq_none.mpr hpassed⟩
      · intro hne
        have hpassed := hfailed hne
        simp only [Option.isSome_iff_ne_none, ne_eq, AttemptEvidence.failureClass_eq_none,
          AttemptEvidence.failureSummary_eq_none, hpassed]
        simp
      · exact readable_of_isDigestTuple evidence.artifactDigests.2
      · exact readable_of_isDigestTuple evidence.progressDigests.2
      · rw [hactive]

theorem taskBlocked_eq_ok : taskBlocked payload s = .ok s' ↔
    Change H e.eventId payload s .taskBlocked s' := by
  simp only [taskBlocked, Checked.bind_eq_ok, check_eq_ok, Checked.exists_unit, text_eq_ok,
    ExecutionRunState.task_eq_ok, Checked.pure_eq_ok]
  constructor
  · rintro ⟨taskId, hget, task, hfind, reason, ⟨hreason, hne⟩, ⟨hstatus, hdenied, hpending⟩, rfl⟩
    exact .taskBlocked task reason (namesTask_iff.mp ⟨taskId, hget, hfind⟩) hreason hne hstatus
      hdenied hpending
  · intro h
    cases h with
    | taskBlocked task reason names hreason hne hstatus hdenied hpending =>
      exact ⟨_, ⟨names.get, names.nonempty⟩, task, names.find, reason, ⟨hreason, hne⟩,
        ⟨hstatus, hdenied, hpending⟩, rfl⟩

theorem runTerminated_eq_ok : runTerminated payload s = .ok s' ↔
    Change H e.eventId payload s .runTerminated s' := by
  simp only [runTerminated, Checked.bind_eq_ok, check_eq_ok, Checked.exists_unit, text_eq_ok,
    Checked.ofOption_eq_ok, StrEnum.ofValue?_eq_some, Checked.pure_eq_ok]
  constructor
  · rintro ⟨_, ⟨hstatus, -⟩, status, rfl, houtcome, reason, ⟨hreason, hne⟩, hfinished, rfl⟩
    exact .runTerminated status reason hstatus houtcome hreason hne hfinished
  · intro h
    cases h with
    | runTerminated status reason hstatus houtcome hreason hne hfinished =>
      exact ⟨_, ⟨hstatus, by cases status <;> decide⟩, status, rfl, houtcome, reason, ⟨hreason, hne⟩,
        hfinished, rfl⟩

/-- **Branches.** A branch accepts exactly the changes of its kind. -/
theorem applyBranch_eq_ok {t : ExecutionEventType} : applyBranch H e payload s t = .ok s' ↔
    Change H e.eventId payload s t s' := by
  cases t with
  | goalAdmitted => exact ⟨fun h ↦ by simp [applyBranch] at h, fun h ↦ by cases h⟩
  | replanStarted => exact replanStarted_eq_ok
  | planDraftReceived => exact planDraftReceived_eq_ok
  | planAdmitted => exact planAdmitted_eq_ok
  | policyDecided => exact policyDecided_eq_ok
  | taskReady => exact taskReady_eq_ok
  | taskStarted => exact taskStarted_eq_ok
  | taskVerifying => exact taskVerifying_eq_ok
  | taskVerified => exact taskVerified_eq_ok
  | taskBlocked => exact taskBlocked_eq_ok
  | runTerminated => exact runTerminated_eq_ok

end Branches

/-! ### The projection -/

/-- The state of a run after its goal was admitted. -/
def ExecutionRunState.opened (H : Host) (e : EventEnvelope) (runId : String) (goal : GoalSpec)
    (classification : DataClassification) (locality : LocalityPolicy) (budget : GatewayBudget) :
    ExecutionRunState where
  runId := runId
  goalId := goal.goalId
  goalDigest := goal.digest H
  projectId := goal.projectId
  intentId := goal.intentId
  goalBaseCommit := goal.baseCommit
  classification := classification
  locality := locality
  budget := budget
  planId := none
  planDigest := none
  planRevision := none
  status := .admitted
  tasks := []
  retainedWorkspaceIds := []
  latestEventId := e.eventId
  lastStreamSequence := e.streamSequence
  inputTokens := 0
  inputTokensComplete := true
  outputTokens := 0
  outputTokensComplete := true
  latencyMs := 0
  costMicrousd := 0
  costMicrousdComplete := true
  pendingDraftDigest := none

/-- The tasks of a run after a public event. -/
def endTasks (ended : Option TaskLifecycleStatus) (tasks : List ExecutionTaskState) :
    List ExecutionTaskState :=
  match ended with
  | none => tasks
  | some status => tasks.map (·.endWith status)

/-- The state of a run after a public event. -/
def ExecutionRunState.afterPublic (s : ExecutionRunState) (t : RunLifecycle.RunEventType)
    (e : EventEnvelope) : ExecutionRunState :=
  { s with
    status := (publicStatus t s.status).1
    tasks := endTasks (publicStatus t s.status).2 s.tasks
    latestEventId := e.eventId
    lastStreamSequence := e.streamSequence }

/-- The state after the event that it was computed from was noted. -/
def ExecutionRunState.noted (s : ExecutionRunState) (e : EventEnvelope) : ExecutionRunState :=
  { s with latestEventId := e.eventId, lastStreamSequence := e.streamSequence }

/-- **Steps.** An accepted event of a stream: a public event of the run, the admission of the goal,
or a change of the generated run. -/
inductive Step (H : Host) (e : EventEnvelope) :
    Option ExecutionRunState → Option ExecutionRunState → Prop where
  | unopened (t : RunLifecycle.RunEventType) (type : RunLifecycle.runEventType? e = some t)
      (stream : "run:".toList.isPrefixOf e.streamId.toList) : Step H e none none
  | published (t : RunLifecycle.RunEventType) (s : ExecutionRunState)
      (type : RunLifecycle.runEventType? e = some t)
      (isRun : isRunId s.runId) (stream : e.streamId = "run:" ++ s.runId)
      (sequence : e.streamSequence = s.lastStreamSequence + 1)
      (unchanged : isFinal s.status → (publicStatus t s.status).1 = s.status)
      (finished : (publicStatus t s.status).1 = .succeeded → s.allSucceeded) :
      Step H e (some s) (some (s.afterPublic t e))
  | opened (runId : String) (goal : GoalSpec) (classification : DataClassification)
      (locality : LocalityPolicy) (budget : GatewayBudget)
      (type : executionEventType? e = some .goalAdmitted)
      (fields : e.payload.exact (payloadFields .goalAdmitted))
      (run : e.payload.get "run_id" = .str runId) (isRun : isRunId runId)
      (stream : e.streamId = "run:" ++ runId)
      (goalGet : goalFromPayload (e.payload.get "goal") = .ok goal)
      (idGet : e.payload.get "goal_id" = .str goal.goalId) (nonempty : goal.goalId ≠ "")
      (digestGet : e.payload.get "goal_digest" = .str (goal.digest H))
      (classificationGet : e.payload.get "classification" = .int classification.value)
      (localityGet : e.payload.get "locality" = .str (StrEnum.value locality))
      (budgetGet : gatewayBudget (e.payload.get "budget") = .ok budget) :
      Step H e none
        (some (ExecutionRunState.opened H e runId goal classification locality budget))
  | changed (t : ExecutionEventType) (s s' : ExecutionRunState)
      (type : executionEventType? e = some t) (fields : e.payload.exact (payloadFields t))
      (run : e.payload.get "run_id" = .str s.runId) (isRun : isRunId s.runId)
      (stream : e.streamId = "run:" ++ s.runId)
      (sequence : e.streamSequence = s.lastStreamSequence + 1) (active : ¬isFinal s.status)
      (change : Change H e.eventId e.payload s t s') :
      Step H e (some s) (some (s'.noted e))

section Noted

variable (s : ExecutionRunState) (e : EventEnvelope)

@[simp] theorem noted_runId : (s.noted e).runId = s.runId := rfl
@[simp] theorem noted_status : (s.noted e).status = s.status := rfl
@[simp] theorem noted_tasks : (s.noted e).tasks = s.tasks := rfl
@[simp] theorem noted_planId : (s.noted e).planId = s.planId := rfl
@[simp] theorem noted_planDigest : (s.noted e).planDigest = s.planDigest := rfl
@[simp] theorem noted_planRevision : (s.noted e).planRevision = s.planRevision := rfl
@[simp] theorem noted_budget : (s.noted e).budget = s.budget := rfl
@[simp] theorem noted_find (taskId : String) : (s.noted e).find taskId = s.find taskId := rfl
@[simp] theorem noted_allSucceeded : (s.noted e).allSucceeded = s.allSucceeded := rfl

end Noted

section Projection

variable {H : Host} {e : EventEnvelope} {state state' : Option ExecutionRunState}

theorem streamIdOf_eq_ok {runId streamId : String} :
    streamIdOf runId = .ok streamId ↔ isRunId runId ∧ streamId = "run:" ++ runId := by
  simp only [streamIdOf, Checked.bind_eq_ok, check_eq_ok, Checked.exists_unit, Checked.pure_eq_ok]
  exact and_congr_right fun _ ↦ eq_comm

theorem isRunId_ne_empty {runId : String} (h : isRunId runId) : runId ≠ "" := by
  rintro rfl
  revert h
  decide

/-- The stream of a run is the stream of no other one. -/
theorem streamId_injective {runId runId' : String} (h : "run:" ++ runId = "run:" ++ runId') :
    runId = runId' := by
  have hlist := congrArg String.toList h
  rw [String.toList_append, String.toList_append] at hlist
  exact String.toList_injective (List.append_cancel_left hlist)

/-- A public event of the run is none of the generated execution. -/
theorem executionEventType?_eq_none {t : RunLifecycle.RunEventType}
    (ht : RunLifecycle.runEventType? e = some t) : executionEventType? e = none := by
  unfold RunLifecycle.runEventType? at ht
  split at ht
  · rename_i hsource
    simp [executionEventType?, hsource, RunLifecycle.runtimeEventSource, executionEventSource]
  · simp at ht

/-- An event of the generated execution is no public event of the run. -/
theorem runEventType?_eq_none {t : ExecutionEventType} (ht : executionEventType? e = some t) :
    RunLifecycle.runEventType? e = none := by
  cases hpublic : RunLifecycle.runEventType? e with
  | none => rfl
  | some t' => simp [executionEventType?_eq_none hpublic] at ht

theorem applyPublic_eq_ok {t : RunLifecycle.RunEventType}
    (ht : RunLifecycle.runEventType? e = some t) :
    applyPublic t state e = .ok state' ↔ Step H e state state' := by
  have hexecution := executionEventType?_eq_none ht
  constructor
  · intro h
    cases state with
    | none =>
      simp only [applyPublic, Checked.bind_eq_ok, check_eq_ok, Checked.exists_unit,
        Checked.pure_eq_ok] at h
      obtain ⟨hstream, rfl⟩ := h
      exact .unopened t ht hstream
    | some s =>
      simp only [applyPublic, Checked.bind_eq_ok, check_eq_ok, Checked.exists_unit,
        Checked.pure_eq_ok, streamIdOf_eq_ok] at h
      obtain ⟨-, _, ⟨hrun, rfl⟩, ⟨hstream, hsequence⟩, hunchanged, hfinished, rfl⟩ := h
      exact .published t s ht hrun hstream hsequence hunchanged hfinished
  · intro h
    cases h with
    | unopened t' ht' hstream =>
      simp only [applyPublic, Checked.bind_eq_ok, check_eq_ok, Checked.exists_unit,
        Checked.pure_eq_ok, and_true]
      exact hstream
    | published t' s ht' hrun hstream hsequence hunchanged hfinished =>
      obtain rfl : t = t' := Option.some.inj (ht.symm.trans ht')
      have hbegins : "run:".toList.isPrefixOf e.streamId.toList := by
        rw [hstream, String.toList_append, List.isPrefixOf_iff_prefix]
        exact List.prefix_append _ _
      simp only [applyPublic, Checked.bind_eq_ok, check_eq_ok, Checked.exists_unit,
        Checked.pure_eq_ok, streamIdOf_eq_ok]
      exact ⟨hbegins, _, ⟨hrun, rfl⟩, ⟨hstream, hsequence⟩, hunchanged, hfinished, rfl⟩
    | opened _ _ _ _ _ type => simp [hexecution] at type
    | changed _ _ _ type => simp [hexecution] at type

theorem applyExecution_eq_ok {t : ExecutionEventType} {s : ExecutionRunState}
    (ht : executionEventType? e = some t) :
    applyExecution H t state e = .ok s ↔ Step H e state (some s) := by
  have hpublic := runEventType?_eq_none ht
  simp only [applyExecution, Checked.bind_eq_ok, check_eq_ok, Checked.exists_unit, text_eq_ok,
    streamIdOf_eq_ok]
  constructor
  · rintro ⟨hfields, runId, ⟨hrun, -⟩, _, ⟨hisRun, rfl⟩, hstream, h⟩
    split at h
    · rename_i hgoal
      subst hgoal
      simp only [goalAdmitted, Checked.bind_eq_ok, check_eq_ok, Checked.exists_unit, text_eq_ok,
        integer_eq_ok, digest_eq_ok, validEvent_eq_ok, Checked.ofOption_eq_ok,
        StrEnum.ofValue?_eq_some, Checked.pure_eq_ok] at h
      obtain ⟨rfl, goal, hgoal, _, ⟨hid, hne⟩, rfl, _, ⟨hdigest, -⟩, rfl, value, hvalue,
        classification, hclassification, _, ⟨hlocality, -⟩, locality, rfl, budget, hbudget, rfl⟩ := h
      obtain rfl := DataClassification.value_of_ofValue? hclassification
      exact .opened runId goal classification locality budget ht hfields hrun hisRun hstream hgoal
        hid hne hdigest hvalue hlocality hbudget
    · simp only [Checked.bind_eq_ok, check_eq_ok, Checked.exists_unit, Checked.ofOption_eq_ok,
        Checked.pure_eq_ok, applyBranch_eq_ok] at h
      obtain ⟨s₀, rfl, ⟨rfl, hsequence⟩, hactive, s', hchange, rfl⟩ := h
      exact .changed t s₀ s' ht hfields hrun hisRun hstream hsequence hactive hchange
  · intro h
    cases h with
    | opened runId goal classification locality budget type hfields hrun hisRun hstream hgoal hid
        hne hdigest hvalue hlocality hbudget =>
      obtain rfl : t = .goalAdmitted := Option.some.inj (ht.symm.trans type)
      refine ⟨hfields, runId, ⟨hrun, isRunId_ne_empty hisRun⟩, _, ⟨hisRun, rfl⟩, hstream, ?_⟩
      simp only [if_true, goalAdmitted, Checked.bind_eq_ok, check_eq_ok, Checked.exists_unit,
        text_eq_ok, integer_eq_ok, digest_eq_ok, validEvent_eq_ok, Checked.ofOption_eq_ok,
        StrEnum.ofValue?_eq_some, Checked.pure_eq_ok]
      exact ⟨trivial, goal, hgoal, _, ⟨hid, hne⟩, rfl, _, ⟨hdigest, isDigestText_jsonDigest H _⟩, rfl,
        _, hvalue, classification, by simp, _, ⟨hlocality, by cases locality <;> decide⟩, locality,
        rfl, budget, hbudget, rfl⟩
    | changed t' s₀ s' type hfields hrun hisRun hstream hsequence hactive hchange =>
      obtain rfl : t = t' := Option.some.inj (ht.symm.trans type)
      have hne : t ≠ .goalAdmitted := by
        rintro rfl
        cases hchange
      refine ⟨hfields, _, ⟨hrun, isRunId_ne_empty hisRun⟩, _, ⟨hisRun, rfl⟩, hstream, ?_⟩
      simp only [if_neg hne, Checked.bind_eq_ok, check_eq_ok, Checked.exists_unit,
        Checked.ofOption_eq_ok, Checked.pure_eq_ok, applyBranch_eq_ok]
      exact ⟨s₀, rfl, ⟨rfl, hsequence⟩, hactive, s', hchange, rfl⟩
    | published t' _ ht' => simp [hpublic] at ht'

/-- **The projection.** An event is accepted exactly when it is a step from the state before it. -/
theorem apply_eq_ok : apply H state e = .ok state' ↔ Step H e state state' := by
  unfold apply
  split
  · rename_i t ht
    exact applyPublic_eq_ok ht
  · rename_i hpublic
    split
    · rename_i t ht
      simp only [Checked.map_eq_ok, applyExecution_eq_ok ht]
      constructor
      · rintro ⟨s, h, rfl⟩
        exact h
      · intro h
        cases h with
        | opened runId goal classification locality budget h1 h2 h3 h4 h5 h6 h7 h8 h9 h10 h11 h12 =>
          exact ⟨_, .opened runId goal classification locality budget h1 h2 h3 h4 h5 h6 h7 h8 h9
            h10 h11 h12, rfl⟩
        | changed t s s' h1 h2 h3 h4 h5 h6 h7 h8 =>
          exact ⟨_, .changed t s s' h1 h2 h3 h4 h5 h6 h7 h8, rfl⟩
        | published t' _ ht' => simp [hpublic] at ht'
        | unopened t' ht' => simp [hpublic] at ht'
    · rename_i hexecution
      simp only [reduceCtorEq, false_iff]
      intro h
      cases h with
      | opened _ _ _ _ _ type => simp [hexecution] at type
      | changed _ _ _ type => simp [hexecution] at type
      | published t' _ ht' => simp [hpublic] at ht'
      | unopened t' ht' => simp [hpublic] at ht'

end Projection

end Blackcell.Orchestration.ExecutionRuntime
