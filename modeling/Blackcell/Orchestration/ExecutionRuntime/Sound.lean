import Blackcell.Orchestration.ExecutionRuntime.Phase

/-!
# Sound states

What the projection guarantees of the tasks of a run, for every stream that it accepts: the status
of a task agrees with its attempts, its workspace and the decision that waits for its start.

## Main definitions

* `TaskSound`, `RunSound` : the invariants of a task and of a run.

## Main results

* `runSound_of_project` : the state of an accepted stream is sound.
-/

namespace Blackcell.Orchestration.ExecutionRuntime

open Blackcell.Kernel Blackcell.Gateway Blackcell.Orchestration.ExecutionPlan

/-! ### Sound tasks -/

/-- The decision on the next attempt of a task: there is none, or the task is ready and a decision
on its action waits. -/
inductive PolicySound (H : Host) (s : ExecutionRunState) (t : ExecutionTaskState) : Prop where
  | undecided (id : t.pendingPolicyDecisionId = none) (digest : t.pendingPolicyActionDigest = none)
      (allowed : t.pendingPolicyAllowed = none) (reason : t.pendingPolicyReason = none)
  | decided (planId : String) (action : ToolActionRequest) (decision : PolicyDecision)
      (status : t.status = .ready) (plan : s.planId = some planId)
      (actionEq : ToolActionRequest.create s.runId planId t.taskId (t.attempts + 1)
        t.allowedPaths = .ok action)
      (bound : decision.actionDigest = action.digest H) (nonempty : decision.reason ≠ "")
      (id : t.pendingPolicyDecisionId = some (decision.decisionId H))
      (digest : t.pendingPolicyActionDigest = some decision.actionDigest)
      (allowed : t.pendingPolicyAllowed = some decision.allowed)
      (reason : t.pendingPolicyReason = some decision.reason)

/-- **Sound tasks.** -/
structure TaskSound (H : Host) (s : ExecutionRunState) (t : ExecutionTaskState) : Prop where
  identifier : isPlanIdentifier t.taskId
  waiting : t.status = .pending → t.attempts = 0
  ready : t.status = .ready → t.attempts < t.maxAttempts
  started : t.status = .running ∨ t.status = .verifying →
    1 ≤ t.attempts ∧ t.attempts ≤ t.maxAttempts ∧ t.activeWorkspaceId.isSome
  idle : t.activeWorkspaceId.isSome → t.status = .running ∨ t.status = .verifying
  policy : PolicySound H s t
  reason : t.blockedReason ≠ some ""
  succeeded : t.status = .succeeded → t.headCommit.isSome
  head : ∀ c ∈ t.headCommit, isCommit c
  live : s.status = .running → t.status ≠ .canceled
  dependencies : t.taskId ∉ t.dependsOn ∧ ∀ d ∈ t.dependsOn, d ∈ s.tasks.map (·.taskId)

/-- **Sound runs.** -/
structure RunSound (H : Host) (s : ExecutionRunState) : Prop where
  nodup : (s.tasks.map (·.taskId)).Nodup
  tasks : ∀ t ∈ s.tasks, TaskSound H s t
  base : isCommit s.goalBaseCommit
  plan : ∀ planId ∈ s.planId, isPlanIdentifier planId

section Sound

variable {H : Host} {s s' : ExecutionRunState} {t t' : ExecutionTaskState}

theorem isPlanIdentifier_ne_empty {x : String} (h : isPlanIdentifier x) : x ≠ "" := by
  rintro rfl
  revert h
  decide

/-- A task that is not ready has no decision. -/
theorem PolicySound.undecided_of_ne (h : PolicySound H s t) (hstatus : t.status ≠ .ready) :
    t.pendingPolicyDecisionId = none ∧ t.pendingPolicyActionDigest = none ∧
      t.pendingPolicyAllowed = none ∧ t.pendingPolicyReason = none := by
  cases h with
  | undecided id digest allowed reason => exact ⟨id, digest, allowed, reason⟩
  | decided planId action decision status => exact absurd status hstatus

/-- A task that an event leaves alone stays sound. -/
theorem TaskSound.of_eq (h : TaskSound H s t) (hrun : s'.runId = s.runId)
    (hplan : s'.planId = s.planId) (hstatus : s'.status = .running → s.status = .running)
    (htasks : s'.tasks.map (·.taskId) = s.tasks.map (·.taskId)) : TaskSound H s' t := by
  have hpolicy : PolicySound H s' t := by
    cases h.policy with
    | undecided id digest allowed reason => exact .undecided id digest allowed reason
    | decided planId action decision status plan actionEq bound nonempty id digest allowed reason =>
      rw [← hplan] at plan
      rw [← hrun] at actionEq
      exact .decided planId action decision status plan actionEq bound nonempty id digest allowed
        reason
  refine { h with policy := hpolicy, live := fun hs ↦ h.live (hstatus hs), dependencies := ?_ }
  rw [htasks]
  exact h.dependencies

/-- An event that replaces one task by a sound one keeps a run sound. -/
theorem RunSound.replaceTask (h : RunSound H s) (htasks : s'.tasks = (s.replaceTask t').tasks)
    (hfind : s.find t.taskId = some t) (hruns : s'.runId = s.runId) (hplan : s'.planId = s.planId)
    (hbase : s'.goalBaseCommit = s.goalBaseCommit)
    (hstatus : s'.status = .running → s.status = .running)
    (htask : TaskSound H s t → TaskSound H s t') : RunSound H s' := by
  have hids : s'.tasks.map (·.taskId) = s.tasks.map (·.taskId) := by
    rw [htasks, ExecutionRunState.map_taskId_replaceTask]
  refine ⟨by rw [hids]; exact h.nodup, fun x hx ↦ ?_, by rw [hbase]; exact h.base,
    by rw [hplan]; exact h.plan⟩
  rw [htasks] at hx
  rcases ExecutionRunState.mem_replaceTask hx with rfl | ⟨hx, -⟩
  · exact (htask (h.tasks t (ExecutionRunState.mem_of_find hfind).1)).of_eq hruns hplan hstatus hids
  · exact (h.tasks x hx).of_eq hruns hplan hstatus hids

/-- The tasks of a plan that was just admitted are sound. -/
theorem taskSound_initial {plan : Plan} {task : TaskSpec} (hmem : task ∈ plan.tasks.1)
    (htasks : s.tasks = plan.tasks.1.map ExecutionTaskState.initial) :
    TaskSound H s (ExecutionTaskState.initial task) := by
  have hids : s.tasks.map (·.taskId) = plan.tasks.1.map (·.taskId) := by
    rw [htasks, List.map_map]
    rfl
  refine ⟨task.identifier, fun _ ↦ rfl, nofun, nofun, nofun, .undecided rfl rfl rfl rfl, nofun,
    nofun, nofun, nofun, ⟨task.dependencies.2.1, fun d hd ↦ ?_⟩⟩
  rw [hids]
  exact plan.tasks.2.2.2.2.2.1 task hmem d hd

/-- A change keeps a run sound. -/
theorem Change.sound {eventId : String} {payload : Mapping} {type : ExecutionEventType}
    (h : Change H eventId payload s type s') (hs : RunSound H s) : RunSound H s' := by
  cases h with
  | replanStarted =>
    exact ⟨hs.nodup, fun t ht ↦ (hs.tasks t ht).of_eq rfl rfl (by rintro ⟨⟩) rfl, hs.base, hs.plan⟩
  | planDraftReceived =>
    exact ⟨hs.nodup, fun t ht ↦ (hs.tasks t ht).of_eq rfl rfl id rfl, hs.base, hs.plan⟩
  | runTerminated status reason statusGet outcome =>
    refine ⟨hs.nodup, fun t ht ↦ (hs.tasks t ht).of_eq rfl rfl ?_ rfl, hs.base, hs.plan⟩
    rintro rfl
    simp [isOutcome] at outcome
  | planAdmitted plan =>
    refine ⟨?_, fun t ht ↦ ?_, hs.base, ?_⟩
    · simpa [List.map_map, Function.comp_def, ExecutionTaskState.initial] using plan.tasks.2.2.1
    · obtain ⟨task, hmem, rfl⟩ := List.mem_map.mp ht
      exact taskSound_initial hmem rfl
    · rintro _ ⟨⟩
      exact plan.valid.1.1
  | policyDecided task planId action decision names status pending plan actionEq allowedGet reasonGet
    reason actionGet actionDigest =>
    refine hs.replaceTask rfl names.find rfl rfl rfl id fun h ↦ { h with
      policy := .decided planId action decision status plan actionEq actionDigest reason rfl rfl rfl
        rfl }
  | taskReady task names running status bound pending =>
    have hne : task.status ≠ .ready := by
      rcases status with status | status <;> simp [status]
    refine hs.replaceTask rfl names.find rfl rfl rfl id fun h ↦ ?_
    obtain ⟨h1, h2, h3, h4⟩ := h.policy.undecided_of_ne hne
    exact { h with
      waiting := by rintro ⟨⟩
      ready := fun _ ↦ Nat.lt_of_succ_le bound
      started := by simp
      idle := fun ha ↦ by
        rcases h.idle ha with hr | hr <;> rcases status with status | status <;> simp [status] at hr
      policy := .undecided h1 h2 h3 h4
      succeeded := by rintro ⟨⟩
      live := fun _ ↦ by simp }
  | taskStarted task planId baseCommit decisionId actionDigest names status =>
    refine hs.replaceTask rfl names.find rfl rfl rfl id fun h ↦ { h with
      waiting := by rintro ⟨⟩
      ready := by rintro ⟨⟩
      started := fun _ ↦ ⟨Nat.succ_le_succ (Nat.zero_le _), h.ready status, rfl⟩
      idle := fun _ ↦ .inl rfl
      policy := .undecided rfl rfl rfl rfl
      succeeded := by rintro ⟨⟩
      live := fun _ ↦ by simp }
  | taskVerifying task workspace names status =>
    have hne : task.status ≠ .ready := by simp [status]
    refine hs.replaceTask rfl names.find rfl rfl rfl id fun h ↦ ?_
    obtain ⟨h1, h2, h3, h4⟩ := h.policy.undecided_of_ne hne
    exact { h with
      waiting := by rintro ⟨⟩
      ready := by rintro ⟨⟩
      started := fun _ ↦ h.started (.inl status)
      idle := fun _ ↦ .inr rfl
      policy := .undecided h1 h2 h3 h4
      succeeded := by rintro ⟨⟩
      live := fun _ ↦ by simp }
  | taskVerified task workspace route evidence names status =>
    have hne : task.status ≠ .ready := by simp [status]
    refine hs.replaceTask rfl names.find rfl rfl rfl id fun h ↦ ?_
    obtain ⟨h1, h2, h3, h4⟩ := h.policy.undecided_of_ne hne
    exact { h with
      waiting := by cases route <;> simp [ExecutionTaskState.verified, AttemptRoute.taskStatus]
      ready := by cases route <;> simp [ExecutionTaskState.verified, AttemptRoute.taskStatus]
      started := by cases route <;> simp [ExecutionTaskState.verified, AttemptRoute.taskStatus]
      idle := by rintro ⟨⟩
      policy := .undecided h1 h2 h3 h4
      succeeded := fun _ ↦ rfl
      head := by
        rintro _ ⟨⟩
        exact evidence.isCommit
      live := by cases route <;> simp [ExecutionTaskState.verified, AttemptRoute.taskStatus] }
  | taskBlocked task reason names reasonGet nonempty status =>
    refine hs.replaceTask rfl names.find rfl rfl rfl id fun h ↦ { h with
      waiting := by rintro ⟨⟩
      ready := by rintro ⟨⟩
      started := by simp
      idle := fun ha ↦ by rcases h.idle ha with hr | hr <;> simp [status] at hr
      policy := .undecided rfl rfl rfl rfl
      reason := by simpa using nonempty
      succeeded := by rintro ⟨⟩
      live := fun _ ↦ by simp }

/-- A public event that ends the tasks of a run also ends the run. -/
theorem TaskSound.endWith {status : TaskLifecycleStatus} (h : TaskSound H s t)
    (hstatus : status = .canceled ∨ status = .terminalFailure ∨ status = .escalated)
    (hrun : s'.runId = s.runId) (hplan : s'.planId = s.planId) (hended : s'.status ≠ .running)
    (htasks : s'.tasks.map (·.taskId) = s.tasks.map (·.taskId)) :
    TaskSound H s' (t.endWith status) := by
  unfold ExecutionTaskState.endWith
  split
  · exact h.of_eq hrun hplan (fun hs ↦ absurd hs hended) htasks
  · have hdependencies := h.dependencies
    rw [← htasks] at hdependencies
    exact { h with
      waiting := by rcases hstatus with rfl | rfl | rfl <;> nofun
      ready := by rcases hstatus with rfl | rfl | rfl <;> nofun
      started := by rcases hstatus with rfl | rfl | rfl <;> simp
      idle := nofun
      policy := .undecided rfl rfl rfl rfl
      succeeded := by rcases hstatus with rfl | rfl | rfl <;> nofun
      live := fun hs ↦ absurd hs hended
      dependencies := hdependencies }

theorem map_taskId_endTasks (ended : Option TaskLifecycleStatus) (tasks : List ExecutionTaskState) :
    (endTasks ended tasks).map (·.taskId) = tasks.map (·.taskId) := by
  cases ended with
  | none => rfl
  | some status =>
    simp only [endTasks, List.map_map]
    refine List.map_congr_left fun t _ ↦ ?_
    simp only [Function.comp, ExecutionTaskState.endWith]
    split <;> rfl

/-- A public event keeps a run sound. -/
theorem RunSound.afterPublic (hs : RunSound H s) (type : RunLifecycle.RunEventType)
    (e : EventEnvelope) : RunSound H (s.afterPublic type e) := by
  have hids := map_taskId_endTasks (publicStatus type s.status).2 s.tasks
  refine ⟨by rw [ExecutionRunState.afterPublic, hids]; exact hs.nodup, fun t ht ↦ ?_, hs.base,
    hs.plan⟩
  by_cases hended : (publicStatus type s.status).2 = none
  · have hsame : publicStatus type s.status = (s.status, none) ∨
        publicStatus type s.status = (.succeeded, none) := by
      cases type <;> simp_all [publicStatus]
    have htasks : (s.afterPublic type e).tasks = s.tasks := by
      rw [ExecutionRunState.afterPublic, hended]
      rfl
    rw [htasks] at ht
    refine (hs.tasks t ht).of_eq rfl rfl (fun hrunning ↦ ?_) hids
    rcases hsame with hsame | hsame
    · simpa [ExecutionRunState.afterPublic, hsame] using hrunning
    · simp [ExecutionRunState.afterPublic, hsame] at hrunning
  · obtain ⟨status, hstatus⟩ := Option.ne_none_iff_exists'.mp hended
    simp only [ExecutionRunState.afterPublic, hstatus, endTasks, List.mem_map] at ht
    obtain ⟨x, hx, rfl⟩ := ht
    refine (hs.tasks x hx).endWith ?_ rfl rfl ?_ hids
    · cases type <;> simp_all [publicStatus]
    · cases type <;> simp_all [publicStatus, ExecutionRunState.afterPublic]

/-- An accepted event keeps a state sound. -/
theorem Step.sound {e : EventEnvelope} {state state' : Option ExecutionRunState}
    (h : Step H e state state') (hstate : ∀ s ∈ state, RunSound H s) :
    ∀ s ∈ state', RunSound H s := by
  rintro s rfl
  cases h with
  | published t s₀ => exact (hstate s₀ rfl).afterPublic t e
  | opened runId goal => exact ⟨.nil, by simp [ExecutionRunState.opened], goal.isCommit, by
      simp [ExecutionRunState.opened]⟩
  | changed t s₀ s₁ type fields run isRun stream sequence active change =>
    have hsound := change.sound (hstate s₀ rfl)
    exact ⟨hsound.nodup, fun t ht ↦ (hsound.tasks t ht).of_eq rfl rfl id rfl, hsound.base,
      hsound.plan⟩

/-- **Sound states.** The state of an accepted stream is sound. -/
theorem runSound_of_project {E : List EventEnvelope} (h : project H E = .ok (some s)) :
    RunSound H s := by
  refine History.invariant (fun _ state ↦ ∀ s ∈ state, RunSound H s) (by simp) ?_ h s rfl
  exact fun _ _ _ _ hbefore hstep ↦ (apply_eq_ok.mp hstep).sound hbefore

/-- The base of an attempt is a commit. -/
theorem isCommit_expectedBaseCommit {base : String} (hsound : RunSound H s)
    (h : s.expectedBaseCommit t = .ok base) : isCommit base := by
  obtain ⟨hnil, hdependsOn⟩ := ExecutionRunState.expectedBaseCommit_eq_ok.mp h
  rcases List.eq_nil_or_concat t.dependsOn with hempty | ⟨rest, d, hlast⟩
  · rw [hnil hempty]
    exact hsound.base
  · obtain ⟨t', hfind, hhead⟩ := hdependsOn d (by simp [hlast])
    exact (hsound.tasks t' (ExecutionRunState.mem_of_find hfind).1).head base hhead

end Sound

end Blackcell.Orchestration.ExecutionRuntime
