import Blackcell.Orchestration.ExecutionRuntime.Attempt

/-!
# Executions that end

A call that executes a running run, from a state that earlier calls have left, ends the run, unless
it finds a task whose failed verification was recorded while the end of the run was not: such a task
is not attempted again, and nothing else is done with it.

## Main definitions

* `Gated` : the budget gate of a task that writes is closed.
* `Resumable` : the states from which an execution ends the run.

## Main results

* `meets_attemptTask_open`, `meets_runTasks_open` : the loops of an execution.
* `meets_executeBound_open` : an execution of a resumable state ends the run.
-/

namespace Blackcell.Orchestration.ExecutionRuntime

open Blackcell.Kernel Blackcell.Gateway Blackcell.Orchestration.ExecutionPlan

/-! ### Resumable states -/

/-- The budget gate of a task that writes is closed. -/
def Gated (request : PlanningRequest) (s : ExecutionRunState) : Prop :=
  providerUsageIncomplete s = true ∨
    providerBudgetExhausted (remainingBudget request.budget s) = true

/-- A task that is done, or that can be attempted. -/
def ExecutionTaskState.IsOpen (t : ExecutionTaskState) : Prop :=
  t.status = .pending ∨ t.status = .repairable ∨ t.status = .ready

/-- **The condition.** A blocked task says why, and a task whose attempt has failed for good is one
that writes, behind a closed budget gate. Where a task is blocked, or an attempt was active, the
rest of the tasks does not matter. -/
def Resumable (request : PlanningRequest) (plan : Plan) (s : ExecutionRunState) : Prop :=
  match s.tasks.find? fun t ↦ t.status = .blocked with
  | some t => t.blockedReason.isSome
  | none => (∃ t ∈ s.tasks, t.activeWorkspaceId.isSome) ∨
      ∀ task ∈ plan.tasks.1, ∀ t, s.find task.taskId = some t → t.status ≠ .succeeded →
        t.IsOpen ∨ task.isWriter ∧ Gated request s

section Gate

variable {request : PlanningRequest} {s s' : ExecutionRunState}

/-- A closed gate stays closed: usage only grows. -/
theorem Gated.addUsage {inputTokens outputTokens : Option Nat} {latencyMs : Nat}
    {costMicrousd : Option Nat} (h : Gated request s)
    (husage : s'.usage = (s.addUsage inputTokens outputTokens latencyMs costMicrousd).usage) :
    Gated request s' := by
  simp only [ExecutionRunState.usage, ExecutionRunState.addUsage, Usage.mk.injEq] at husage
  obtain ⟨h1, h2, h3, h4, h5, -, h7⟩ := husage
  rcases h with h | h
  · refine .inl ?_
    simp only [providerUsageIncomplete, Bool.or_eq_true, Bool.not_eq_true', h2, h4, h7,
      Bool.and_eq_false_iff] at h ⊢
    tauto
  · refine .inr ?_
    have hexhausted : ∀ {b : GatewayBudget}, providerBudgetExhausted b = true ↔
        (b.maxInputTokens = 0 ∨ b.maxOutputTokens = 0) ∨ b.maxLatencyMs = 0 := by
      simp [providerBudgetExhausted]
    rw [hexhausted] at h ⊢
    simp only [remainingBudget, h1, h3, h5] at h ⊢
    omega

end Gate

/-- Whether tasks that exist are done is always answered. -/
theorem ExecutionRunState.exists_succeeded {s : ExecutionRunState} {ds : List String}
    (h : ∀ d ∈ ds, (s.find d).isSome) : ∃ b, s.succeeded ds = .ok b := by
  induction ds with
  | nil => exact ⟨true, rfl⟩
  | cons d ds ih =>
    obtain ⟨t, ht⟩ := Option.isSome_iff_exists.mp (h d List.mem_cons_self)
    rw [succeeded, task_eq_ok.mpr ht, Checked.ok_bind]
    split
    · exact ih fun d' hd' ↦ h d' (List.mem_cons_of_mem d hd')
    · exact ⟨false, rfl⟩

/-! ### The loops of an execution -/

section Loops

variable {env : Environment} {caller : Nat} {runId : String} {C : operations.Op → World → Prop}
  {J : World → Prop} {plan : Plan} {w : World} {s : ExecutionRunState} {actor : String}
  {request : PlanningRequest} {task : TaskSpec} {t : ExecutionTaskState}

/-- The call returns with the run ended. -/
def EndsRun (env : Environment) (runId : String) (s : ExecutionRunState) (w : World) : Prop :=
  Open env.host runId w.ledger s ∧ isOutcome s.status = true

variable (h : Proceeds env caller runId C J plan) (hactor : isBlank actor = false)

include h hactor

/-- A task that cannot be attempted ends the run behind a closed gate. -/
theorem meets_attempt_gated (hJ : J w) (hopen : Open env.host runId w.ledger s)
    (hrunning : s.status = .running) (hfind : s.find task.taskId = some t)
    (hstatus : ¬t.IsOpen) (hwriter : task.isWriter = true) (hgated : Gated request s) :
    Prog.Meets (handle env caller) Quiet C J (attempt env.host runId request plan task actor)
      (fun r w' ↦ ∃ s', r = .ok (.returned s') ∧ EndsRun env runId s' w') w := by
  have hends : ∀ {status : RunLifecycleStatus} {reason : String} {w' : World}, J w' →
      Open env.host runId w'.ledger s → isOutcome status → reason ≠ "" → status ≠ .succeeded →
      Prog.Meets (handle env caller) Quiet C J (endRun env.host runId actor status reason)
        (fun r w' ↦ ∃ s', r = .ok (.returned s') ∧ EndsRun env runId s' w') w' := by
    intro status reason w' hJ' hopen' houtcome hreason hne
    refine (meets_endRun_open h hactor hJ' hopen' hrunning houtcome hreason hne).mono ?_
    rintro _ w'' - ⟨s', rfl, hopen'', rfl⟩
    exact ⟨s', rfl, hopen'', houtcome⟩
  simp only [ExecutionTaskState.IsOpen, not_or] at hstatus
  simp only [attempt, makeReady, Prog.bind_eq, Prog.liftM_eq, Prog.pure_eq]
  refine Prog.meets_bind.mpr ?_
  refine (meets_state h hJ hopen).bind ?_ (by simp)
  rintro _ w₁ - ⟨⟨⟩, hJ₁, -, hopen₁⟩
  refine Prog.Meets.ok_bind (ExecutionRunState.task_eq_ok.mpr hfind) ?_
  rw [if_neg (not_or.mpr ⟨hstatus.1, hstatus.2.1⟩)]
  refine Prog.meets_done.mpr ⟨hJ₁, ?_⟩
  refine (meets_attemptBase h hJ₁ hopen₁ hfind).bind ?_ (by simp)
  rintro base w₂ hJ₂ ⟨_, ⟨⟩, hopen₂, -⟩
  cases base with
  | none => exact hends hJ₂ hopen₂ rfl (by decide) (by decide)
  | some baseCommit =>
    refine (meets_state h hJ₂ hopen₂).bind ?_ (by simp)
    rintro _ w₃ - ⟨⟨⟩, hJ₃, -, hopen₃⟩
    rw [if_pos ⟨hwriter, hgated⟩]
    exact hends hJ₃ hopen₃ rfl (by decide) (by decide)

/-- What the attempts of a task leave: the run has ended, or the task is done, and the other tasks
are as they were. -/
def TaskDone (env : Environment) (runId : String) (request : PlanningRequest) (taskId : String)
    (s : ExecutionRunState) (r : Except Failure (Option ExecutionRunState)) (w : World) : Prop :=
  (∃ s', r = .ok (some s') ∧ EndsRun env runId s' w) ∨
    r = .ok none ∧ ∃ s' t', Open env.host runId w.ledger s' ∧ Aside taskId s s' ∧
      s'.find taskId = some t' ∧ t'.status = .succeeded ∧ (Gated request s → Gated request s')

/-- **The attempts of a task.** With a round for each attempt that is left, the task is done or the
run ends. -/
theorem meets_attemptTask_open {rounds : Nat} (hmem : task ∈ plan.tasks.1) (hJ : J w)
    (hopen : Open env.host runId w.ledger s) (hrunning : s.status = .running)
    (hfind : s.find task.taskId = some t) (hstatus : t.IsOpen)
    (hdone : ∀ d ∈ task.dependsOn, ∃ t', s.find d = some t' ∧ t'.status = .succeeded)
    (hrounds : t.maxAttempts ≤ t.attempts + rounds) (hattempts : t.attempts < t.maxAttempts) :
    Prog.Meets (handle env caller) Quiet C J
      (attemptTask env.host runId request plan task actor rounds)
      (TaskDone env runId request task.taskId s) w := by
  induction rounds generalizing w s t with
  | zero => omega
  | succ rounds ih =>
    have hid := (ExecutionRunState.mem_of_find hfind).2
    simp only [attemptTask, Prog.bind_eq, Prog.pure_eq]
    refine (meets_attempt_open h hactor hmem hJ hopen hrunning hfind hstatus hdone).bind ?_
      (by rintro _ _ _ ⟨⟩)
    rintro a w₁ hJ₁ houtcome
    cases houtcome with
    | ended s' _ opened ending =>
      exact Prog.meets_done.mpr ⟨hJ₁, .inl ⟨s', rfl, opened, ending.isOutcome.1⟩⟩
    | succeeded evidence s' t' _ opened startable answered taskId verified within =>
      have haside := verified.toAside
      have hfind' := verified.find
      rw [taskId, hid] at haside hfind'
      exact Prog.meets_done.mpr ⟨hJ₁, .inr ⟨rfl, s', t', opened, haside, hfind',
        verified.taskStatus, fun hgated ↦ hgated.addUsage verified.usage⟩⟩
    | repairable evidence s' t' _ opened startable answered refuted taskId attempts verified
      within =>
      have haside := verified.toAside
      have hfind' := verified.find
      rw [taskId, hid] at haside hfind'
      have hplanned := h.planned hJ hopen
      have hplanned' := h.planned hJ₁ opened
      have hmax := (hplanned.shape_eq hmem hfind).2.2.2
      have hmax' := (hplanned'.shape_eq hmem hfind').2.2.2
      have hleft := hplanned'.repairable t' (ExecutionRunState.mem_of_find hfind').1
        verified.taskStatus
      have hdone' : ∀ d ∈ task.dependsOn, ∃ t, s'.find d = some t ∧ t.status = .succeeded := by
        intro d hd
        rw [haside.others d]
        · exact hdone d hd
        · rintro rfl
          exact task.dependencies.2.1 hd
      refine (ih hJ₁ opened (haside.status.trans hrunning) hfind'
        (.inr (.inl verified.taskStatus)) hdone' (by omega) hleft).mono ?_
      rintro r w₂ - (⟨s'', hr, hends⟩ | ⟨hr, s'', t'', hopen'', haside'', hfind'', hdone'', hgated⟩)
      · exact .inl ⟨s'', hr, hends⟩
      · exact .inr ⟨hr, s'', t'', hopen'', haside.trans haside'', hfind'', hdone'',
          fun hg ↦ hgated (hg.addUsage verified.usage)⟩

/-- The tasks of the plan that are not done can be attempted, or end the run behind a closed gate. -/
def Attemptable (request : PlanningRequest) (plan : Plan) (s : ExecutionRunState) : Prop :=
  ∀ task ∈ plan.tasks.1, ∀ t, s.find task.taskId = some t → t.status ≠ .succeeded →
    t.IsOpen ∨ task.isWriter ∧ Gated request s

omit h hactor in
theorem Attemptable.of_aside {s' : ExecutionRunState} {t' : ExecutionTaskState} {taskId : String}
    (hs : Attemptable request plan s) (haside : Aside taskId s s')
    (hfind : s'.find taskId = some t') (hstatus : t'.status = .succeeded)
    (hgated : Gated request s → Gated request s') : Attemptable request plan s' := by
  intro task hmem t ht hne
  by_cases hid : task.taskId = taskId
  · rw [hid, hfind, Option.some.injEq] at ht
    exact absurd (ht ▸ hstatus) hne
  · rw [haside.others _ hid] at ht
    exact (hs task hmem t ht hne).imp_right fun hw ↦ ⟨hw.1, hgated hw.2⟩

/-- What the tasks of an order leave: the run has ended, or they are all done, and so are the tasks
that were done before. -/
def TasksDone (env : Environment) (runId : String) (order : List String) (s : ExecutionRunState)
    (r : Except Failure (Option ExecutionRunState)) (w : World) : Prop :=
  (∃ s', r = .ok (some s') ∧ EndsRun env runId s' w) ∨
    r = .ok none ∧ ∃ s', Open env.host runId w.ledger s' ∧ s'.status = .running ∧
      (∀ id ∈ order, ∃ t, s'.find id = some t ∧ t.status = .succeeded) ∧
      ∀ id t, s.find id = some t → t.status = .succeeded → s'.find id = some t

/-- **The tasks of an order.** From a state whose tasks can be attempted, they are all done or the
run ends. -/
theorem meets_runTasks_open {rounds : Nat} (hrounds : 3 ≤ rounds) {order : List String}
    (horder : ∀ id ∈ order, ∃ task ∈ plan.tasks.1, task.taskId = id) (hJ : J w)
    (hopen : Open env.host runId w.ledger s) (hrunning : s.status = .running)
    (hattemptable : Attemptable request plan s) :
    Prog.Meets (handle env caller) Quiet C J
      (runTasks env.host runId request plan actor rounds order)
      (TasksDone env runId order s) w := by
  induction order generalizing w s with
  | nil =>
    exact Prog.meets_done.mpr ⟨hJ, .inr ⟨rfl, s, hopen, hrunning, by simp, fun _ _ hfind _ ↦ hfind⟩⟩
  | cons taskId order ih =>
    obtain ⟨task, hmem, rfl⟩ := horder taskId List.mem_cons_self
    have horder' := fun id hid ↦ horder id (List.mem_cons_of_mem _ hid)
    have hplanned := h.planned hJ hopen
    obtain ⟨t, hfind, hshape⟩ := hplanned.exists_find hmem
    have hsound := (runSound_of_project hopen.state).tasks t (ExecutionRunState.mem_of_find hfind).1
    obtain ⟨hid, hdependsOn, -, hmax⟩ := hplanned.shape_eq hmem hfind
    simp only [runTasks, Prog.bind_eq, Prog.liftM_eq, Prog.pure_eq]
    refine Prog.Meets.ok_bind (Checked.ofOption_eq_ok.mpr (Plan.byId_eq_some hmem)) ?_
    refine (meets_state h hJ hopen).bind ?_ (by simp)
    rintro _ w₁ - ⟨⟨⟩, hJ₁, -, hopen₁⟩
    refine Prog.Meets.ok_bind (ExecutionRunState.task_eq_ok.mpr hfind) ?_
    split
    · -- The task is done already.
      rename_i hsucceeded
      refine (ih horder' hJ₁ hopen₁ hrunning hattemptable).mono ?_
      rintro r w₂ - (hends | ⟨hr, s', hopen', hrunning', hall, hkept⟩)
      · exact .inl hends
      · refine .inr ⟨hr, s', hopen', hrunning', List.forall_mem_cons.mpr ⟨?_, hall⟩, hkept⟩
        exact ⟨t, hkept _ t hfind hsucceeded, hsucceeded⟩
    rename_i hunfinished
    have hknown : ∀ d ∈ task.dependsOn, (s.find d).isSome := by
      intro d hd
      rw [← hdependsOn] at hd
      obtain ⟨t', ht', hd'⟩ := List.mem_map.mp (hsound.dependencies.2 d hd)
      rw [← hd', ExecutionRunState.find_of_mem (runSound_of_project hopen.state).nodup ht']
      rfl
    obtain ⟨satisfied, hsatisfied⟩ := ExecutionRunState.exists_succeeded hknown
    refine Prog.Meets.ok_bind hsatisfied ?_
    split
    · rename_i htrue
      rw [htrue] at hsatisfied
      have hdone := ExecutionRunState.succeeded_eq_true.mp hsatisfied
      -- The attempts of the task, then the rest of the order.
      have htask : Prog.Meets (handle env caller) Quiet C J
          (attemptTask env.host runId request plan task actor rounds)
          (TaskDone env runId request task.taskId s) w₁ := by
        by_cases hisOpen : t.IsOpen
        · refine meets_attemptTask_open h hactor hmem hJ₁ hopen₁ hrunning hfind hisOpen hdone ?_ ?_
          · have := task.attempts
            omega
          · rcases hisOpen with hpending | hrepairable | hready
            · have := hsound.waiting hpending
              have := task.attempts
              omega
            · exact hplanned.repairable t (ExecutionRunState.mem_of_find hfind).1 hrepairable
            · exact hsound.ready hready
        · obtain ⟨hwriter, hgated⟩ := (hattemptable task hmem t hfind hunfinished).resolve_left hisOpen
          obtain ⟨rounds, rfl⟩ := Nat.exists_eq_add_of_le' (Nat.le_trans (by decide : 1 ≤ 3) hrounds)
          simp only [attemptTask, Prog.bind_eq, Prog.pure_eq]
          refine (meets_attempt_gated h hactor hJ₁ hopen₁ hrunning hfind hisOpen hwriter
            hgated).bind ?_ (by simp)
          rintro _ w₂ hJ₂ ⟨s', ⟨⟩, hends⟩
          exact Prog.meets_done.mpr ⟨hJ₂, .inl ⟨s', rfl, hends⟩⟩
      refine htask.bind ?_ (by rintro _ _ _ (⟨_, ⟨⟩, _⟩ | ⟨⟨⟩, _⟩))
      rintro r w₂ hJ₂ (⟨s', ⟨⟩, hends⟩ | ⟨⟨⟩, s', t', hopen', haside, hfind', hstatus', hgated⟩)
      · exact Prog.meets_done.mpr ⟨hJ₂, .inl ⟨s', rfl, hends⟩⟩
      · refine (ih horder' hJ₂ hopen' (haside.status.trans hrunning)
          (hattemptable.of_aside haside hfind' hstatus' hgated)).mono ?_
        rintro r w₃ - (hends | ⟨hr, s'', hopen'', hrunning'', hall, hkept⟩)
        · exact .inl hends
        · refine .inr ⟨hr, s'', hopen'', hrunning'', List.forall_mem_cons.mpr ⟨?_, hall⟩, ?_⟩
          · exact ⟨t', hkept _ t' hfind' hstatus', hstatus'⟩
          · intro id x hx hxs
            refine hkept id x ?_ hxs
            by_cases hidx : id = task.taskId
            · rw [hidx, hfind] at hx
              exact absurd (Option.some.inj hx ▸ hxs) hunfinished
            · rw [haside.others id hidx]
              exact hx
    · refine (meets_terminate h hJ₁ hopen₁ hrunning hactor ?_ ?_ ?_).bind ?_ (by simp)
      · rfl
      · decide
      · rintro ⟨⟩
      rintro s' w₂ hJ₂ ⟨_, ⟨⟩, hopen', hstatus'⟩
      exact Prog.meets_done.mpr ⟨hJ₂, .inl ⟨s', rfl, hopen', by rw [hstatus']; rfl⟩⟩

omit h hactor in
/-- When the tasks of a plan are done, all tasks of the state are. -/
theorem allSucceeded_of_done (hplanned : Planned plan s)
    (hall : ∀ id ∈ plan.topologicalOrder, ∃ t, s.find id = some t ∧ t.status = .succeeded) :
    s.allSucceeded = true := by
  have hids := hplanned.map_taskId
  have hnodup : (s.tasks.map (·.taskId)).Nodup := by
    rw [hids]
    exact plan.tasks.2.2.1
  simp only [ExecutionRunState.allSucceeded, Bool.and_eq_true, decide_eq_true_eq, List.all_eq_true]
  refine ⟨fun hnil ↦ ?_, fun t ht ↦ ?_⟩
  · have hlength := congrArg List.length hids
    have := plan.tasks.2.2.2.1
    rw [hnil] at hlength
    simp only [List.length_map, List.length_nil] at hlength
    omega
  · have hid : t.taskId ∈ plan.topologicalOrder := by
      rw [plan.topologicalOrder_perm.mem_iff, ← hids]
      exact List.mem_map_of_mem ht
    obtain ⟨t', ht', hdone⟩ := hall _ hid
    rw [ExecutionRunState.find_of_mem hnodup ht] at ht'
    rw [Option.some.inj ht']
    exact hdone

/-- **Executions that end.** An execution of a resumable state returns with the run ended. -/
theorem meets_executeBound_open {rounds : Nat} (hrounds : 3 ≤ rounds) (hJ : J w)
    (hopen : Open env.host runId w.ledger s) (hstatus : s.status = .running ∨ isOutcome s.status)
    (hresumable : s.status = .running → Resumable request plan s) :
    Prog.Meets (handle env caller) Quiet C J
      (executeBound env.host runId request plan actor s rounds)
      (fun r w' ↦ ∃ s', r = .ok s' ∧ EndsRun env runId s' w') w := by
  have hsound := runSound_of_project hopen.state
  simp only [executeBound, Prog.bind_eq, Prog.pure_eq, Prog.throw_eq]
  by_cases houtcome : isOutcome s.status = true
  · rw [if_pos houtcome]
    exact Prog.meets_done.mpr ⟨hJ, s, rfl, hopen, houtcome⟩
  rw [if_neg houtcome]
  have hrunning := hstatus.resolve_right houtcome
  have hends : ∀ {status : RunLifecycleStatus} {reason : String} {s' : ExecutionRunState}
      {w' : World}, J w' → Open env.host runId w'.ledger s' → s'.status = .running →
      isOutcome status → reason ≠ "" → (status = .succeeded → s'.allSucceeded) →
      Prog.Meets (handle env caller) Quiet C J (terminate env.host runId status actor reason)
        (fun r w' ↦ ∃ s', r = .ok s' ∧ EndsRun env runId s' w') w' := by
    intro status reason s' w' hJ' hopen' hrunning' hout hreason hfinished
    refine (meets_terminate h hJ' hopen' hrunning' hactor hout hreason hfinished).mono ?_
    rintro r w'' - ⟨s'', hr, hopen'', rfl⟩
    exact ⟨s'', hr, hopen'', hout⟩
  have hres := hresumable hrunning
  unfold Resumable at hres
  split
  · rename_i t hblocked
    rw [hblocked] at hres
    obtain ⟨reason, hreason⟩ := Option.isSome_iff_exists.mp hres
    have hsoundTask := hsound.tasks t (List.mem_of_find?_eq_some hblocked)
    rw [hreason]
    refine hends hJ hopen hrunning rfl ?_ (by rintro ⟨⟩)
    rintro rfl
    exact hsoundTask.reason hreason
  · rename_i hblocked
    rw [hblocked] at hres
    by_cases hactive : ∃ t ∈ s.tasks, t.activeWorkspaceId.isSome
    · rw [if_pos (List.any_eq_true.mpr hactive)]
      exact hends hJ hopen hrunning rfl (by decide) (by rintro ⟨⟩)
    · rw [if_neg (by rwa [List.any_eq_true])]
      have hattemptable : Attemptable request plan s := hres.resolve_left hactive
      refine (meets_runTasks_open h hactor hrounds (fun id hid ↦ ?_) hJ hopen hrunning
        hattemptable).bind ?_ (by rintro _ _ _ (⟨_, ⟨⟩, _⟩ | ⟨⟨⟩, _⟩))
      · rw [plan.topologicalOrder_perm.mem_iff] at hid
        exact List.mem_map.mp hid
      rintro r w₁ hJ₁ (⟨s', ⟨⟩, hended⟩ | ⟨⟨⟩, s', hopen', hrunning', hall, -⟩)
      · exact Prog.meets_done.mpr ⟨hJ₁, s', rfl, hended⟩
      · exact hends hJ₁ hopen' hrunning' rfl (by decide) fun _ ↦
          allSucceeded_of_done (h.planned hJ₁ hopen') hall

end Loops

end Blackcell.Orchestration.ExecutionRuntime
