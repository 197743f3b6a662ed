import Blackcell.Orchestration.ExecutionRuntime.Recovery

/-!
# Executions whose attempts pass

An execution of a plan that was just admitted, with an executor whose attempts pass and report all
their usage, and with a budget that all of them keep to. It ends with success exactly when each task
is reached with a single base, and each task that writes while something is left of the budget.

## Main definitions

* `Spending` : what a run has spent.
* `CanStart` : when a task can be attempted after others have passed.
* `Executable` : every task of a plan can be attempted in its turn.
* `Progress` : a state in which some tasks have passed.

## Main results

* `meets_runTasks_passing` : the tasks of a plan pass one after the other.
* `Runs.execute_passing` : the execution succeeds exactly when the plan is executable.
-/

namespace Blackcell.Orchestration.ExecutionRuntime

open Blackcell.Kernel Blackcell.Gateway Blackcell.Orchestration.ExecutionPlan

/-! ### Spending -/

/-- What a run has spent. -/
@[ext]
structure Spending where
  inputTokens : Nat
  outputTokens : Nat
  latencyMs : Nat
  costMicrousd : Nat

/-- What a run has spent, as far as it was reported. -/
def ExecutionRunState.spending (s : ExecutionRunState) : Spending :=
  ⟨s.inputTokens, s.outputTokens, s.latencyMs, s.costMicrousd⟩

namespace Spending

/-- What is spent after an attempt. -/
def after (x : Spending) (evidence : AttemptEvidence) : Spending where
  inputTokens := x.inputTokens + evidence.inputTokens.getD 0
  outputTokens := x.outputTokens + evidence.outputTokens.getD 0
  latencyMs := x.latencyMs + evidence.latencyMs
  costMicrousd := x.costMicrousd + evidence.costMicrousd.getD 0

/-- What is spent after the attempts of some tasks. -/
def afterAll (x : Spending) (answers : String → AttemptEvidence) (ids : List String) : Spending :=
  ids.foldl (fun x id ↦ x.after (answers id)) x

/-- A budget is not exceeded. -/
def Within (x : Spending) (budget : GatewayBudget) : Prop :=
  x.inputTokens ≤ budget.maxInputTokens ∧ x.outputTokens ≤ budget.maxOutputTokens ∧
    x.latencyMs ≤ budget.maxLatencyMs ∧ x.costMicrousd ≤ budget.maxCostMicrousd

instance (x : Spending) (budget : GatewayBudget) : Decidable (x.Within budget) :=
  inferInstanceAs (Decidable (_ ∧ _ ∧ _ ∧ _))

/-- Something is left of the tokens and of the time of a budget. -/
def Leaves (x : Spending) (budget : GatewayBudget) : Prop :=
  x.inputTokens < budget.maxInputTokens ∧ x.outputTokens < budget.maxOutputTokens ∧
    x.latencyMs < budget.maxLatencyMs

variable {x : Spending} {answers : String → AttemptEvidence} {budget : GatewayBudget}

theorem Within.of_after {evidence : AttemptEvidence} (h : (x.after evidence).Within budget) :
    x.Within budget := by
  simp only [Within, after] at h ⊢
  omega

/-- What keeps to a budget in the end has kept to it before. -/
theorem Within.of_afterAll {ids : List String} (h : (x.afterAll answers ids).Within budget) :
    x.Within budget := by
  induction ids generalizing x with
  | nil => exact h
  | cons id ids ih => exact (ih h).of_after

theorem afterAll_append (x : Spending) (answers : String → AttemptEvidence)
    (ids ids' : List String) :
    x.afterAll answers (ids ++ ids') = (x.afterAll answers ids).afterAll answers ids' :=
  List.foldl_append

theorem afterAll_concat (x : Spending) (answers : String → AttemptEvidence) (ids : List String)
    (id : String) : x.afterAll answers (ids ++ [id]) = (x.afterAll answers ids).after (answers id) :=
  afterAll_append x answers ids [id]

end Spending

section Spending

variable {s s' : ExecutionRunState}

/-- The counted usage determines what was spent. -/
theorem spending_of_usage {evidence : AttemptEvidence}
    (h : s'.usage = (s.addUsage evidence.inputTokens evidence.outputTokens evidence.latencyMs
      evidence.costMicrousd).usage) : s'.spending = s.spending.after evidence := by
  simp only [ExecutionRunState.usage, ExecutionRunState.addUsage, Usage.mk.injEq] at h
  simp [ExecutionRunState.spending, Spending.after, h]

/-- The budget gate is open while something is left of the budget. -/
theorem providerBudgetExhausted_eq_false {budget : GatewayBudget} :
    providerBudgetExhausted (remainingBudget budget s) = false ↔ s.spending.Leaves budget := by
  simp only [providerBudgetExhausted, remainingBudget, Bool.or_eq_false_iff, Nat.sub_eq_zero_iff_le,
    decide_eq_false_iff_not, not_le, Spending.Leaves, ExecutionRunState.spending, and_assoc]

theorem budgetOverdrawn_eq_false {budget : GatewayBudget} :
    budgetOverdrawn budget s = false ↔ s.spending.Within budget := by
  simp only [budgetOverdrawn, Bool.or_eq_false_iff, decide_eq_false_iff_not, Spending.Within,
    ExecutionRunState.spending, not_lt, and_assoc]

end Spending

/-! ### Attempts that pass -/

/-- The attempt of a task passes, and reports all its usage. -/
structure Passes (evidence : AttemptEvidence) : Prop where
  clean : evidence.workspaceClean = true
  passed : evidence.passed = true
  inputTokens : evidence.inputTokens.isSome = true
  outputTokens : evidence.outputTokens.isSome = true
  costMicrousd : evidence.costMicrousd.isSome = true

/-- The executor answers an attempt with the evidence of its task. -/
def Answers (env : Environment) (answers : String → AttemptEvidence) (o : operations.Op)
    (w : World) : Prop :=
  ∀ asked, o = .execute asked →
    env.executor w.calls.length asked = .evidence (answers asked.task.taskId)

/-- A task can be attempted after others have passed: the tasks that it depends on have ended with
one head, and when it writes, something is left of the budget. -/
structure CanStart (answers : String → AttemptEvidence) (budget : GatewayBudget) (x : Spending)
    (done : List String) (task : TaskSpec) : Prop where
  heads : ∀ d ∈ task.dependsOn, ∀ d' ∈ task.dependsOn,
    (answers d).headCommit = (answers d').headCommit
  left : task.isWriter = true → (x.afterAll answers done).Leaves budget

/-- **The condition.** Each task of the plan can be attempted after the tasks before it. -/
def Executable (answers : String → AttemptEvidence) (budget : GatewayBudget) (x : Spending)
    (plan : Plan) : Prop :=
  ∀ task ∈ plan.tasks.1, ∀ before after, plan.topologicalOrder = before ++ task.taskId :: after →
    CanStart answers budget x before task

/-- Some tasks of a plan have passed since it was admitted, and the others were not attempted. -/
structure Progress (answers : String → AttemptEvidence) (plan : Plan) (x : Spending)
    (done : List String) (s : ExecutionRunState) : Prop where
  status : s.status = .running
  base : s.goalBaseCommit = plan.baseCommit
  spending : s.spending = x.afterAll answers done
  complete : providerUsageIncomplete s = false
  passed : ∀ id ∈ done, ∃ t, s.find id = some t ∧ t.status = .succeeded ∧
    t.headCommit = some (answers id).headCommit
  waiting : ∀ task ∈ plan.tasks.1, task.taskId ∉ done →
    s.find task.taskId = some (.initial task)

section Passing

variable {env : Environment} {caller : Nat} {runId : String} {C : operations.Op → World → Prop}
  {J : World → Prop} {plan : Plan} {w : World} {s : ExecutionRunState} {actor : String}
  {request : PlanningRequest} {task : TaskSpec} {answers : String → AttemptEvidence}
  {x : Spending} {done : List String}

/-- The state of a plan that was just admitted. -/
theorem Progress.start (hrunning : s.status = .running) (hbase : s.goalBaseCommit = plan.baseCommit)
    (hfresh : s.tasks = plan.tasks.1.map ExecutionTaskState.initial)
    (hcomplete : providerUsageIncomplete s = false) :
    Progress answers plan s.spending [] s where
  status := hrunning
  base := hbase
  spending := rfl
  complete := hcomplete
  passed _ h := absurd h List.not_mem_nil
  waiting task hmem _ := by
    have hnodup : (s.tasks.map (·.taskId)).Nodup := by
      rw [hfresh, List.map_map]
      exact plan.tasks.2.2.1
    have ht : ExecutionTaskState.initial task ∈ s.tasks := by
      rw [hfresh]
      exact List.mem_map_of_mem hmem
    exact ExecutionRunState.find_of_mem hnodup ht

/-- The base of a task is the common head of the tasks that it depends on. -/
theorem Progress.exists_base (h : Progress answers plan x done s)
    (hbefore : ∀ d ∈ task.dependsOn, d ∈ done) :
    (∃ base, s.expectedBaseCommit (.initial task) = .ok base) ↔
      ∀ d ∈ task.dependsOn, ∀ d' ∈ task.dependsOn,
        (answers d).headCommit = (answers d').headCommit := by
  have hhead : ∀ d ∈ task.dependsOn, ∀ base,
      (∃ t, s.find d = some t ∧ t.headCommit = some base) ↔ (answers d).headCommit = base := by
    intro d hd base
    obtain ⟨t, ht, -, hhead⟩ := h.passed d (hbefore d hd)
    simp [ht, hhead]
  have hbase : ∀ base, s.expectedBaseCommit (.initial task) = .ok base ↔
      (task.dependsOn = [] → base = s.goalBaseCommit) ∧
        ∀ d ∈ task.dependsOn, (answers d).headCommit = base := by
    intro base
    rw [ExecutionRunState.expectedBaseCommit_eq_ok]
    exact and_congr_right fun _ ↦ forall₂_congr fun d hd ↦ hhead d hd base
  simp only [hbase]
  constructor
  · rintro ⟨base, -, hheads⟩ d hd d' hd'
    rw [hheads d hd, hheads d' hd']
  · intro hheads
    cases hdeps : task.dependsOn with
    | nil => exact ⟨_, fun _ ↦ rfl, by simp⟩
    | cons d ds =>
      rw [hdeps] at hheads
      exact ⟨(answers d).headCommit, nofun, fun d' hd' ↦ hheads d' hd' d List.mem_cons_self⟩

/-- A task passes. -/
theorem Progress.verified {s' : ExecutionRunState} {t' : ExecutionTaskState}
    (h : Progress answers plan x done s) (hpasses : Passes (answers task.taskId))
    (hid : t'.taskId = task.taskId)
    (hverified : Verified s s' t' (answers task.taskId) .succeeded) :
    Progress answers plan x (done ++ [task.taskId]) s' where
  status := hverified.status.trans h.status
  base := hverified.base.trans h.base
  spending := by rw [spending_of_usage hverified.usage, h.spending, Spending.afterAll_concat]
  complete := by
    have hcomplete := h.complete
    rw [providerUsageIncomplete_congr hverified.usage]
    simp only [providerUsageIncomplete, ExecutionRunState.addUsage, hpasses.inputTokens,
      hpasses.outputTokens, hpasses.costMicrousd, Bool.and_true] at hcomplete ⊢
    exact hcomplete
  passed id hmem := by
    by_cases hsame : id = task.taskId
    · rw [hsame, ← hid]
      exact ⟨t', hverified.find, hverified.taskStatus, hid ▸ hverified.head⟩
    · rw [hverified.others id (hid ▸ hsame)]
      exact h.passed id (by simpa [hsame] using hmem)
  waiting other hmem hnew := by
    simp only [List.mem_append, List.mem_singleton, not_or] at hnew
    rw [hverified.others _ (hid ▸ hnew.2)]
    exact h.waiting other hmem hnew.1

variable (h : Proceeds env caller runId C J plan) (hactor : isBlank actor = false)
  (hanswers : ∀ o w, C o w → Answers env answers o w)

include h hactor hanswers

/-- What the attempts of a task leave when they pass: the task is done, or it could not be attempted,
and the run has ended without success. -/
def Passed (env : Environment) (runId : String) (answers : String → AttemptEvidence)
    (budget : GatewayBudget) (plan : Plan) (x : Spending) (done : List String) (task : TaskSpec)
    (r : Except Failure (Option ExecutionRunState)) (w : World) : Prop :=
  ∃ s', Open env.host runId w.ledger s' ∧
    (r = .ok none ∧ CanStart answers budget x done task ∧
        Progress answers plan x (done ++ [task.taskId]) s' ∨
      r = .ok (some s') ∧ ¬CanStart answers budget x done task ∧
        (s'.status = .replanRequired ∨ s'.status = .escalated))

/-- **Attempts that pass.** The attempt of a task in its turn passes exactly when it can be made. -/
theorem meets_attemptTask_passing {rounds : Nat} (hmem : task ∈ plan.tasks.1)
    (hgoal : plan.baseCommit = request.goal.baseCommit)
    (hpaths : ∀ p ∈ task.allowedPaths.1, p ∈ request.goal.allowedPaths.1)
    (hattempts : task.maxAttempts = request.goal.maxAttempts)
    (hpasses : Passes (answers task.taskId))
    (hwithin : (x.afterAll answers (done ++ [task.taskId])).Within request.budget)
    (hbefore : ∀ d ∈ task.dependsOn, d ∈ done) (hnew : task.taskId ∉ done) (hJ : J w)
    (hopen : Open env.host runId w.ledger s) (hprogress : Progress answers plan x done s) :
    Prog.Meets (handle env caller) Quiet C J
      (attemptTask env.host runId request plan task actor (rounds + 1))
      (Passed env runId answers request.budget plan x done task) w := by
  have hfind := hprogress.waiting task hmem hnew
  have hdone : ∀ d ∈ task.dependsOn, ∃ t, s.find d = some t ∧ t.status = .succeeded := by
    intro d hd
    obtain ⟨t, ht, hstatus, -⟩ := hprogress.passed d (hbefore d hd)
    exact ⟨t, ht, hstatus⟩
  have hanswered : ∀ {answer}, Answered env C task (.initial task) answer →
      answer = .evidence (answers task.taskId) := by
    rintro _ ⟨w', asked, hC, rfl, htask, -⟩
    rw [hanswers _ _ hC asked rfl, htask]
  have hgate : providerBudgetExhausted (remainingBudget request.budget s) = false ↔
      (x.afterAll answers done).Leaves request.budget := by
    rw [providerBudgetExhausted_eq_false, hprogress.spending]
  have hverified : ∀ {s' t'}, t'.taskId = task.taskId →
      Verified s s' t' (answers task.taskId) .succeeded →
      Progress answers plan x (done ++ [task.taskId]) s' :=
    fun hid hverified ↦ hprogress.verified hpasses hid hverified
  simp only [attemptTask, Prog.bind_eq, Prog.pure_eq]
  refine (meets_attempt_open h hactor hmem hJ hopen hprogress.status hfind (.inl rfl) hdone).bind ?_
    (by rintro _ _ _ ⟨⟩)
  rintro a w₁ hJ₁ houtcome
  cases houtcome with
  | ended s' _ opened ending =>
    refine Prog.meets_done.mpr ⟨hJ₁, s', opened, .inr ⟨rfl, ?_⟩⟩
    generalize s'.status = status at ending
    cases ending with
    | ambiguous hnone =>
      refine ⟨fun hstart ↦ hnone ⟨hprogress.base.trans hgoal, ?_⟩, .inl rfl⟩
      exact (hprogress.exists_base hbefore).mpr hstart.heads
    | exhausted writer hclosed =>
      refine ⟨fun hstart ↦ ?_, .inr rfl⟩
      simp [hprogress.complete, hgate.mpr (hstart.left writer)] at hclosed
    | denied decision hdenied hdecided =>
      exfalso
      rcases hdecided with hpending | ⟨action, haction, hauthorized⟩
      · simp [ExecutionTaskState.initial] at hpending
      · obtain ⟨hrun, hplanId, htaskId, hattempt, hcapability, hallowed, hdestructive⟩ :=
          ToolActionRequest.create_eq_ok haction
        have hpositive := task.attempts
        have hallowed' := authorize_eq_allowed hauthorized
          (hrun ▸ isPlanIdentifier_ne_empty h.isPlanRunId) hplanId htaskId hcapability hdestructive
          (by rw [hattempt, ← hattempts, min_self]; exact hpositive.1)
          (task.allowedPaths.2.eq_of_pathTuple hallowed) hpaths
        exact absurd hallowed' (by simp [hdenied])
    | raised typeName answered => cases hanswered answered
    | refuted evidence _ answered hfailed =>
      cases hanswered answered
      simp [hpasses.passed] at hfailed
    | overdrawn evidence s'' t' route answered taskId verified hover =>
      cases hanswered answered
      exfalso
      rw [Spending.afterAll_concat, ← hprogress.spending, ← spending_of_usage verified.usage,
        ← budgetOverdrawn_eq_false] at hwithin
      simp [hwithin] at hover
  | succeeded evidence s' t' _ opened startable answered taskId verified within =>
    cases hanswered answered
    refine Prog.meets_done.mpr ⟨hJ₁, s', opened, .inl ⟨rfl, ⟨?_, fun hwriter ↦ ?_⟩, ?_⟩⟩
    · exact (hprogress.exists_base hbefore).mp startable.base
    · exact hgate.mp (startable.gate hwriter).2
    · exact hverified taskId verified
  | repairable evidence s' t' _ opened startable answered refuted =>
    cases hanswered answered
    simp [hpasses.passed] at refuted

/-- What the tasks of a plan leave when they pass: they are all done, or one of them could not be
attempted, and the run has ended without success. -/
def AllPassed (env : Environment) (runId : String) (answers : String → AttemptEvidence)
    (budget : GatewayBudget) (plan : Plan) (x : Spending) (done : List String)
    (r : Except Failure (Option ExecutionRunState)) (w : World) : Prop :=
  ∃ s', Open env.host runId w.ledger s' ∧
    (r = .ok none ∧ Progress answers plan x plan.topologicalOrder s' ∧
        (∀ task ∈ plan.tasks.1, ∀ before after,
          plan.topologicalOrder = done ++ before ++ task.taskId :: after →
          CanStart answers budget x (done ++ before) task) ∨
      r = .ok (some s') ∧ ¬Executable answers budget x plan ∧
        (s'.status = .replanRequired ∨ s'.status = .escalated))

/-- **Plans that pass.** The tasks of a plan pass in their order, up to the first that cannot be
attempted. -/
theorem meets_runTasks_passing {rounds : Nat} {order : List String}
    (hgoal : plan.baseCommit = request.goal.baseCommit)
    (hwithinGoal : ∀ task ∈ plan.tasks.1,
      (∀ p ∈ task.allowedPaths.1, p ∈ request.goal.allowedPaths.1) ∧
        task.maxAttempts = request.goal.maxAttempts)
    (hpasses : ∀ task ∈ plan.tasks.1, Passes (answers task.taskId))
    (hwithin : (x.afterAll answers plan.topologicalOrder).Within request.budget)
    (horder : plan.topologicalOrder = done ++ order) (hJ : J w)
    (hopen : Open env.host runId w.ledger s) (hprogress : Progress answers plan x done s) :
    Prog.Meets (handle env caller) Quiet C J
      (runTasks env.host runId request plan actor (rounds + 1) order)
      (AllPassed env runId answers request.budget plan x done) w := by
  induction order generalizing w s done with
  | nil =>
    rw [List.append_nil] at horder
    refine Prog.meets_done.mpr ⟨hJ, s, hopen, .inl ⟨rfl, horder ▸ hprogress, ?_⟩⟩
    intro task _ before after hsplit
    rw [horder] at hsplit
    simp at hsplit
  | cons taskId order ih =>
    have hperm := plan.topologicalOrder_perm
    have hid : taskId ∈ plan.tasks.1.map (·.taskId) := by
      rw [← hperm.mem_iff, horder]
      simp
    obtain ⟨task, hmem, rfl⟩ := List.mem_map.mp hid
    have hnodup : (done ++ task.taskId :: order).Nodup := by
      rw [← horder, hperm.nodup_iff]
      exact plan.tasks.2.2.1
    have hnew : task.taskId ∉ done := fun hdone ↦
      List.disjoint_of_nodup_append hnodup hdone List.mem_cons_self
    have hbefore : ∀ d ∈ task.dependsOn, d ∈ done := fun d hd ↦
      plan.dependsOn_before horder (Plan.dependenciesOf_eq hmem ▸ hd)
    have horder' : plan.topologicalOrder = (done ++ [task.taskId]) ++ order := by simp [horder]
    have hwithin' : (x.afterAll answers (done ++ [task.taskId])).Within request.budget := by
      rw [horder', Spending.afterAll_append] at hwithin
      exact hwithin.of_afterAll
    have hfind := hprogress.waiting task hmem hnew
    have hdone : ∀ d ∈ task.dependsOn, ∃ t, s.find d = some t ∧ t.status = .succeeded := by
      intro d hd
      obtain ⟨t, ht, hstatus, -⟩ := hprogress.passed d (hbefore d hd)
      exact ⟨t, ht, hstatus⟩
    simp only [runTasks, Prog.bind_eq, Prog.liftM_eq, Prog.pure_eq]
    refine Prog.Meets.ok_bind (Checked.ofOption_eq_ok.mpr (Plan.byId_eq_some hmem)) ?_
    refine (meets_state h hJ hopen).bind ?_ (by simp)
    rintro _ w₁ - ⟨⟨⟩, hJ₁, -, hopen₁⟩
    refine Prog.Meets.ok_bind (ExecutionRunState.task_eq_ok.mpr hfind) ?_
    rw [if_neg (by simp [ExecutionTaskState.initial])]
    refine Prog.Meets.ok_bind (ExecutionRunState.succeeded_eq_true.mpr hdone) ?_
    rw [if_pos rfl]
    refine (meets_attemptTask_passing h hactor hanswers hmem hgoal (hwithinGoal task hmem).1
      (hwithinGoal task hmem).2 (hpasses task hmem) hwithin' hbefore hnew hJ₁ hopen₁
      hprogress).bind ?_ ?_
    swap
    · rintro _ _ _ ⟨_, _, ⟨⟨⟩, _⟩ | ⟨⟨⟩, _⟩⟩
    rintro r w₂ hJ₂ ⟨s', hopen', ⟨⟨⟩, hstart, hprogress'⟩ | ⟨⟨⟩, hstuck, hended⟩⟩
    · refine (ih horder' hJ₂ hopen' hprogress').mono ?_
      rintro r w₃ - ⟨s'', hopen'', ⟨hr, hall, hrest⟩ | hends⟩
      swap
      · exact ⟨s'', hopen'', .inr hends⟩
      refine ⟨s'', hopen'', .inl ⟨hr, hall, fun other hother before after hsplit ↦ ?_⟩⟩
      rw [horder, List.append_assoc, List.append_cancel_left_eq] at hsplit
      cases before with
      | nil =>
        have hsame : task.taskId = other.taskId := (List.cons.inj hsplit).1
        obtain rfl := List.inj_on_of_nodup_map plan.tasks.2.2.1 hmem hother hsame
        rwa [List.append_nil]
      | cons first before =>
        obtain ⟨hsame, htail⟩ := List.cons.inj hsplit
        have hstarts := hrest other hother before after (by rw [horder', htail]; simp)
        rwa [hsame, List.append_assoc, List.singleton_append] at hstarts
    · exact Prog.meets_done.mpr ⟨hJ₂, s', hopen', .inr ⟨rfl, fun hexecutable ↦
        hstuck (hexecutable task hmem done order horder), hended⟩⟩

/-- An execution of a plan that was just admitted succeeds exactly when the plan is executable. -/
theorem meets_executeBound_passing {rounds : Nat}
    (hgoal : plan.baseCommit = request.goal.baseCommit)
    (hwithinGoal : ∀ task ∈ plan.tasks.1,
      (∀ p ∈ task.allowedPaths.1, p ∈ request.goal.allowedPaths.1) ∧
        task.maxAttempts = request.goal.maxAttempts)
    (hpasses : ∀ task ∈ plan.tasks.1, Passes (answers task.taskId))
    (hwithin : (s.spending.afterAll answers plan.topologicalOrder).Within request.budget)
    (hJ : J w) (hopen : Open env.host runId w.ledger s) (hrunning : s.status = .running)
    (hbase : s.goalBaseCommit = plan.baseCommit)
    (hfresh : s.tasks = plan.tasks.1.map ExecutionTaskState.initial)
    (hcomplete : providerUsageIncomplete s = false) :
    Prog.Meets (handle env caller) Quiet C J
      (executeBound env.host runId request plan actor s (rounds + 1))
      (fun r w' ↦ ∃ s', r = .ok s' ∧ Open env.host runId w'.ledger s' ∧
        (s'.status = .succeeded ↔ Executable answers request.budget s.spending plan) ∧
        (s'.status = .succeeded ∨ s'.status = .replanRequired ∨ s'.status = .escalated)) w := by
  have hinitial : ∀ t ∈ s.tasks, t.status = .pending ∧ t.activeWorkspaceId = none := by
    intro t ht
    rw [hfresh] at ht
    obtain ⟨task, -, rfl⟩ := List.mem_map.mp ht
    exact ⟨rfl, rfl⟩
  have hblocked : s.tasks.find? (fun t ↦ t.status = .blocked) = none :=
    List.find?_eq_none.mpr fun t ht ↦ by simp [(hinitial t ht).1]
  have hactive : ¬s.tasks.any (fun t ↦ t.activeWorkspaceId.isSome) = true := by
    rw [List.any_eq_true]
    rintro ⟨t, ht, hsome⟩
    simp [(hinitial t ht).2] at hsome
  simp only [executeBound, Prog.bind_eq, Prog.pure_eq, Prog.throw_eq]
  rw [if_neg (by simp [hrunning, isOutcome]), hblocked]
  dsimp only
  rw [if_neg hactive]
  refine (meets_runTasks_passing h hactor hanswers hgoal hwithinGoal hpasses hwithin
    (List.nil_append _).symm hJ hopen (.start hrunning hbase hfresh hcomplete)).bind ?_ ?_
  swap
  · rintro _ _ _ ⟨_, _, ⟨⟨⟩, _⟩ | ⟨⟨⟩, _⟩⟩
  rintro r w₁ hJ₁ ⟨s₁, hopen₁, ⟨⟨⟩, hall, hstarts⟩ | ⟨⟨⟩, hstuck, hended⟩⟩
  · have hdone := allSucceeded_of_done (h.planned hJ₁ hopen₁) fun id hid ↦ by
      obtain ⟨t, ht, hstatus, -⟩ := hall.passed id hid
      exact ⟨t, ht, hstatus⟩
    refine (meets_terminate h hJ₁ hopen₁ hall.status hactor rfl (by decide) fun _ ↦ hdone).mono ?_
    rintro _ w₂ - ⟨s₂, rfl, hopen₂, hstatus⟩
    refine ⟨s₂, rfl, hopen₂, ⟨fun _ task hmem before after hsplit ↦ ?_, fun _ ↦ hstatus⟩,
      .inl hstatus⟩
    exact hstarts task hmem before after hsplit
  · refine Prog.meets_done.mpr ⟨hJ₁, s₁, rfl, hopen₁, ⟨fun hsucceeded ↦ ?_,
      fun hexecutable ↦ absurd hexecutable hstuck⟩, .inr hended⟩
    rcases hended with hended | hended <;> simp [hended] at hsucceeded

end Passing

/-- **Executions of a plan that was just admitted.** With an executor whose attempts pass, and keep
to the budget with all their usage known, an execution of the whole plan returns with the run ended.
It has succeeded exactly when the plan is executable, and must be planned again or is escalated
otherwise. -/
theorem Runs.execute_passing {env : Environment} {runId : String} {w : World}
    {request : PlanningRequest} {draft : Mapping} {previous : Option Plan} {plan : Plan}
    {actor : String} {rounds caller : Nat} {s : ExecutionRunState}
    {answers : String → AttemptEvidence}
    (h : Runs env runId (Careful env) (Genuine env runId) w)
    (hcompiled : compilePlan env.host request.goal draft previous = .ok plan)
    (hgenuine : Genuine env runId (.execute request plan actor rounds) w)
    (hopen : Open env.host runId w.ledger s) (hrunning : s.status = .running)
    (hfresh : s.tasks = plan.tasks.1.map ExecutionTaskState.initial)
    (hrun : request.runId = runId)
    (hbound : boundToRequest env.host request s ∧ s.planId = some plan.planId ∧
      s.planDigest = some (plan.planDigest env.host))
    (hactor : isBlank actor = false) (hrounds : 3 ≤ rounds)
    (hpasses : ∀ task ∈ plan.tasks.1, Passes (answers task.taskId))
    (hcomplete : providerUsageIncomplete s = false)
    (hwithin : (s.spending.afterAll answers plan.topologicalOrder).Within request.budget)
    (halong : Prog.Along (handle env caller) (fun o w ↦ Careful env caller o w ∧ Answers env answers o w)
      (execute env.host runId request plan actor rounds) w) :
    let ended := (execute env.host runId request plan actor rounds).run (handle env caller) w
    ∃ s', ended.1 = .ok s' ∧ Open env.host runId ended.2.ledger s' ∧
      (s'.status = .succeeded ↔ Executable answers request.budget s.spending plan) ∧
      (s'.status = .succeeded ∨ s'.status = .replanRequired ∨ s'.status = .escalated) := by
  obtain ⟨hexecuting, hplan⟩ := h.recoverable.executing hgenuine hopen hbound.2.1 hbound.2.2
  have hproceeds : Proceeds env caller runId
      (fun o w ↦ Careful env caller o w ∧ Answers env answers o w) (Executing env runId plan) plan :=
    proceeds_executing (fun _ _ ↦ And.left) (hrun ▸ request.identifiers.2) hplan
  obtain ⟨hgoal, htasks⟩ := compilePlan_within hcompiled
  obtain ⟨rounds, rfl⟩ := Nat.exists_eq_add_of_le' (Nat.le_trans (by decide : 1 ≤ 3) hrounds)
  suffices hmeets : Prog.Meets (handle env caller) Quiet
      (fun o w ↦ Careful env caller o w ∧ Answers env answers o w) (Executing env runId plan)
      (execute env.host runId request plan actor (rounds + 1))
      (fun r w' ↦ ∃ s', r = .ok s' ∧ Open env.host runId w'.ledger s' ∧
        (s'.status = .succeeded ↔ Executable answers request.budget s.spending plan) ∧
        (s'.status = .succeeded ∨ s'.status = .replanRequired ∨ s'.status = .escalated)) w from
    hmeets.of_run Quiet.refl halong
  simp only [execute, Prog.bind_eq, Prog.liftM_eq]
  refine meets_check_bind.mpr ⟨hexecuting, fun _ ↦ ?_, fun hne ↦ absurd hrun hne⟩
  refine (meets_state hproceeds hexecuting hopen).bind ?_ (by simp)
  rintro _ w₁ hexecuting₁ ⟨⟨⟩, -, -, hopen₁⟩
  refine meets_check_bind.mpr ⟨hexecuting₁, fun _ ↦ ?_, fun hne ↦ absurd hbound hne⟩
  refine meets_executeBound_passing hproceeds hactor (fun _ _ ↦ And.right) hgoal (fun task hmem ↦ ?_)
    hpasses hwithin hexecuting₁ hopen₁ hrunning (hexecuting.bound hopen).base hfresh hcomplete
  obtain ⟨_, hvalue⟩ := htasks task hmem
  exact compileTask_within hvalue

/-! ### A plan whose tasks fork

A task reads and another one writes, and a third one depends on both. -/

namespace Sample

/-- A task of the draft. -/
def forkDraftTask (taskId : String) (dependsOn allowedPaths : List String) : JsonValue :=
  .object [("task_id", .str taskId), ("objective", .str "Build."),
    ("depends_on", .ofTexts dependsOn), ("allowed_paths", .ofTexts allowedPaths),
    ("checks", .list [.str "unit"])]

/-- The draft of the provider. -/
def forkDraft : Mapping := [("schema_version", .str executionPlanDraftSchema),
  ("tasks", .list [forkDraftTask "merge" ["read", "write"] [], forkDraftTask "read" [] [],
    forkDraftTask "write" [] ["src"]])]

/-- The task that depends on the others. -/
def mergeTask : TaskSpec :=
  { task with
    taskId := "merge"
    dependsOn := ["read", "write"]
    allowedPaths := ⟨[], by decide +kernel⟩
    identifier := by decide +kernel
    dependencies := by decide +kernel }

/-- The task that reads. -/
def readTask : TaskSpec :=
  { task with
    taskId := "read"
    allowedPaths := ⟨[], by decide +kernel⟩
    identifier := by decide +kernel
    dependencies := by decide +kernel }

/-- The task that writes. -/
def writeTask : TaskSpec :=
  { task with
    taskId := "write"
    identifier := by decide +kernel
    dependencies := by decide +kernel }

def forkDraftHex : Hex :=
  hexText 0xb2c07862dc1f527fc55995f40b07c1f448dcf3b4f5388d353d6842508525a49b

def mergeHex : Hex :=
  hexText 0x10cd3975cbd2a933414cffe275657e088b9d04f8f29deb1949229b9610fba021

def readHex : Hex :=
  hexText 0x456efbdf6abd42bafedd39d03f198248572dabb69a3711480f5f9b2b1fd200ed

def writeHex : Hex :=
  hexText 0x71599975dd63436b74a13b9e821ad840eb1592064ae51a3655dde781cebb0f0d

def readActionHex : Hex :=
  hexText 0x8b4086f9f86607ffa2eb0ed3b9170a3bef30232cd5a8528f8d1e2b6e94450c1e

def writeActionHex : Hex :=
  hexText 0x25707a18d1832d2f4f7cc321de34757c983be2b2a0a60a5f2584b3d48ee97265

/-- The plan that the draft is compiled to. -/
def forkPlan : Plan where
  planId := "plan-4d1feae1d78b83a764593c668cf809e8"
  goalId := "goal-1"
  projectId := "project-1"
  intentId := "intent-1"
  planRevision := 1
  supersedesPlanId := none
  baseCommit := "1111111111111111111111111111111111111111"
  draftDigest := digestPrefix ++ forkDraftHex.1
  tasks := ⟨[mergeTask, readTask, writeTask], by decide +kernel⟩
  valid := by decide +kernel

/-- The action of a task, as it is digested. -/
def forkAction (taskId : String) (allowedPaths : List String) : JsonValue :=
  .object [("allowed_paths", .ofTexts allowedPaths), ("attempt", .int 1),
    ("capability", .str "repository-task"), ("destructive", .bool false),
    ("plan_id", .str forkPlan.planId), ("run_id", .str "run-1"), ("task_id", .str taskId)]

/-- The decision on an action, as it is digested. -/
def forkDecided (action : Hex) : JsonValue :=
  .object [("action_digest", .str (digestPrefix ++ action.1)), ("allowed", .bool true),
    ("reason", .str "bounded-task-authorized")]

/-- The digests of the documents of the goal, the plan and the attempts. -/
def forkDocuments : List (JsonValue × Hex) := [
  ((goalPayload goal).canonical, goalHex),
  ((JsonValue.object forkDraft).canonical, forkDraftHex),
  (mergeTask.payload.canonical, mergeHex),
  (readTask.payload.canonical, readHex),
  (writeTask.payload.canonical, writeHex),
  (.object [("draft_digest", .str (digestPrefix ++ forkDraftHex.1)),
      ("goal_digest", .str (digestPrefix ++ goalHex.1)), ("plan_version", .int 1),
      ("supersedes_plan_id", .null),
      ("task_digests", .ofTexts ([mergeHex, readHex, writeHex].map (digestPrefix ++ ·.1)))],
    hexText 0x4d1feae1d78b83a764593c668cf809e8dad5106939c3ca51395b45f74040aeaa),
  ((planPayload forkPlan).canonical,
    hexText 0xecf6de020bc8b0b1bdae8d291860028c267b0c5237dbf911d585d2c753ffa3ff),
  (forkAction "read" [], readActionHex),
  (forkAction "write" ["src"], writeActionHex),
  (forkDecided readActionHex,
    hexText 0x2fe85ecfff104f1d12a91887c84a24f94630beadda07fd6837c989ddb928d107),
  (forkDecided writeActionHex,
    hexText 0xb5b62472456694b143a139adfb1c366437e1edc8fd21bd43058c486b1fadf6a4),
  (.object [("attempt", .int 1), ("plan_id", .str forkPlan.planId), ("task_id", .str "read")],
    hexText 0x35269d01fa0138715bd8c46cb408c165de7dced089e0e62119433f451ad7ff79),
  (.object [("attempt", .int 1), ("plan_id", .str forkPlan.planId), ("task_id", .str "write")],
    hexText 0x2693c6965eb67c06d042fcbf03dd6a289dd1955ce2f2402cfdd54ef04592065e)]

/-- SHA-256 on these documents. -/
def forkDocumentHost : Host := .ofTables forkDocuments [] []

theorem isPlanIdentifier_authorized : isPlanIdentifier "bounded-task-authorized" := by
  decide +kernel

/-- The decision on an action. -/
def forkDecision (action : Hex) : PolicyDecision :=
  ⟨true, "bounded-task-authorized", digestPrefix ++ action.1, isPlanIdentifier_authorized,
    isHexDigest_append action.2⟩

def readWorkspace : String := "workspace-35269d01fa0138715bd8c46cb408c165"

def writeWorkspace : String := "workspace-2693c6965eb67c06d042fcbf03dd6a28"

/-- The evidence of an attempt, which ends with a new head when the task writes. -/
def forkAnswers (taskId : String) : AttemptEvidence :=
  if taskId = "write" then passed 1 else { passed 1 with
    headCommit := "1111111111111111111111111111111111111111"
    isCommit := isHex_ones }

/-- The scope of a request under the plan. -/
def forkScope (payload : Mapping) : JsonValue := .canonical (.object
  [("plan_id", .str forkPlan.planId), ("plan_version", .int 1), ("payload", .object payload)])

/-- SHA-256 on the documents of the run. -/
def forkHost : Host := .ofTables (forkDocuments ++ [
  (early (goalAdmittedPayload forkDocumentHost request),
    hexText 0x2e7d54dee2972407de76b2ce0b02dd4ccc0433884be83490c26e2c7b70635763),
  (early (planDraftReceivedPayload forkPlan (result 1 (some 1))),
    hexText 0xa80c54e90f58b5a625c57379878a45b60d9132e3a36c5f465efa39ceba2faa77),
  (forkScope (planAdmittedPayload forkDocumentHost forkPlan),
    hexText 0x60c714db9a574013d059665ebc21d512d74c6bcc2e1d49bc623744da06ef66e7),
  (forkScope (taskReadyPayload "read" 1),
    hexText 0x379ddf084f6723a0c4bb575169d26fff3c9c4071cdcf7763c89da0416937d20b),
  (forkScope (policyDecidedPayload forkDocumentHost "read" 1 (forkDecision readActionHex)),
    hexText 0x16dbcaf17eca9bed4cecd864ed0b4ed1356c611a7e79b878d7f01c376910b28e),
  (forkScope (taskStartedPayload forkDocumentHost "read" 1 readWorkspace goal.baseCommit
      (forkDecision readActionHex)),
    hexText 0x7d9aee958e96d70dfbdcbec4a08a24ce48402f4d97fbe8cbdb132d231dafd1a8),
  (forkScope (taskVerifyingPayload "read" 1 readWorkspace),
    hexText 0xbe7946cb7d29bdb5b24d2ae514910363d8f7304a7d7ef8af8ecb5bd115c7a875),
  (forkScope (taskVerifiedPayload "read" 1 readWorkspace .succeeded none 0 true
      (forkAnswers "read")),
    hexText 0x2b674168bc9456fc47ad341676d1bc19383504ed99ca13b9a4fa38290b97bc7a),
  (forkScope (taskReadyPayload "write" 1),
    hexText 0x38b5929c5224e82325ae38b567e4339eae528502bb6c055c0d9b12665ef0a6ac),
  (forkScope (policyDecidedPayload forkDocumentHost "write" 1 (forkDecision writeActionHex)),
    hexText 0x5d31393504424e85405eb31eac05f2196373444dfaa2ba664179f094a2ff154b),
  (forkScope (taskStartedPayload forkDocumentHost "write" 1 writeWorkspace goal.baseCommit
      (forkDecision writeActionHex)),
    hexText 0xaf21c7f6c18c463a9852e80aea24a141fd3497aa1977628b13b444aa198951c8),
  (forkScope (taskVerifyingPayload "write" 1 writeWorkspace),
    hexText 0xe90120003ab528620c68c769008ca44a450910ae2471e27afde24d5b8619cd48),
  (forkScope (taskVerifiedPayload "write" 1 writeWorkspace .succeeded none 0 true
      (forkAnswers "write")),
    hexText 0xba8797f3afe3e22ef354e06949e45ff7451f05fdbf214a199c7de10146417d3f),
  (forkScope (taskReadyPayload "merge" 1),
    hexText 0x1da04d5747cca1b0b45c5734ac7a3489dcbb4374157a35afa53548a0542c1d89),
  (forkScope (runTerminatedPayload .replanRequired "base-commit-ambiguous"),
    hexText 0x57f7e192ab04c3b0ccdc79fe0645fe4549e10230e14c8eeb0d101320d77555d8)])
  [] []

/-- The surroundings in which the tasks fork. -/
def forked : Environment :=
  { environment (result 1 (some 1)) (passed 1) with
    host := forkHost
    provider := fun _ _ ↦ some { result 1 (some 1) with draft := forkDraft }
    executor := fun _ asked ↦ .evidence (forkAnswers asked.task.taskId) }

/-- The surroundings in which the planner has spent the budget. -/
def spent : Environment := environment (result 100 (some 1)) (passed 0)

/-- The plan was just admitted, with all usage known, and its attempts keep to the budget. -/
def admits (H : Host) (plan : Plan) (answers : String → AttemptEvidence)
    (s : ExecutionRunState) : Bool :=
  s.status = .running ∧ s.tasks = plan.tasks.1.map .initial ∧ boundToRequest H request s ∧
    s.planId = some plan.planId ∧ s.planDigest = some (plan.planDigest H) ∧
    providerUsageIncomplete s = false ∧
    (s.spending.afterAll answers plan.topologicalOrder).Within request.budget

/-- The call returns with a status. -/
def returns (r : Except Failure ExecutionRunState × World) (status : RunLifecycleStatus) : Bool :=
  r.1.toOption.any fun s ↦ s.status = status

/-- What the executions of the sample plans start from, and do. -/
theorem passing_checked :
    (opensWith host (planned frugal).ledger (admits host plan fun _ ↦ passed 1) = true ∧
      compilePlan host goal draft none = .ok plan ∧
      (∀ e ∈ streamOf "run-1" (planned frugal).ledger, executionEventType? e = some .planAdmitted →
        e.payload.get "plan" = planPayload plan) ∧
      (((execute frugal.host "run-1" request plan "actor-1" 3).run (handle frugal 1)
        (planned frugal)).2.requested.map Prod.fst).Nodup) ∧
    (opensWith host (planned spent).ledger (admits host plan fun _ ↦ passed 0) = true ∧
      returns ((execute spent.host "run-1" request plan "actor-1" 3).run (handle spent 1)
        (planned spent)) .escalated = true) ∧
    opensWith forkHost (planned forked).ledger (admits forkHost forkPlan forkAnswers) = true ∧
      compilePlan forkHost goal forkDraft none = .ok forkPlan ∧
      returns ((execute forked.host "run-1" request forkPlan "actor-1" 3).run (handle forked 1)
        (planned forked)) .replanRequired = true := by
  -- One evaluation for each of the three runs.
  refine ⟨?frugal, ?spent, ?forked⟩
  case frugal => decide +kernel
  case spent => decide +kernel
  case forked => decide +kernel

example : (forkAnswers "read").headCommit = goal.baseCommit := by decide +kernel

/-- What is known of the state of a plan that was just admitted. -/
theorem exists_admits {H : Host} {L : Ledger} {plan : Plan} {answers : String → AttemptEvidence}
    (h : opensWith H L (admits H plan answers) = true) :
    ∃ s, Open H "run-1" L s ∧ s.status = .running ∧ s.tasks = plan.tasks.1.map .initial ∧
      (boundToRequest H request s ∧ s.planId = some plan.planId ∧
        s.planDigest = some (plan.planDigest H)) ∧ providerUsageIncomplete s = false ∧
      (s.spending.afterAll answers plan.topologicalOrder).Within request.budget := by
  obtain ⟨s, hopen, hs⟩ := exists_open h
  simp only [admits, decide_eq_true_eq] at hs
  exact ⟨s, hopen, hs.1, hs.2.1, ⟨hs.2.2.1, hs.2.2.2.1, hs.2.2.2.2.1⟩, hs.2.2.2.2.2⟩

/-- The evidence of the sample runs passes. -/
theorem passes (inputTokens : Nat) : Passes (passed inputTokens) := ⟨rfl, rfl, rfl, rfl, rfl⟩

theorem passes_forkAnswers (taskId : String) : Passes (forkAnswers taskId) := by
  unfold forkAnswers
  split <;> exact ⟨rfl, rfl, rfl, rfl, rfl⟩

end Sample

/-- The law on the frugal run, whose only attempt passes. -/
theorem execute_passing_sample : ∃ s : ExecutionRunState,
    let ended := (execute Sample.frugal.host "run-1" Sample.request Sample.plan "actor-1" 3).run
      (handle Sample.frugal 1) (Sample.planned Sample.frugal)
    ∃ s', ended.1 = .ok s' ∧ Open Sample.frugal.host "run-1" ended.2.ledger s' ∧
      (s'.status = .succeeded ↔
        Executable (fun _ ↦ Sample.passed 1) Sample.request.budget s.spending Sample.plan) ∧
      (s'.status = .succeeded ∨ s'.status = .replanRequired ∨ s'.status = .escalated) := by
  obtain ⟨hs, hcompiled, hplanned, htypes⟩ := Sample.passing_checked.1
  obtain ⟨s, hopen, hrunning, hfresh, hbound, hcomplete, hwithin⟩ := Sample.exists_admits hs
  have hclean : ∀ n request evidence, Sample.frugal.executor n request = .evidence evidence →
      evidence.passed = true → evidence.workspaceClean = true := by
    rintro _ _ _ ⟨⟩ _
    rfl
  have hdistinct := distinct_of_types (H := Sample.host) htypes
  have hruns : Runs Sample.frugal "run-1" (Careful Sample.frugal) (Genuine Sample.frugal "run-1")
      (Sample.planned Sample.frugal) :=
    .call 0 Sample.planning (.start _ (Sample.unopened _ _)) trivial
      (reaches_careful hclean _ _ fun x hx y hy ↦
        hdistinct x (mem_requested_run _ hx) y (mem_requested_run _ hy))
  have halong := (along_careful hclean _ hdistinct).and
    (.of_forall (C := Answers Sample.frugal fun _ ↦ Sample.passed 1) (fun _ _ _ _ ↦ rfl) _ _)
  exact ⟨s, hruns.execute_passing hcompiled (Sample.genuine hplanned) hopen hrunning hfresh rfl
    hbound Sample.isBlank_actor le_rfl (fun _ _ ↦ Sample.passes 1) hcomplete hwithin halong⟩

/-- No execution of a plan that was just admitted, whose attempts all pass within the budget, ends with
the given status. -/
def NeverEnds (status : RunLifecycleStatus) : Prop :=
  ∀ (env : Environment) (runId : String) (w : World) (request : PlanningRequest) (draft : Mapping)
    (plan : Plan) (actor : String) (rounds caller : Nat) (s : ExecutionRunState)
    (answers : String → AttemptEvidence), Runs env runId (fun _ _ _ ↦ True) (fun _ _ ↦ True) w →
    compilePlan env.host request.goal draft none = .ok plan →
    Open env.host runId w.ledger s → s.status = .running →
    s.tasks = plan.tasks.1.map ExecutionTaskState.initial → request.runId = runId →
    boundToRequest env.host request s ∧ s.planId = some plan.planId ∧
      s.planDigest = some (plan.planDigest env.host) → isBlank actor = false → 3 ≤ rounds →
    (∀ task ∈ plan.tasks.1, Passes (answers task.taskId)) → providerUsageIncomplete s = false →
    (s.spending.afterAll answers plan.topologicalOrder).Within request.budget →
    Prog.Along (handle env caller) (Answers env answers)
      (execute env.host runId request plan actor rounds) w →
    Sample.returns ((execute env.host runId request plan actor rounds).run (handle env caller) w)
      status = false

/-- Executions whose attempts pass within the budget end with a call for another plan, when the
heads of two dependencies differ, and they are escalated, when a task that writes is reached with
the budget spent. -/
theorem not_always_execute_passing : ¬NeverEnds .replanRequired ∧ ¬NeverEnds .escalated := by
  obtain ⟨-, ⟨hspent, hescalated⟩, hforked, hcompiled, hreplanned⟩ := Sample.passing_checked
  refine ⟨fun h ↦ ?_, fun h ↦ ?_⟩
  · obtain ⟨s, hopen, hrunning, hfresh, hbound, hcomplete, hwithin⟩ := Sample.exists_admits hforked
    have hruns : Runs Sample.forked "run-1" (fun _ _ _ ↦ True) (fun _ _ ↦ True)
        (Sample.planned Sample.forked) :=
      (Runs.start _ (Sample.unopened_of_stamps fun _ ↦ rfl)).stopAfter 0 (c := Sample.planning)
        trivial 100
    have hfalse := h Sample.forked "run-1" _ Sample.request Sample.forkDraft Sample.forkPlan
      "actor-1" 3 1 s Sample.forkAnswers hruns hcompiled hopen hrunning hfresh rfl hbound
      Sample.isBlank_actor le_rfl (fun _ _ ↦ Sample.passes_forkAnswers _) hcomplete hwithin
      (.of_forall (fun _ _ _ _ ↦ rfl) _ _)
    exact absurd hreplanned (by rw [hfalse]; decide)
  · obtain ⟨s, hopen, hrunning, hfresh, hbound, hcomplete, hwithin⟩ := Sample.exists_admits hspent
    have hruns : Runs Sample.spent "run-1" (fun _ _ _ ↦ True) (fun _ _ ↦ True)
        (Sample.planned Sample.spent) :=
      (Runs.start _ (Sample.unopened _ _)).stopAfter 0 (c := Sample.planning) trivial 100
    have hfalse := h Sample.spent "run-1" _ Sample.request Sample.draft Sample.plan "actor-1" 3 1 s
      (fun _ ↦ Sample.passed 0) hruns Sample.passing_checked.1.2.1 hopen hrunning hfresh rfl hbound
      Sample.isBlank_actor le_rfl (fun _ _ ↦ Sample.passes 0) hcomplete hwithin
      (.of_forall (fun _ _ _ _ ↦ rfl) _ _)
    exact absurd hescalated (by rw [hfalse]; decide)

end Blackcell.Orchestration.ExecutionRuntime
