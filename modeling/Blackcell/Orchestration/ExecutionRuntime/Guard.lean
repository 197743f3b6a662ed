import Blackcell.Orchestration.ExecutionRuntime.Runs

/-!
# What an execution keeps

The invariants of `execute`, stop by stop. Two of them are followed at once: an invariant that holds
wherever the call is stopped, and a guard, which the verification of an attempt may break. The call
then ends the run, or it checks the budget, and a run that is within its budget is guarded again.

## Main definitions

* `Guards` : an invariant with a guard.

## Main results

* `meets_executeBound` : `execute` keeps an invariant with a guard.
-/

namespace Blackcell.Orchestration.ExecutionRuntime

open Blackcell.Kernel Blackcell.Gateway Blackcell.Orchestration.ExecutionPlan

section Guard

variable {env : Environment} {caller : Nat} {runId : String} {R : World → World → Prop}
  {C : operations.Op → World → Prop} {J K : World → Prop} {w : World}
  {request : PlanningRequest} {plan : Plan} {task : TaskSpec} {actor : String}

/-- A task that writes is started only behind an open gate: a state of the run was read whose usage
is all known, and whose budget is not exhausted. -/
def StartsOpen (env : Environment) (runId : String) (J : World → Prop) (request : PlanningRequest)
    (plan : Plan) (eventType : ExecutionEventType) (payload : Mapping) : Prop :=
  eventType = .taskStarted → ∃ task ∈ plan.tasks.1, payload.get "task_id" = .str task.taskId ∧
    (task.isWriter = true → ∃ w s, J w ∧ Open env.host runId w.ledger s ∧
      providerUsageIncomplete s = false ∧
      providerBudgetExhausted (remainingBudget request.budget s) = false)

/-- **Guards.** The guard survives all requests of an execution but the verification of an attempt,
which leaves the invariant; the invariant survives the end of the run by a failure, and together
with the budget it restores the guard. -/
structure Guards (env : Environment) (caller : Nat) (runId : String) (R : World → World → Prop)
    (C : operations.Op → World → Prop) (J K : World → Prop) (request : PlanningRequest)
    (plan : Plan) : Prop where
  guarded : Admits env caller runId R C K fun eventType payload ↦
    ExecutionRequests env.host plan eventType payload ∧ eventType ≠ .taskVerified ∧
      StartsOpen env runId K request plan eventType payload
  ending : Admits env caller runId R C J fun eventType payload ↦
    ∃ status ≠ .succeeded, EndingRequest status eventType payload
  weaken (w : World) : K w → J w
  stable (w w' : World) : R w w' → K w → J w' → K w'
  verified {payload : Mapping} {actor : String} {w w₂ : World} {current : Option ExecutionRunState}
    {e : EventEnvelope} {s : ExecutionRunState}
    (allowed : ExecutionRequests env.host plan .taskVerified payload)
    (built : Built env runId R C J .taskVerified payload actor w current e w₂) (holds : K w₂)
    (readable : Readable env.host runId w₂.ledger current)
    (follows : Follows ("run:" ++ runId) (streamOf runId w₂.ledger) e)
    (step : Step env.host e current (some s)) (insertable : w₂.ledger.Insertable e) :
    J (w₂.store caller e)
  restored {w : World} {s : ExecutionRunState} : J w → Open env.host runId w.ledger s →
    budgetOverdrawn request.budget s = false → K w

/-- An invariant that survives the requests of an execution guards itself. -/
theorem Guards.of_admits
    (h : Admits env caller runId R C J fun eventType payload ↦
      ExecutionRequests env.host plan eventType payload ∧
        StartsOpen env runId J request plan eventType payload) :
    Guards env caller runId R C J J request plan where
  guarded := h.mono fun _ _ hallowed ↦ ⟨hallowed.1, hallowed.2.2⟩
  ending := h.mono fun _ _ ⟨_, _, hending⟩ ↦ by
    cases hending
    exact ⟨.runTerminated _ _, nofun⟩
  weaken _ := id
  stable _ _ _ _ := id
  verified allowed := h.store ⟨allowed, nofun⟩
  restored hJ _ _ := hJ

theorem endRun_eq {H : Host} {status : RunLifecycleStatus} {reason : String} :
    endRun H runId actor status reason =
      (terminate H runId status actor reason).bind fun s ↦ .done (.returned s) := rfl

/-- What an attempt leaves when the call goes on: the guard. -/
def LeavesGuard (K : World → Prop) (r : Except Failure AttemptEnd) (w : World) : Prop :=
  ∀ a, r = .ok a → (∃ s, a = .returned s) ∨ K w

@[simp] theorem leavesGuard_error (error : Failure) : LeavesGuard K (.error error) w := by
  simp [LeavesGuard]

/-- The status with which a run ends after a failed attempt. -/
theorem ne_succeeded_of_route {route : AttemptRoute} {status : RunLifecycleStatus}
    (hstatus : StrEnum.ofValue? (StrEnum.value route) = some status)
    (hroute : ¬(route = .succeeded ∨ route = .repairable)) : status ≠ .succeeded := by
  rintro rfl
  rw [StrEnum.ofValue?_eq_some] at hstatus
  cases route with
  | succeeded | repairable => simp at hroute
  | replanRequired | blocked | escalated | terminalFailure => exact absurd hstatus (by decide)

variable (h : Guards env caller runId R C J K request plan)

include h

theorem keeps_makeReady : Prog.Keeps (handle env caller) R C K
    (makeReady env.host runId task actor) := by
  refine Prog.keeps_bind (keeps_rehydrate h.guarded) fun s ↦ ?_
  refine Prog.keeps_bind (Prog.keeps_ofExcept _) fun t ↦ ?_
  split
  · refine Prog.keeps_bind (keeps_append h.guarded ⟨.taskReady _ _, nofun, nofun⟩) fun _ ↦ ?_
    exact Prog.keeps_bind (keeps_rehydrate h.guarded) fun _ ↦ Prog.keeps_ofExcept _
  · exact Prog.keeps_done _

theorem keeps_attemptBase : Prog.Keeps (handle env caller) R C K
    (attemptBase env.host runId request task) := by
  refine Prog.keeps_tryCatch ?_ fun error ↦ ?_
  · refine Prog.keeps_bind (keeps_rehydrate h.guarded) fun s ↦ ?_
    exact Prog.keeps_bind (Prog.keeps_ofExcept _) fun _ ↦ Prog.keeps_done _
  · cases error with
    | runtime => exact Prog.keeps_done _
    | _ => exact Prog.keeps_raise _

theorem keeps_decideAction {t : ExecutionTaskState} {action : ToolActionRequest} :
    Prog.Keeps (handle env caller) R C K
      (decideAction env.host runId request plan task actor t action) := by
  refine Prog.keeps_bind (Prog.keeps_ofExcept _) fun pending ↦ ?_
  split
  · exact Prog.keeps_done _
  · refine Prog.keeps_bind (Prog.keeps_ofExcept _) fun decision ↦ ?_
    exact Prog.keeps_bind (keeps_append h.guarded ⟨.policyDecided _ _ _, nofun, nofun⟩) fun _ ↦
      Prog.keeps_done _

theorem keeps_endRun {status : RunLifecycleStatus} {reason : String} :
    Prog.Keeps (handle env caller) R C K (endRun env.host runId actor status reason) :=
  Prog.keeps_bind (keeps_terminate h.guarded ⟨.runTerminated _ _, nofun, nofun⟩) fun _ ↦ Prog.keeps_done _

/-- A program that keeps the guard meets the invariant, and leaves the guard. -/
theorem meets_of_keeps {α : Type} {p : Call α} (hp : Prog.Keeps (handle env caller) R C K p)
    (hK : K w) : Prog.Meets (handle env caller) R C J p (fun _ w' ↦ K w') w :=
  ((hp w hK).of_stronger h.weaken h.stable).mono fun _ _ _ hpost ↦ hpost.1

/-- A program that ends the run by a failure meets the invariant. -/
theorem meets_endRun {status : RunLifecycleStatus} {reason : String} (hJ : J w)
    (hstatus : status ≠ .succeeded) :
    Prog.Meets (handle env caller) R C J (endRun env.host runId actor status reason)
      (fun r _ ↦ ∀ a, r = .ok a → ∃ s, a = .returned s) w := by
  have hkeeps : Prog.Keeps (handle env caller) R C J
      (terminate env.host runId status actor reason) :=
    keeps_terminate h.ending ⟨status, hstatus, .runTerminated reason⟩
  rw [endRun_eq]
  refine (hkeeps w hJ).bind (fun s w' hJ' _ ↦ ?_) fun error _ _ _ ↦ by simp
  refine Prog.meets_done.mpr ⟨hJ', ?_⟩
  rintro _ ⟨⟩
  exact ⟨s, rfl⟩

theorem meets_settle {attempt : Nat} {workspace : String} {evidence : AttemptEvidence}
    (hmem : task ∈ plan.tasks.1) (hK : K w) :
    Prog.Meets (handle env caller) R C J
      (settle env.host runId request task actor attempt workspace evidence) (LeavesGuard K) w := by
  have hS := h.ending.steady
  simp only [settle, Prog.bind_eq, Prog.liftM_eq]
  refine (meets_of_keeps h (keeps_append h.guarded ?_) hK).bind ?_ fun _ _ _ _ ↦ leavesGuard_error _
  · exact ⟨.taskVerifying _ _ _, nofun, nofun⟩
  rintro - w₁ - hK₁
  refine (meets_of_keeps h (keeps_rehydrate h.guarded) hK₁).bind ?_ fun _ _ _ _ ↦ leavesGuard_error _
  rintro s w₂ hJ₂ hK₂
  refine Prog.meets_ofExcept_bind.mpr ⟨hJ₂, fun prior _ ↦ ?_, fun _ _ ↦ leavesGuard_error _⟩
  -- The verification may break the guard.
  refine (meets_append hS hJ₂ ?_).bind ?_ fun _ _ _ _ ↦ leavesGuard_error _
  · intro w₃ current e s' built holds readable follows step insertable
    exact h.verified (.taskVerified task attempt workspace _ _ _ _ evidence hmem fun hroute ↦
      (lt_of_route_eq_repairable hroute).trans_le (min_le_right _ _)) built
      (h.stable _ _ (built.later hS) hK₂ holds) readable follows step insertable
  · rintro - w₃ hJ₃ -
    split
    · refine (meets_rehydrate hS hJ₃).bind ?_ fun _ _ _ _ ↦ leavesGuard_error _
      rintro s' w₄ hJ₄ ⟨-, hopen⟩
      split
      · exact (meets_endRun h hJ₄ (by decide)).mono fun r w' _ hr a ha ↦ .inl (hr a ha)
      · rename_i hbudget
        exact ⟨hJ₄, fun a _ ↦ .inr (h.restored hJ₄ hopen (by simpa using hbudget))⟩
    · rename_i hroute
      refine Prog.meets_ofExcept_bind.mpr
        ⟨hJ₃, fun status hstatus ↦ ?_, fun _ _ ↦ leavesGuard_error _⟩
      refine (meets_endRun h hJ₃ ?_).mono fun r w' _ hr a ha ↦ .inl (hr a ha)
      exact ne_succeeded_of_route (Checked.ofOption_eq_ok.mp hstatus) hroute

/-- A program that keeps the guard leaves it. -/
theorem leavesGuard_of_keeps {p : Call AttemptEnd}
    (hp : Prog.Keeps (handle env caller) R C K p) (hK : K w) :
    Prog.Meets (handle env caller) R C J p (LeavesGuard K) w :=
  (meets_of_keeps h hp hK).mono fun _ _ _ hK' _ _ ↦ .inr hK'

theorem meets_startAttempt {t : ExecutionTaskState} {baseCommit : String}
    {remaining : GatewayBudget} {decision : PolicyDecision} (hmem : task ∈ plan.tasks.1)
    (hgate : task.isWriter = true → ∃ w s, K w ∧ Open env.host runId w.ledger s ∧
      providerUsageIncomplete s = false ∧
      providerBudgetExhausted (remainingBudget request.budget s) = false) (hK : K w) :
    Prog.Meets (handle env caller) R C J
      (startAttempt env.host runId request plan task actor t baseCommit remaining decision)
      (LeavesGuard K) w := by
  simp only [startAttempt, Prog.bind_eq, Prog.pure_eq]
  split
  · refine leavesGuard_of_keeps h (Prog.keeps_bind (keeps_append h.guarded ?_) fun _ ↦ ?_) hK
    · exact ⟨.taskBlocked _ _, nofun, nofun⟩
    · exact keeps_endRun h
  · refine (meets_of_keeps h (keeps_append h.guarded ?_) hK).bind ?_
      fun _ _ _ _ ↦ leavesGuard_error _
    · exact ⟨.taskStarted _ _ _ _ _, nofun, fun _ ↦ ⟨task, hmem, rfl, hgate⟩⟩
    rintro - w₁ - hK₁
    refine (meets_of_keeps h (Prog.keeps_perform fun w hw _ ↦ h.guarded.attempt _ hw) hK₁).bind ?_
      fun _ _ _ _ ↦ leavesGuard_error _
    rintro answer w₂ - hK₂
    cases answer with
    | raised typeName =>
      refine leavesGuard_of_keeps h (Prog.keeps_bind (keeps_rehydrate h.guarded) fun s ↦ ?_) hK₂
      split
      · exact Prog.keeps_done _
      · exact keeps_endRun h
    | evidence evidence =>
      refine (meets_of_keeps h (keeps_rehydrate h.guarded) hK₂).bind ?_
        fun _ _ _ _ ↦ leavesGuard_error _
      rintro s w₃ - hK₃
      split
      · exact leavesGuard_of_keeps h (Prog.keeps_done _) hK₃
      · exact meets_settle h hmem hK₃

theorem meets_attempt (hmem : task ∈ plan.tasks.1) (hK : K w) :
    Prog.Meets (handle env caller) R C J (attempt env.host runId request plan task actor)
      (LeavesGuard K) w := by
  simp only [attempt, Prog.bind_eq, Prog.liftM_eq]
  refine (meets_of_keeps h (keeps_makeReady h) hK).bind ?_ fun _ _ _ _ ↦ leavesGuard_error _
  rintro t w₁ - hK₁
  refine (meets_of_keeps h (keeps_attemptBase h) hK₁).bind ?_ fun _ _ _ _ ↦ leavesGuard_error _
  rintro base w₂ - hK₂
  cases base with
  | none => exact leavesGuard_of_keeps h (keeps_endRun h) hK₂
  | some baseCommit =>
    refine ((meets_rehydrate h.guarded.steady hK₂).of_stronger h.weaken h.stable).bind ?_
      fun _ _ _ _ ↦ leavesGuard_error _
    rintro s w₃ hJ₃ ⟨hK₃, -, hopen⟩
    split
    · exact leavesGuard_of_keeps h (keeps_endRun h) hK₃
    · rename_i hgate
      refine Prog.meets_ofExcept_bind.mpr ⟨hJ₃, fun action _ ↦ ?_, fun _ _ ↦ leavesGuard_error _⟩
      refine (meets_of_keeps h (keeps_decideAction h) hK₃).bind ?_
        fun _ _ _ _ ↦ leavesGuard_error _
      rintro decision w₄ - hK₄
      refine meets_startAttempt h hmem (fun hwriter ↦ ⟨w₃, s, hK₃, hopen, ?_⟩) hK₄
      simpa [hwriter] using hgate

/-- What the attempts of a task leave when the call goes on with another task: the guard. -/
def GoesOn (K : World → Prop) (r : Except Failure (Option ExecutionRunState)) (w : World) : Prop :=
  r = .ok none → K w

theorem meets_attemptTask {rounds : Nat} (hmem : task ∈ plan.tasks.1) (hK : K w) :
    Prog.Meets (handle env caller) R C J
      (attemptTask env.host runId request plan task actor rounds) (GoesOn K) w := by
  induction rounds generalizing w with
  | zero => exact Prog.meets_raise.mpr ⟨h.weaken w hK, nofun⟩
  | succ rounds ih =>
    simp only [attemptTask, Prog.bind_eq, Prog.pure_eq]
    refine (meets_attempt h hmem hK).bind ?_ fun _ _ _ _ ↦ nofun
    rintro a w₁ hJ₁ hleaves
    cases a with
    | returned s => exact Prog.meets_done.mpr ⟨hJ₁, nofun⟩
    | done =>
      refine Prog.meets_done.mpr ⟨hJ₁, fun _ ↦ ?_⟩
      simpa using hleaves _ rfl
    | again => exact ih (by simpa using hleaves _ rfl)

theorem meets_runTasks {rounds : Nat} {order : List String} (hK : K w) :
    Prog.Meets (handle env caller) R C J
      (runTasks env.host runId request plan actor rounds order) (GoesOn K) w := by
  induction order generalizing w with
  | nil => exact Prog.meets_done.mpr ⟨h.weaken w hK, fun _ ↦ hK⟩
  | cons taskId order ih =>
    simp only [runTasks, Prog.bind_eq, Prog.liftM_eq, Prog.pure_eq]
    refine Prog.meets_ofExcept_bind.mpr ⟨h.weaken w hK, fun task htask ↦ ?_, fun _ _ ↦ nofun⟩
    refine (meets_of_keeps h (keeps_rehydrate h.guarded) hK).bind ?_ fun _ _ _ _ ↦ nofun
    rintro s w₁ hJ₁ hK₁
    refine Prog.meets_ofExcept_bind.mpr ⟨hJ₁, fun t _ ↦ ?_, fun _ _ ↦ nofun⟩
    split
    · exact ih hK₁
    refine Prog.meets_ofExcept_bind.mpr ⟨hJ₁, fun satisfied _ ↦ ?_, fun _ _ ↦ nofun⟩
    split
    · refine (meets_attemptTask h ?_ hK₁).bind ?_ fun _ _ _ _ ↦ nofun
      · exact List.mem_of_find?_eq_some (Checked.ofOption_eq_ok.mp htask)
      rintro r w₂ hJ₂ hgoes
      cases r with
      | none => exact ih (hgoes rfl)
      | some s => exact Prog.meets_done.mpr ⟨hJ₂, nofun⟩
    · refine (meets_of_keeps h (keeps_terminate h.guarded ?_) hK₁).bind ?_ fun _ _ _ _ ↦ nofun
      · exact ⟨.runTerminated _ _, nofun, nofun⟩
      · exact fun s w₂ hJ₂ _ ↦ Prog.meets_done.mpr ⟨hJ₂, nofun⟩

/-- **Executions.** An execution that starts guarded keeps the invariant, wherever it stops. -/
theorem meets_executeBound {s : ExecutionRunState} {rounds : Nat} (hK : K w) :
    Prog.Meets (handle env caller) R C J
      (executeBound env.host runId request plan actor s rounds) (fun _ _ ↦ True) w := by
  have hterminate : ∀ {status : RunLifecycleStatus} {reason : String} {w' : World}, K w' →
      Prog.Meets (handle env caller) R C J (terminate env.host runId status actor reason)
        (fun _ _ ↦ True) w' := by
    intro status reason w' hK'
    refine (meets_of_keeps h (keeps_terminate h.guarded ?_) hK').mono fun _ _ _ _ ↦ trivial
    exact ⟨.runTerminated _ _, nofun, nofun⟩
  simp only [executeBound, Prog.bind_eq, Prog.pure_eq, Prog.throw_eq]
  split
  · exact Prog.meets_done.mpr ⟨h.weaken w hK, trivial⟩
  split
  · split
    · exact Prog.meets_raise.mpr ⟨h.weaken w hK, trivial⟩
    · exact hterminate hK
  split
  · exact hterminate hK
  refine (meets_runTasks h hK).bind ?_ fun _ _ _ _ ↦ trivial
  rintro r w₁ hJ₁ hgoes
  cases r with
  | none => exact hterminate (hgoes rfl)
  | some s => exact Prog.meets_done.mpr ⟨hJ₁, trivial⟩

end Guard

end Blackcell.Orchestration.ExecutionRuntime
