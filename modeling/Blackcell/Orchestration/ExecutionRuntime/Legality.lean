import Blackcell.Foundation.Fatal
import Blackcell.Orchestration.ExecutionRuntime.Passing
import Blackcell.Orchestration.ExecutionRuntime.Unpriced

/-!
# Legal appends

The route of an attempt is decided by the kernel, and checked again by the projection when the
attempt is verified. The two disagree about evidence that passed in an unclean workspace: the kernel
blocks the run, and the projection refuses the block, since the evidence gives no reason for it. An
execution that no other call disturbs therefore raises after such evidence, and ends the run after
all other.

## Main definitions

* `ReportsClean` : an executor that reports no passed attempt in an unclean workspace.
* `Unclean` : the answer of an executor that does.

## Main results

* `not_change_unclean` : the projection refuses evidence that passed in an unclean workspace.
* `dies_execute` : an execution raises after such evidence.
* `Runs.execute_legal` : an execution ends the run exactly if it gets no such evidence.
-/

namespace Blackcell.Orchestration.ExecutionRuntime

open Blackcell.Kernel Blackcell.Gateway Blackcell.Orchestration.ExecutionPlan

/-! ### Unclean evidence -/

/-- The executor does not report a verification as passed when its workspace is not clean. -/
def ReportsClean (env : Environment) (o : operations.Op) (w : World) : Prop :=
  ∀ request evidence, o = .execute request →
    env.executor w.calls.length request = .evidence evidence → evidence.passed = true →
    evidence.workspaceClean = true

/-- The answer of an executor that reports a verification as passed in an unclean workspace. -/
def Unclean : (o : operations.Op) → operations.Res o → Prop
  | .execute _, answer => ∃ evidence : AttemptEvidence, answer = AttemptAnswer.evidence evidence ∧
      evidence.passed = true ∧ evidence.workspaceClean = false
  | _, _ => False

/-- An operation that does not ask the executor. -/
def IsLocal : operations.Op → Prop
  | .execute _ => False
  | _ => True

theorem IsLocal.not_unclean {o : operations.Op} (h : IsLocal o) (r : operations.Res o) :
    ¬Unclean o r := by
  cases o <;> simp_all [IsLocal, Unclean]

theorem reportsClean_of_not_unclean {env : Environment} {caller : Nat} {o : operations.Op}
    {w : World} (h : ¬Unclean o (handle env caller o w).1) : ReportsClean env o w := by
  rintro request evidence rfl hanswer hpassed
  by_contra hunclean
  exact h ⟨evidence, hanswer, hpassed, Bool.not_eq_true _ ▸ hunclean⟩

section Refused

variable {H : Host} {eventId runId taskId workspace : String} {attempt count : Nat}
  {signature : Option String} {newEvidence : Bool} {evidence : AttemptEvidence} {goal : GoalSpec}
  {task : TaskSpec} {sameErrorCount : Nat} {isNew : Bool} {s s' : ExecutionRunState}

/-- **Refused evidence.** The projection refuses an attempt that passed in an unclean workspace. -/
theorem not_change_unclean (hpassed : evidence.passed = true)
    (hunclean : evidence.workspaceClean = false) {route : AttemptRoute} :
    ¬Change H eventId (("run_id", .str runId) :: taskVerifiedPayload taskId attempt workspace route
      signature count newEvidence evidence) s .taskVerified s' := by
  intro hchange
  cases hchange with
  | taskVerified t workspace' route' evidence' names status workspaceGet nonempty active routeGet
    exitGet checksGet cleanGet newGet signatureGet countGet classGet summaryGet artifactsGet
    progressGet inputGet outputGet costGet headGet latencyGet agrees failed =>
    simp only [taskVerifiedPayload, Mapping.get_cons, reduceIte, String.reduceEq,
      JsonValue.int.injEq, Int.natCast_inj, JsonValue.bool.injEq] at exitGet checksGet cleanGet
    have hsame : evidence'.passed = true := by
      simpa only [AttemptEvidence.passed, exitGet, checksGet] using hpassed
    by_cases hroute : route' = .succeeded
    · have hclean := (agrees.mp hroute).1
      rw [← cleanGet, hunclean] at hclean
      cases hclean
    · rw [failed hroute] at hsame
      cases hsame

end Refused

/-! ### Undisturbed executions -/

/-- The run of a stream was not canceled. -/
def Uncanceled (H : Host) (E : List EventEnvelope) : Prop :=
  ∀ s, project H E = .ok (some s) → s.status ≠ .canceled

/-- The requests of an execution, which do not cancel the run. -/
def LegalRequests (H : Host) (plan : Plan) (type : ExecutionEventType) (payload : Mapping) : Prop :=
  ExecutionRequests H plan type payload ∧ (type = .runTerminated →
    payload.get "status" ≠ .str (StrEnum.value RunLifecycleStatus.canceled))

/-- No event of a generated run cancels it, unless it was asked for. -/
theorem Change.ne_canceled {H : Host} {eventId runId : String} {payload : Mapping}
    {s s' : ExecutionRunState} {type : ExecutionEventType}
    (h : Change H eventId (("run_id", .str runId) :: payload) s type s')
    (hasked : type = .runTerminated →
      payload.get "status" ≠ .str (StrEnum.value RunLifecycleStatus.canceled))
    (hs : s.status ≠ .canceled) : s'.status ≠ .canceled := by
  cases h with
  | replanStarted | planAdmitted => nofun
  | runTerminated status reason statusGet =>
    rintro rfl
    exact hasked rfl statusGet
  | _ => exact hs

/-- An execution of a plan whose run was not canceled. -/
def Undisturbed (env : Environment) (runId : String) (plan : Plan) (w : World) : Prop :=
  Executing env runId plan w ∧ OnStream env runId (Uncanceled env.host) w

section Worlds

variable {env : Environment} {caller : Nat} {runId : String} {C : operations.Op → World → Prop}
  {plan : Plan} {w : World} {request : PlanningRequest} {task : TaskSpec} {actor : String}

theorem Undisturbed.ne_canceled {s : ExecutionRunState} (h : Undisturbed env runId plan w)
    (hopen : Open env.host runId w.ledger s) : s.status ≠ .canceled :=
  h.2.2 s hopen.state

/-- The requests of an execution do not disturb its run. -/
theorem admits_undisturbed : Admits env caller runId Quiet C (Undisturbed env runId plan)
    (LegalRequests env.host plan) := by
  refine (admits_executing.mono fun _ _ ↦ And.left).and_stream ?_
  intro type payload w current e s hallowed hJ huncanceled haccepts s' hs'
  obtain ⟨before, hbefore, hstep⟩ := project_concat.mp hs'
  obtain rfl := Except.ok.inj (haccepts.state.symm.trans hbefore)
  cases hstep with
  | published t s₀ ht => simp [runEventType?_eq_none haccepts.type] at ht
  | opened => simp [ExecutionRunState.opened]
  | changed t s₀ s₁ ht fields run isRun stream sequence active change =>
    obtain rfl := Option.some.inj (haccepts.type.symm.trans ht)
    rw [haccepts.payload] at change
    exact change.ne_canceled hallowed.2 (huncanceled s₀ haccepts.state)

/-- The event of a verified attempt that the projection accepts is no unclean one. -/
theorem not_step_unclean {evidence : AttemptEvidence} {e : EventEnvelope}
    {before after : Option ExecutionRunState} {taskId workspace : String} {attempt count : Nat}
    {signature : Option String} {newEvidence : Bool} {route : AttemptRoute}
    (hpassed : evidence.passed = true) (hunclean : evidence.workspaceClean = false)
    (htype : executionEventType? e = some .taskVerified)
    (hpayload : e.payload = ("run_id", .str runId) :: taskVerifiedPayload taskId attempt workspace
      route signature count newEvidence evidence) : ¬Step env.host e before after := by
  intro hstep
  cases hstep with
  | unopened t ht => simp [runEventType?_eq_none htype] at ht
  | published t s ht => simp [runEventType?_eq_none htype] at ht
  | opened _ _ _ _ _ ht => simp [htype] at ht
  | changed t s₀ s₁ ht fields run isRun stream sequence active change =>
    obtain rfl := Option.some.inj (htype.symm.trans ht)
    rw [hpayload] at change
    exact not_change_unclean hpassed hunclean change

section Fatal

variable (hC : ∀ o w, C o w → Unmistaken env caller o w) {evidence : AttemptEvidence}
  (hpassed : evidence.passed = true) (hunclean : evidence.workspaceClean = false)
  (hmem : task ∈ plan.tasks.1)

include hC hpassed hunclean hmem

/-- Unclean evidence is not recorded, and no earlier request stands for it. -/
theorem meets_verified_unclean {workspace : String} {attempt count : Nat}
    {signature : Option String} {newEvidence : Bool} {route : AttemptRoute}
    (hrepaired : route = .repairable → attempt < task.maxAttempts)
    (hJ : Undisturbed env runId plan w) :
    Prog.Meets (handle env caller) Quiet C (Undisturbed env runId plan)
      (append env.host runId .taskVerified (taskVerifiedPayload task.taskId attempt workspace route
        signature count newEvidence evidence) actor) (fun r _ ↦ ∃ error, r = .error error) w := by
  have hadmits : Admits env caller runId Quiet C (Undisturbed env runId plan) _ :=
    admits_undisturbed
  have hrefused : ∀ {current : Option ExecutionRunState} {x : EventEnvelope} {w₁ w₂ : World},
      Asked env runId Quiet C (Undisturbed env runId plan) .taskVerified
        (taskVerifiedPayload task.taskId attempt workspace route signature count newEvidence
          evidence) w current w₁ → w₂.ledger = w₁.ledger → x ∈ streamOf runId w₂.ledger →
      x.idempotencyKey ≠ some (requestKeyOf env .taskVerified
        (taskVerifiedPayload task.taskId attempt workspace route signature count newEvidence
          evidence) current) := by
    intro current x w₁ w₂ hasked hledger hx hkey
    obtain ⟨_, hread⟩ := hasked.holds.1.journaled.readable
    rw [hledger] at hx
    obtain ⟨htype, hpayload, _, _, hstep⟩ :=
      hasked.holds.1.journaled.replayed hread (hC _ _ hasked.asked) hx hkey
    exact not_step_unclean hpassed hunclean htype hpayload hstep
  refine (meets_append hadmits.steady hJ fun w₂ current e s built holds readable follows step
    insertable ↦ hadmits.store ⟨.taskVerified task _ _ _ _ _ _ _ hmem hrepaired, nofun⟩ built
      holds readable follows step insertable).mono fun r w' _ hanswer ↦ ?_
  cases hanswer with
  | raised error => exact ⟨error, rfl⟩
  | replayed w₁ current prior w' asked recorded key =>
    exact absurd key (hrefused asked rfl recorded)
  | repeated w₂ current e prior w' built performed recorded key =>
    obtain ⟨w₁, hasked, hquiet⟩ := built.request
    obtain ⟨_, _, _, _, rfl, _⟩ := built.event
    exact absurd key (hrefused hasked hquiet.ledger recorded)
  | stored w₂ current e s w' built performed readable follows step =>
    obtain ⟨_, _, _, _, rfl, _⟩ := built.event
    exact absurd step
      (not_step_unclean hpassed hunclean executionEventType?_requestEvent rfl)

/-- An attempt is not settled on unclean evidence. -/
theorem meets_settle_unclean {workspace : String} {attempt : Nat}
    (hJ : Undisturbed env runId plan w) :
    Prog.Meets (handle env caller) Quiet C (Undisturbed env runId plan)
      (settle env.host runId request task actor attempt workspace evidence)
      (fun r _ ↦ ∃ error, r = .error error) w := by
  have hadmits : Admits env caller runId Quiet C (Undisturbed env runId plan) _ :=
    admits_undisturbed
  simp only [settle, Prog.bind_eq, Prog.liftM_eq]
  refine (keeps_append hadmits ⟨.taskVerifying .., by rintro ⟨⟩⟩ w hJ).bind ?_
    fun e _ _ _ ↦ ⟨e, rfl⟩
  rintro - w₁ hJ₁ -
  refine (meets_rehydrate hadmits.steady hJ₁).bind ?_ fun e _ _ _ ↦ ⟨e, rfl⟩
  rintro s w₂ hJ₂ -
  refine Prog.meets_ofExcept_bind.mpr ⟨hJ₂, fun prior _ ↦ ?_, fun e _ ↦ ⟨e, rfl⟩⟩
  refine (meets_verified_unclean hC hpassed hunclean hmem (fun hroute ↦ ?_) hJ₂).bind ?_
    fun e _ _ _ ↦ ⟨e, rfl⟩
  · exact (lt_of_route_eq_repairable hroute).trans_le (min_le_right _ _)
  · rintro _ _ - ⟨_, ⟨⟩⟩

end Fatal

/-! ### Executions that die of unclean evidence -/

/-- A program of an execution that raises after unclean evidence. -/
abbrev Raises (env : Environment) (caller : Nat) (runId : String)
    (C : operations.Op → World → Prop) (plan : Plan) {α : Type} (p : Call α) : Prop :=
  Prog.Wary (handle env caller) Quiet C (Undisturbed env runId plan) Unclean p

/-- A program that does not ask the executor. -/
theorem raises_of_local {α : Type} {p : Call α}
    (hkeeps : Prog.Keeps (handle env caller) Quiet C (Undisturbed env runId plan) p)
    (hlocal : p.Performs IsLocal) : Raises env caller runId C plan p :=
  ⟨hkeeps, hlocal.dies fun _ ↦ IsLocal.not_unclean⟩

section Local

variable (H : Host)

theorem performs_rebuild : (rebuild H runId).Performs IsLocal := by
  refine Prog.performs_bind (Prog.performs_ofExcept _) fun _ ↦ ?_
  refine Prog.performs_bind (Prog.performs_perform trivial) fun _ ↦ ?_
  refine Prog.performs_bind (Prog.performs_ofExcept _) fun _ ↦ ?_
  exact Prog.performs_bind (Prog.performs_perform trivial) fun _ ↦ Prog.performs_ofExcept _

theorem performs_rehydrate : (rehydrate H runId).Performs IsLocal := by
  refine Prog.performs_bind (performs_rebuild H) fun state ↦ ?_
  cases state <;> trivial

theorem performs_append {type : ExecutionEventType} {payload : Mapping} :
    (append H runId type payload actor).Performs IsLocal := by
  refine Prog.performs_bind (Prog.performs_ofExcept _) fun _ ↦ ?_
  refine Prog.performs_bind (Prog.performs_ofExcept _) fun _ ↦ ?_
  refine Prog.performs_bind (Prog.performs_perform trivial) fun existing ↦ ?_
  refine Prog.performs_bind (Prog.performs_ofExcept _) fun _ ↦ ?_
  refine Prog.performs_bind (Prog.performs_ofExcept _) fun _ ↦ ?_
  refine Prog.performs_bind (performs_rebuild H) fun _ ↦ ?_
  refine Prog.performs_bind (Prog.performs_perform trivial) fun key ↦ ?_
  split
  · exact Prog.performs_bind (Prog.performs_ofExcept _) fun _ ↦ trivial
  · refine Prog.performs_bind (Prog.performs_perform trivial) fun _ ↦ ?_
    refine Prog.performs_bind (Prog.performs_ofExcept _) fun _ ↦ ?_
    refine Prog.performs_bind (Prog.performs_perform trivial) fun stored ↦ ?_
    cases stored with
    | error => trivial
    | ok => exact Prog.performs_bind (performs_rehydrate H) fun _ ↦ trivial

end Local

theorem raises_rehydrate : Raises env caller runId C plan (rehydrate env.host runId) :=
  raises_of_local (keeps_rehydrate admits_undisturbed) (performs_rehydrate _)

theorem raises_append {type : ExecutionEventType} {payload : Mapping}
    (hallowed : ExecutionRequests env.host plan type payload) (hne : type ≠ .runTerminated) :
    Raises env caller runId C plan (append env.host runId type payload actor) :=
  raises_of_local (keeps_append admits_undisturbed ⟨hallowed, fun h ↦ absurd h hne⟩)
    (performs_append _)

theorem raises_terminate {status : RunLifecycleStatus} {reason : String}
    (hstatus : status ≠ .canceled) :
    Raises env caller runId C plan (terminate env.host runId status actor reason) := by
  refine raises_of_local (keeps_terminate admits_undisturbed ⟨.runTerminated _ _, fun _ h ↦ ?_⟩) ?_
  · exact hstatus (StrEnum.value_injective (JsonValue.str.inj h))
  · exact Prog.performs_bind (performs_append _) fun _ ↦ performs_rehydrate _

theorem raises_endRun {status : RunLifecycleStatus} {reason : String}
    (hstatus : status ≠ .canceled) :
    Raises env caller runId C plan (endRun env.host runId actor status reason) :=
  (raises_terminate hstatus).bind fun _ ↦ Prog.wary_done _

theorem raises_makeReady : Raises env caller runId C plan (makeReady env.host runId task actor) := by
  refine raises_rehydrate.bind fun s ↦ (Prog.wary_ofExcept _).bind fun t ↦ ?_
  split
  · refine (raises_append (.taskReady _ _) nofun).bind fun _ ↦ ?_
    exact raises_rehydrate.bind fun _ ↦ Prog.wary_ofExcept _
  · exact Prog.wary_done _

/-- The base of an attempt is read without the executor; what it raises is caught. -/
theorem raises_attemptBase :
    Raises env caller runId C plan (attemptBase env.host runId request task) := by
  refine raises_of_local (Prog.keeps_tryCatch ?_ fun error ↦ ?_)
    (Prog.performs_tryCatch ?_ fun error ↦ ?_)
  · refine Prog.keeps_bind (keeps_rehydrate admits_undisturbed) fun s ↦ ?_
    exact Prog.keeps_bind (Prog.keeps_ofExcept _) fun _ ↦ Prog.keeps_done _
  · cases error with
    | runtime => exact Prog.keeps_done _
    | _ => exact Prog.keeps_raise _
  · refine Prog.performs_bind (performs_rehydrate _) fun s ↦ ?_
    exact Prog.performs_bind (Prog.performs_ofExcept _) fun _ ↦ trivial
  · cases error <;> trivial

theorem raises_decideAction {t : ExecutionTaskState} {action : ToolActionRequest} :
    Raises env caller runId C plan
      (decideAction env.host runId request plan task actor t action) := by
  refine (Prog.wary_ofExcept _).bind fun pending ↦ ?_
  split
  · exact Prog.wary_done _
  · refine (Prog.wary_ofExcept _).bind fun decision ↦ ?_
    exact (raises_append (.policyDecided _ _ _) nofun).bind fun _ ↦ Prog.wary_done _

/-- No route of an attempt cancels the run. -/
theorem ne_canceled_of_route {route : AttemptRoute} {status : RunLifecycleStatus}
    (hstatus : Checked.ofOption (StrEnum.ofValue? (StrEnum.value route)) Failure.value =
      .ok status) : status ≠ .canceled := by
  rintro rfl
  rw [Checked.ofOption_eq_ok, StrEnum.ofValue?_eq_some] at hstatus
  cases route <;> exact absurd hstatus (by decide)

theorem raises_settle {attempt : Nat} {workspace : String} {evidence : AttemptEvidence}
    (hmem : task ∈ plan.tasks.1) : Raises env caller runId C plan
      (settle env.host runId request task actor attempt workspace evidence) := by
  refine (raises_append (.taskVerifying _ _ _) nofun).bind fun _ ↦ ?_
  refine raises_rehydrate.bind fun s ↦ (Prog.wary_ofExcept _).bind fun prior ↦ ?_
  refine (raises_append (.taskVerified task _ _ _ _ _ _ _ hmem fun hroute ↦ ?_) nofun).bind
    fun _ ↦ ?_
  · exact (lt_of_route_eq_repairable hroute).trans_le (min_le_right _ _)
  split
  · refine raises_rehydrate.bind fun s ↦ ?_
    split
    · exact raises_endRun nofun
    · exact Prog.wary_done _
  · exact Prog.wary_ofExcept_bind fun status hstatus ↦ raises_endRun (ne_canceled_of_route hstatus)

section Dies

variable (hC : ∀ o w, C o w → Unmistaken env caller o w)

include hC

/-- **Attempts.** An attempt raises after unclean evidence: the run is not canceled, so that the
evidence is to be settled. -/
theorem raises_startAttempt {t : ExecutionTaskState} {baseCommit : String}
    {remaining : GatewayBudget} {decision : PolicyDecision} (hmem : task ∈ plan.tasks.1) :
    Raises env caller runId C plan
      (startAttempt env.host runId request plan task actor t baseCommit remaining decision) := by
  have hadmits : Admits env caller runId Quiet C (Undisturbed env runId plan) _ :=
    admits_undisturbed
  simp only [startAttempt, Prog.bind_eq]
  split
  · exact (raises_append (.taskBlocked _ _) (by rintro ⟨⟩)).bind fun _ ↦
      raises_endRun (by rintro ⟨⟩)
  · refine (raises_append (.taskStarted _ _ _ _ _) (by rintro ⟨⟩)).bind fun _ ↦ ?_
    refine Prog.wary_perform_bind (fun _ hJ _ ↦ hadmits.attempt _ hJ) ?_ fun answer ↦ ?_
    · rintro _ ⟨evidence, rfl, hpassed, hunclean⟩ w hJ
      refine (meets_rehydrate hadmits.steady hJ).bind ?_ fun e _ _ _ ↦ ⟨e, rfl⟩
      rintro s w₁ hJ₁ ⟨-, hopen⟩
      rw [if_neg (hJ₁.ne_canceled hopen)]
      exact meets_settle_unclean hC hpassed hunclean hmem hJ₁
    · cases answer with
      | raised typeName =>
        refine raises_rehydrate.bind fun s ↦ ?_
        split
        · exact Prog.wary_done _
        · exact raises_endRun (by rintro ⟨⟩)
      | evidence evidence =>
        refine raises_rehydrate.bind fun s ↦ ?_
        split
        · exact Prog.wary_done _
        · exact raises_settle hmem

theorem raises_attempt (hmem : task ∈ plan.tasks.1) :
    Raises env caller runId C plan (attempt env.host runId request plan task actor) := by
  refine raises_makeReady.bind fun t ↦ raises_attemptBase.bind fun base ↦ ?_
  cases base with
  | none => exact raises_endRun nofun
  | some baseCommit =>
    refine raises_rehydrate.bind fun s ↦ ?_
    dsimp only
    split
    · exact raises_endRun nofun
    · exact (Prog.wary_ofExcept _).bind fun action ↦ raises_decideAction.bind fun decision ↦
        raises_startAttempt hC hmem

theorem raises_attemptTask (rounds : Nat) (hmem : task ∈ plan.tasks.1) :
    Raises env caller runId C plan (attemptTask env.host runId request plan task actor rounds) := by
  induction rounds with
  | zero => exact Prog.wary_raise _
  | succ rounds ih =>
    refine (raises_attempt hC hmem).bind fun a ↦ ?_
    cases a with
    | again => exact ih
    | _ => exact Prog.wary_done _

theorem raises_runTasks (rounds : Nat) (order : List String) :
    Raises env caller runId C plan (runTasks env.host runId request plan actor rounds order) := by
  induction order with
  | nil => exact Prog.wary_done _
  | cons taskId order ih =>
    refine Prog.wary_ofExcept_bind fun task htask ↦ raises_rehydrate.bind fun s ↦ ?_
    refine (Prog.wary_ofExcept _).bind fun t ↦ ?_
    split
    · exact ih
    refine (Prog.wary_ofExcept _).bind fun satisfied ↦ ?_
    split
    · have hmem := List.mem_of_find?_eq_some (Checked.ofOption_eq_ok.mp htask)
      refine (raises_attemptTask hC rounds hmem).bind fun r ↦ ?_
      cases r with
      | none => exact ih
      | some s => exact Prog.wary_done _
    · have hterminate : Raises env caller runId C plan
          (terminate env.host runId .blocked actor "dependency-not-satisfied") :=
        raises_terminate nofun
      exact hterminate.bind fun _ ↦ Prog.wary_done _

/-- **Executions.** An execution raises after unclean evidence. -/
theorem raises_execute (rounds : Nat) :
    Raises env caller runId C plan (execute env.host runId request plan actor rounds) := by
  refine (Prog.wary_ofExcept _).bind fun _ ↦ raises_rehydrate.bind fun s ↦ ?_
  refine (Prog.wary_ofExcept _).bind fun _ ↦ ?_
  unfold executeBound
  split
  · exact Prog.wary_done _
  split
  · split
    · exact Prog.wary_raise _
    · exact raises_terminate nofun
  split
  · exact raises_terminate nofun
  · refine (raises_runTasks hC rounds _).bind fun r ↦ ?_
    cases r with
    | none => exact raises_terminate nofun
    | some s => exact Prog.wary_done _

end Dies

end Worlds

/-! ### Runs -/

section Runs

variable {env : Environment} {runId : String} {w : World}

/-- A state whose tasks were not begun can be executed. -/
theorem resumable_of_pending {request : PlanningRequest} {plan : Plan} {s : ExecutionRunState}
    (h : ∀ t ∈ s.tasks, t.status = .pending) : Resumable request plan s := by
  have hblocked : s.tasks.find? (fun t ↦ t.status = .blocked) = none := by
    refine List.find?_eq_none.mpr fun t ht ↦ ?_
    simp [h t ht]
  simp only [Resumable, hblocked]
  exact .inr fun task _ t ht _ ↦ .inl (.inl (h t (ExecutionRunState.mem_of_find ht).1))

/-- **Legal appends.** An execution that is not interrupted, of a plan that was just admitted, or of a
state that it can resume, raises no invalid transition and returns with the outcome of the run
recorded, exactly if the executor reports no passed attempt in an unclean workspace. -/
theorem Runs.execute_legal {request : PlanningRequest} {plan : Plan} {actor : String}
    {rounds caller : Nat} {s : ExecutionRunState} {C : Nat → operations.Op → World → Prop}
    (h : Runs env runId C (Genuine env runId) w)
    (hgenuine : Genuine env runId (.execute request plan actor rounds) w)
    (hopen : Open env.host runId w.ledger s) (hrunning : s.status = .running)
    (hstart : (∀ t ∈ s.tasks, t.status = .pending) ∨ Resumable request plan s)
    (hrun : request.runId = runId)
    (hbound : boundToRequest env.host request s ∧ s.planId = some plan.planId ∧
      s.planDigest = some (plan.planDigest env.host))
    (hactor : isBlank actor = false) (hrounds : 3 ≤ rounds)
    (hunmistaken : Prog.Along (handle env caller) (Unmistaken env caller)
      (execute env.host runId request plan actor rounds) w) :
    let ended := (execute env.host runId request plan actor rounds).run (handle env caller) w
    (ended.1 ≠ .error (.runtime .invalidExecutionTransition) ∧
      ∃ s', ended.1 = .ok s' ∧ Open env.host runId ended.2.ledger s' ∧ isOutcome s'.status) ↔
    Prog.Along (handle env caller) (ReportsClean env)
      (execute env.host runId request plan actor rounds) w := by
  obtain ⟨hexecuting, hplan⟩ := h.recoverable.executing hgenuine hopen hbound.2.1 hbound.2.2
  constructor
  · rintro ⟨-, s', hreturns, -⟩
    have hundisturbed : Undisturbed env runId plan w := by
      refine ⟨hexecuting, ⟨_, hopen⟩, fun s₁ hs₁ ↦ ?_⟩
      obtain rfl : s = s₁ := by simpa using hopen.state.symm.trans hs₁
      simp [hrunning]
    have hraises : Raises env caller runId (Unmistaken env caller) plan
        (execute env.host runId request plan actor rounds) := raises_execute (fun _ _ ↦ id) rounds
    exact (hraises.along Quiet.refl hundisturbed hunmistaken hreturns).mono
      fun _ _ ↦ reportsClean_of_not_unclean
  · intro hclean
    have hresumable := hstart.elim resumable_of_pending id
    obtain ⟨s', hreturns, hends⟩ := hexecuting.execute_finishes hplan hopen (.inl hrunning) hrun hbound
      hactor hrounds (fun _ ↦ hresumable) (hunmistaken.and hclean)
    exact ⟨by simp [hreturns], s', hreturns, hends⟩

/-! ### Sample runs -/

namespace Sample

/-- The surroundings in which the attempt passes, and leaves its workspace unclean. -/
def unclean : Environment :=
  environment (result 1 (some 1)) { passed 1 with workspaceClean := false }

/-- What the execution on unclean evidence starts from, and does. -/
theorem legality_checked :
    opensWith host (planned unclean).ledger (fun s ↦
        resumes s && s.tasks.all fun t ↦ decide (t.status = .pending)) = true ∧
      ((execute unclean.host "run-1" request plan "actor-1" 3).run (handle unclean 1)
        (planned unclean)).1 = .error (.runtime .invalidExecutionTransition) := by
  decide +kernel

example : (passed 1).workspaceClean = true := by decide +kernel

end Sample

end Runs

/-- The law on the frugal run, whose only attempt passes in a clean workspace. -/
theorem execute_legal_sample :
    let ended := (execute Sample.frugal.host "run-1" Sample.request Sample.plan "actor-1" 3).run
      (handle Sample.frugal 1) (Sample.planned Sample.frugal)
    (ended.1 ≠ .error (.runtime .invalidExecutionTransition) ∧
      ∃ s', ended.1 = .ok s' ∧ Open Sample.frugal.host "run-1" ended.2.ledger s' ∧
        isOutcome s'.status) ↔
    Prog.Along (handle Sample.frugal 1) (ReportsClean Sample.frugal)
      (execute Sample.frugal.host "run-1" Sample.request Sample.plan "actor-1" 3)
      (Sample.planned Sample.frugal) := by
  obtain ⟨hs, -, hplanned, htypes⟩ := Sample.passing_checked.1
  obtain ⟨s, hopen, hrunning, hfresh, hbound, -, -⟩ := Sample.exists_admits hs
  have hclean : ∀ n request evidence, Sample.frugal.executor n request = .evidence evidence →
      evidence.passed = true → evidence.workspaceClean = true := by
    rintro _ _ _ ⟨⟩ _
    rfl
  have hruns : Runs Sample.frugal "run-1" (fun _ _ _ ↦ True) (Genuine Sample.frugal "run-1")
      (Sample.planned Sample.frugal) :=
    .call 0 Sample.planning (.start _ (Sample.unopened _ _)) trivial (.stopAfter 100 _ _)
  have halong := (along_careful hclean _ (distinct_of_types (H := Sample.host) htypes)).mono
    fun _ _ ↦ And.left
  refine hruns.execute_legal (Sample.genuine hplanned) hopen hrunning (.inl ?_) rfl hbound
    Sample.isBlank_actor le_rfl halong
  rw [hfresh]
  rintro _ ht
  obtain ⟨_, -, rfl⟩ := List.mem_map.mp ht
  rfl

/-- An execution that is not interrupted raises an invalid transition after its only attempt passed
in an unclean workspace. -/
theorem not_always_execute_legal : ¬ ∀ (env : Environment) (runId : String) (w : World)
    (request : PlanningRequest) (plan : Plan) (actor : String) (rounds caller : Nat)
    (s : ExecutionRunState), Runs env runId (fun _ _ _ ↦ True) (fun _ _ ↦ True) w →
    Open env.host runId w.ledger s → s.status = .running →
    (∀ t ∈ s.tasks, t.status = .pending) → request.runId = runId →
    boundToRequest env.host request s ∧ s.planId = some plan.planId ∧
      s.planDigest = some (plan.planDigest env.host) → isBlank actor = false → 3 ≤ rounds →
    ((execute env.host runId request plan actor rounds).run (handle env caller) w).1 ≠
      .error (.runtime .invalidExecutionTransition) := by
  intro h
  have hruns : Runs Sample.unclean "run-1" (fun _ _ _ ↦ True) (fun _ _ ↦ True)
      (Sample.planned Sample.unclean) :=
    (Runs.start _ (Sample.unopened _ _)).stopAfter 0 (c := Sample.planning) trivial 100
  obtain ⟨s, hopen, hs⟩ := Sample.exists_open Sample.legality_checked.1
  simp only [Sample.resumes, Bool.and_eq_true, decide_eq_true_eq, List.all_eq_true] at hs
  exact h Sample.unclean "run-1" _ Sample.request Sample.plan "actor-1" 3 1 s hruns hopen hs.1.1 hs.2
    rfl hs.1.2 Sample.isBlank_actor le_rfl Sample.legality_checked.2

end Blackcell.Orchestration.ExecutionRuntime
