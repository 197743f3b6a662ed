import Blackcell.Orchestration.ExecutionRuntime.Resume

/-!
# Recovery from crashes

The calls of a run can be stopped anywhere. What they leave behind is a stream that the journal
wrote, and a state that belongs to the plan that was admitted last; an execution of this plan that
runs to its end proceeds from there, and ends the run from every state that it can resume.

## Main definitions

* `AdmittedPlan`, `BoundPlan` : the plans of a stream, and the plan that a state belongs to.
* `Recoverable` : what the calls of a run leave behind, wherever they are stopped.
* `Careful`, `Genuine` : the assumptions on the surroundings of a run, and on its callers.

## Main results

* `Runs.recoverable` : the calls of a run leave a recoverable world behind.
* `Runs.execute_ends` : an execution of a resumable state returns with the run ended.
-/

namespace Blackcell.Orchestration.ExecutionRuntime

open Blackcell.Kernel Blackcell.Gateway Blackcell.Orchestration.ExecutionPlan

/-! ### The plan of a state -/

/-- The stream has admitted a plan. -/
def AdmittedPlan (E : List EventEnvelope) (plan : Plan) : Prop :=
  ∃ e ∈ E, executionEventType? e = some .planAdmitted ∧ e.payload.get "plan" = planPayload plan

/-- The state belongs to a plan that the stream has admitted, and that can be read back. -/
structure BoundPlan (H : Host) (E : List EventEnvelope) (plan : Plan) (s : ExecutionRunState) :
    Prop extends Planned plan s where
  base : s.goalBaseCommit = plan.baseCommit
  digest : s.planDigest = some (plan.planDigest H)
  readBack : planFromPayload (planPayload plan) = .ok plan
  admitted : AdmittedPlan E plan

section BoundPlan

variable {H : Host} {E : List EventEnvelope} {e : EventEnvelope} {plan : Plan}
  {s s' : ExecutionRunState}

theorem AdmittedPlan.append (h : AdmittedPlan E plan) (E' : List EventEnvelope) :
    AdmittedPlan (E ++ E') plan := by
  obtain ⟨e, he, hrest⟩ := h
  exact ⟨e, List.mem_append_left _ he, hrest⟩

/-- A plan that can be read back has paths that can be read. -/
theorem pathTuple_of_readBack (h : planFromPayload (planPayload plan) = .ok plan) :
    ∀ task ∈ plan.tasks.1, pathTuple task.allowedPaths.1 = .ok task.allowedPaths := by
  simp only [planFromPayload, planPayload, mapping, JsonValue.fields?, Checked.ofOption_some,
    Checked.ok_bind, Checked.bind_eq_ok, sequence_eq_ok] at h
  simp only [Mapping.get_cons, reduceIte, String.reduceEq, JsonValue.list.injEq] at h
  obtain ⟨_, -, _, rfl, tasks, htasks, -⟩ := h
  have hsame : tasks = plan.tasks.1 :=
    Checked.eq_of_mapM_map (fun _ _ ↦ TaskSpec.ofPayload_payload) htasks
  rw [hsame, Checked.mapM_eq_ok, List.forall₂_map_left_iff, List.forall₂_same] at htasks
  exact fun task hmem ↦ TaskSpec.pathTuple_of_readBack (htasks task hmem)

/-- A step that leaves the plan and the forms of the tasks alone. -/
theorem BoundPlan.of_eq (h : BoundPlan H E plan s) (E' : List EventEnvelope)
    (hplan : s'.planId = s.planId) (hbase : s'.goalBaseCommit = s.goalBaseCommit)
    (hdigest : s'.planDigest = s.planDigest)
    (htasks : s'.tasks.map (·.shape) = s.tasks.map (·.shape))
    (hrepairable : ∀ t ∈ s'.tasks, t.status = .repairable → t.attempts < t.maxAttempts) :
    BoundPlan H (E ++ E') plan s' where
  planId := hplan.trans h.planId
  tasks := htasks.trans h.tasks
  repairable := hrepairable
  base := hbase.trans h.base
  digest := hdigest.trans h.digest
  readBack := h.readBack
  admitted := h.admitted.append E'

theorem BoundPlan.noted (h : BoundPlan H E plan s) (e : EventEnvelope) :
    BoundPlan H E plan (s.noted e) :=
  { h with }

/-- A move of a task keeps the forms of the tasks. -/
theorem Moves.map_shape {payload : Mapping} {t t' : ExecutionTaskState}
    (h : Moves payload s s' t t') (hnodup : (s.tasks.map (·.taskId)).Nodup) :
    s'.tasks.map (·.shape) = s.tasks.map (·.shape) := by
  have hfind := h.find
  rw [← h.taskId] at hfind
  rw [h.tasks]
  refine map_shape_replaceTask hfind ?_ hnodup
  simp only [ExecutionTaskState.shape, h.taskId, h.dependsOn, h.allowedPaths, h.maxAttempts]

/-- A request of an execution sends a task to its repair only while attempts are left. -/
theorem Planned.repairable_of_request {runId eventId : String} {type : ExecutionEventType}
    {payload : Mapping} (h : Planned plan s) (hallowed : ExecutionRequests H plan type payload)
    (hchange : Change H eventId (("run_id", .str runId) :: payload) s type s') :
    ∀ x ∈ s'.tasks, x.status = .repairable → x.attempts < x.maxAttempts := by
  intro x hx hstatus
  cases hchange with
  | replanStarted | planDraftReceived | planAdmitted => cases hallowed
  | runTerminated => exact h.repairable x hx hstatus
  | taskVerified task workspace route evidence names running workspaceGet nonempty active routeGet =>
    rcases ExecutionRunState.mem_replaceTask hx with rfl | ⟨hx, -⟩
    swap
    · exact h.repairable x hx hstatus
    cases hallowed with
    | taskVerified task₀ attempt workspace₀ route₀ _ _ _ _ hmem repaired =>
      have hid := names.get
      have hattempt := names.attempt
      simp only [taskVerifiedPayload, Mapping.get_cons, reduceIte, String.reduceEq,
        JsonValue.str.injEq, JsonValue.int.injEq, Int.natCast_inj] at hid hattempt routeGet
      obtain rfl : route₀ = .repairable := by
        rw [StrEnum.value_inj] at routeGet
        rw [routeGet]
        cases route <;> simp_all [ExecutionTaskState.verified, AttemptRoute.taskStatus]
      have hfind := names.find
      rw [← hid] at hfind
      have hmax := (h.shape_eq hmem hfind).2.2.2
      change task.attempts < task.maxAttempts
      rw [hmax, ← hattempt]
      exact repaired rfl
  | policyDecided task planId action decision names ready =>
    rcases ExecutionRunState.mem_replaceTask hx with rfl | ⟨hx, -⟩
    · simp [ready] at hstatus
    · exact h.repairable x hx hstatus
  | taskReady | taskStarted | taskVerifying | taskBlocked =>
    rcases ExecutionRunState.mem_replaceTask hx with rfl | ⟨hx, -⟩
    · simp at hstatus
    · exact h.repairable x hx hstatus

/-- A request of an execution leaves the state with its plan. -/
theorem BoundPlan.request {runId eventId : String} {type : ExecutionEventType}
    {payload : Mapping} (h : BoundPlan H E plan s)
    (hallowed : ExecutionRequests H plan type payload)
    (hchange : Change H eventId (("run_id", .str runId) :: payload) s type s')
    (E' : List EventEnvelope) : BoundPlan H (E ++ E') plan s' := by
  have hnodup : (s.tasks.map (·.taskId)).Nodup := by
    rw [h.map_taskId]
    exact plan.tasks.2.2.1
  have hrepairable := h.repairable_of_request hallowed hchange
  by_cases htask : isTaskEvent type = true
  · obtain ⟨t, t', hmoves⟩ := hchange.moves htask
    exact h.of_eq E' hmoves.planId hmoves.goalBaseCommit hmoves.planDigest
      (hmoves.map_shape hnodup) hrepairable
  · cases hallowed with
    | runTerminated status reason =>
      cases hchange with
      | runTerminated => exact h.of_eq E' rfl rfl rfl rfl hrepairable
    | _ => exact absurd rfl htask

end BoundPlan

/-! ### Recoverable worlds -/

/-- The stream of the run was written by the journal, and the state of the run belongs to a plan. -/
structure Executing (env : Environment) (runId : String) (plan : Plan) (w : World) : Prop where
  journaled : Journaled env runId w
  bound {s : ExecutionRunState} : Open env.host runId w.ledger s →
    BoundPlan env.host (streamOf runId w.ledger) plan s

/-- **Recoverable worlds.** The stream of the run was written by the journal, and a state with a
plan belongs to one that the stream has admitted. -/
structure Recoverable (env : Environment) (runId : String) (w : World) : Prop where
  journaled : Journaled env runId w
  bound {s : ExecutionRunState} : Open env.host runId w.ledger s → s.planId.isSome →
    ∃ plan, BoundPlan env.host (streamOf runId w.ledger) plan s

/-- The keys of the requests are distinct, and the executor does not report a verification as
passed when its workspace is not clean. -/
def Careful (env : Environment) (caller : Nat) (o : operations.Op) (w : World) : Prop :=
  Unmistaken env caller o w ∧ ∀ request evidence, o = .execute request →
    env.executor w.calls.length request = .evidence evidence → evidence.passed = true →
    evidence.workspaceClean = true

/-- An execution is given a plan that no other plan of the run shares its digest with. -/
def Genuine (env : Environment) (runId : String) (c : RunCall) (w : World) : Prop :=
  match c with
  | .execute _ plan _ _ => ∀ p, AdmittedPlan (streamOf runId w.ledger) p →
      p.planDigest env.host = plan.planDigest env.host → p = plan
  | _ => True

section Worlds

variable {env : Environment} {caller : Nat} {runId : String} {plan : Plan} {w w' : World}
  {C : operations.Op → World → Prop}

theorem mem_requested_handle {x : ExecutionEventType × JsonValue} (hx : x ∈ w.requested)
    (o : operations.Op) : x ∈ (handle env caller o w).2.requested := by
  cases o with
  | requestKey => exact List.mem_append_left _ hx
  | append e n =>
    simp only [handle]
    split <;> exact hx
  | _ => exact hx

theorem mem_requested_stopAfter {α : Type} {x : ExecutionEventType × JsonValue} (n : Nat)
    (p : Call α) (hx : x ∈ w.requested) :
    x ∈ (p.stopAfter (handle env caller) n w).requested := by
  induction n generalizing p w with
  | zero => cases p <;> exact hx
  | succ n ih =>
    cases p with
    | call o next => exact ih _ (mem_requested_handle hx o)
    | _ => exact hx

theorem mem_requested_run {α : Type} {x : ExecutionEventType × JsonValue} (p : Call α)
    (hx : x ∈ w.requested) : x ∈ (p.run (handle env caller) w).2.requested := by
  induction p generalizing w with
  | call o next ih => exact ih _ (mem_requested_handle hx o)
  | _ => exact hx

/-- The assumption holds up to where a call stops, when it holds of the executor, and the requests
that were made by then are distinct. -/
theorem reaches_careful {α : Type}
    (hclean : ∀ n request evidence, env.executor n request = .evidence evidence →
      evidence.passed = true → evidence.workspaceClean = true) (n : Nat) (p : Call α)
    (hdistinct : Distinct env.host (p.stopAfter (handle env caller) n w).requested) :
    Prog.Reaches (handle env caller) (Careful env caller) p w
      (p.stopAfter (handle env caller) n w) := by
  induction n generalizing p w with
  | zero => cases p <;> exact .stop _ _
  | succ n ih =>
    cases p with
    | call o next =>
      refine .step ⟨fun x hx y hy ↦ ?_, fun request evidence _ ↦ hclean _ _ _⟩ (ih _ hdistinct)
      exact hdistinct x (mem_requested_stopAfter n _ hx) y (mem_requested_stopAfter n _ hy)
    | _ => exact .stop _ _

/-- The assumption holds along the run of a call, when it holds of the executor, and all requests
that were made by its end are distinct. -/
theorem along_careful {α : Type}
    (hclean : ∀ n request evidence, env.executor n request = .evidence evidence →
      evidence.passed = true → evidence.workspaceClean = true) (p : Call α)
    (hdistinct : Distinct env.host (p.run (handle env caller) w).2.requested) :
    Prog.Along (handle env caller) (Careful env caller) p w := by
  induction p generalizing w with
  | call o next ih =>
    refine ⟨⟨fun x hx y hy ↦ ?_, fun request evidence _ ↦ hclean _ _ _⟩, ih _ hdistinct⟩
    exact hdistinct x (mem_requested_run (next (handle env caller o w).1) hx) y
      (mem_requested_run (next (handle env caller o w).1) hy)
  | _ => trivial

theorem Executing.quiet (h : Executing env runId plan w) (hquiet : Quiet w w') :
    Executing env runId plan w' where
  journaled := h.journaled.quiet hquiet
  bound hopen := by
    rw [hquiet.ledger] at hopen ⊢
    exact h.bound hopen

theorem Executing.recoverable (h : Executing env runId plan w) : Recoverable env runId w :=
  ⟨h.journaled, fun hopen _ ↦ ⟨plan, h.bound hopen⟩⟩

theorem Recoverable.quiet (h : Recoverable env runId w) (hquiet : Quiet w w') :
    Recoverable env runId w' where
  journaled := h.journaled.quiet hquiet
  bound hopen := by
    rw [hquiet.ledger] at hopen ⊢
    exact h.bound hopen

/-- The requests of an execution keep the state with its plan. -/
theorem admits_executing : Admits env caller runId Quiet C (Executing env runId plan)
    (ExecutionRequests env.host plan) where
  steady := .quiet (fun _ h ↦ h.journaled.readable) (fun _ _ _ _ h _ ↦ h.quiet (Quiet.ask ..))
    fun w h _ ↦ h.quiet (Quiet.tick w)
  store := by
    intro type payload actor w w₂ current e s hallowed hbuilt hJ hread hfollows hstep hinsert
    refine ⟨hJ.journaled.store hbuilt hread hfollows hstep, fun {s'} hopen ↦ ?_⟩
    obtain rfl := (hread.append hfollows hstep).unique hopen
    have haccepts := Accepts.of_built hbuilt hread hstep
    rw [World.store, streamOf_append_stored hfollows.stream]
    cases haccepts.step with
    | published t s ht => simp [runEventType?_eq_none haccepts.type] at ht
    | opened runId goal classification locality budget ht =>
      obtain rfl := Option.some.inj (haccepts.type.symm.trans ht)
      cases hallowed
    | changed t s₀ s₁ ht fields run isRun stream sequence active change =>
      obtain rfl := Option.some.inj (haccepts.type.symm.trans ht)
      rw [haccepts.payload] at change
      exact ((hJ.bound hread).request hallowed change _).noted _
  propose _ h := ⟨⟨h.journaled.readable, h.journaled.stamped, h.journaled.recorded⟩, h.bound⟩
  attempt _ h := ⟨⟨h.journaled.readable, h.journaled.stamped, h.journaled.recorded⟩, h.bound⟩

/-- The requests of the other calls keep the world recoverable: an admitted plan is the one of its
state, and the rest leaves plan and tasks alone. -/
theorem admits_recoverable : Admits env caller runId Quiet C (Recoverable env runId)
    fun type payload ↦
      PlanningRequests env type payload ∨ EndingRequest .escalated type payload where
  steady := .quiet (fun _ h ↦ h.journaled.readable) (fun _ _ _ _ h _ ↦ h.quiet (Quiet.ask ..))
    fun w h _ ↦ h.quiet (Quiet.tick w)
  store := by
    intro type payload actor w w₂ current e s hallowed hbuilt hJ hread hfollows hstep hinsert
    refine ⟨hJ.journaled.store hbuilt hread hfollows hstep, fun {s'} hopen hplanned ↦ ?_⟩
    obtain rfl := (hread.append hfollows hstep).unique hopen
    have haccepts := Accepts.of_built hbuilt hread hstep
    rw [World.store, streamOf_append_stored hfollows.stream]
    have hpayload := haccepts.payload
    cases haccepts.step with
    | published t s ht => simp [runEventType?_eq_none haccepts.type] at ht
    | opened => simp [ExecutionRunState.opened] at hplanned
    | changed t s₀ s₁ ht fields run isRun stream sequence active change =>
      obtain rfl := Option.some.inj (haccepts.type.symm.trans ht)
      rw [haccepts.payload] at change
      have hkept : s₁.planId = s₀.planId → s₁.goalBaseCommit = s₀.goalBaseCommit →
          s₁.planDigest = s₀.planDigest → s₁.tasks = s₀.tasks →
          ∃ plan, BoundPlan env.host (streamOf runId w₂.ledger ++ [w₂.ledger.stored e]) plan
            (s₁.noted (w₂.ledger.stored e)) := by
        intro hplan hbase hdigest htasks
        obtain ⟨plan, hbound⟩ := hJ.bound hread (hplan ▸ hplanned)
        refine ⟨plan, (hbound.of_eq _ hplan hbase hdigest (by rw [htasks]) ?_).noted _⟩
        rw [htasks]
        exact hbound.repairable
      rcases hallowed with hallowed | hallowed
      · cases hallowed with
        | goalAdmitted => cases change
        | replanStarted => cases change; exact hkept rfl rfl rfl rfl
        | planDraftReceived => cases change; exact hkept rfl rfl rfl rfl
        | planAdmitted plan =>
          cases change with
          | planAdmitted plan' status planGet _ _ _ _ _ _ binding =>
            have hread : planFromPayload (planPayload plan) = .ok plan' := planGet
            obtain rfl := planFromPayload_planPayload hread
            refine ⟨plan', ⟨rfl, ?_, fun t ht hrepairable ↦ ?_⟩, binding.2.2.2.1.symm, rfl, hread, _,
              List.mem_append_right _ (List.mem_singleton.mpr rfl), ht, ?_⟩
            · simp
            · simp only [noted_tasks, List.mem_map] at ht
              obtain ⟨task, -, rfl⟩ := ht
              simp [ExecutionTaskState.initial] at hrepairable
            · rw [hpayload]
              rfl
      · cases hallowed
        cases change
        exact hkept rfl rfl rfl rfl
  propose _ h := ⟨⟨h.journaled.readable, h.journaled.stamped, h.journaled.recorded⟩, h.bound⟩
  attempt _ h := ⟨⟨h.journaled.readable, h.journaled.stamped, h.journaled.recorded⟩, h.bound⟩

/-- An execution of a plan that can be read back proceeds from a world that executes the plan. -/
theorem proceeds_executing (hcareful : ∀ o w, C o w → Careful env caller o w)
    (hrun : isPlanIdentifier runId) (hplan : planFromPayload (planPayload plan) = .ok plan) :
    Proceeds env caller runId C (Executing env runId plan) plan where
  toAdmits := admits_executing
  planned h hopen := (h.bound hopen).toPlanned
  readablePlan := pathTuple_of_readBack hplan
  isPlanRunId := hrun
  fresh {w w₁} _ _ _ _ _ _ hopen hrunning hchange hquiet h₁ hC x hx := by
    rw [← hquiet.ledger] at hopen hx
    exact h₁.journaled.fresh hopen hrunning hchange (hcareful _ _ hC).1 hx
  stamps {w w₁} _ hquiet h₁ _ x hx := by
    rw [← hquiet.ledger] at hx
    exact h₁.journaled.stamped x hx _ le_rfl
  clean _ hC hanswer hpassed := (hcareful _ _ hC).2 _ _ rfl hanswer hpassed

/-- A world whose plan is the one of a genuine execution executes this plan. -/
theorem Recoverable.executing {request : PlanningRequest} {actor : String} {rounds : Nat}
    {s : ExecutionRunState} (h : Recoverable env runId w)
    (hgenuine : Genuine env runId (.execute request plan actor rounds) w)
    (hopen : Open env.host runId w.ledger s) (hplan : s.planId = some plan.planId)
    (hdigest : s.planDigest = some (plan.planDigest env.host)) :
    Executing env runId plan w ∧ planFromPayload (planPayload plan) = .ok plan := by
  obtain ⟨p, hbound⟩ := h.bound hopen (hplan ▸ rfl)
  have hsame : p.planDigest env.host = plan.planDigest env.host :=
    Option.some.inj (hbound.digest.symm.trans hdigest)
  obtain rfl := hgenuine p hbound.admitted hsame
  refine ⟨⟨h.journaled, fun {s'} hopen' ↦ ?_⟩, hbound.readBack⟩
  obtain rfl := hopen.unique hopen'
  exact hbound

/-- A genuine execution leaves a recoverable world behind. -/
theorem meets_execute_recoverable {request : PlanningRequest} {actor : String} {rounds : Nat}
    (hJ : Recoverable env runId w)
    (hgenuine : Genuine env runId (.execute request plan actor rounds) w) :
    Prog.Meets (handle env caller) Quiet C (Recoverable env runId)
      (execute env.host runId request plan actor rounds) (fun _ _ ↦ True) w := by
  have hadmits : Admits env caller runId Quiet C (Recoverable env runId) _ := admits_recoverable
  simp only [execute, Prog.bind_eq, Prog.liftM_eq]
  refine meets_check_bind.mpr ⟨hJ, fun _ ↦ ?_, fun _ ↦ trivial⟩
  refine (meets_rehydrate hadmits.steady hJ).bind ?_ fun _ _ _ _ ↦ trivial
  rintro s w₁ hJ₁ ⟨hquiet, hopen⟩
  refine meets_check_bind.mpr ⟨hJ₁, fun hchecked ↦ ?_, fun _ ↦ trivial⟩
  obtain ⟨-, hplan, hdigest⟩ := hchecked
  have hgenuine₁ : Genuine env runId (.execute request plan actor rounds) w₁ := by
    unfold Genuine
    rw [hquiet.ledger]
    exact hgenuine
  have hexecuting := (hJ₁.executing hgenuine₁ hopen hplan hdigest).1
  have hguards : Guards env caller runId Quiet C _ _ request plan :=
    .of_admits (admits_executing.mono fun _ _ ↦ And.left)
  refine (Prog.Meets.of_stronger (fun _ h ↦ h.recoverable) (fun _ _ hq h _ ↦ h.quiet hq)
    (meets_executeBound hguards hexecuting)).mono fun _ _ _ _ ↦ trivial

end Worlds

/-! ### Runs -/

section Runs

variable {env : Environment} {runId : String} {C : Nat → operations.Op → World → Prop} {w : World}

/-- A public event keeps a state with its plan. -/
theorem BoundPlan.afterPublic {H : Host} {E : List EventEnvelope} {plan : Plan}
    {s : ExecutionRunState} (h : BoundPlan H E plan s) (type : RunLifecycle.RunEventType)
    (e : EventEnvelope) (E' : List EventEnvelope) :
    BoundPlan H (E ++ E') plan (s.afterPublic type e) := by
  refine h.of_eq E' rfl rfl rfl ?_ fun t ht hstatus ↦ ?_
  · simp only [ExecutionRunState.afterPublic]
    cases (publicStatus type s.status).2 with
    | none => rfl
    | some ended =>
      simp only [endTasks, List.map_map]
      refine List.map_congr_left fun t _ ↦ ?_
      simp only [Function.comp, ExecutionTaskState.endWith]
      split <;> rfl
  · simp only [ExecutionRunState.afterPublic] at ht
    cases hended : (publicStatus type s.status).2 with
    | none =>
      rw [hended] at ht
      exact h.repairable t ht hstatus
    | some ended =>
      rw [hended] at ht
      obtain ⟨x, hx, rfl⟩ := List.mem_map.mp ht
      have hne : ended ≠ .repairable := by
        cases type <;> simp_all [publicStatus]
        all_goals subst hended; decide
      unfold ExecutionTaskState.endWith at hstatus
      split at hstatus <;> simp_all

/-- A run starts in a recoverable world. -/
theorem Unopened.recoverable (h : Unopened env runId w) : Recoverable env runId w := by
  have hpublic := public_of_project_none h.readable.state
  refine ⟨⟨⟨_, h.readable⟩, h.stamped, fun E e E' hsplit ↦ ?_⟩, fun hopen ↦ ?_⟩
  · have he : e ∈ streamOf runId w.ledger := by simp [hsplit]
    exact .published (hpublic e he) (h.keys e he)
  · exact absurd (h.readable.state_unique hopen) nofun

/-- The events of other writers keep a world recoverable. -/
theorem Recoverable.publish (h : Recoverable env runId w) {e : EventEnvelope}
    (hforeign : Foreign env runId w e) : Recoverable env runId (w.publish e) := by
  have hread := hforeign.readable h.journaled.readable
  have hstamped : ∀ x ∈ (w.publish e).ledger, ∀ n, w.stamped ≤ n →
      x.eventId ≠ (env.stamps n).eventId := by
    intro x hx n hn
    rcases List.mem_append.mp hx with hx | hx
    · exact h.journaled.stamped x hx n hn
    · rw [List.mem_singleton.mp hx]
      exact hforeign.stamped n hn
  rcases hforeign.streamOf_publish with hsame | ⟨hgrown, htype, hstep⟩
  · refine ⟨⟨hread, hstamped, fun E x E' hsplit ↦ ?_⟩, fun hopen hplan ↦ ?_⟩
    · exact h.journaled.recorded E x E' (hsame ▸ hsplit)
    · rw [hsame]
      exact h.bound ⟨hopen.isRun, hsame ▸ hopen.valid, hsame ▸ hopen.state⟩ hplan
  · obtain ⟨t, ht⟩ := Option.isSome_iff_exists.mp htype
    refine ⟨⟨hread, hstamped, fun E x E' hsplit ↦ ?_⟩, fun {s'} hopen hplan ↦ ?_⟩
    · rw [hgrown] at hsplit
      rcases History.concat_eq_split hsplit with ⟨rfl, rfl, rfl⟩ | ⟨rest, hrest, -⟩
      · have hstream : x.streamId = "run:" ++ runId := by
          by_contra hne
          have hsame : streamOf runId w.ledger ++ [x] = streamOf runId w.ledger :=
            hgrown.symm.trans (Ledger.readStream_append_of_ne hne)
          simp at hsame
        exact .published (executionEventType?_eq_none ht) (hforeign.stream hstream).2.1
      · exact h.journaled.recorded E x rest hrest
    · obtain ⟨state, hstate⟩ := h.journaled.readable
      have hopen' := hopen.state
      rw [hgrown, project_concat] at hopen'
      obtain ⟨before, hbefore, hstep⟩ := hopen'
      rw [hgrown]
      cases hstep with
      | opened _ _ _ _ _ htype' => simp [executionEventType?_eq_none ht] at htype'
      | changed _ _ _ htype' => simp [executionEventType?_eq_none ht] at htype'
      | published t s _ =>
        obtain rfl := hstate.state.symm.trans hbefore |> Except.ok.inj
        obtain ⟨plan, hbound⟩ := h.bound hstate hplan
        exact ⟨plan, hbound.afterPublic t e _⟩

/-- **Recovery.** The calls of a run leave a recoverable world behind, wherever they are stopped. -/
theorem Runs.recoverable (h : Runs env runId C (Genuine env runId) w) : Recoverable env runId w := by
  refine h.invariant (fun w hunopened ↦ ?_) (fun caller c w hJ hstart ↦ ?_) fun w e hJ hforeign ↦ ?_
  · exact hunopened.recoverable
  · have hadmits : Admits env caller runId Quiet (C caller) (Recoverable env runId) _ :=
      admits_recoverable
    cases c with
    | execute request plan actor rounds =>
      exact (meets_execute_recoverable hJ hstart).bind
        (fun _ _ hJ' _ ↦ Prog.meets_done.mpr ⟨hJ', trivial⟩) fun _ _ _ _ ↦ trivial
    | compileAndAdmit request actor previous providerBudget =>
      exact Prog.keeps_bind (keeps_compileAndAdmit hadmits fun _ _ ↦ .inl)
        (fun _ ↦ Prog.keeps_done _) w hJ
    | reconcileIncompletePlanning actor =>
      exact Prog.keeps_bind (keeps_reconcileIncompletePlanning hadmits (.inr (.runTerminated _)))
        (fun _ ↦ Prog.keeps_done _) w hJ
    | exhaustReplanBudget actor =>
      exact Prog.keeps_bind (keeps_exhaustReplanBudget hadmits (.inr (.runTerminated _)))
        (fun _ ↦ Prog.keeps_done _) w hJ
    | exhaustProviderBudget actor =>
      exact Prog.keeps_bind (keeps_exhaustProviderBudget hadmits (.inr (.runTerminated _)))
        (fun _ ↦ Prog.keeps_done _) w hJ
  · exact hJ.publish hforeign

/-- An execution of a state that it can resume ends the run. -/
theorem Executing.execute_finishes {request : PlanningRequest} {plan : Plan} {actor : String}
    {rounds caller : Nat} {s : ExecutionRunState} (h : Executing env runId plan w)
    (hplan : planFromPayload (planPayload plan) = .ok plan)
    (hopen : Open env.host runId w.ledger s)
    (hstatus : s.status = .running ∨ isOutcome s.status) (hrun : request.runId = runId)
    (hbound : boundToRequest env.host request s ∧ s.planId = some plan.planId ∧
      s.planDigest = some (plan.planDigest env.host))
    (hactor : isBlank actor = false) (hrounds : 3 ≤ rounds)
    (hresumable : s.status = .running → Resumable request plan s)
    (halong : Prog.Along (handle env caller) (Careful env caller)
      (execute env.host runId request plan actor rounds) w) :
    let ended := (execute env.host runId request plan actor rounds).run (handle env caller) w
    ∃ s', ended.1 = .ok s' ∧ EndsRun env runId s' ended.2 := by
  have hproceeds : Proceeds env caller runId (Careful env caller) (Executing env runId plan) plan :=
    proceeds_executing (fun _ _ ↦ id) (hrun ▸ request.identifiers.2) hplan
  suffices hmeets : Prog.Meets (handle env caller) Quiet (Careful env caller)
      (Executing env runId plan) (execute env.host runId request plan actor rounds)
      (fun r w' ↦ ∃ s', r = .ok s' ∧ EndsRun env runId s' w') w from
    hmeets.of_run Quiet.refl halong
  simp only [execute, Prog.bind_eq, Prog.liftM_eq]
  refine meets_check_bind.mpr ⟨h, fun _ ↦ ?_, fun hne ↦ absurd hrun hne⟩
  refine (meets_state hproceeds h hopen).bind ?_ (by simp)
  rintro _ w₁ hexecuting₁ ⟨⟨⟩, -, -, hopen₁⟩
  refine meets_check_bind.mpr ⟨hexecuting₁, fun _ ↦ ?_, fun hne ↦ absurd hbound hne⟩
  exact meets_executeBound_open hproceeds hactor hrounds hexecuting₁ hopen₁ hstatus hresumable

/-- **Executions of a recovered run.** An execution that is given the plan of the run, and that
resumes a state it can resume, returns with the run ended, wherever the calls before it were
stopped. -/
theorem Runs.execute_ends {request : PlanningRequest} {plan : Plan} {actor : String}
    {rounds caller : Nat} {s : ExecutionRunState}
    (h : Runs env runId (Careful env) (Genuine env runId) w)
    (hgenuine : Genuine env runId (.execute request plan actor rounds) w)
    (hopen : Open env.host runId w.ledger s)
    (hstatus : s.status = .running ∨ isOutcome s.status)
    (hrun : request.runId = runId)
    (hbound : boundToRequest env.host request s ∧ s.planId = some plan.planId ∧
      s.planDigest = some (plan.planDigest env.host))
    (hactor : isBlank actor = false) (hrounds : 3 ≤ rounds)
    (hresumable : s.status = .running → Resumable request plan s)
    (halong : Prog.Along (handle env caller) (Careful env caller)
      (execute env.host runId request plan actor rounds) w) :
    let ended := (execute env.host runId request plan actor rounds).run (handle env caller) w
    ∃ s', ended.1 = .ok s' ∧ Open env.host runId ended.2.ledger s' ∧ isOutcome s'.status := by
  obtain ⟨hexecuting, hplan⟩ := h.recoverable.executing hgenuine hopen hbound.2.1 hbound.2.2
  exact hexecuting.execute_finishes hplan hopen hstatus hrun hbound hactor hrounds hresumable halong

/-! ### Sample runs -/

namespace Sample

/-- The plan of the sample run is the only one with its digest. -/
theorem genuine {w : World} {env : Environment} {actor : String} {rounds : Nat}
    (h : ∀ e ∈ streamOf "run-1" w.ledger, executionEventType? e = some .planAdmitted →
      e.payload.get "plan" = planPayload plan) :
    Genuine env "run-1" (.execute request plan actor rounds) w := by
  rintro p ⟨e, he, htype, hpayload⟩ -
  have hsame : planPayload p = planPayload plan := hpayload.symm.trans (h e he htype)
  have hread : (planFromPayload (planPayload plan)).isOk = true := by decide +kernel
  cases hr : planFromPayload (planPayload plan) with
  | error => simp [hr, Except.isOk, Except.toBool] at hread
  | ok r =>
    obtain rfl := planFromPayload_planPayload hr
    rw [← hsame] at hr
    exact (planFromPayload_planPayload hr).symm

/-- The surroundings in which the attempt fails. -/
def failing : Environment := environment (result 1 (some 1)) failed

/-- The state belongs to the request and the plan of the sample run, which runs. -/
def resumes (s : ExecutionRunState) : Bool :=
  s.status = .running ∧ boundToRequest host request s ∧ s.planId = some plan.planId ∧
    s.planDigest = some (plan.planDigest host)

/-- What the resumed executions of the frugal and the failing run start from, and do. -/
theorem recovery_checked :
    (opensWith host (executed frugal 55).ledger (fun s ↦
        resumes s && s.tasks.all fun t ↦ decide (t.status = .succeeded)) = true ∧
      (∀ e ∈ streamOf "run-1" (planned frugal).ledger, executionEventType? e = some .planAdmitted →
        e.payload.get "plan" = planPayload plan) ∧
      (∀ e ∈ streamOf "run-1" (executed frugal 55).ledger,
        executionEventType? e = some .planAdmitted → e.payload.get "plan" = planPayload plan) ∧
      (((execute frugal.host "run-1" request plan "actor-1" 3).run (handle frugal 2)
        (executed frugal 55)).2.requested.map Prod.fst).Nodup) ∧
    opensWith host (executed failing 55).ledger resumes = true ∧
      ((execute failing.host "run-1" request plan "actor-1" 3).run (handle failing 2)
        (executed failing 55)).1 = .error (.runtime .invalidExecutionTransition) := by
  -- One evaluation for each of the two runs.
  refine ⟨?frugal, ?failing⟩
  case frugal => decide +kernel
  case failing => decide +kernel

example : isOutcome .running = false := by decide +kernel

end Sample

end Runs

/-- The law on the frugal run, which was stopped right after its attempt was verified. -/
theorem execute_ends_sample :
    let resumed := (execute Sample.frugal.host "run-1" Sample.request Sample.plan "actor-1" 3).run
      (handle Sample.frugal 2) (Sample.executed Sample.frugal 55)
    ∃ s', resumed.1 = .ok s' ∧ Open Sample.frugal.host "run-1" resumed.2.ledger s' ∧
      isOutcome s'.status := by
  obtain ⟨hs, hplanned, hexecuted, htypes⟩ := Sample.recovery_checked.1
  obtain ⟨s, hopen, hs⟩ := Sample.exists_open hs
  simp only [Sample.resumes, Bool.and_eq_true, decide_eq_true_eq, List.all_eq_true] at hs
  obtain ⟨⟨hrunning, hbound⟩, hsucceeded⟩ := hs
  have hclean : ∀ n request evidence, Sample.frugal.executor n request = .evidence evidence →
      evidence.passed = true → evidence.workspaceClean = true := by
    rintro _ _ _ ⟨⟩ _
    rfl
  have hdistinct := distinct_of_types (H := Sample.host) htypes
  have hexecuted_distinct : Distinct Sample.host (Sample.executed Sample.frugal 55).requested :=
    fun x hx y hy ↦ hdistinct x (mem_requested_run _ hx) y (mem_requested_run _ hy)
  have hplanned_distinct : Distinct Sample.host (Sample.planned Sample.frugal).requested :=
    fun x hx y hy ↦ hexecuted_distinct x (mem_requested_stopAfter _ _ hx) y
      (mem_requested_stopAfter _ _ hy)
  have hruns : Runs Sample.frugal "run-1" (Careful Sample.frugal) (Genuine Sample.frugal "run-1")
      (Sample.executed Sample.frugal 55) :=
    .call 1 Sample.execution (.call 0 Sample.planning (.start _ (Sample.unopened _ _)) trivial
      (reaches_careful hclean _ _ hplanned_distinct)) (Sample.genuine hplanned)
      (reaches_careful hclean _ _ hexecuted_distinct)
  have hrun : Sample.request.runId = "run-1" := rfl
  refine hruns.execute_ends (Sample.genuine hexecuted) hopen (.inl hrunning) hrun hbound
    Sample.isBlank_actor le_rfl (fun _ ↦ ?_) (along_careful hclean _ hdistinct)
  have hblocked : s.tasks.find? (fun t ↦ t.status = .blocked) = none := by
    refine List.find?_eq_none.mpr fun t ht ↦ ?_
    simp [hsucceeded t ht]
  simp only [Resumable, hblocked]
  exact .inr fun task _ t ht hne ↦
    absurd (hsucceeded t (ExecutionRunState.mem_of_find ht).1) hne

/-- The execution of the sample plan raises, when it resumes the run whose failed attempt was
verified, and whose end was not recorded. -/
theorem not_always_execute_ends : ¬ ∀ (env : Environment) (runId : String) (w : World)
    (request : PlanningRequest) (plan : Plan) (actor : String) (rounds caller : Nat)
    (s : ExecutionRunState), Runs env runId (fun _ _ _ ↦ True) (fun _ _ ↦ True) w →
    Open env.host runId w.ledger s → s.status = .running → request.runId = runId →
    boundToRequest env.host request s ∧ s.planId = some plan.planId ∧
      s.planDigest = some (plan.planDigest env.host) → isBlank actor = false → 3 ≤ rounds →
    ((execute env.host runId request plan actor rounds).run (handle env caller) w).1 ≠
      .error (.runtime .invalidExecutionTransition) := by
  intro h
  have hruns : Runs Sample.failing "run-1" (fun _ _ _ ↦ True) (fun _ _ ↦ True)
      (Sample.executed Sample.failing 55) :=
    ((Runs.start _ (Sample.unopened _ _)).stopAfter 0 (c := Sample.planning) trivial 100).stopAfter
      1 (c := Sample.execution) trivial 55
  obtain ⟨s, hopen, hs⟩ := Sample.exists_open Sample.recovery_checked.2.1
  simp only [Sample.resumes, decide_eq_true_eq] at hs
  exact h Sample.failing "run-1" _ Sample.request Sample.plan "actor-1" 3 2 s hruns hopen hs.1 rfl
    hs.2 Sample.isBlank_actor le_rfl Sample.recovery_checked.2.2

end Blackcell.Orchestration.ExecutionRuntime
