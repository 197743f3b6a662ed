import Blackcell.Orchestration.ExecutionRuntime.Guard

/-!
# The budget of a run that succeeds

The budget of a run is checked right after an attempt was verified. A call that is stopped in
between leaves a run whose attempts may have used more than the budget, and when all tasks of the
plan are done, the call that resumes the run does not check the budget again: it ends the run with
success. A run in which no call is resumed in this state succeeds within its budget.

## Main definitions

* `attemptsUsage`, `WithinBudget` : the recorded usage of the verified attempts.
* `SucceedsWithinBudget` : a run that ended with success used no more than its budget.
* `Unspent` : the calls that do not resume a finished run that has overdrawn its budget.

## Main results

* `Runs.succeedsWithinBudget` : a run of such calls succeeds within its budget.
-/

namespace Blackcell.Orchestration.ExecutionRuntime

open Blackcell.Kernel Blackcell.Gateway Blackcell.Orchestration.ExecutionPlan

/-! ### Recorded usage -/

/-- The usage that a payload records; usage that is not known counts as none. -/
def recordedUsage (v : JsonValue) : Nat := (v.int?.getD 0).toNat

/-- The event verifies an attempt. -/
def isVerification (e : EventEnvelope) : Bool := executionEventType? e = some .taskVerified

/-- The usage that the verified attempts of a stream have recorded under a field. -/
def attemptsUsage (E : List EventEnvelope) (field : String) : Nat :=
  ((E.filter isVerification).map fun e ↦ recordedUsage (e.payload.get field)).sum

/-- The verified attempts of a stream have used no more than a budget. -/
structure WithinBudget (E : List EventEnvelope) (budget : GatewayBudget) : Prop where
  inputTokens : attemptsUsage E "input_tokens" ≤ budget.maxInputTokens
  outputTokens : attemptsUsage E "output_tokens" ≤ budget.maxOutputTokens
  latencyMs : attemptsUsage E "latency_ms" ≤ budget.maxLatencyMs
  costMicrousd : attemptsUsage E "cost_microusd" ≤ budget.maxCostMicrousd

/-- The event ends the run with success. -/
def recordsSuccess (e : EventEnvelope) : Prop :=
  executionEventType? e = some .runTerminated ∧
    e.payload.get "status" = .str (StrEnum.value RunLifecycleStatus.succeeded)

instance : DecidablePred recordsSuccess := fun _ ↦ inferInstanceAs (Decidable (_ ∧ _))

/-- **Success within the budget.** When a terminal event of the run records success, the verified
attempts of the run have used no more than the budget that was admitted with the goal. -/
def SucceedsWithinBudget (E : List EventEnvelope) : Prop :=
  (∃ e ∈ E, recordsSuccess e) → ∀ g ∈ E, executionEventType? g = some .goalAdmitted →
    ∀ budget, gatewayBudget (g.payload.get "budget") = .ok budget → WithinBudget E budget

section Usage

variable {E : List EventEnvelope} {e : EventEnvelope} {budget : GatewayBudget}

@[simp] theorem recordedUsage_ofInteger? (n : Option Nat) :
    recordedUsage (ofInteger? n) = n.getD 0 := by
  cases n <;> simp [recordedUsage, ofInteger?, JsonValue.int?]

@[simp] theorem recordedUsage_int (n : Nat) : recordedUsage (.int n) = n := by
  simp [recordedUsage, JsonValue.int?]

theorem attemptsUsage_append_of_ne (h : executionEventType? e ≠ some .taskVerified)
    (field : String) : attemptsUsage (E ++ [e]) field = attemptsUsage E field := by
  simp [attemptsUsage, isVerification, h]

theorem attemptsUsage_append_verification (h : executionEventType? e = some .taskVerified)
    (field : String) :
    attemptsUsage (E ++ [e]) field =
      attemptsUsage E field + recordedUsage (e.payload.get field) := by
  simp [attemptsUsage, isVerification, h]

theorem withinBudget_append_of_ne (h : executionEventType? e ≠ some .taskVerified) :
    WithinBudget (E ++ [e]) budget ↔ WithinBudget E budget := by
  constructor
  · rintro ⟨h1, h2, h3, h4⟩
    simp only [attemptsUsage_append_of_ne h] at h1 h2 h3 h4
    exact ⟨h1, h2, h3, h4⟩
  · rintro ⟨h1, h2, h3, h4⟩
    constructor <;> rw [attemptsUsage_append_of_ne h] <;> assumption

end Usage

/-! ### The recorded usage and the state -/

section Tally

variable {H : Host} {E : List EventEnvelope} {e : EventEnvelope} {s s' : ExecutionRunState}

/-- What a state counts covers the verified attempts, and its budget is the admitted one. -/
structure Tally (E : List EventEnvelope) (s : ExecutionRunState) : Prop where
  inputTokens : attemptsUsage E "input_tokens" ≤ s.inputTokens
  outputTokens : attemptsUsage E "output_tokens" ≤ s.outputTokens
  latencyMs : attemptsUsage E "latency_ms" ≤ s.latencyMs
  costMicrousd : attemptsUsage E "cost_microusd" ≤ s.costMicrousd
  budget : ∀ g ∈ E, executionEventType? g = some .goalAdmitted →
    gatewayBudget (g.payload.get "budget") = .ok s.budget

theorem Tally.withinBudget (h : Tally E s) (hbudget : budgetOverdrawn s.budget s = false) :
    WithinBudget E s.budget := by
  simp only [budgetOverdrawn, Bool.or_eq_false_iff, decide_eq_false_iff_not, not_lt] at hbudget
  obtain ⟨⟨⟨h1, h2⟩, h3⟩, h4⟩ := hbudget
  exact ⟨h.inputTokens.trans h1, h.outputTokens.trans h2, h.latencyMs.trans h3,
    h.costMicrousd.trans h4⟩

/-- An event that verifies no attempt leaves the tally, when it lowers no count. -/
theorem Tally.append_of_ne (h : Tally E s) (hverified : executionEventType? e ≠ some .taskVerified)
    (hgoal : executionEventType? e ≠ some .goalAdmitted) (hinput : s.inputTokens ≤ s'.inputTokens)
    (houtput : s.outputTokens ≤ s'.outputTokens) (hlatency : s.latencyMs ≤ s'.latencyMs)
    (hcost : s.costMicrousd ≤ s'.costMicrousd) (hbudget : s'.budget = s.budget) :
    Tally (E ++ [e]) s' := by
  constructor
  · rw [attemptsUsage_append_of_ne hverified]
    exact h.inputTokens.trans hinput
  · rw [attemptsUsage_append_of_ne hverified]
    exact h.outputTokens.trans houtput
  · rw [attemptsUsage_append_of_ne hverified]
    exact h.latencyMs.trans hlatency
  · rw [attemptsUsage_append_of_ne hverified]
    exact h.costMicrousd.trans hcost
  · intro g hg htype
    rw [hbudget]
    rcases List.mem_append.mp hg with hg | hg
    · exact h.budget g hg htype
    · obtain rfl := List.mem_singleton.mp hg
      exact absurd htype hgoal

/-- A change of the generated run keeps the tally. -/
theorem Tally.change {type : ExecutionEventType} (h : Tally E s)
    (htype : executionEventType? e = some type) (hchange : Change H e.eventId e.payload s type s') :
    Tally (E ++ [e]) (s'.noted e) := by
  cases hchange with
  | taskVerified task workspace route evidence names status workspaceGet nonempty active routeGet
    exitGet checksGet cleanGet newGet signatureGet countGet classGet summaryGet artifactsGet
    progressGet inputGet outputGet costGet headGet latencyGet =>
    constructor
    · rw [attemptsUsage_append_verification htype, inputGet, recordedUsage_ofInteger?]
      exact Nat.add_le_add_right h.inputTokens _
    · rw [attemptsUsage_append_verification htype, outputGet, recordedUsage_ofInteger?]
      exact Nat.add_le_add_right h.outputTokens _
    · rw [attemptsUsage_append_verification htype, latencyGet, recordedUsage_int]
      exact Nat.add_le_add_right h.latencyMs _
    · rw [attemptsUsage_append_verification htype, costGet, recordedUsage_ofInteger?]
      exact Nat.add_le_add_right h.costMicrousd _
    · intro g hg hgoal
      rcases List.mem_append.mp hg with hg | hg
      · exact h.budget g hg hgoal
      · obtain rfl := List.mem_singleton.mp hg
        simp [htype] at hgoal
  | planDraftReceived =>
    refine h.append_of_ne (by simp [htype]) (by simp [htype]) ?_ ?_ ?_ ?_ rfl <;>
      exact Nat.le_add_right _ _
  | _ => exact h.append_of_ne (by simp [htype]) (by simp [htype]) le_rfl le_rfl le_rfl le_rfl rfl

/-- **The tally.** A stream without a generated run holds none of its events; the state of an open
run covers the verified attempts. -/
theorem tally_of_project {state : Option ExecutionRunState} (h : project H E = .ok state) :
    (state = none → ∀ e ∈ E, executionEventType? e = none) ∧ ∀ s ∈ state, Tally E s := by
  refine History.invariant (fun E state ↦
    (state = none → ∀ e ∈ E, executionEventType? e = none) ∧ ∀ s ∈ state, Tally E s)
    (by simp) ?_ h
  rintro E e before state ⟨hnone, htally⟩ hstep
  cases apply_eq_ok.mp hstep with
  | unopened t type stream =>
    refine ⟨fun _ x hx ↦ ?_, by simp⟩
    rcases List.mem_append.mp hx with hx | hx
    · exact hnone rfl x hx
    · rw [List.mem_singleton.mp hx]
      exact executionEventType?_eq_none type
  | published t s type =>
    refine ⟨nofun, ?_⟩
    rintro _ ⟨⟩
    have htype := executionEventType?_eq_none type
    exact (htally s rfl).append_of_ne (by simp [htype]) (by simp [htype]) le_rfl le_rfl le_rfl
      le_rfl rfl
  | opened runId goal classification locality budget type fields run isRun stream goalGet idGet
    nonempty digestGet classificationGet localityGet budgetGet =>
    refine ⟨nofun, ?_⟩
    rintro _ ⟨⟩
    have hempty : E.filter isVerification = [] := by
      refine List.filter_eq_nil_iff.mpr fun x hx ↦ ?_
      simp [isVerification, hnone rfl x hx]
    have hzero : ∀ field, attemptsUsage (E ++ [e]) field = 0 := by
      intro field
      rw [attemptsUsage_append_of_ne (by simp [type])]
      simp [attemptsUsage, hempty]
    refine ⟨(hzero _).le, (hzero _).le, (hzero _).le, (hzero _).le, fun g hg hgoal ↦ ?_⟩
    rcases List.mem_append.mp hg with hg | hg
    · simp [hnone rfl g hg] at hgoal
    · rw [List.mem_singleton.mp hg]
      exact budgetGet
  | changed t s s' type fields run isRun stream sequence active change =>
    refine ⟨nofun, ?_⟩
    rintro _ ⟨⟩
    exact (htally s rfl).change type change

end Tally

/-! ### Finished runs -/

section Finished

variable {H : Host} {e : EventEnvelope} {s s' : ExecutionRunState}

/-- When all tasks are done after one of them was replaced, the new task is done. -/
theorem succeeded_of_replaceTask {t t' : ExecutionTaskState}
    (h : (s.replaceTask t').allSucceeded = true) (hfind : s.find t.taskId = some t)
    (hid : t'.taskId = t.taskId) : t'.status = .succeeded := by
  rw [← hid] at hfind
  have hmem := (ExecutionRunState.mem_of_find (ExecutionRunState.find_replaceTask_self hfind)).1
  simp only [ExecutionRunState.allSucceeded, Bool.and_eq_true, List.all_eq_true,
    decide_eq_true_eq] at h
  exact h.2 t' hmem

/-- Only the verification of an attempt finishes the tasks of a plan. -/
theorem Change.allSucceeded {type : ExecutionEventType} {eventId : String} {payload : Mapping}
    (h : Change H eventId payload s type s') (htype : type ≠ .taskVerified)
    (hall : s'.allSucceeded = true) : s.allSucceeded = true ∧ s'.budget = s.budget := by
  cases h with
  | taskVerified => exact absurd rfl htype
  | replanStarted | planDraftReceived | runTerminated => exact ⟨hall, rfl⟩
  | planAdmitted plan =>
    -- The tasks of a plan that was just admitted wait.
    simp only [ExecutionRunState.allSucceeded, Bool.and_eq_true, decide_eq_true_eq, ne_eq,
      List.map_eq_nil_iff, List.all_map, List.all_eq_true, Function.comp,
      ExecutionTaskState.initial, reduceCtorEq, imp_false] at hall
    exact absurd (List.eq_nil_iff_forall_not_mem.mpr hall.2) hall.1
  | policyDecided task planId action decision names status =>
    exact absurd (succeeded_of_replaceTask hall names.find rfl) (by simp [status])
  | taskReady task names =>
    exact absurd (succeeded_of_replaceTask hall names.find rfl) (by simp)
  | taskStarted task planId baseCommit decisionId actionDigest names =>
    exact absurd (succeeded_of_replaceTask hall names.find rfl) (by simp)
  | taskVerifying task workspace names =>
    exact absurd (succeeded_of_replaceTask hall names.find rfl) (by simp)
  | taskBlocked task reason names =>
    exact absurd (succeeded_of_replaceTask hall names.find rfl) (by simp)

/-- A public event does not finish the tasks of a plan. -/
theorem allSucceeded_of_endTasks {ended : Option TaskLifecycleStatus}
    (hended : ended ≠ some .succeeded)
    (hall : ({ s with tasks := endTasks ended s.tasks }).allSucceeded = true) :
    s.allSucceeded = true := by
  cases ended with
  | none => exact hall
  | some status =>
    simp only [ExecutionRunState.allSucceeded, endTasks, Bool.and_eq_true, decide_eq_true_eq, ne_eq,
      List.map_eq_nil_iff, List.all_map, List.all_eq_true, Function.comp] at hall ⊢
    refine ⟨hall.1, fun t ht ↦ ?_⟩
    have hstatus := hall.2 t ht
    unfold ExecutionTaskState.endWith at hstatus
    split at hstatus
    · assumption
    · exact absurd (congrArg some hstatus) hended

theorem publicStatus_ne (t : RunLifecycle.RunEventType) (status : RunLifecycleStatus) :
    (publicStatus t status).2 ≠ some .succeeded := by
  cases t <;> simp [publicStatus]

end Finished

/-! ### Invariants of the stream -/

section Invariants

variable {env : Environment} {runId : String} {H : Host} {E : List EventEnvelope}
  {e : EventEnvelope} {s s' : ExecutionRunState} {current : Option ExecutionRunState}
  {type : ExecutionEventType} {payload : Mapping}

/-- A run that has recorded success has ended within its budget. -/
def Bounded (H : Host) (E : List EventEnvelope) : Prop :=
  ∀ s, project H E = .ok (some s) → (∃ e ∈ E, recordsSuccess e) →
    isFinal s.status ∧ WithinBudget E s.budget

/-- A run whose tasks are done is within its budget. -/
def Safe (H : Host) (E : List EventEnvelope) : Prop :=
  ∀ s, project H E = .ok (some s) → s.allSucceeded → WithinBudget E s.budget

/-- The budget of the run is the one of a request. -/
def Budgeted (H : Host) (budget : GatewayBudget) (E : List EventEnvelope) : Prop :=
  ∀ s, project H E = .ok (some s) → s.budget = budget

/-- What holds of the state after the event holds of the state of the stream that it ends. -/
theorem forall_project_concat {P : ExecutionRunState → Prop} (hbefore : project H E = .ok current)
    (hP : ∀ s, Step H e current (some s) → P s) :
    ∀ s, project H (E ++ [e]) = .ok (some s) → P s := by
  intro s hs
  obtain ⟨before, hbefore', hstep⟩ := project_concat.mp hs
  obtain rfl := Except.ok.inj (hbefore.symm.trans hbefore')
  exact hP s hstep

/-- An event keeps a run bounded, if a recorded success finds it within its budget. -/
theorem Bounded.concat (h : Bounded H E) (hbefore : project H E = .ok current)
    (hsuccess : ∀ s, current = some s → s.allSucceeded → recordsSuccess e →
      WithinBudget E s.budget) : Bounded H (E ++ [e]) := by
  refine forall_project_concat hbefore fun s hstep hex ↦ ?_
  cases hstep with
  | published t s₀ ht isRun stream sequence unchanged =>
    have hnone := executionEventType?_eq_none ht
    obtain ⟨x, hx, hrecords⟩ := hex
    rcases List.mem_append.mp hx with hx | hx
    · obtain ⟨hfinal, hwithin⟩ := h s₀ hbefore ⟨x, hx, hrecords⟩
      refine ⟨?_, (withinBudget_append_of_ne (by simp [hnone])).mpr hwithin⟩
      simp only [ExecutionRunState.afterPublic, unchanged hfinal]
      exact hfinal
    · rw [List.mem_singleton.mp hx] at hrecords
      simp [recordsSuccess, hnone] at hrecords
  | opened runId goal classification locality budget type =>
    obtain ⟨x, hx, hrecords⟩ := hex
    rcases List.mem_append.mp hx with hx | hx
    · have hnone := (tally_of_project hbefore).1 rfl x hx
      simp [recordsSuccess, hnone] at hrecords
    · rw [List.mem_singleton.mp hx] at hrecords
      simp [recordsSuccess, type] at hrecords
  | changed t s₀ s₁ ht fields run isRun stream sequence active change =>
    obtain ⟨x, hx, hrecords⟩ := hex
    rcases List.mem_append.mp hx with hx | hx
    · exact absurd (h s₀ hbefore ⟨x, hx, hrecords⟩).1 active
    · rw [List.mem_singleton.mp hx] at hrecords
      obtain rfl := Option.some.inj (ht.symm.trans hrecords.1)
      cases change with
      | runTerminated status reason statusGet outcome reasonGet nonempty finished =>
        have hstatus := statusGet.symm.trans hrecords.2
        rw [JsonValue.str.injEq, StrEnum.value_inj] at hstatus
        subst hstatus
        refine ⟨rfl, (withinBudget_append_of_ne (by simp [ht])).mpr ?_⟩
        exact hsuccess s₀ rfl (finished rfl) hrecords

/-- Other requests than a terminal event keep a run bounded. -/
theorem Bounded.request (h : Bounded env.host E)
    (haccepts : Accepts env runId E type payload current e s')
    (htype : type = .runTerminated → payload.get "status" ≠
      .str (StrEnum.value RunLifecycleStatus.succeeded)) : Bounded env.host (E ++ [e]) := by
  refine h.concat haccepts.state fun _ _ _ hrecords ↦ ?_
  obtain rfl := Option.some.inj (haccepts.type.symm.trans hrecords.1)
  have hstatus := hrecords.2
  rw [haccepts.payload] at hstatus
  exact absurd hstatus (htype rfl)

/-- The budget of a run does not change. -/
theorem Budgeted.concat {budget : GatewayBudget} (h : Budgeted H budget E)
    (hbefore : project H E = .ok current) (htype : executionEventType? e ≠ some .goalAdmitted) :
    Budgeted H budget (E ++ [e]) := by
  refine forall_project_concat hbefore fun s' hstep ↦ ?_
  cases hstep with
  | opened runId goal classification locality budget type => exact absurd type htype
  | published t s => exact h s hbefore
  | changed t s s' ht fields run isRun stream sequence active change =>
    cases change <;> exact h s hbefore

/-- Other events than the verification of an attempt keep a run safe. -/
theorem Safe.concat (h : Safe H E) (hbefore : project H E = .ok current)
    (htype : executionEventType? e ≠ some .taskVerified) : Safe H (E ++ [e]) := by
  refine forall_project_concat hbefore fun s hstep hall ↦ ?_
  rw [withinBudget_append_of_ne htype]
  cases hstep with
  | published t s₀ ht =>
    exact h s₀ hbefore (allSucceeded_of_endTasks (publicStatus_ne t _) hall)
  | opened => simp [ExecutionRunState.opened, ExecutionRunState.allSucceeded] at hall
  | changed t s₀ s₁ ht fields run isRun stream sequence active change =>
    have hne : t ≠ .taskVerified := by
      rintro rfl
      exact htype ht
    obtain ⟨hall₀, hbudget⟩ := change.allSucceeded hne hall
    rw [noted_budget, hbudget]
    exact h s₀ hbefore hall₀

end Invariants

/-! ### Runs -/

section Runs

variable {env : Environment} {caller : Nat} {runId : String} {C : operations.Op → World → Prop}
  {request : PlanningRequest} {plan : Plan} {w : World}

theorem ExecutionRequests.ne_goalAdmitted {H : Host} {type : ExecutionEventType} {payload : Mapping}
    (h : ExecutionRequests H plan type payload) : type ≠ .goalAdmitted := by
  rintro rfl
  cases h

/-- The payload of a terminal event records its status. -/
theorem status_ne_of_ne {status : RunLifecycleStatus} (reason : String)
    (h : status ≠ .succeeded) : (runTerminatedPayload status reason).get "status" ≠
      .str (StrEnum.value RunLifecycleStatus.succeeded) := by
  rw [show (runTerminatedPayload status reason).get "status" = .str (StrEnum.value status) from rfl,
    Ne, JsonValue.str.injEq, StrEnum.value_inj]
  exact h

/-- The budget of a run is an invariant of an execution, guarded by its finished tasks. -/
theorem guards_budget : Guards env caller runId Quiet C
    (OnStream env runId fun E ↦ Bounded env.host E ∧ Budgeted env.host request.budget E)
    (OnStream env runId fun E ↦
      (Bounded env.host E ∧ Budgeted env.host request.budget E) ∧ Safe env.host E)
    request plan where
  guarded := by
    refine .of_stream ?_
    rintro E type payload current e s ⟨hallowed, hne, -⟩ ⟨⟨hbounded, hbudgeted⟩, hsafe⟩ haccepts
    have hgoal : executionEventType? e ≠ some .goalAdmitted := by
      simpa [haccepts.type] using hallowed.ne_goalAdmitted
    have htype : executionEventType? e ≠ some .taskVerified := by simpa [haccepts.type] using hne
    refine ⟨⟨?_, hbudgeted.concat haccepts.state hgoal⟩, hsafe.concat haccepts.state htype⟩
    exact hbounded.concat haccepts.state fun s hs hall _ ↦ hsafe s (hs ▸ haccepts.state) hall
  ending := by
    refine .of_stream ?_
    rintro E type payload current e s ⟨status, hstatus, hallowed⟩ ⟨hbounded, hbudgeted⟩ haccepts
    cases hallowed with
    | runTerminated reason =>
      have hgoal : executionEventType? e ≠ some .goalAdmitted := by simp [haccepts.type]
      refine ⟨hbounded.request haccepts fun _ ↦ ?_, hbudgeted.concat haccepts.state hgoal⟩
      exact status_ne_of_ne reason hstatus
  weaken w h := ⟨h.1, h.2.1⟩
  stable w w' hquiet hK _ := hK.quiet hquiet
  verified allowed built holds readable follows step _ := by
    refine OnStream.store (fun e haccepts ↦ ?_) built readable follows step
    obtain ⟨-, ⟨hbounded, hbudgeted⟩, -⟩ := holds
    exact ⟨hbounded.request haccepts nofun, hbudgeted.concat haccepts.state (by
      simp [haccepts.type])⟩
  restored {w s} hJ hopen hbudget := by
    refine ⟨hJ.1, hJ.2, fun s' hs' _ ↦ ?_⟩
    obtain rfl : s = s' := by simpa using hopen.state.symm.trans hs'
    have hsame := hJ.2.2 s hs'
    rw [← hsame] at hbudget
    exact ((tally_of_project hs').2 s rfl).withinBudget hbudget

/-- **The condition.** The call does not resume a run whose tasks are all done and whose attempts
have used more than its budget. -/
def Unspent (env : Environment) (runId : String) (c : RunCall) (w : World) : Prop :=
  match c with
  | .execute request plan _ _ => ∀ s, Open env.host runId w.ledger s →
      boundToRequest env.host request s → s.planId = some plan.planId →
      s.planDigest = some (plan.planDigest env.host) → isOutcome s.status = false →
      s.allSucceeded → WithinBudget (streamOf runId w.ledger) s.budget
  | _ => True

/-- The requests of the calls that do not execute a plan keep a run bounded. -/
theorem admits_bounded : Admits env caller runId Quiet C (OnStream env runId (Bounded env.host))
    fun type payload ↦
      PlanningRequests env type payload ∨ EndingRequest .escalated type payload := by
  refine .of_stream ?_
  rintro E type payload current e s hallowed hbounded haccepts
  refine hbounded.request haccepts ?_
  rintro rfl
  rcases hallowed with hallowed | hallowed
  · cases hallowed
  · cases hallowed with
    | runTerminated reason => exact status_ne_of_ne reason (by decide)

theorem meets_execute_bounded {actor : String} {rounds : Nat}
    (hJ : OnStream env runId (Bounded env.host) w)
    (hstart : Unspent env runId (.execute request plan actor rounds) w) :
    Prog.Meets (handle env caller) Quiet C (OnStream env runId (Bounded env.host))
      (execute env.host runId request plan actor rounds) (fun _ _ ↦ True) w := by
  have hadmits : Admits env caller runId Quiet C (OnStream env runId (Bounded env.host)) _ :=
    admits_bounded
  simp only [execute, Prog.bind_eq, Prog.liftM_eq]
  refine meets_check_bind.mpr ⟨hJ, fun _ ↦ ?_, fun _ ↦ trivial⟩
  refine (meets_rehydrate hadmits.steady hJ).bind ?_ fun _ _ _ _ ↦ trivial
  rintro s w₁ hJ₁ ⟨hquiet, hopen⟩
  refine meets_check_bind.mpr ⟨hJ₁, fun hchecked ↦ ?_, fun _ ↦ trivial⟩
  obtain ⟨hbound, hplan, hdigest⟩ := hchecked
  have hopen₀ : Open env.host runId w.ledger s := by
    rw [← hquiet.ledger]
    exact hopen
  cases houtcome : isOutcome s.status with
  | true =>
    simp only [executeBound, houtcome, if_true]
    exact Prog.meets_done.mpr ⟨hJ₁, trivial⟩
  | false =>
    -- The run is bound to the budget of the request, and it is guarded by the condition.
    have hguards : Guards env caller runId Quiet C _ _ request plan := guards_budget
    refine (Prog.Meets.of_stronger (fun _ h ↦ ⟨h.1, h.2.1⟩) (fun _ _ hq h _ ↦ h.quiet hq)
      (meets_executeBound hguards ?_)).mono fun _ _ _ _ ↦ trivial
    refine ⟨hJ₁.1, ⟨hJ₁.2, fun s' hs' ↦ ?_⟩, fun s' hs' hall ↦ ?_⟩
    · obtain rfl : s = s' := by simpa using hopen.state.symm.trans hs'
      exact hbound.2.2.2
    · obtain rfl : s = s' := by simpa using hopen.state.symm.trans hs'
      rw [hquiet.ledger]
      exact hstart s hopen₀ hbound hplan hdigest houtcome hall

/-- **Success within the budget.** A run none of whose calls resumes a finished run that has
overdrawn its budget succeeds within its budget, wherever its calls are stopped. -/
theorem Runs.succeedsWithinBudget
    (h : Runs env runId (fun _ _ _ ↦ True) (Unspent env runId) w) :
    SucceedsWithinBudget (streamOf runId w.ledger) := by
  have hbounded : OnStream env runId (Bounded env.host) w := by
    refine h.invariant (fun w hunopened ↦ ?_) (fun caller c w hJ hstart ↦ ?_)
      fun w e hJ hforeign ↦ ?_
    · refine ⟨⟨_, hunopened.readable⟩, fun s hs ↦ ?_⟩
      simpa using hunopened.readable.state.symm.trans hs
    · have hadmits : Admits env caller runId Quiet (fun _ _ ↦ True)
        (OnStream env runId (Bounded env.host)) _ := admits_bounded
      cases c with
      | execute request plan actor rounds =>
        exact (meets_execute_bounded hJ hstart).bind
          (fun _ _ hJ' _ ↦ Prog.meets_done.mpr ⟨hJ', trivial⟩) fun _ _ _ _ ↦ trivial
      | compileAndAdmit request actor previous providerBudget =>
        exact Prog.keeps_bind (keeps_compileAndAdmit hadmits fun _ _ ↦ .inl)
          (fun _ ↦ Prog.keeps_done _) w hJ
      | reconcileIncompletePlanning actor =>
        exact Prog.keeps_bind (keeps_reconcileIncompletePlanning hadmits (.inr (.runTerminated _)))
          (fun _ ↦ Prog.keeps_done _) w hJ
      | exhaustReplanBudget actor =>
        exact Prog.keeps_bind (keeps_exhaustReplanBudget hadmits (.inr (.runTerminated _)))
          (fun _ ↦ Prog.keeps_done _) w hJ
      | exhaustProviderBudget actor =>
        exact Prog.keeps_bind (keeps_exhaustProviderBudget hadmits (.inr (.runTerminated _)))
          (fun _ ↦ Prog.keeps_done _) w hJ
    · refine hJ.publish hforeign fun before after hbefore htype _ ↦ ?_
      obtain ⟨t, ht⟩ := Option.isSome_iff_exists.mp htype
      refine hJ.2.concat hbefore fun _ _ _ hrecords ↦ ?_
      simp [recordsSuccess, executionEventType?_eq_none ht] at hrecords
  obtain ⟨⟨state, hread⟩, hb⟩ := hbounded
  intro hsuccess g hg hgoal budget hbudget
  cases state with
  | none =>
    have hnone := (tally_of_project hread.state).1 rfl g hg
    simp [hnone] at hgoal
  | some s =>
    have htally := (tally_of_project hread.state).2 s rfl
    obtain rfl : budget = s.budget := by simpa using hbudget.symm.trans (htally.budget g hg hgoal)
    exact (hb s hread.state hsuccess).2

end Runs

/-! ### Sample runs -/

namespace Sample

/-- The surroundings in which the attempt uses ten times the input tokens of the budget. -/
def wasteful : Environment := environment (result 1 (some 1)) (passed 1000)

/-- The wasteful run, stopped right after its attempt was verified, and executed again. -/
def resumed : World :=
  (execution.program host "run-1").stopAfter (handle wasteful 2) 100 (executed wasteful 55)

/-- The frugal run succeeds, and so does the wasteful one when it is resumed. -/
theorem spending_checked :
    ((∃ e ∈ streamOf "run-1" (executed frugal 100).ledger, recordsSuccess e) ∧
      ∀ e ∈ streamOf "run-1" (planned frugal).ledger, ¬isVerification e) ∧
    (∃ e ∈ streamOf "run-1" resumed.ledger, recordsSuccess e) ∧
      (∃ g ∈ streamOf "run-1" resumed.ledger, executionEventType? g = some .goalAdmitted ∧
        gatewayBudget (g.payload.get "budget") = .ok ⟨100, 100, 100, 100⟩) ∧
      attemptsUsage (streamOf "run-1" resumed.ledger) "input_tokens" = 1000 := by
  -- One evaluation for each of the two runs.
  refine ⟨?frugal, ?wasteful⟩
  case frugal => decide +kernel
  case wasteful => decide +kernel

example : (passed 1000).inputTokens = some 1000 := by decide +kernel

end Sample

/-- The law on the frugal run, which succeeds. -/
theorem succeedsWithinBudget_sample :
    (∃ e ∈ streamOf "run-1" (Sample.executed Sample.frugal 100).ledger, recordsSuccess e) ∧
      SucceedsWithinBudget (streamOf "run-1" (Sample.executed Sample.frugal 100).ledger) := by
  have hrecorded := Sample.spending_checked.1
  refine ⟨hrecorded.1, Runs.succeedsWithinBudget (((Runs.start _ (Sample.unopened _ _)).stopAfter 0
    (c := Sample.planning) trivial 100).stopAfter 1 (c := Sample.execution) ?_ 100)⟩
  intro s _ _ _ _ _ _
  have hzero : ∀ field,
      attemptsUsage (streamOf "run-1" (Sample.planned Sample.frugal).ledger) field = 0 := by
    intro field
    rw [attemptsUsage, List.filter_eq_nil_iff.mpr hrecorded.2]
    rfl
  change WithinBudget (streamOf "run-1" (Sample.planned Sample.frugal).ledger) s.budget
  exact ⟨(hzero _).trans_le (Nat.zero_le _), (hzero _).trans_le (Nat.zero_le _),
    (hzero _).trans_le (Nat.zero_le _), (hzero _).trans_le (Nat.zero_le _)⟩

/-- A run that is resumed right after its attempt was verified succeeds, with more input tokens than
its budget. -/
theorem not_always_succeedsWithinBudget : ¬ ∀ (env : Environment) (runId : String) (w : World),
    Runs env runId (fun _ _ _ ↦ True) (fun _ _ ↦ True) w →
      SucceedsWithinBudget (streamOf runId w.ledger) := by
  intro h
  have hruns : Runs Sample.wasteful "run-1" (fun _ _ _ ↦ True) (fun _ _ ↦ True) Sample.resumed :=
    (((Runs.start _ (Sample.unopened _ _)).stopAfter 0 (c := Sample.planning) trivial 100).stopAfter
      1 (c := Sample.execution) trivial 55).stopAfter 2 (c := Sample.execution) trivial 100
  obtain ⟨hsuccess, ⟨g, hg, hgoal, hbudget⟩, husage⟩ := Sample.spending_checked.2
  have hwithin := (h _ _ _ hruns hsuccess g hg hgoal _ hbudget).inputTokens
  rw [husage] at hwithin
  exact absurd hwithin (by decide)

end Blackcell.Orchestration.ExecutionRuntime
