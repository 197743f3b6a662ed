import Blackcell.Orchestration.ExecutionRuntime.Recovery
import Blackcell.Orchestration.ExecutionRuntime.Budget
import Blackcell.Orchestration.Planner

/-!
# Runs without a price

The shipped adapters report no cost, so that the usage of a run is not all known from its first draft
on. The gate of `execute` lets no task that writes pass while usage is not known: such a task is never
started, and a run whose plan has one does not succeed, however little of its budget it has used.

## Main definitions

* `recordsExhaustion` : the event ends the run since its budget is exhausted.
* `ComponentReached` : the usage of a kind has reached its budget.
* `Unpriced` : what holds of a run whose planner reports no cost.

## Main results

* `Runs.unpriced` : no task that writes is started.
-/

namespace Blackcell.Orchestration.ExecutionRuntime

open Blackcell.Kernel Blackcell.Gateway Blackcell.Orchestration.ExecutionPlan

/-! ### Unpriced states -/

/-- The event ends the run since its cumulative budget is exhausted. -/
def recordsExhaustion (e : EventEnvelope) : Prop :=
  executionEventType? e = some .runTerminated ∧
    e.payload.get "reason" = .str "cumulative-budget-exhausted"

instance : DecidablePred recordsExhaustion := fun _ ↦ inferInstanceAs (Decidable (_ ∧ _))

/-- The recorded usage of some kind has reached the budget of the run. -/
def ComponentReached (s : ExecutionRunState) : Prop :=
  s.budget.maxInputTokens ≤ s.inputTokens ∨ s.budget.maxOutputTokens ≤ s.outputTokens ∨
    s.budget.maxLatencyMs ≤ s.latencyMs ∨ s.budget.maxCostMicrousd ≤ s.costMicrousd

instance : DecidablePred ComponentReached := fun _ ↦ inferInstanceAs (Decidable (_ ∨ _))

/-- **Unpriced states.** The usage is not all known from the first draft on, and no task that writes
was started. -/
structure Unpriced (E : List EventEnvelope) (s : ExecutionRunState) : Prop where
  incomplete : s.planId.isSome ∨ s.pendingDraftDigest.isSome → s.costMicrousdComplete = false
  replan : s.status = .replanRequired → s.planId.isSome
  exhausted : (∃ e ∈ E, recordsExhaustion e) → s.planId.isSome
  unstarted : ∀ t ∈ s.tasks, t.allowedPaths ≠ [] → t.attempts = 0 ∧ t.status ≠ .succeeded
  succeeded : (∃ e ∈ E, recordsSuccess e) →
    isFinal s.status ∧ ∀ t ∈ s.tasks, t.allowedPaths = []

section Unpriced

variable {H : Host} {E : List EventEnvelope} {e : EventEnvelope} {s s' : ExecutionRunState}
  {t t' : ExecutionTaskState} {type : ExecutionEventType}

theorem Unpriced.providerUsageIncomplete (h : Unpriced E s) (hplan : s.planId.isSome) :
    providerUsageIncomplete s = true := by
  simp [ExecutionRuntime.providerUsageIncomplete, h.incomplete (.inl hplan)]

/-- What is asked of the event of a request: a draft has no cost, a task that is started does not
write, and a plan that is run is there when a replan is required or a budget is exhausted. -/
structure Priceless (e : EventEnvelope) (s : ExecutionRunState) (type : ExecutionEventType) :
    Prop where
  draft : type = .planDraftReceived → e.payload.get "cost_microusd" = .null
  start : type = .taskStarted → ∀ t ∈ s.tasks, e.payload.get "task_id" = .str t.taskId →
    t.allowedPaths = []
  ending : type = .runTerminated → s.planId.isSome ∨
    e.payload.get "status" ≠ .str (StrEnum.value RunLifecycleStatus.replanRequired) ∧
      e.payload.get "reason" ≠ .str "cumulative-budget-exhausted"

/-- Only the last event of a run that is not final may record its end. -/
theorem exists_mem_concat {p : EventEnvelope → Prop} (h : ∃ x ∈ E ++ [e], p x) :
    (∃ x ∈ E, p x) ∨ p e := by
  obtain ⟨x, hx, hp⟩ := h
  rcases List.mem_append.mp hx with hx | hx
  · exact .inl ⟨x, hx, hp⟩
  · exact .inr (List.mem_singleton.mp hx ▸ hp)

/-- An event that does not end the run, and leaves its plan alone, keeps what the ends of the run
say. -/
theorem Unpriced.of_eq (h : Unpriced E s) (htype : executionEventType? e = some type)
    (hend : type ≠ .runTerminated) (hactive : ¬isFinal s.status)
    (hcost : s'.planId.isSome ∨ s'.pendingDraftDigest.isSome → s'.costMicrousdComplete = false)
    (hplan : s.planId.isSome → s'.planId.isSome) (hreplan : s'.status ≠ .replanRequired ∨
      s'.status = s.status)
    (htasks : ∀ t ∈ s'.tasks, t.allowedPaths ≠ [] → t.attempts = 0 ∧ t.status ≠ .succeeded) :
    Unpriced (E ++ [e]) s' where
  incomplete := hcost
  replan hs := hplan (h.replan (by
    rcases hreplan with hne | hsame
    · exact absurd hs hne
    · exact hsame ▸ hs))
  exhausted hex := by
    rcases exists_mem_concat hex with hex | hlast
    · exact hplan (h.exhausted hex)
    · exact absurd (Option.some.inj (htype.symm.trans hlast.1)) hend
  unstarted := htasks
  succeeded hex := by
    rcases exists_mem_concat hex with hex | hlast
    · exact absurd (h.succeeded hex).1 hactive
    · exact absurd (Option.some.inj (htype.symm.trans hlast.1)) hend

/-- The tasks of a run in which one task was replaced. -/
theorem unstarted_replaceTask (h : ∀ t ∈ s.tasks, t.allowedPaths ≠ [] →
      t.attempts = 0 ∧ t.status ≠ .succeeded)
    (ht : t'.allowedPaths ≠ [] → t'.attempts = 0 ∧ t'.status ≠ .succeeded) :
    ∀ t ∈ (s.replaceTask t').tasks, t.allowedPaths ≠ [] →
      t.attempts = 0 ∧ t.status ≠ .succeeded := by
  intro x hx hwriter
  rcases ExecutionRunState.mem_replaceTask hx with rfl | ⟨hx, -⟩
  · exact ht hwriter
  · exact h x hx hwriter

/-- **Steps.** A change that is asked for without a price keeps a run unpriced. -/
theorem Unpriced.change (h : Unpriced E s) (hsound : RunSound H s)
    (htype : executionEventType? e = some type) (hactive : ¬isFinal s.status)
    (hchange : Change H e.eventId e.payload s type s') (hpriceless : Priceless e s type) :
    Unpriced (E ++ [e]) s' := by
  cases hchange with
  | replanStarted =>
    exact h.of_eq htype (by rintro ⟨⟩) hactive h.incomplete id (.inl (by rintro ⟨⟩)) h.unstarted
  | planDraftReceived draftDigest outputDigest profileId adapterId modelId inputTokens outputTokens
    costMicrousd latencyMs status draft draftGet isDraft outputGet isOutput profileGet profile
    adapterGet adapter modelGet model inputGet outputTokensGet costGet =>
    have hnone : costMicrousd = none := by
      rw [hpriceless.draft rfl] at costGet
      cases costMicrousd with
      | none => rfl
      | some n => simp [ofInteger?] at costGet
    subst hnone
    exact h.of_eq htype (by rintro ⟨⟩) hactive (fun _ ↦ by simp [ExecutionRunState.addUsage]) id
      (.inr rfl)
      h.unstarted
  | planAdmitted plan status planGet idGet nonempty digestGet versionGet supersedesGet supersedes
    binding =>
    refine h.of_eq htype (by rintro ⟨⟩) hactive (fun _ ↦ h.incomplete (.inr ?_)) (fun _ ↦ rfl)
      (.inl (by rintro ⟨⟩)) ?_
    · simp [← binding.2.2.2.2]
    · rintro t ht -
      obtain ⟨task, -, rfl⟩ := List.mem_map.mp ht
      exact ⟨rfl, by rintro ⟨⟩⟩
  | policyDecided task planId action decision names status =>
    refine h.of_eq htype (by rintro ⟨⟩) hactive h.incomplete id (.inr rfl)
      (unstarted_replaceTask h.unstarted ?_)
    exact fun hwriter ↦ h.unstarted task (ExecutionRunState.mem_of_find names.find).1 hwriter
  | taskReady task names =>
    refine h.of_eq htype (by rintro ⟨⟩) hactive h.incomplete id (.inr rfl)
      (unstarted_replaceTask h.unstarted ?_)
    exact fun hwriter ↦
      ⟨(h.unstarted task (ExecutionRunState.mem_of_find names.find).1 hwriter).1, by rintro ⟨⟩⟩
  | taskStarted task planId baseCommit decisionId actionDigest names =>
    refine h.of_eq htype (by rintro ⟨⟩) hactive h.incomplete id (.inr rfl)
      (unstarted_replaceTask h.unstarted ?_)
    intro hwriter
    exact absurd (hpriceless.start rfl task (ExecutionRunState.mem_of_find names.find).1 names.get)
      hwriter
  | taskVerifying task workspace names =>
    refine h.of_eq htype (by rintro ⟨⟩) hactive h.incomplete id (.inr rfl)
      (unstarted_replaceTask h.unstarted ?_)
    exact fun hwriter ↦
      ⟨(h.unstarted task (ExecutionRunState.mem_of_find names.find).1 hwriter).1, by rintro ⟨⟩⟩
  | taskVerified task workspace route evidence names status =>
    refine h.of_eq htype (by rintro ⟨⟩) hactive (fun hplan ↦ ?_) id (.inr rfl)
      (unstarted_replaceTask h.unstarted fun hwriter ↦ ?_)
    · have hcost : s.costMicrousdComplete = false := h.incomplete hplan
      change (s.costMicrousdComplete && _) = false
      rw [hcost, Bool.false_and]
    · -- A task that is verified was started.
      have hmem := (ExecutionRunState.mem_of_find names.find).1
      have hstarted := ((hsound.tasks task hmem).started (.inr status)).1
      have hzero := (h.unstarted task hmem hwriter).1
      omega
  | taskBlocked task reason names =>
    refine h.of_eq htype (by rintro ⟨⟩) hactive h.incomplete id (.inr rfl)
      (unstarted_replaceTask h.unstarted ?_)
    exact fun hwriter ↦
      ⟨(h.unstarted task (ExecutionRunState.mem_of_find names.find).1 hwriter).1, by rintro ⟨⟩⟩
  | runTerminated status reason statusGet outcome reasonGet nonempty finished =>
    refine ⟨h.incomplete, fun hs ↦ ?_, fun hex ↦ ?_, h.unstarted, fun hex ↦ ?_⟩
    · rcases hpriceless.ending rfl with hplan | ⟨hne, -⟩
      · exact hplan
      · rw [show status = .replanRequired from hs] at statusGet
        exact absurd statusGet hne
    · rcases exists_mem_concat hex with hex | hlast
      · exact h.exhausted hex
      · rcases hpriceless.ending rfl with hplan | ⟨-, hne⟩
        · exact hplan
        · exact absurd hlast.2 hne
    · rcases exists_mem_concat hex with hex | hlast
      · exact absurd (h.succeeded hex).1 hactive
      · -- The tasks of a run that succeeds are done, and a task that writes is not.
        have hstatus := statusGet.symm.trans hlast.2
        rw [JsonValue.str.injEq, StrEnum.value_inj] at hstatus
        subst hstatus
        refine ⟨rfl, fun t ht ↦ ?_⟩
        by_contra hwriter
        have hall := finished rfl
        simp only [ExecutionRunState.allSucceeded, Bool.and_eq_true, List.all_eq_true,
          decide_eq_true_eq] at hall
        exact (h.unstarted t ht hwriter).2 (hall.2 t ht)

/-- A public event keeps a run unpriced. -/
theorem Unpriced.afterPublic (h : Unpriced E s) {t : RunLifecycle.RunEventType}
    (ht : RunLifecycle.runEventType? e = some t)
    (unchanged : isFinal s.status → (publicStatus t s.status).1 = s.status) :
    Unpriced (E ++ [e]) (s.afterPublic t e) := by
  have hnone := executionEventType?_eq_none ht
  have hforall : ∀ x ∈ (s.afterPublic t e).tasks, ∃ y ∈ s.tasks, x.allowedPaths = y.allowedPaths ∧
      x.attempts = y.attempts ∧ (x.status = .succeeded → y.status = .succeeded) := by
    intro x hx
    simp only [ExecutionRunState.afterPublic] at hx
    cases hended : (publicStatus t s.status).2 with
    | none =>
      rw [hended] at hx
      exact ⟨x, hx, rfl, rfl, id⟩
    | some ended =>
      rw [hended] at hx
      obtain ⟨y, hy, rfl⟩ := List.mem_map.mp hx
      refine ⟨y, hy, ?_⟩
      unfold ExecutionTaskState.endWith
      split
      · exact ⟨rfl, rfl, id⟩
      · refine ⟨rfl, rfl, fun hsucceeded ↦ ?_⟩
        exact absurd (hended.trans (congrArg some hsucceeded)) (publicStatus_ne t _)
  refine ⟨h.incomplete, fun hs ↦ h.replan ?_, fun hex ↦ ?_, fun x hx hwriter ↦ ?_, fun hex ↦ ?_⟩
  · simp only [ExecutionRunState.afterPublic] at hs
    cases t <;> simp_all [publicStatus]
  · rcases exists_mem_concat hex with hex | hlast
    · exact h.exhausted hex
    · simp [recordsExhaustion, hnone] at hlast
  · obtain ⟨y, hy, hpaths, hattempts, hstatus⟩ := hforall x hx
    obtain ⟨hzero, hne⟩ := h.unstarted y hy (hpaths ▸ hwriter)
    exact ⟨hattempts.trans hzero, fun hs ↦ hne (hstatus hs)⟩
  · rcases exists_mem_concat hex with hex | hlast
    · obtain ⟨hfinal, hall⟩ := h.succeeded hex
      refine ⟨?_, fun x hx ↦ ?_⟩
      · simp only [ExecutionRunState.afterPublic, unchanged hfinal]
        exact hfinal
      · obtain ⟨y, hy, hpaths, -⟩ := hforall x hx
        exact hpaths.trans (hall y hy)
    · simp [recordsSuccess, hnone] at hlast

/-- The run of a stream is unpriced, if it is open. -/
def OnUnpriced (H : Host) (E : List EventEnvelope) : Prop :=
  ∀ s, project H E = .ok (some s) → Unpriced E s

theorem Unpriced.noted (h : Unpriced E s) (e : EventEnvelope) : Unpriced E (s.noted e) :=
  ⟨h.incomplete, h.replan, h.exhausted, h.unstarted, h.succeeded⟩

/-- A step keeps the run of a stream unpriced. -/
theorem OnUnpriced.concat {current : Option ExecutionRunState} (h : OnUnpriced H E)
    (hbefore : project H E = .ok current)
    (hpriceless : ∀ s type, current = some s → executionEventType? e = some type →
      Priceless e s type) : OnUnpriced H (E ++ [e]) := by
  refine forall_project_concat hbefore fun s' hstep ↦ ?_
  cases hstep with
  | published t s₀ ht isRun stream sequence unchanged =>
    exact (h s₀ hbefore).afterPublic ht unchanged
  | opened runId goal classification locality budget type =>
    have hno : ∀ {p : EventEnvelope → Prop},
        (∀ x, p x → executionEventType? x = some .runTerminated) → ¬∃ x ∈ E ++ [e], p x := by
      intro p hp hex
      rcases exists_mem_concat hex with ⟨x, hx, hpx⟩ | hlast
      · exact absurd ((public_of_project_none hbefore x hx).symm.trans (hp x hpx)) nofun
      · exact absurd (type.symm.trans (hp e hlast)) (by decide)
    exact ⟨by simp [ExecutionRunState.opened], nofun, fun hex ↦ absurd hex (hno fun _ hp ↦ hp.1),
      by simp [ExecutionRunState.opened], fun hex ↦ absurd hex (hno fun _ hp ↦ hp.1)⟩
  | changed t s₀ s₁ ht fields run isRun stream sequence active change =>
    exact ((h s₀ hbefore).change (runSound_of_project hbefore) ht active change
      (hpriceless s₀ t rfl ht)).noted e

end Unpriced

/-! ### Runs -/

section Runs

variable {env : Environment} {caller : Nat} {runId : String} {C : operations.Op → World → Prop}
  {J J' : World → Prop} {Φ : List EventEnvelope → Prop} {plan : Plan} {w w' : World}
  {request : PlanningRequest} {type : ExecutionEventType} {payload : Mapping}
  {Allowed : ExecutionEventType → Mapping → Prop}

/-- What is built under an invariant is built under a weaker one. -/
theorem Built.mono {R : World → World → Prop} {actor : String}
    {current : Option ExecutionRunState} {e : EventEnvelope}
    (h : Built env runId R C J type payload actor w current e w') (hJ : ∀ w, J w → J' w) :
    Built env runId R C J' type payload actor w current e w' where
  request := by
    obtain ⟨w₁, ⟨hread, hasked, hholds⟩, hR⟩ := h.request
    exact ⟨w₁, ⟨hread, hasked, hJ _ hholds⟩, hR⟩
  event := h.event
  stamped := by
    obtain ⟨w₃, hR, hholds, hrest⟩ := h.stamped
    exact ⟨w₃, hR, hJ _ hholds, hrest⟩

/-- A property of the stream that the accepted requests keep joins an invariant of the worlds. -/
theorem Admits.and_stream (h : Admits env caller runId Quiet C J Allowed)
    (hΦ : ∀ {type payload w current e s}, Allowed type payload → J w →
      Φ (streamOf runId w.ledger) →
      Accepts env runId (streamOf runId w.ledger) type payload current e s →
      Φ (streamOf runId w.ledger ++ [e])) :
    Admits env caller runId Quiet C (fun w ↦ J w ∧ OnStream env runId Φ w) Allowed where
  steady := .quiet (fun _ hJ ↦ hJ.2.1) (fun _ _ _ _ hJ hC ↦
    ⟨h.steady.ask hJ.1 hC, hJ.2.quiet (Quiet.ask ..)⟩)
    fun w hJ hC ↦ ⟨h.steady.tick hJ.1 hC, hJ.2.quiet (Quiet.tick w)⟩
  store allowed built holds readable follows step insertable :=
    ⟨h.store allowed (built.mono fun _ hJ ↦ hJ.1) holds.1 readable follows step insertable,
      OnStream.store (fun _ accepts ↦ hΦ allowed holds.1 holds.2.2 accepts) built readable follows
        step⟩
  propose request holds := ⟨h.propose request holds.1, holds.2⟩
  attempt request holds := ⟨h.attempt request holds.1, holds.2⟩

/-- The planner of the surroundings reports what the shipped adapters report. -/
def ReportedPlanner (env : Environment) : Prop :=
  ∀ n request result, env.provider n request = some result → Reported env.host result

/-- An execution of the plan of the run, without a price. -/
def Executes (env : Environment) (runId : String) (plan : Plan) (w : World) : Prop :=
  Executing env runId plan w ∧ OnStream env runId (OnUnpriced env.host) w

theorem Executes.unpriced_of_open {s : ExecutionRunState} (h : Executes env runId plan w)
    (hopen : Open env.host runId w.ledger s) :
    Unpriced (streamOf runId w.ledger) s ∧ s.planId.isSome := by
  refine ⟨h.2.2 s hopen.state, ?_⟩
  rw [(h.1.bound hopen).planId]
  rfl

/-- The requests of an execution have no price: a task that writes does not pass the gate. -/
theorem priceless_of_executes {current : Option ExecutionRunState} {e : EventEnvelope}
    {s s₀ : ExecutionRunState} (hJ : Executing env runId plan w)
    (hallowed : ExecutionRequests env.host plan type payload ∧
      StartsOpen env runId (Executes env runId plan) request plan type payload)
    (haccepts : Accepts env runId (streamOf runId w.ledger) type payload current e s)
    (hcurrent : current = some s₀) : Priceless e s₀ type := by
  obtain ⟨hrequest, hstarts⟩ := hallowed
  subst hcurrent
  obtain ⟨state, hread⟩ := hJ.journaled.readable
  obtain rfl : state = some s₀ := Except.ok.inj (hread.state.symm.trans haccepts.state)
  have hbound := hJ.bound hread
  refine ⟨fun htype ↦ ?_, fun htype t ht hget ↦ ?_, fun _ ↦ .inl ?_⟩
  · subst htype
    cases hrequest
  · obtain ⟨task, hmem, htask, hgate⟩ := hstarts htype
    have hid : t.taskId = task.taskId := by
      rw [haccepts.payload, Mapping.get_cons, if_neg (by decide), htask] at hget
      simpa using hget.symm
    have hfind : s₀.find task.taskId = some t := by
      rw [← hid]
      exact ExecutionRunState.find_of_mem (runSound_of_project hread.state).nodup ht
    rw [(hbound.shape_eq hmem hfind).2.2.1]
    by_contra hwriter
    -- A state whose usage is all known would have been read.
    obtain ⟨w₁, s₁, hJ₁, hopen₁, hcomplete, -⟩ := hgate (by simpa [TaskSpec.isWriter] using hwriter)
    obtain ⟨hunpriced, hplanned⟩ := hJ₁.unpriced_of_open hopen₁
    rw [hunpriced.providerUsageIncomplete hplanned] at hcomplete
    exact absurd hcomplete nofun
  · rw [hbound.planId]
    rfl

theorem admits_executes : Admits env caller runId Quiet C (Executes env runId plan)
    fun type payload ↦ ExecutionRequests env.host plan type payload ∧
      StartsOpen env runId (Executes env runId plan) request plan type payload := by
  refine (admits_executing.mono fun _ _ ↦ And.left).and_stream ?_
  intro type payload w current e s hallowed hJ hΦ haccepts
  exact hΦ.concat haccepts.state fun s₀ type' hcurrent htype ↦ by
    obtain rfl := Option.some.inj (haccepts.type.symm.trans htype)
    exact priceless_of_executes hJ hallowed haccepts hcurrent

/-- The requests of the calls that do not execute a plan, apart from the end of a run whose budget is
exhausted. -/
def UnpricedRequests (env : Environment) (type : ExecutionEventType) (payload : Mapping) : Prop :=
  PlanningRequests env type payload ∨ ∃ reason ≠ "cumulative-budget-exhausted",
    type = .runTerminated ∧ payload = runTerminatedPayload .escalated reason

theorem admits_unpriced (hplanner : ReportedPlanner env) :
    Admits env caller runId Quiet C (OnStream env runId (OnUnpriced env.host))
      (UnpricedRequests env) := by
  refine .of_stream ?_
  rintro E type payload current e s hallowed hΦ haccepts
  refine hΦ.concat haccepts.state fun s₀ type' _ htype ↦ ?_
  obtain rfl := Option.some.inj (haccepts.type.symm.trans htype)
  rcases hallowed with hallowed | ⟨reason, hreason, rfl, rfl⟩
  · refine ⟨fun hdraft ↦ ?_, fun hstart ↦ ?_, fun hend ↦ ?_⟩
    · cases hallowed with
      | planDraftReceived plan result n request answered =>
        have hcost := (hplanner n request result answered).costMicrousd
        rw [haccepts.payload]
        simp [planDraftReceivedPayload, Mapping.get_cons, hcost, ofInteger?]
      | _ => cases hdraft
    · subst hstart
      cases hallowed
    · subst hend
      cases hallowed
  · refine ⟨by rintro ⟨⟩, by rintro ⟨⟩, fun _ ↦ .inr ?_⟩
    rw [haccepts.payload]
    refine ⟨?_, by simpa [runTerminatedPayload, Mapping.get_cons] using hreason⟩
    simp [runTerminatedPayload, Mapping.get_cons, StrEnum.value_inj]

/-- The run is unpriced, and has a plan. -/
def OnPlanned (H : Host) (E : List EventEnvelope) : Prop :=
  OnUnpriced H E ∧ ∀ s, project H E = .ok (some s) → s.planId.isSome

/-- The end of a run that has a plan has no price, whatever its reason. -/
theorem admits_onPlanned : Admits env caller runId Quiet C (OnStream env runId (OnPlanned env.host))
    fun type _ ↦ type = .runTerminated := by
  refine .of_stream ?_
  rintro E type payload current e s rfl ⟨hΦ, hplanned⟩ haccepts
  refine ⟨hΦ.concat haccepts.state fun s₀ type hcurrent htype ↦ ?_,
    forall_project_concat haccepts.state fun s' hstep ↦ ?_⟩
  · obtain rfl := Option.some.inj (haccepts.type.symm.trans htype)
    exact ⟨nofun, nofun, fun _ ↦ .inl (hplanned s₀ (hcurrent ▸ haccepts.state))⟩
  · cases hstep with
    | published t s₀ => exact hplanned s₀ haccepts.state
    | opened _ _ _ _ _ htype => exact absurd (haccepts.type.symm.trans htype) (by decide)
    | changed t s₀ s₁ htype fields run isRun stream sequence active change =>
      obtain rfl := Option.some.inj (haccepts.type.symm.trans htype)
      cases change
      exact hplanned s₀ haccepts.state

/-- The end of a run that requires a replan: it has a plan. -/
theorem meets_exhaustProviderBudget_unpriced {actor : String} (hplanner : ReportedPlanner env)
    (hJ : OnStream env runId (OnUnpriced env.host) w) :
    Prog.Meets (handle env caller) Quiet C (OnStream env runId (OnUnpriced env.host))
      (exhaustProviderBudget env.host runId actor) (fun _ _ ↦ True) w := by
  have hadmits : Admits env caller runId Quiet C (OnStream env runId (OnUnpriced env.host)) _ :=
    admits_unpriced hplanner
  simp only [exhaustProviderBudget, Prog.bind_eq, Prog.liftM_eq]
  refine (meets_rehydrate hadmits.steady hJ).bind ?_ fun _ _ _ _ ↦ trivial
  rintro s w₁ hJ₁ ⟨-, hopen⟩
  refine meets_check_bind.mpr ⟨hJ₁, fun hreplan ↦ ?_, fun _ ↦ trivial⟩
  have hplanned := (hJ₁.2 s hopen.state).replan hreplan
  refine (Prog.Meets.of_stronger (fun _ h ↦ ⟨h.1, h.2.1⟩) (fun _ _ hq h _ ↦ h.quiet hq)
    (keeps_terminate admits_onPlanned rfl w₁ ⟨hJ₁.1, hJ₁.2, fun s' hs' ↦ ?_⟩)).mono
      fun _ _ _ _ ↦ trivial
  obtain rfl : s = s' := by simpa using hopen.state.symm.trans hs'
  exact hplanned

/-- An execution of the plan of the run keeps it unpriced. -/
theorem meets_execute_unpriced {actor : String} {rounds : Nat} (hplanner : ReportedPlanner env)
    (hJ : OnStream env runId (OnUnpriced env.host) w) (hrecoverable : Recoverable env runId w)
    (hgenuine : Genuine env runId (.execute request plan actor rounds) w) :
    Prog.Meets (handle env caller) Quiet C (OnStream env runId (OnUnpriced env.host))
      (execute env.host runId request plan actor rounds) (fun _ _ ↦ True) w := by
  have hadmits : Admits env caller runId Quiet C (OnStream env runId (OnUnpriced env.host)) _ :=
    admits_unpriced hplanner
  simp only [execute, Prog.bind_eq, Prog.liftM_eq]
  refine meets_check_bind.mpr ⟨hJ, fun _ ↦ ?_, fun _ ↦ trivial⟩
  refine (meets_rehydrate hadmits.steady hJ).bind ?_ fun _ _ _ _ ↦ trivial
  rintro s w₁ hJ₁ ⟨hquiet, hopen⟩
  refine meets_check_bind.mpr ⟨hJ₁, fun hchecked ↦ ?_, fun _ ↦ trivial⟩
  obtain ⟨-, hplan, hdigest⟩ := hchecked
  have hopen₀ : Open env.host runId w.ledger s := by
    rw [← hquiet.ledger]
    exact hopen
  have hexecuting := (hrecoverable.executing hgenuine hopen₀ hplan hdigest).1.quiet hquiet
  have hguards : Guards env caller runId Quiet C _ _ request plan := .of_admits admits_executes
  exact (Prog.Meets.of_stronger (fun _ h ↦ h.2) (fun _ _ hq h _ ↦ ⟨h.1.quiet hq, h.2.quiet hq⟩)
    (meets_executeBound hguards ⟨hexecuting, hJ₁⟩)).mono fun _ _ _ _ ↦ trivial

/-- The run stays unpriced, wherever its calls are stopped. -/
theorem Runs.onUnpriced {C : Nat → operations.Op → World → Prop}
    (h : Runs env runId C (Genuine env runId) w) (hplanner : ReportedPlanner env) :
    OnStream env runId (OnUnpriced env.host) w := by
  induction h with
  | start w hunopened =>
    refine ⟨⟨_, hunopened.readable⟩, fun s hs ↦ ?_⟩
    simpa using hunopened.readable.state.symm.trans hs
  | @call w w' caller c hruns hstart hreached ih =>
    have hadmits : Admits env caller runId Quiet (C caller) (OnStream env runId (OnUnpriced env.host)) _ :=
      admits_unpriced hplanner
    refine Prog.Meets.of_reaches Quiet.refl (Q := fun _ _ ↦ True) ?_ hreached
    cases c with
    | execute request plan actor rounds =>
      exact (meets_execute_unpriced hplanner ih hruns.recoverable hstart).bind
        (fun _ _ hJ' _ ↦ Prog.meets_done.mpr ⟨hJ', trivial⟩) fun _ _ _ _ ↦ trivial
    | compileAndAdmit request actor previous providerBudget =>
      exact Prog.keeps_bind (keeps_compileAndAdmit hadmits fun _ _ ↦ .inl)
        (fun _ ↦ Prog.keeps_done _) w ih
    | reconcileIncompletePlanning actor =>
      exact Prog.keeps_bind (keeps_reconcileIncompletePlanning hadmits
        (.inr ⟨_, by decide, rfl, rfl⟩)) (fun _ ↦ Prog.keeps_done _) w ih
    | exhaustReplanBudget actor =>
      exact Prog.keeps_bind (keeps_exhaustReplanBudget hadmits
        (.inr ⟨_, by decide, rfl, rfl⟩)) (fun _ ↦ Prog.keeps_done _) w ih
    | exhaustProviderBudget actor =>
      exact (meets_exhaustProviderBudget_unpriced hplanner ih).bind
        (fun _ _ hJ' _ ↦ Prog.meets_done.mpr ⟨hJ', trivial⟩) fun _ _ _ _ ↦ trivial
  | publish e hruns hforeign ih =>
    refine ih.publish hforeign fun before after hbefore htype _ ↦ ?_
    obtain ⟨t, ht⟩ := Option.isSome_iff_exists.mp htype
    exact ih.2.concat hbefore fun s type _ hexecution ↦
      absurd ((executionEventType?_eq_none ht).symm.trans hexecution) nofun

end Runs

/-! ### A sample run -/

namespace Sample

/-- The surroundings in which the draft has no cost, and the attempt would stay within the budget. -/
def unpriced : Environment := environment (result 1 none) (passed 1)

/-- The answer of the Codex adapter: the draft, after a line with its usage. -/
def codexAnswer : AdapterResult := ⟨draft, some 1, some 1, 1, none, false⟩

theorem fromCli_codexAnswer : FromCli codexAnswer := by
  refine .codex (fun _ ↦ some (.object [("usage", .object [("input_tokens", .int 1),
    ("output_tokens", .int 1)])])) ["{...}"] draft 1 ?_
  decide +kernel

/-- The profile of the Codex adapter, which is not deterministic. -/
def codexProfile : GatewayProfile :=
  { Orchestration.Sample.profile with isLocal := false, deterministic := false }

/-- The planner of these surroundings hands on the answer of the Codex adapter. -/
theorem reportedPlanner_unpriced : ReportedPlanner unpriced := by
  rintro n request' _ ⟨⟩
  have hdigest : unpriced.host.jsonDigest (.object draft) = digestPrefix ++ draftHex.1 := by
    decide +kernel
  refine ⟨Orchestration.Sample.gateway, Orchestration.Sample.modelRequest, codexProfile,
    Orchestration.Sample.adapter, codexAnswer, fromCli_codexAnswer,
    ModelGateway.checkUsage_eq_ok.mp (rfl : ModelGateway.checkUsage Orchestration.Sample.modelRequest
      codexProfile codexAnswer (Orchestration.Sample.gateway.completionOf host codexAnswer) = .ok ()),
    ?_⟩
  rw [planningResult, dif_pos (by decide +kernel)]
  simp only [Except.ok.injEq, result, PlanningResult.mk.injEq, ModelGateway.responseOf, codexAnswer,
    hdigest, true_and]
  decide +kernel

/-- What the execution of the sample plan leaves: its budget is recorded as exhausted. -/
theorem unpriced_checked :
    opensWith host (executed unpriced 100).ledger (fun s ↦
        isOutcome s.status && decide (¬ComponentReached s) && s.tasks.any fun t ↦
          decide (t.allowedPaths ≠ []) && decide (t.attempts = 0)) = true ∧
      (∃ e ∈ streamOf "run-1" (executed unpriced 100).ledger, recordsExhaustion e) ∧
      (∀ e ∈ streamOf "run-1" (planned unpriced).ledger,
        executionEventType? e = some .planAdmitted → e.payload.get "plan" = planPayload plan) := by
  decide +kernel

example : isOutcome .escalated = true := by decide +kernel

end Sample

end Blackcell.Orchestration.ExecutionRuntime
