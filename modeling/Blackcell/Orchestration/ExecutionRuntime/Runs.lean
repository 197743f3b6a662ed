import Blackcell.Orchestration.ExecutionRuntime.Coordinator
import Blackcell.Orchestration.ExecutionRuntime.Request

/-!
# Runs

The life of one generated run: calls of the coordinator, one after the other, each of which may be
stopped between any two of its operations and never continued, and in between the events of other
writers. A run starts in a world whose stream holds public events only.

An invariant of runs is proved call by call. A call changes the ledger only by its requests, so an
invariant that survives each request that a call makes survives the call, wherever it stops.

## Main definitions

* `Admits` : an invariant that survives the requests of a kind.
* `RunCall`, `RunCall.program` : the calls of the coordinator.
* `Unopened`, `Foreign` : where a run starts, and what other writers append.
* `Runs` : the worlds that a run reaches.

## Main results

* `Runs.invariant` : what holds at the start and survives calls and other writers, holds always.
* `Admits.of_stream`, `OnStream.publish` : the invariants that a run owes to its stream.
-/

namespace Blackcell.Orchestration.ExecutionRuntime

open Blackcell.Kernel Blackcell.Gateway Blackcell.Orchestration.ExecutionPlan

/-! ### Requests of a call -/

/-- The requests with which a run ends. -/
inductive EndingRequest (status : RunLifecycleStatus) : ExecutionEventType → Mapping → Prop
  | runTerminated (reason : String) :
      EndingRequest status .runTerminated (runTerminatedPayload status reason)

/-- The requests of `compile_and_admit`. A draft that is received was answered by the provider. -/
inductive PlanningRequests (env : Environment) : ExecutionEventType → Mapping → Prop
  | goalAdmitted (request : PlanningRequest) :
      PlanningRequests env .goalAdmitted (goalAdmittedPayload env.host request)
  | replanStarted (previous : Plan) :
      PlanningRequests env .replanStarted (replanStartedPayload previous)
  | planDraftReceived (plan : Plan) (result : PlanningResult) (n : Nat) (request : PlanningRequest)
      (answered : env.provider n request = some result) :
      PlanningRequests env .planDraftReceived (planDraftReceivedPayload plan result)
  | planAdmitted (plan : Plan) :
      PlanningRequests env .planAdmitted (planAdmittedPayload env.host plan)

/-- The requests of `execute`, for a plan. An attempt is repaired only while attempts are left. -/
inductive ExecutionRequests (H : Host) (plan : Plan) : ExecutionEventType → Mapping → Prop
  | taskReady (taskId : String) (attempt : Nat) :
      ExecutionRequests H plan .taskReady (taskReadyPayload taskId attempt)
  | policyDecided (taskId : String) (attempt : Nat) (decision : PolicyDecision) :
      ExecutionRequests H plan .policyDecided (policyDecidedPayload H taskId attempt decision)
  | taskStarted (taskId : String) (attempt : Nat) (workspace baseCommit : String)
      (decision : PolicyDecision) : ExecutionRequests H plan .taskStarted
        (taskStartedPayload H taskId attempt workspace baseCommit decision)
  | taskVerifying (taskId : String) (attempt : Nat) (workspace : String) :
      ExecutionRequests H plan .taskVerifying (taskVerifyingPayload taskId attempt workspace)
  | taskVerified (task : TaskSpec) (attempt : Nat) (workspace : String) (route : AttemptRoute)
      (signature : Option String) (sameErrorCount : Nat) (newEvidence : Bool)
      (evidence : AttemptEvidence) (mem : task ∈ plan.tasks.1)
      (repaired : route = .repairable → attempt < task.maxAttempts) :
      ExecutionRequests H plan .taskVerified
        (taskVerifiedPayload task.taskId attempt workspace route signature sameErrorCount newEvidence
          evidence)
  | taskBlocked (taskId reason : String) :
      ExecutionRequests H plan .taskBlocked (taskBlockedPayload taskId reason)
  | runTerminated (status : RunLifecycleStatus) (reason : String) :
      ExecutionRequests H plan .runTerminated (runTerminatedPayload status reason)

/-! ### What calls keep -/

section Keeps

variable {env : Environment} {caller : Nat} {runId : String} {R : World → World → Prop}
  {C : operations.Op → World → Prop} {J : World → Prop}
  {Allowed : ExecutionEventType → Mapping → Prop}

/-- An invariant that survives the requests of a kind, and the calls of providers and executors. -/
structure Admits (env : Environment) (caller : Nat) (runId : String) (R : World → World → Prop)
    (C : operations.Op → World → Prop) (J : World → Prop)
    (Allowed : ExecutionEventType → Mapping → Prop) : Prop where
  steady : Steady env runId R C J
  store {eventType : ExecutionEventType} {payload : Mapping} {actor : String} {w w₂ : World}
    {current : Option ExecutionRunState} {e : EventEnvelope} {s : ExecutionRunState}
    (allowed : Allowed eventType payload)
    (built : Built env runId R C J eventType payload actor w current e w₂) (holds : J w₂)
    (readable : Readable env.host runId w₂.ledger current)
    (follows : Follows ("run:" ++ runId) (streamOf runId w₂.ledger) e)
    (step : Step env.host e current (some s)) (insertable : w₂.ledger.Insertable e) :
    J (w₂.store caller e)
  propose {w : World} (request : PlanningRequest) (holds : J w) :
    J (handle env caller (.proposePlan request) w).2
  attempt {w : World} (request : AttemptRequest) (holds : J w) :
    J (handle env caller (.execute request) w).2

theorem Admits.mono {Allowed' : ExecutionEventType → Mapping → Prop}
    (h : Admits env caller runId R C J Allowed)
    (hsub : ∀ eventType payload, Allowed' eventType payload → Allowed eventType payload) :
    Admits env caller runId R C J Allowed' :=
  { h with store := fun allowed ↦ h.store (hsub _ _ allowed) }

variable (h : Admits env caller runId R C J Allowed)

include h

theorem keeps_rehydrate :
    Prog.Keeps (handle env caller) R C J (rehydrate env.host runId) :=
  Prog.Meets.keeps fun _ hJ ↦ meets_rehydrate h.steady hJ

theorem keeps_append {eventType : ExecutionEventType} {payload : Mapping} {actor : String}
    (hallowed : Allowed eventType payload) :
    Prog.Keeps (handle env caller) R C J (append env.host runId eventType payload actor) :=
  Prog.Meets.keeps fun _ hJ ↦ meets_append h.steady hJ
    fun _ _ _ _ built holds readable follows step insertable ↦
      h.store hallowed built holds readable follows step insertable

theorem keeps_terminate {status : RunLifecycleStatus} {actor reason : String}
    (hallowed : Allowed .runTerminated (runTerminatedPayload status reason)) :
    Prog.Keeps (handle env caller) R C J (terminate env.host runId status actor reason) :=
  Prog.keeps_bind (keeps_append h hallowed) fun _ ↦ keeps_rehydrate h

theorem keeps_reconcileIncompletePlanning {actor : String}
    (hallowed : Allowed .runTerminated
      (runTerminatedPayload .escalated "ambiguous-planning-dispatch")) :
    Prog.Keeps (handle env caller) R C J
      (reconcileIncompletePlanning env.host runId actor) := by
  refine Prog.keeps_bind (keeps_rehydrate h) fun s ↦ ?_
  split
  · exact Prog.keeps_done _
  · exact Prog.keeps_bind (Prog.keeps_ofExcept _) fun _ ↦
      keeps_terminate h hallowed

theorem keeps_exhaustReplanBudget {actor : String}
    (hallowed : Allowed .runTerminated
      (runTerminatedPayload .escalated "replan-budget-exhausted")) :
    Prog.Keeps (handle env caller) R C J (exhaustReplanBudget env.host runId actor) :=
  Prog.keeps_bind (keeps_rehydrate h) fun _ ↦ Prog.keeps_bind (Prog.keeps_ofExcept _) fun _ ↦
    keeps_terminate h hallowed

theorem keeps_exhaustProviderBudget {actor : String}
    (hallowed : Allowed .runTerminated
      (runTerminatedPayload .escalated "cumulative-budget-exhausted")) :
    Prog.Keeps (handle env caller) R C J (exhaustProviderBudget env.host runId actor) :=
  Prog.keeps_bind (keeps_rehydrate h) fun _ ↦ Prog.keeps_bind (Prog.keeps_ofExcept _) fun _ ↦
    keeps_terminate h hallowed

theorem keeps_compileAndAdmit {request : PlanningRequest} {actor : String} {previous : Option Plan}
    {providerBudget : Option GatewayBudget}
    (hallowed : ∀ eventType payload, PlanningRequests env eventType payload →
      Allowed eventType payload) :
    Prog.Keeps (handle env caller) R C J
      (compileAndAdmit env.host runId request actor previous providerBudget) := by
  refine Prog.keeps_bind (Prog.keeps_ofExcept _) fun _ ↦ ?_
  refine Prog.keeps_bind (Prog.keeps_ofExcept _) fun _ ↦ ?_
  refine Prog.keeps_bind ?_ fun _ ↦ ?_
  · unfold fencePlanning
    split
    · exact keeps_append h (hallowed _ _ (.goalAdmitted request))
    · refine Prog.keeps_bind (keeps_rehydrate h) fun s ↦ ?_
      exact Prog.keeps_bind (Prog.keeps_ofExcept _) fun _ ↦
        keeps_append h (hallowed _ _ (.replanStarted _))
  · intro w hJ
    refine Prog.meets_perform_bind.mpr ⟨hJ, fun w₁ _ hJ₁ _ ↦ ?_⟩
    have hJ₂ := h.propose { request with budget := providerBudget.getD request.budget } hJ₁
    cases hanswer : env.provider w₁.calls.length
      { request with budget := providerBudget.getD request.budget } with
    | none =>
      simp only [handle, hanswer]
      exact Prog.meets_raise.mpr ⟨hJ₂, trivial⟩
    | some result =>
      simp only [handle, hanswer]
      refine Prog.keeps_bind (Prog.keeps_ofExcept _) (fun plan ↦ ?_) _ hJ₂
      refine Prog.keeps_bind
        (keeps_append h (hallowed _ _ (.planDraftReceived plan result _ _ hanswer))) fun _ ↦ ?_
      exact Prog.keeps_bind (keeps_append h (hallowed _ _ (.planAdmitted plan))) fun _ ↦
        Prog.keeps_done _

end Keeps

/-! ### Invariants of the stream -/

section Streams

variable {env : Environment} {caller : Nat} {runId : String} {C : operations.Op → World → Prop}
  {Φ : List EventEnvelope → Prop} {Allowed : ExecutionEventType → Mapping → Prop} {w w' : World}

/-- The stream of the run is readable and satisfies a property. -/
def OnStream (env : Environment) (runId : String) (Φ : List EventEnvelope → Prop) (w : World) :
    Prop :=
  (∃ state, Readable env.host runId w.ledger state) ∧ Φ (streamOf runId w.ledger)

theorem OnStream.quiet (h : OnStream env runId Φ w) (hquiet : Quiet w w') :
    OnStream env runId Φ w' := by
  rw [OnStream, hquiet.ledger]
  exact h

/-- The request is accepted at the end of the stream `E`, as the event `e`. -/
structure Accepts (env : Environment) (runId : String) (E : List EventEnvelope)
    (eventType : ExecutionEventType) (payload : Mapping) (current : Option ExecutionRunState)
    (e : EventEnvelope) (s : ExecutionRunState) : Prop where
  state : project env.host E = .ok current
  type : executionEventType? e = some eventType
  payload : e.payload = ("run_id", .str runId) :: payload
  step : Step env.host e current (some s)

/-- What is stored for a request of a call that runs alone is accepted. -/
theorem Accepts.of_built {R : World → World → Prop} {J : World → Prop}
    {eventType : ExecutionEventType} {payload : Mapping} {actor : String} {w₂ : World}
    {current : Option ExecutionRunState} {e : EventEnvelope} {s : ExecutionRunState}
    (built : Built env runId R C J eventType payload actor w current e w₂)
    (readable : Readable env.host runId w₂.ledger current)
    (step : Step env.host e current (some s)) :
    Accepts env runId (streamOf runId w₂.ledger) eventType payload current (w₂.ledger.stored e)
      s := by
  obtain ⟨_, _, _, _, rfl, _⟩ := built.event
  exact ⟨readable.state, executionEventType?_stored.trans executionEventType?_requestEvent, rfl,
    step_stored.mpr step⟩

/-- A request that is stored keeps a property of the stream that its acceptance keeps. -/
theorem OnStream.store {R : World → World → Prop} {J : World → Prop}
    {eventType : ExecutionEventType} {payload : Mapping} {actor : String} {w₂ : World}
    {current : Option ExecutionRunState} {e : EventEnvelope} {s : ExecutionRunState}
    (hΦ : ∀ e, Accepts env runId (streamOf runId w₂.ledger) eventType payload current e s →
      Φ (streamOf runId w₂.ledger ++ [e]))
    (built : Built env runId R C J eventType payload actor w current e w₂)
    (readable : Readable env.host runId w₂.ledger current)
    (follows : Follows ("run:" ++ runId) (streamOf runId w₂.ledger) e)
    (step : Step env.host e current (some s)) : OnStream env runId Φ (w₂.store caller e) := by
  refine ⟨⟨some s, readable.append follows step⟩, ?_⟩
  rw [World.store, streamOf_append_stored follows.stream]
  exact hΦ _ (.of_built built readable step)

/-- A property of the stream that survives the accepted requests of a kind is an invariant. -/
theorem Admits.of_stream
    (hΦ : ∀ {E eventType payload current e s}, Allowed eventType payload → Φ E →
      Accepts env runId E eventType payload current e s → Φ (E ++ [e])) :
    Admits env caller runId Quiet C (OnStream env runId Φ) Allowed where
  steady := .quiet (fun _ h ↦ h.1) (fun _ _ _ _ h _ ↦ h.quiet (Quiet.ask ..))
    fun w h _ ↦ h.quiet (Quiet.tick w)
  store allowed built holds readable follows step _ :=
    OnStream.store (fun _ accepts ↦ hΦ allowed holds.2 accepts) built readable follows step
  propose _ holds := holds
  attempt _ holds := holds

end Streams

/-! ### Calls -/

/-- A call of the coordinator. -/
inductive RunCall where
  | compileAndAdmit (request : PlanningRequest) (actor : String) (previous : Option Plan)
      (providerBudget : Option GatewayBudget)
  | execute (request : PlanningRequest) (plan : Plan) (actor : String) (rounds : Nat)
  | reconcileIncompletePlanning (actor : String)
  | exhaustReplanBudget (actor : String)
  | exhaustProviderBudget (actor : String)

/-- The program of a call, without what it returns. -/
def RunCall.program (H : Host) (runId : String) : RunCall → Call Unit
  | .compileAndAdmit request actor previous providerBudget => do
    let _ ← ExecutionRuntime.compileAndAdmit H runId request actor previous providerBudget
  | .execute request plan actor rounds => do
    let _ ← ExecutionRuntime.execute H runId request plan actor rounds
  | .reconcileIncompletePlanning actor => do
    let _ ← ExecutionRuntime.reconcileIncompletePlanning H runId actor
  | .exhaustReplanBudget actor => do
    let _ ← ExecutionRuntime.exhaustReplanBudget H runId actor
  | .exhaustProviderBudget actor => do
    let _ ← ExecutionRuntime.exhaustProviderBudget H runId actor

/-! ### Runs -/

/-- A world in which the generated run has not been opened: its stream holds public events only, and
the stamps that are still to be given out are new. -/
structure Unopened (env : Environment) (runId : String) (w : World) : Prop where
  readable : Readable env.host runId w.ledger none
  stamped : ∀ x ∈ w.ledger, ∀ n, w.stamped ≤ n → x.eventId ≠ (env.stamps n).eventId
  keys : ∀ x ∈ streamOf runId w.ledger, ∀ eventType scope,
    x.idempotencyKey ≠ some (keyOf env.host eventType scope)

/-- An event that another writer appends: one of another stream, or a public event of the run that
the projection accepts. It has an identifier and a key of its own. -/
structure Foreign (env : Environment) (runId : String) (w : World) (e : EventEnvelope) : Prop where
  stamped : ∀ n, w.stamped ≤ n → e.eventId ≠ (env.stamps n).eventId
  stream : e.streamId = "run:" ++ runId → (RunLifecycle.runEventType? e).isSome ∧
    (∀ eventType scope, e.idempotencyKey ≠ some (keyOf env.host eventType scope)) ∧
    Follows ("run:" ++ runId) (streamOf runId w.ledger) e ∧
    ∀ before, project env.host (streamOf runId w.ledger) = .ok before →
      ∃ after, Step env.host e before after

/-- The world after another writer has appended an event. -/
def World.publish (w : World) (e : EventEnvelope) : World := { w with ledger := w.ledger ++ [e] }

/-- **Runs.** The worlds that the calls of a run reach, each of them stopped somewhere, with the
events of other writers in between. -/
inductive Runs (env : Environment) (runId : String) (C : Nat → operations.Op → World → Prop)
    (Start : RunCall → World → Prop) : World → Prop
  | start (w : World) (unopened : Unopened env runId w) : Runs env runId C Start w
  | call {w w' : World} (caller : Nat) (c : RunCall) (h : Runs env runId C Start w)
      (started : Start c w)
      (reached : Prog.Reaches (handle env caller) (C caller) (c.program env.host runId) w w') :
      Runs env runId C Start w'
  | publish {w : World} (e : EventEnvelope) (h : Runs env runId C Start w)
      (foreign : Foreign env runId w e) : Runs env runId C Start (w.publish e)

section Runs

variable {env : Environment} {runId : String} {C : Nat → operations.Op → World → Prop}
  {Start : RunCall → World → Prop} {w : World}

/-- **Invariants of runs.** What holds where a run starts, and survives its calls and the events of
other writers, holds in every world of the run. -/
theorem Runs.invariant {J : World → Prop} (h : Runs env runId C Start w)
    (hstart : ∀ w, Unopened env runId w → J w)
    (hcall : ∀ caller c w, J w → Start c w →
      Prog.Meets (handle env caller) Quiet (C caller) J (c.program env.host runId)
        (fun _ _ ↦ True) w)
    (hpublish : ∀ w e, J w → Foreign env runId w e → J (w.publish e)) : J w := by
  induction h with
  | start w unopened => exact hstart w unopened
  | call caller c _ started reached ih =>
    exact (hcall caller c _ ih started).of_reaches Quiet.refl reached
  | publish e _ foreign ih => exact hpublish _ e ih foreign

/-- A call without an assumption on its operations can be stopped after any number of them. -/
theorem Runs.stopAfter (h : Runs env runId (fun _ _ _ ↦ True) Start w) (caller : Nat) {c : RunCall}
    (hstart : Start c w) (n : Nat) :
    Runs env runId (fun _ _ _ ↦ True) Start
      ((c.program env.host runId).stopAfter (handle env caller) n w) :=
  h.call caller c hstart (.stopAfter n _ w)

/-- The stream of a run after another writer has appended an event. -/
theorem Foreign.streamOf_publish {e : EventEnvelope} (h : Foreign env runId w e) :
    streamOf runId (w.publish e).ledger = streamOf runId w.ledger ∨
      streamOf runId (w.publish e).ledger = streamOf runId w.ledger ++ [e] ∧
        (RunLifecycle.runEventType? e).isSome ∧
        ∀ before, project env.host (streamOf runId w.ledger) = .ok before →
          ∃ after, Step env.host e before after := by
  by_cases hstream : e.streamId = "run:" ++ runId
  · obtain ⟨htype, -, -, hstep⟩ := h.stream hstream
    exact .inr ⟨Ledger.readStream_append_singleton hstream, htype, hstep⟩
  · exact .inl (Ledger.readStream_append_of_ne hstream)

theorem Foreign.readable {e : EventEnvelope} (h : Foreign env runId w e)
    (hread : ∃ state, Readable env.host runId w.ledger state) :
    ∃ state, Readable env.host runId (w.publish e).ledger state := by
  obtain ⟨state, hread⟩ := hread
  by_cases hstream : e.streamId = "run:" ++ runId
  · obtain ⟨-, -, hfollows, hstep⟩ := h.stream hstream
    obtain ⟨after, hstep⟩ := hstep state hread.state
    have hgrown : streamOf runId (w.publish e).ledger = streamOf runId w.ledger ++ [e] :=
      Ledger.readStream_append_singleton hstream
    refine ⟨after, hread.isRun, ?_, ?_⟩
    · rw [hgrown, validateStream_concat]
      exact ⟨hread.valid, hfollows⟩
    · rw [hgrown, project_concat]
      exact ⟨state, hread.state, hstep⟩
  · have hsame : streamOf runId (w.publish e).ledger = streamOf runId w.ledger :=
      Ledger.readStream_append_of_ne hstream
    exact ⟨state, hread.isRun, by rw [hsame]; exact hread.valid, by rw [hsame]; exact hread.state⟩

/-- A property of the stream that survives public events survives other writers. -/
theorem OnStream.publish {Φ : List EventEnvelope → Prop} {e : EventEnvelope}
    (h : OnStream env runId Φ w) (hforeign : Foreign env runId w e)
    (hΦ : ∀ before after, project env.host (streamOf runId w.ledger) = .ok before →
      (RunLifecycle.runEventType? e).isSome → Step env.host e before after →
      Φ (streamOf runId w.ledger ++ [e])) : OnStream env runId Φ (w.publish e) := by
  refine ⟨hforeign.readable h.1, ?_⟩
  rcases hforeign.streamOf_publish with hsame | ⟨hgrown, htype, hstep⟩
  · rw [hsame]
    exact h.2
  · rw [hgrown]
    obtain ⟨⟨state, hread⟩, -⟩ := h
    obtain ⟨after, hstep⟩ := hstep state hread.state
    exact hΦ state after hread.state htype hstep

end Runs

/-! ### A sample run

A goal of one task, which writes. Its digests are those of SHA-256. -/

namespace Sample

/-- A value of SHA-256, by its hexadecimal digits. -/
abbrev Hex := { s : String // isHex 64 s = true }

theorem isTextTuple_nil : IsTextTuple 64 [] := by decide

theorem isPathTuple_src : IsPathTuple ["src"] := by decide +kernel

theorem isPlanIdentifier_goal : isPlanIdentifier "goal-1" ∧ isPlanIdentifier "project-1" ∧
    isPlanIdentifier "intent-1" := by
  decide +kernel

theorem isHex_ones : isHex 40 "1111111111111111111111111111111111111111" = true :=
  isHex_ofList (by decide +kernel)

/-- The check of the goal. -/
def unit : VerificationCheck := ⟨"unit", ["pytest"], 0, by decide +kernel⟩

/-- The goal: one attempt for each task. -/
def goal : GoalSpec where
  goalId := "goal-1"
  projectId := "project-1"
  intentId := "intent-1"
  objective := "Build."
  baseCommit := "1111111111111111111111111111111111111111"
  constraints := ⟨[], isTextTuple_nil⟩
  allowedPaths := ⟨["src"], isPathTuple_src⟩
  verificationChecks := ⟨[unit], by decide +kernel⟩
  maxAttempts := 1
  sameErrorLimit := 1
  identifiers := isPlanIdentifier_goal
  isObjective := by decide +kernel
  isCommit := isHex_ones
  attempts := by decide

/-- The planning request, with a budget of one hundred units of each kind. -/
def request : PlanningRequest where
  goal := goal
  classification := .internal
  locality := .localOnly
  budget := ⟨100, 100, 100, 100⟩
  estimatedInputTokens := 1
  correlationId := "run-1"
  runId := "run-1"
  identifiers := by decide +kernel

/-- The draft of the provider. -/
def draft : Mapping := [("schema_version", .str executionPlanDraftSchema),
  ("tasks", .list [.object [("task_id", .str "task-1"), ("objective", .str "Build."),
    ("depends_on", .list []), ("allowed_paths", .list [.str "src"]),
    ("checks", .list [.str "unit"])]])]

/-- The task of the plan. -/
def task : TaskSpec where
  taskId := "task-1"
  objective := "Build."
  dependsOn := []
  allowedPaths := ⟨["src"], isPathTuple_src⟩
  checks := ⟨[unit], by decide +kernel⟩
  maxAttempts := 1
  identifier := by decide +kernel
  isObjective := by decide +kernel
  dependencies := by decide +kernel
  attempts := by decide

def goalHex : Hex :=
  hexText 0xbe8f66322968a5e5bb12decca16d1d80bd9944a3fc85b00e3b7fd548b301e0ec

def draftHex : Hex :=
  hexText 0x6b601ca1c50a2d0f568b2685af817bac7f68a9039295eec025d32c2f359c1e34

def taskHex : Hex :=
  hexText 0x8e073ffa5d47e9b341ee62df8b5d6575e6139387de96d938f9517c1c8778c830

def actionHex : Hex :=
  hexText 0x0b34735fb750446007742e6861fd63642db5c42aab98d5f54a1dea58bddd03df

def errorHex : Hex :=
  hexText 0xf2d774947b035f34e9d2102e7cf49928359fc5cd7315e47782a5669666b8f62c

/-- The plan that the draft is compiled to. -/
def plan : Plan where
  planId := "plan-c364ab49c6a20d65fa81424908734020"
  goalId := "goal-1"
  projectId := "project-1"
  intentId := "intent-1"
  planRevision := 1
  supersedesPlanId := none
  baseCommit := "1111111111111111111111111111111111111111"
  draftDigest := digestPrefix ++ draftHex.1
  tasks := ⟨[task], by decide +kernel⟩
  valid := by decide +kernel

/-- The digests of the documents of the goal, the plan and the attempt. -/
def documents : List (JsonValue × Hex) := [
  ((goalPayload goal).canonical, goalHex),
  ((JsonValue.object draft).canonical, draftHex),
  (task.payload.canonical, taskHex),
  (.object [("draft_digest", .str (digestPrefix ++ draftHex.1)),
      ("goal_digest", .str (digestPrefix ++ goalHex.1)), ("plan_version", .int 1),
      ("supersedes_plan_id", .null),
      ("task_digests", .list [.str (digestPrefix ++ taskHex.1)])],
    hexText 0xc364ab49c6a20d65fa814249087340206c73692e1115aa4e36b7879c260ee0c7),
  ((planPayload plan).canonical,
    hexText 0x1b83e17ec190de630f305991b092e0dbaed35fec68cbbb19fe65c90b6f86f48c),
  (.object [("allowed_paths", .list [.str "src"]), ("attempt", .int 1),
      ("capability", .str "repository-task"), ("destructive", .bool false),
      ("plan_id", .str plan.planId), ("run_id", .str "run-1"), ("task_id", .str "task-1")],
    actionHex),
  (.object [("action_digest", .str (digestPrefix ++ actionHex.1)), ("allowed", .bool true),
      ("reason", .str "bounded-task-authorized")],
    hexText 0x9f771605ca407f4ce736f67c47b5c7c4558230e769f9e35ba5b5ef0a58d3f7e0),
  (.object [("attempt", .int 1), ("plan_id", .str plan.planId), ("task_id", .str "task-1")],
    hexText 0xac963143df3672401af6dee691971575005c0131384c773a5c56722691d5d283)]

/-- SHA-256 on these documents. -/
def documentHost : Host := .ofTables documents [] []

/-- The decision on the attempt. -/
def decision : PolicyDecision :=
  ⟨true, "bounded-task-authorized", digestPrefix ++ actionHex.1, by decide +kernel,
    isHexDigest_append actionHex.2⟩

def workspace : String := "workspace-ac963143df3672401af6dee691971575"

/-- The answer of the provider, with the usage that it reports. -/
def result (inputTokens : Nat) (costMicrousd : Option Nat) : PlanningResult where
  draft := draft
  providerOutputDigest := digestPrefix ++ draftHex.1
  profileId := "profile-1"
  adapterId := "adapter-1"
  modelId := "model-1"
  inputTokens := some inputTokens
  outputTokens := some 1
  latencyMs := 1
  costMicrousd := costMicrousd
  isDigest := isHexDigest_append draftHex.2
  identifiers := by decide +kernel

/-- The digest of the artifact of an attempt. -/
def artifacts : { digests // IsDigestTuple digests } :=
  ⟨[digestPrefix ++ taskHex.1], ⟨List.pairwise_singleton _ _, List.nodup_singleton _⟩,
    List.cons_ne_nil _ _, List.forall_mem_singleton.mpr (isHexDigest_append taskHex.2)⟩

/-- Evidence of an attempt that passed, with the input tokens that it used. -/
def passed (inputTokens : Nat) : AttemptEvidence where
  workspaceClean := true
  verifierExitCode := 0
  requiredChecksPassed := true
  failureClass := none
  failureSummary := none
  artifactDigests := artifacts
  progressDigests := artifacts
  headCommit := "2222222222222222222222222222222222222222"
  inputTokens := some inputTokens
  outputTokens := some 1
  latencyMs := 1
  costMicrousd := some 1
  isExitCode := by decide
  isOutcome := by decide
  progress_subset := fun _ h ↦ h
  isCommit := isHex_ofList (by decide +kernel)

/-- Evidence of an attempt that failed. -/
def failed : AttemptEvidence where
  workspaceClean := true
  verifierExitCode := 1
  requiredChecksPassed := false
  failureClass := some .logicBug
  failureSummary := some "boom"
  artifactDigests := artifacts
  progressDigests := artifacts
  headCommit := "1111111111111111111111111111111111111111"
  inputTokens := some 1
  outputTokens := some 1
  latencyMs := 1
  costMicrousd := some 1
  isExitCode := by decide
  isOutcome := by decide +kernel
  progress_subset := fun _ h ↦ h
  isCommit := isHex_ones

/-- The scope of a request before the plan is admitted. -/
def early (payload : Mapping) : JsonValue := .canonical (.object
  [("plan_id", .null), ("plan_version", .null), ("payload", .object payload)])

/-- The scope of a request under the plan. -/
def scope (payload : Mapping) : JsonValue := .canonical (.object
  [("plan_id", .str plan.planId), ("plan_version", .int 1), ("payload", .object payload)])

/-- SHA-256 on the documents of the sample run. -/
def host : Host := .ofTables (documents ++ [
  (early (goalAdmittedPayload documentHost request),
    hexText 0x2e7d54dee2972407de76b2ce0b02dd4ccc0433884be83490c26e2c7b70635763),
  (early (planDraftReceivedPayload plan (result 1 (some 1))),
    hexText 0x08e35f953117da038116152c9af83e01d974e86b4d30130038c35e1a1aa9b03c),
  (early (planDraftReceivedPayload plan (result 100 (some 1))),
    hexText 0x9ff08ceef9d8ada5e6ccab24aea019b6ceb7385de0b8b90f55b4c89138df535e),
  (early (planDraftReceivedPayload plan (result 1 none)),
    hexText 0x23fb41a5b0f6fd1c82fd746a92e8710f4138f0f70ac28f6728b539bf46ee17a2),
  (scope (planAdmittedPayload documentHost plan),
    hexText 0x729a68e1ceffdb4b4f552c0e5a1ca23207d7088f03135a95f7d67b27a4312df6),
  (scope (taskReadyPayload "task-1" 1),
    hexText 0xeff2468863c9fbb5e8edcc4b57221c90652b69db72fef81fc9584bca048616be),
  (scope (policyDecidedPayload documentHost "task-1" 1 decision),
    hexText 0xcb61715a5e875c9601ce6eb2494f3aa36b475167afbffc20561acad2370f25a1),
  (scope (taskStartedPayload documentHost "task-1" 1 workspace goal.baseCommit decision),
    hexText 0x23c6ef429d7f795b3308df2d78b4aa238d90af4ef88000ae78483d5cc8194548),
  (scope (taskVerifyingPayload "task-1" 1 workspace),
    hexText 0xce41c9029122f6f5ae920c09eeb4afeaa2245beb16585e1d71015365cba97f76),
  (scope (taskVerifiedPayload "task-1" 1 workspace .succeeded none 0 true (passed 1)),
    hexText 0xc27a9fb01c36917459884aae3ff31ab0ad8e60a58ad6b9c4505dba1a036a4943),
  (scope (taskVerifiedPayload "task-1" 1 workspace .succeeded none 0 true (passed 1000)),
    hexText 0x1d238e275ee5ba1515b7fcc88a856a05ae7bafc1710bdde669c75773dce4cbcc),
  (.object [("failure_class", .str "logic-bug"), ("summary", .str "boom")], errorHex),
  (scope (taskVerifiedPayload "task-1" 1 workspace .escalated
      (some (digestPrefix ++ errorHex.1)) 1 true failed),
    hexText 0x81a27ffb41fc4ba10c4cc75afbee48bee9d304cc75aa45d4a2292a0795cd9a97),
  (scope (runTerminatedPayload .succeeded "verification-passed"),
    hexText 0x6d7232def133c5c0faa041afb99a85a5f8431e97c526b99f44fc61f7701fd6be),
  (scope (runTerminatedPayload .escalated "cumulative-budget-exhausted"),
    hexText 0xf4e6905c32ba9736cb3195eb220b0bf2efa8a2c5b5fa5c87d8d4785fff3f8fe5)])
  [] []

/-- The surroundings of the sample run: each answer of the provider and of the executor. -/
def environment (planned : PlanningResult) (attempted : AttemptEvidence) : Environment where
  host := host
  stamps n := ⟨String.ofList (List.replicate (n + 1) 'e'), 1767225600000000⟩
  stamps_injective a b h := by
    have hlength := congrArg List.length (String.ofList_injective h)
    simpa using hlength
  provider _ _ := some planned
  executor _ _ := .evidence attempted

/-- The event with which the run was submitted. -/
def queued : EventEnvelope where
  eventId := "queued"
  streamId := "run:run-1"
  streamSequence := 1
  eventType := StrEnum.value RunLifecycle.RunEventType.runQueued
  schemaVersion := 1
  recordedAt := 1767225600000000
  effectiveAt := 1767225600000000
  correlationId := "queued"
  causationId := none
  actor := "user-1"
  source := RunLifecycle.runtimeEventSource
  payload := []
  idempotencyKey := none
  globalPosition := some 1

/-- The world in which the run was submitted. -/
def submitted : World := ⟨[queued], 0, [], [], []⟩

/-- The call that plans the run. -/
def planning : RunCall := .compileAndAdmit request "actor-1" none none

/-- The call that executes the plan. -/
def execution : RunCall := .execute request plan "actor-1" 3

/-- The surroundings in which the attempt stays within the budget. -/
def frugal : Environment := environment (result 1 (some 1)) (passed 1)

/-- The run after it was planned. -/
def planned (env : Environment) : World :=
  (planning.program env.host "run-1").stopAfter (handle env 0) 100 submitted

/-- The run after its plan was executed up to a number of operations. -/
def executed (env : Environment) (n : Nat) : World :=
  (execution.program env.host "run-1").stopAfter (handle env 1) n (planned env)

/-- The actor of the calls has a name. -/
theorem isBlank_actor : isBlank "actor-1" = false := by decide +kernel

theorem project_queued (H : Host) : project H (streamOf "run-1" submitted.ledger) = .ok none := by
  have hstream : streamOf "run-1" submitted.ledger = [] ++ [queued] := by decide +kernel
  rw [hstream, project_concat]
  exact ⟨none, rfl, .unopened .runQueued (by decide +kernel) (by decide +kernel)⟩

theorem unopened_of_stamps {env : Environment}
    (hstamps : ∀ n, (env.stamps n).eventId = String.ofList (List.replicate (n + 1) 'e')) :
    Unopened env "run-1" submitted where
  readable := ⟨by decide +kernel, by decide +kernel, project_queued _⟩
  stamped x hx n _ := by
    obtain rfl := List.mem_singleton.mp hx
    intro h
    have hmem : 'q' ∈ (String.ofList (List.replicate (n + 1) 'e')).toList := by
      rw [← hstamps n, show (env.stamps n).eventId = "queued" from h.symm]
      decide
    simp at hmem
  keys x hx type scope := by
    obtain rfl := List.mem_singleton.mp (Ledger.mem_readStream.mp hx).1
    nofun

theorem unopened (planned : PlanningResult) (attempted : AttemptEvidence) :
    Unopened (environment planned attempted) "run-1" submitted :=
  unopened_of_stamps fun _ ↦ rfl

/-- The run is open in a ledger, with a state of a kind. -/
def opensWith (H : Host) (L : Ledger) (p : ExecutionRunState → Bool) : Bool :=
  (validateStream "run:run-1" none 1 (streamOf "run-1" L)).isOk &&
    (project H (streamOf "run-1" L)).toOption.join.any p

theorem exists_open {H : Host} {L : Ledger} {p : ExecutionRunState → Bool}
    (h : opensWith H L p = true) : ∃ s, Open H "run-1" L s ∧ p s = true := by
  simp only [opensWith, Bool.and_eq_true, Option.any_eq_true] at h
  obtain ⟨hvalid, s, hs, hp⟩ := h
  refine ⟨s, ⟨by decide +kernel, ?_, ?_⟩, hp⟩
  · exact (Checked.exists_of_isOk hvalid).choose_spec
  · cases hproject : project H (streamOf "run-1" L) with
    | ok state => simpa [hproject, Except.toOption] using hs
    | error => simp [hproject, Except.toOption] at hs

end Sample

end Blackcell.Orchestration.ExecutionRuntime
