import Blackcell.Foundation.Resumption
import Blackcell.Orchestration.ExecutionRuntime.Change

/-!
# The journal of a generated run

`EventBackedExecutionRunJournal` of `orchestration/execution_runtime.py`. Its calls are programs
over the operations of their surroundings: reads and appends of the event store, the stamp of a new
event, the key of a request, and, for the coordinator, the planning provider and the task executor.
The surroundings perform an operation at a time, so that a call can be stopped, or interleaved with
other calls, between any two operations.

A request is appended once: its key is a digest of the request and of the plan that is current, and
a request whose key the stream holds already is answered by the recorded event. Checkpoints only
save a prefix of the projection and are left out.

## Main definitions

* `Op`, `World`, `Environment`, `handle` : the operations, and what performs them.
* `append`, `rehydrate`, `plan` : the journal.
* `Open` : a world in which the stream of a run is valid, with its projected state.

## Main results

* `validateStream_concat` : a valid stream grows by the event that follows it.
* `Readable.unique` : a world holds one state of a run.
-/

namespace Blackcell.Orchestration.ExecutionRuntime

open Blackcell.Kernel Blackcell.Gateway Blackcell.Orchestration.ExecutionPlan

/-! ### Operations -/

/-- The arguments of `TaskAttemptExecutor.execute`. -/
structure AttemptRequest where
  runId : String
  goal : GoalSpec
  plan : Plan
  task : TaskSpec
  attempt : Nat
  workspaceId : String
  baseCommit : String
  priorFailureClass : Option FailureClass
  priorFailureSummary : Option String
  policyDecision : PolicyDecision
  remainingBudget : GatewayBudget

/-- What an executor answers: evidence, or an exception with the name of its type. -/
inductive AttemptAnswer where
  | evidence (evidence : AttemptEvidence)
  | raised (typeName : String)

/-- The identity and the instant of a new event. -/
structure Stamp where
  eventId : String
  instant : Timestamp

/-- The operations that a call of the runtime asks of its surroundings. -/
inductive Op where
  /-- `EventStore.read_stream`. -/
  | readStream (streamId : String)
  /-- The idempotency key of a request to a stream. -/
  | requestKey (streamId : String) (eventType : ExecutionEventType) (scope : JsonValue)
  /-- `new_event_id` and `utc_now`. -/
  | stamp
  /-- `EventStore.append`. -/
  | append (event : EventEnvelope) (expectedSequence : Int)
  /-- `PlanningProvider.propose_plan`, which answers nothing when it raises. -/
  | proposePlan (request : PlanningRequest)
  /-- `TaskAttemptExecutor.execute`. -/
  | execute (request : AttemptRequest)

/-- The operations with their results. -/
@[reducible] def operations : Interface where
  Op := Op
  Res
    | .readStream _ => List EventEnvelope
    | .requestKey _ _ _ => String
    | .stamp => Stamp
    | .append _ _ => Except StoreError EventEnvelope
    | .proposePlan _ => Option PlanningResult
    | .execute _ => AttemptAnswer

/-- A call of the runtime. -/
abbrev Call := Prog operations Failure

/-- A call of a provider or of an executor. -/
inductive ExternalCall where
  | proposal (request : PlanningRequest)
  | attempt (request : AttemptRequest)

/-- The surroundings of a call: everything whose answers the code does not determine. -/
structure Environment where
  host : Host
  stamps : Nat → Stamp
  stamps_injective : Function.Injective fun n ↦ (stamps n).eventId
  provider : Nat → PlanningRequest → Option PlanningResult
  executor : Nat → AttemptRequest → AttemptAnswer

/-- The shared world: the ledger, the number of stamps that were given out, the requests whose key
was asked for, and the external calls and the stored events so far, each with the caller. -/
structure World where
  ledger : Ledger
  stamped : Nat
  requested : List (ExecutionEventType × JsonValue)
  calls : List (Nat × ExternalCall)
  stored : List (Nat × EventEnvelope)

/-- The idempotency key of a request. -/
def keyOf (H : Host) (eventType : ExecutionEventType) (scope : JsonValue) : String :=
  StrEnum.value eventType ++ ":" ++ H.jsonDigest scope

/-- Perform an operation for a caller. -/
def handle (env : Environment) (caller : Nat) :
    (o : operations.Op) → World → operations.Res o × World
  | .readStream streamId, w => (w.ledger.readStream streamId, w)
  | .requestKey _ eventType scope, w =>
    (keyOf env.host eventType scope, { w with requested := w.requested ++ [(eventType, scope)] })
  | .stamp, w => (env.stamps w.stamped, { w with stamped := w.stamped + 1 })
  | .append e n, w =>
    match Ledger.append env.host w.ledger e n with
    | .error error => (.error error, w)
    | .ok (e', L) => (.ok e', { w with
        ledger := L
        stored := if L.length = w.ledger.length then w.stored else w.stored ++ [(caller, e')] })
  | .proposePlan request, w =>
    (env.provider w.calls.length request,
      { w with calls := w.calls ++ [(caller, .proposal request)] })
  | .execute request, w =>
    (env.executor w.calls.length request,
      { w with calls := w.calls ++ [(caller, .attempt request)] })

/-- `EventStore.read_stream`. -/
def readStream (streamId : String) : Call (List EventEnvelope) :=
  Prog.perform (I := operations) (.readStream streamId)

/-- The idempotency key of a request. -/
def requestKey (streamId : String) (eventType : ExecutionEventType) (scope : JsonValue) :
    Call String :=
  Prog.perform (I := operations) (.requestKey streamId eventType scope)

/-- `new_event_id` and `utc_now`. -/
def newStamp : Call Stamp := Prog.perform (I := operations) .stamp

/-- `EventStore.append`. -/
def appendEvent (e : EventEnvelope) (expectedSequence : Int) :
    Call (Except StoreError EventEnvelope) :=
  Prog.perform (I := operations) (.append e expectedSequence)

/-- `PlanningProvider.propose_plan`. -/
def proposePlan (request : PlanningRequest) : Call (Option PlanningResult) :=
  Prog.perform (I := operations) (.proposePlan request)

/-- `TaskAttemptExecutor.execute`. -/
def executeAttempt (request : AttemptRequest) : Call AttemptAnswer :=
  Prog.perform (I := operations) (.execute request)

/-! ### The journal -/

section Journal

variable (H : Host) (runId : String)

/-- `_rebuild`: the projected state of the run. -/
def rebuild : Call (Option ExecutionRunState) := do
  let streamId ← streamIdOf runId
  let events ← readStream streamId
  validateStream streamId none 1 events
  let events ← readStream streamId
  project H events

/-- `rehydrate`. -/
def rehydrate : Call ExecutionRunState := do
  match ← rebuild H runId with
  | some s => pure s
  | none => throw (.runtime .executionRunNotFound)

/-- An integer, or `None`. -/
def revisionValue : Option Nat → JsonValue
  | some n => .int n
  | none => .null

/-- The scope of a request: its payload, and the plan that is current. A plan is requested under
its own name. -/
def requestScope (eventType : ExecutionEventType) (current : Option ExecutionRunState)
    (payload : Mapping) : JsonValue :=
  let (planId, planVersion) :=
    if eventType = .planAdmitted then (payload.get "plan_id", payload.get "plan_version")
    else (.ofText? (current.bind (·.planId)), revisionValue (current.bind (·.planRevision)))
  .object [("plan_id", planId), ("plan_version", planVersion), ("payload", .object payload)]

/-- The event of a request. -/
def requestEvent (eventType : ExecutionEventType) (payload : Mapping) (actor key : String)
    (existing : List EventEnvelope) (stamp : Stamp) : EventEnvelope where
  eventId := stamp.eventId
  streamId := "run:" ++ runId
  streamSequence := existing.length + 1
  eventType := StrEnum.value eventType
  schemaVersion := 1
  recordedAt := stamp.instant
  effectiveAt := stamp.instant
  correlationId := runId
  causationId := existing.getLast?.map (·.eventId)
  actor := actor
  source := executionEventSource
  payload := ("run_id", .str runId) :: payload
  idempotencyKey := some key
  globalPosition := none

/-- The exceptions of the store that the journal reports as a conflict. -/
def appendFailure : StoreError → Failure
  | .concurrency | .conflict | .idempotency => .runtime .executionConcurrencyConflict
  | error => .store error

/-- Store the event of a request, and read the run again. -/
def storeRequest (event : EventEnvelope) (expectedSequence : Int) : Call EventEnvelope := do
  match ← appendEvent event expectedSequence with
  | .error error => throw (appendFailure error)
  | .ok stored =>
    let _ ← rehydrate H runId
    pure stored

/-- `append`. -/
def append (eventType : ExecutionEventType) (payload : Mapping) (actor : String) :
    Call EventEnvelope := do
  check (isBlank actor = false ∧ "run_id" ∉ payload.keys) .invalidExecutionEvent
  let streamId ← streamIdOf runId
  let existing ← readStream streamId
  validateStream streamId none 1 existing
  check (eventType = .goalAdmitted → (existing.filter RunLifecycle.isPublic).length ≤ 1)
    .executionPublicRunAlreadyActive
  let current ← rebuild H runId
  let key ← requestKey streamId eventType (requestScope eventType current payload)
  match existing.find? fun e ↦ e.idempotencyKey = some key with
  | some prior =>
    check (prior.eventType = StrEnum.value eventType ∧ prior.source = executionEventSource ∧
      prior.actor = actor ∧
      (JsonValue.object prior.payload).equals (.object (("run_id", .str runId) :: payload)))
      .executionIdempotencyConflict
    pure prior
  | none =>
    let stamp ← newStamp
    let event := requestEvent runId eventType payload actor key existing stamp
    let _ ← apply H current event
    storeRequest H runId event existing.length

/-- `plan`: the last admitted plan of the run, bound to its state. -/
def plan : Call Plan := do
  let streamId ← streamIdOf runId
  let events ← readStream streamId
  validateStream streamId none 1 events
  match events.reverse.find? fun e ↦ e.eventType = StrEnum.value ExecutionEventType.planAdmitted with
  | none => throw (.runtime .executionPlanNotFound)
  | some e =>
    let plan ← validEvent (planFromPayload (e.payload.get "plan"))
    let s ← rehydrate H runId
    check (s.planId = some plan.planId ∧ s.planDigest = some (plan.planDigest H))
      .executionRunBindingMismatch
    pure plan

end Journal

/-! ### Valid streams -/

section Streams

variable {streamId : String} {E : List EventEnvelope} {e : EventEnvelope}

/-- The event is the next one of a stream. -/
structure Follows (streamId : String) (E : List EventEnvelope) (e : EventEnvelope) : Prop where
  stream : e.streamId = streamId
  sequence : e.streamSequence = E.length + 1
  version : e.schemaVersion = 1
  known : (RunLifecycle.runEventType? e).isSome ∨ (executionEventType? e).isSome
  cause : ∀ p ∈ E.getLast?, e.causationId = some p.eventId

theorem validateStream_append_singleton {previous : Option EventEnvelope} {n : Int} :
    validateStream streamId previous n (E ++ [e]) = .ok () ↔
      validateStream streamId previous n E = .ok () ∧
        (e.streamId = streamId ∧ e.streamSequence = n + E.length ∧ e.schemaVersion = 1 ∧
          ((RunLifecycle.runEventType? e).isSome ∨ (executionEventType? e).isSome)) ∧
        ∀ p ∈ E.getLast?.or previous, e.causationId = some p.eventId := by
  induction E generalizing previous n with
  | nil => simp [validateStream]
  | cons x E ih =>
    have hlength : n + 1 + (E.length : Int) = n + ((x :: E).length : Nat) := by
      rw [List.length_cons]
      omega
    have hlast : (x :: E).getLast?.or previous = E.getLast?.or (some x) := by
      rw [List.getLast?_cons]
      cases E.getLast? <;> rfl
    simp only [List.cons_append, validateStream, Checked.bind_eq_ok, check_eq_ok,
      Checked.exists_unit, ih, hlength, hlast, and_assoc]

/-- **Valid streams** grow by the events that follow them. -/
theorem validateStream_concat : validateStream streamId none 1 (E ++ [e]) = .ok () ↔
    validateStream streamId none 1 E = .ok () ∧ Follows streamId E e := by
  rw [validateStream_append_singleton, Option.or_none]
  refine and_congr_right fun _ ↦ ⟨?_, ?_⟩
  · rintro ⟨⟨h1, h2, h3, h4⟩, h5⟩
    exact ⟨h1, by omega, h3, h4, h5⟩
  · rintro ⟨h1, h2, h3, h4, h5⟩
    exact ⟨⟨h1, by omega, h3, h4⟩, h5⟩

/-- The sequence numbers of a valid stream are at most its length. -/
theorem streamSequence_le (h : validateStream streamId none 1 E = .ok ()) (he : e ∈ E) :
    e.streamSequence ≤ E.length := by
  induction E using List.reverseRecOn with
  | nil => simp at he
  | append_singleton E x ih =>
    obtain ⟨hE, hx⟩ := validateStream_concat.mp h
    rw [List.length_append, List.length_singleton]
    rcases List.mem_append.mp he with he | he
    · have := ih hE he
      omega
    · rw [List.mem_singleton.mp he, hx.sequence]
      omega

end Streams

/-! ### Open runs -/

/-- The stream of a run. -/
def streamOf (runId : String) (L : Ledger) : List EventEnvelope := L.readStream ("run:" ++ runId)

/-- The stream of the run is valid, and the projection accepts it. -/
structure Readable (H : Host) (runId : String) (L : Ledger) (state : Option ExecutionRunState) :
    Prop where
  isRun : isRunId runId
  valid : validateStream ("run:" ++ runId) none 1 (streamOf runId L) = .ok ()
  state : project H (streamOf runId L) = .ok state

/-- The stream of the run is valid, and the run is open, with a projected state. -/
abbrev Open (H : Host) (runId : String) (L : Ledger) (s : ExecutionRunState) : Prop :=
  Readable H runId L (some s)

theorem Step.runId {H : Host} {e : EventEnvelope} {state : Option ExecutionRunState}
    {s : ExecutionRunState} (h : Step H e state (some s)) : e.streamId = "run:" ++ s.runId := by
  cases h with
  | published t s type isRun stream => exact stream
  | opened runId goal classification locality budget type fields run isRun stream => exact stream
  | changed t s s' type fields run isRun stream sequence active change =>
    cases change <;> exact stream

theorem Step.sequence {H : Host} {e : EventEnvelope} {state : Option ExecutionRunState}
    {s : ExecutionRunState} (h : Step H e state (some s)) :
    s.lastStreamSequence = e.streamSequence ∧ s.latestEventId = e.eventId := by
  cases h <;> exact ⟨rfl, rfl⟩

theorem project_concat {H : Host} {E : List EventEnvelope} {e : EventEnvelope}
    {state : Option ExecutionRunState} : project H (E ++ [e]) = .ok state ↔
      ∃ before, project H E = .ok before ∧ Step H e before state := by
  simp only [project, History.run_append_eq_ok, History.run_cons, History.run_nil,
    Checked.bind_eq_ok, Except.ok.injEq, exists_eq_right, apply_eq_ok]

/-- The events of a run that is not open are public. -/
theorem public_of_project_none {H : Host} {E : List EventEnvelope} (h : project H E = .ok none) :
    ∀ e ∈ E, executionEventType? e = none := by
  refine History.invariant (fun pre state ↦ state = none → ∀ e ∈ pre, executionEventType? e = none)
    (by simp) ?_ h rfl
  rintro pre e before state hbefore hstep rfl
  cases apply_eq_ok.mp hstep with
  | unopened t type =>
    simpa [or_imp, forall_and, executionEventType?_eq_none type] using hbefore rfl

namespace Readable

variable {H : Host} {runId : String} {L : Ledger} {s : ExecutionRunState}

/-- The last event of an open run, and the step that it made. -/
theorem last (h : Open H runId L s) : ∃ E e before, streamOf runId L = E ++ [e] ∧
    project H E = .ok before ∧ Step H e before (some s) ∧ Follows ("run:" ++ runId) E e := by
  obtain ⟨E, e, hE⟩ : ∃ E e, streamOf runId L = E ++ [e] := by
    rcases List.eq_nil_or_concat (streamOf runId L) with hnil | ⟨E, e, hE⟩
    · have hstate := h.state
      rw [hnil] at hstate
      simp [project] at hstate
    · exact ⟨E, e, by rw [hE, List.concat_eq_append]⟩
  have hstate := h.state
  rw [hE, project_concat] at hstate
  obtain ⟨before, hbefore, hstep⟩ := hstate
  have hvalid := h.valid
  rw [hE, validateStream_concat] at hvalid
  exact ⟨E, e, before, hE, hbefore, hstep, hvalid.2⟩

/-- The state of an open run is that of the run. -/
theorem runId_eq (h : Open H runId L s) : s.runId = runId := by
  obtain ⟨E, e, before, hE, hbefore, hstep, hfollows⟩ := h.last
  exact streamId_injective (hstep.runId.symm.trans hfollows.stream)

theorem lastStreamSequence (h : Open H runId L s) :
    s.lastStreamSequence = (streamOf runId L).length := by
  obtain ⟨E, e, before, hE, hbefore, hstep, hfollows⟩ := h.last
  rw [hstep.sequence.1, hfollows.sequence, hE, List.length_append, List.length_singleton]
  rfl

theorem unique {s' : ExecutionRunState} (h : Open H runId L s) (h' : Open H runId L s') :
    s = s' := by
  have := h.state.symm.trans h'.state
  simpa using this

end Readable

end Blackcell.Orchestration.ExecutionRuntime
