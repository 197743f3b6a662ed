import Blackcell.Bootstrap.Requests
import Blackcell.Foundation.Interleaving
import Blackcell.Kernel.Retry

/-!
# Immutable admission

The four calls of `bootstrap/runtime_service.py` that admit something for good: a project, an intent, a
plan and a run. A call reads the events it refers to, reads the stream of its identifier, and appends the
admission event when the stream is empty; when it loses that race, it reads the stream again. Each read
and each append is an operation of its own, so calls interleave between any two of them, and other
components append other events meanwhile.

## Main definitions

* `StoreOp`, `Store.perform` : the operations on the ledger.
* `Recording.recordImmutable`, `Recording.recordRunQueued` : recording an admission.
* `AdmissionCall` : the calls, with what the components around the store answer.

## Main results

* `Recording.safe_record` : recording, against every interference.
* `AdmissionCall.safe` : a call, against every interference.
* `immutable_admission` : every interleaving of any number of calls.
-/

namespace Blackcell.Bootstrap

open Blackcell.Kernel Blackcell.Adapters.Worktree
open Blackcell.Interfaces.Http hiding check check_eq_ok
open Blackcell.Orchestration Blackcell.Orchestration.RunLifecycle

/-! ### Operations -/

/-- What is to be recorded. -/
structure Recording where
  streamId : String
  eventType : String
  request : Mapping
  idempotencyKey : String
  principalId : String
  correlationId : Option String
  causationId : Option String
  references : Option Mapping
  extra : Option Mapping
  eventId : String
  recordedAt : Timestamp

namespace Recording

variable (H : Host) (r : Recording)

/-- The payload of the admission event. -/
def payload : Mapping := requestEventPayload H r.request r.principalId r.references r.extra

/-- The admission event. -/
def event : EventEnvelope where
  eventId := r.eventId
  streamId := r.streamId
  streamSequence := 1
  eventType := r.eventType
  schemaVersion := 1
  recordedAt := r.recordedAt
  effectiveAt := r.recordedAt
  correlationId := match r.correlationId with
    | some correlationId => if correlationId = "" then r.eventId else correlationId
    | none => r.eventId
  causationId := r.causationId
  actor := r.principalId
  source := runtimeEventSource
  payload := r.payload H
  idempotencyKey := some r.idempotencyKey
  globalPosition := none

end Recording

/-- The kinds of admission events. -/
def admissionEventTypes : List String :=
  [projectRegistered, intentAccepted, planAccepted, StrEnum.value RunEventType.runQueued]

/-- The operations of a call on the store. -/
inductive StoreOp where
  | read (streamId : String) (limit : Option ℕ)
  | append (r : Recording) (expectedSequence : Int)

/-- The reply of an operation. -/
def StoreOp.Reply : StoreOp → Type
  | .read _ _ => List EventEnvelope
  | .append _ _ => Except StoreError EventEnvelope

/-- Every admission event is the first one of its stream. -/
def AdmitsFirst (L : Ledger) : Prop := ∀ e ∈ L, e.eventType ∈ admissionEventTypes → e.streamSequence = 1

/-- The ledger that the calls share. -/
structure Store where
  ledger : Ledger
  consistent : ledger.Consistent
  admits : AdmitsFirst ledger

namespace Store

/-- The store at the start. -/
def empty : Store := ⟨[], .nil, fun _ he ↦ absurd he List.not_mem_nil⟩

variable {H : Host} {L L' : Ledger}

/-- An accepted append of an admission event keeps the invariants of the store. -/
theorem append_keeps {r : Recording} {x : EventEnvelope} {n : Int} (hL : L.Consistent)
    (hadmits : AdmitsFirst L) (h : Ledger.append H L (r.event H) n = .ok (x, L')) :
    L'.Consistent ∧ AdmitsFirst L' ∧ L <+: L' := by
  rcases (Ledger.append_eq_ok.mp h).2 with ⟨_, -, heq⟩ | ⟨-, hcurrent, hsequence, hinsert, heq⟩
  · rw [(Prod.mk.inj heq).2]
    exact ⟨hL, hadmits, List.prefix_rfl⟩
  · rw [(Prod.mk.inj heq).2]
    refine ⟨hL.store hinsert (hcurrent ▸ hsequence), fun e he htype ↦ ?_, List.prefix_append _ _⟩
    rcases List.mem_append.mp he with he | he
    · exact hadmits e he htype
    · rw [List.mem_singleton.mp he]
      rfl

/-- `read_stream`, with a limit or without. -/
def readStream (s : Store) (streamId : String) : Option ℕ → List EventEnvelope
  | some limit => (s.ledger.readStream streamId).take limit
  | none => s.ledger.readStream streamId

variable (H) in
/-- Perform an operation. -/
def perform : (o : StoreOp) → Store → o.Reply × Store
  | .read streamId limit, s => (s.readStream streamId limit, s)
  | .append r n, s =>
    match h : Ledger.append H s.ledger (r.event H) n with
    | .ok (x, L') =>
      have keeps := append_keeps s.consistent s.admits h
      (.ok x, ⟨L', keeps.1, keeps.2.1⟩)
    | .error error => (.error error, s)

end Store

/-- A batch of other components, which admits nothing. -/
structure OtherEvents where
  batch : List EventEnvelope
  expectedSequences : List (String × Int)
  other : ∀ e ∈ batch, e.eventType ∉ admissionEventTypes

namespace OtherEvents

variable {H : Host} {L L' : Ledger} {o : OtherEvents}

/-- A batch that admits nothing keeps the invariants of the store. -/
theorem append_keeps {r : List EventEnvelope} (hL : L.Consistent) (hadmits : AdmitsFirst L)
    (h : Ledger.appendMany H L o.batch o.expectedSequences = .ok (r, L')) :
    L'.Consistent ∧ AdmitsFirst L' ∧ L <+: L' := by
  obtain ⟨hL', hle, -⟩ := hL.appendMany h
  refine ⟨hL', fun e he htype ↦ ?_, hle⟩
  rcases Ledger.stored_of_appendMany h e he with he | ⟨e', he', hstored⟩
  · exact hadmits e he htype
  · rw [hstored] at htype
    exact absurd htype (o.other e' he')

variable (H o) in
/-- Another component appends its batch. -/
def append (s : Store) : Store :=
  match h : Ledger.appendMany H s.ledger o.batch o.expectedSequences with
  | .ok (_, L') =>
    have keeps := append_keeps s.consistent s.admits h
    ⟨L', keeps.1, keeps.2.1⟩
  | .error _ => s

end OtherEvents

variable (H : Host)

/-! ### Recording -/

/-- The exceptions of a call. -/
inductive CallError where
  | api (code : RuntimeApiFailureCode)
  | store (error : StoreError)
  deriving DecidableEq

/-- A program of the service. -/
abbrev Service := Program StoreOp StoreOp.Reply

namespace Recording

variable (r : Recording)

/-- Record an admission, with the reads of its stream and the comparison with an earlier one. -/
def record (limit : Option ℕ)
    (idempotent : List EventEnvelope → Except RuntimeApiFailureCode EventEnvelope) :
    Service (Except CallError EventEnvelope) := do
  let existing : List EventEnvelope ← Program.perform (StoreOp.read r.streamId limit)
  if existing ≠ [] then
    return (idempotent existing).mapError .api
  else
    let stored : Except StoreError EventEnvelope ← Program.perform (StoreOp.append r 0)
    match stored with
    | .ok x => return .ok x
    | .error .concurrency | .error .conflict | .error .idempotency =>
      let raced : List EventEnvelope ← Program.perform (StoreOp.read r.streamId limit)
      if raced ≠ [] then return (idempotent raced).mapError .api
      else return .error (.api .conflict)
    | .error error => return .error (.store error)

/-- `_record_immutable`. -/
def recordImmutable : Service (Except CallError EventEnvelope) :=
  r.record (some 2) (requireIdempotent H r.eventType (r.payload H))

/-- `_record_run_queued`. -/
def recordRunQueued : Service (Except CallError EventEnvelope) :=
  r.record none (requireRunIdempotent H (r.payload H))

end Recording

/-! ### Calls -/

/-- A part of a call that reads the store and may raise. -/
abbrev Reading := ExceptT RuntimeApiFailureCode Service

/-- `read_stream`. -/
def readStream (streamId : String) (limit : Option ℕ) : Reading (List EventEnvelope) :=
  ExceptT.lift (Program.perform (StoreOp.read streamId limit))

/-- A check without operations. -/
def liftExcept {α : Type} (x : Except RuntimeApiFailureCode α) : Reading α := ExceptT.mk (.done x)

/-- `_required_event`. -/
def readRequired (streamId eventType : String) : Reading EventEnvelope := do
  let events ← readStream streamId (some 2)
  liftExcept (requiredEvent eventType events)

/-- What the components around the store answer to a call: the storage quota, the file system, the
checks of a plan against its intent and against the capacity of its review, the repository, and the
binding of a generated run. -/
structure Answers where
  storage : Except RuntimeApiFailureCode PUnit
  projectRoot : String → Except RuntimeApiFailureCode PUnit
  generatedPlan : IntentRequest → PlanRequest → Except RuntimeApiFailureCode PUnit
  reviewCapacity : PlanRequest → Except RuntimeApiFailureCode PUnit
  retainBaseCommit : PlanRequest → Except RuntimeApiFailureCode PUnit
  kernelBinding : RunRequest → IntentRequest → PlanRequest → LoadedRun →
    Except RuntimeApiFailureCode PUnit

/-- The service: the conversions of requests, the file system, and the roots of the worktrees. -/
structure Deployment where
  contracts : Contracts
  fs : FileSystem
  repositoryRoot : String
  isolationRoot : String

/-- The principal of a call, and the identifier and the time of the event that it may create. -/
structure Caller where
  principalId : String
  eventId : String
  recordedAt : Timestamp

/-- The events that a response presents: the event whose principal it names, and the event whose
identifier, position and digest it shows. -/
structure Response where
  admission : EventEnvelope
  event : EventEnvelope

variable (D : Deployment) (caller : Caller) (answers : Answers)

/-- The checks at the beginning of a call. -/
def begin : Reading PUnit := do
  liftExcept (Checked.require (isPrincipal caller.principalId) .invalidRequest)
  liftExcept answers.storage

/-- `register_project`, up to its recording. -/
def prepareProject (request : ProjectRequest) : Reading Recording := do
  begin caller answers
  liftExcept (answers.projectRoot request.root)
  return {
    streamId := projectStream request.projectId
    eventType := projectRegistered
    request := D.contracts.project.toBuiltins request
    idempotencyKey := request.idempotencyKey
    principalId := caller.principalId
    correlationId := none
    causationId := none
    references := none
    extra := none
    eventId := caller.eventId
    recordedAt := caller.recordedAt }

/-- `accept_intent`, up to its recording. -/
def prepareIntent (request : IntentRequest) : Reading Recording := do
  begin caller answers
  let projectEvent ← readRequired (projectStream request.projectId) projectRegistered
  let project ← liftExcept (decodeRequest H D.contracts.project projectEvent)
  liftExcept (Checked.require (project.projectId = request.projectId) .conflict)
  return {
    streamId := intentStream request.intentId
    eventType := intentAccepted
    request := D.contracts.intent.toBuiltins request
    idempotencyKey := request.idempotencyKey
    principalId := caller.principalId
    correlationId := some projectEvent.correlationId
    causationId := some projectEvent.eventId
    references := some [("project", eventReference H projectEvent)]
    extra := none
    eventId := caller.eventId
    recordedAt := caller.recordedAt }

/-- The plan whose base commit the repository retains: an earlier plan, if there is one. -/
def readRetainedPlan (request : PlanRequest) : Reading PlanRequest := do
  let priorPlan ← readStream (planStream request.planId) (some 1)
  if priorPlan = [] then
    return request
  else
    let planEvent ← readRequired (planStream request.planId) planAccepted
    liftExcept (decodeRequest H D.contracts.plan planEvent)

/-- `accept_plan`, up to its recording. -/
def preparePlan (request : PlanRequest) : Reading Recording := do
  begin caller answers
  let projectEvent ← readRequired (projectStream request.projectId) projectRegistered
  let intentEvent ← readRequired (intentStream request.intentId) intentAccepted
  let project ← liftExcept (decodeRequest H D.contracts.project projectEvent)
  let intent ← liftExcept (decodeRequest H D.contracts.intent intentEvent)
  liftExcept (Checked.require (project.projectId = request.projectId ∧
    intent.projectId = request.projectId ∧ intent.intentId = request.intentId) .conflict)
  liftExcept (if request.generated then answers.generatedPlan intent request else .ok ⟨⟩)
  liftExcept (requireReference H intentEvent "project" projectEvent)
  liftExcept (answers.reviewCapacity request)
  let retainedPlan ← readRetainedPlan H D request
  liftExcept (answers.retainBaseCommit retainedPlan)
  return {
    streamId := planStream request.planId
    eventType := planAccepted
    request := D.contracts.plan.toBuiltins request
    idempotencyKey := request.idempotencyKey
    principalId := caller.principalId
    correlationId := some projectEvent.correlationId
    causationId := some intentEvent.eventId
    references := some [("project", eventReference H projectEvent),
      ("intent", eventReference H intentEvent)]
    extra := none
    eventId := caller.eventId
    recordedAt := caller.recordedAt }

/-- The events and the requests that a run refers to. -/
structure RunReferences where
  projectEvent : EventEnvelope
  intentEvent : EventEnvelope
  planEvent : EventEnvelope
  intent : IntentRequest
  plan : PlanRequest

/-- The events and requests that a run refers to, which agree with each other. -/
def readReferences (request : RunRequest) : Reading RunReferences := do
  let projectEvent ← readRequired (projectStream request.projectId) projectRegistered
  let intentEvent ← readRequired (intentStream request.intentId) intentAccepted
  let planEvent ← readRequired (planStream request.planId) planAccepted
  let project ← liftExcept (decodeRequest H D.contracts.project projectEvent)
  let intent ← liftExcept (decodeRequest H D.contracts.intent intentEvent)
  let plan ← liftExcept (decodeRequest H D.contracts.plan planEvent)
  liftExcept (Checked.require (project.projectId = request.projectId ∧
    intent.projectId = request.projectId ∧ intent.intentId = request.intentId ∧
    plan.projectId = request.projectId ∧ plan.intentId = request.intentId ∧
    plan.planId = request.planId) .conflict)
  return ⟨projectEvent, intentEvent, planEvent, intent, plan⟩

/-- `submit_run`, up to its recording. -/
def prepareRun (request : RunRequest) : Reading Recording := do
  begin caller answers
  let references ← readReferences H D request
  liftExcept (requireReference H references.intentEvent "project" references.projectEvent)
  liftExcept (requireReference H references.planEvent "project" references.projectEvent)
  liftExcept (requireReference H references.planEvent "intent" references.intentEvent)
  return {
    streamId := runStream request.runId
    eventType := StrEnum.value RunEventType.runQueued
    request := D.contracts.run.toBuiltins request
    idempotencyKey := request.idempotencyKey
    principalId := caller.principalId
    correlationId := some references.projectEvent.correlationId
    causationId := some references.planEvent.eventId
    references := some [("project", eventReference H references.projectEvent),
      ("intent", eventReference H references.intentEvent),
      ("plan", eventReference H references.planEvent)]
    extra := some [("status", .str "queued")]
    eventId := caller.eventId
    recordedAt := caller.recordedAt }

/-- `_load_run`, behind the read of the stream of the run. -/
def loadEvents (runId : String) (events : List EventEnvelope) : Reading LoadedRun := do
  let queued ← liftExcept (Checked.ofOption events.head? .notFound)
  liftExcept (Checked.require (queued.eventType = StrEnum.value RunEventType.runQueued) .conflict)
  let request ← liftExcept (decodeRequest H D.contracts.run queued)
  liftExcept (Checked.require (request.runId = runId) .conflict)
  let references ← readReferences H D request
  liftExcept (requireReference H queued "project" references.projectEvent)
  liftExcept (requireReference H queued "intent" references.intentEvent)
  liftExcept (requireReference H queued "plan" references.planEvent)
  let loaded ← liftExcept
    (loadRun H D.fs D.repositoryRoot D.isolationRoot references.plan runId events)
  liftExcept (if references.plan.generated ∧ loaded.kernelState.isSome then
    answers.kernelBinding request references.intent references.plan loaded else .ok ⟨⟩)
  return loaded

/-- The response to the admission of a project, an intent or a plan. -/
def immutableResponse {α : Type} (codec : Codec α) (e : EventEnvelope) :
    Except RuntimeApiFailureCode Response := do
  let _ ← decodeRequest H codec e
  let _ ← eventPrincipal e
  let _ ← globalPosition e
  return ⟨e, e⟩

/-- The event that a run presents: its latest event, or with `_kernel_latest_event` that of its generated
execution. -/
def presentedEvent (loaded : LoadedRun) : Except RuntimeApiFailureCode EventEnvelope :=
  match loaded.kernelState with
  | none => .ok loaded.state.latestEvent
  | some kernel =>
    Checked.ofOption (loaded.events.reverse.find? fun e ↦ e.eventId = kernel.latestEventId) .conflict

/-- `_run_response`. -/
def runResponse (loaded : LoadedRun) : Except RuntimeApiFailureCode Response := do
  let event ← presentedEvent loaded
  let _ ← eventPrincipal loaded.state.queuedEvent
  let _ ← globalPosition event
  return ⟨loaded.state.queuedEvent, event⟩

/-- The response to the submission of a run: the run as it is now. -/
def readRun (runId : String) : Reading Response := do
  let events ← readStream (runStream runId) none
  let loaded ← loadEvents H D answers runId events
  liftExcept (runResponse loaded)

/-- The admission event that a call came to record, if it came to that, and its result. -/
structure Outcome where
  event : Option EventEnvelope
  result : Except CallError Response

/-- Prepare an admission, record it, and respond. -/
def admitRequest (prepare : Reading Recording) (record : Recording → Service (Except CallError EventEnvelope))
    (respond : EventEnvelope → Reading Response) : Service Outcome := do
  let prepared ← prepare.run
  match prepared with
  | .error code => return ⟨none, .error (.api code)⟩
  | .ok r =>
    let recorded ← record r
    match recorded with
    | .error error => return ⟨some (r.event H), .error error⟩
    | .ok x =>
      let response ← (respond x).run
      return ⟨some (r.event H), response.mapError .api⟩

/-- `register_project`. -/
def registerProject (request : ProjectRequest) : Service Outcome :=
  admitRequest H (prepareProject D caller answers request) (·.recordImmutable H)
    fun x ↦ liftExcept (immutableResponse H D.contracts.project x)

/-- `accept_intent`. -/
def acceptIntent (request : IntentRequest) : Service Outcome :=
  admitRequest H (prepareIntent H D caller answers request) (·.recordImmutable H)
    fun x ↦ liftExcept (immutableResponse H D.contracts.intent x)

/-- `accept_plan`. -/
def acceptPlan (request : PlanRequest) : Service Outcome :=
  admitRequest H (preparePlan H D caller answers request) (·.recordImmutable H)
    fun x ↦ liftExcept (immutableResponse H D.contracts.plan x)

/-- `submit_run`. -/
def submitRun (request : RunRequest) : Service Outcome :=
  admitRequest H (prepareRun H D caller answers request) (·.recordRunQueued H)
    fun _ ↦ readRun H D answers request.runId

/-- The requests of the calls. -/
inductive AdmissionRequest where
  | project (request : ProjectRequest)
  | intent (request : IntentRequest)
  | plan (request : PlanRequest)
  | run (request : RunRequest)

/-- A call, with what the components around the store answer to it. -/
structure AdmissionCall where
  request : AdmissionRequest
  caller : Caller
  answers : Answers

namespace AdmissionCall

variable (c : AdmissionCall)

/-- The stream of the identifier of a call. -/
def streamId : String :=
  match c.request with
  | .project request => projectStream request.projectId
  | .intent request => intentStream request.intentId
  | .plan request => planStream request.planId
  | .run request => runStream request.runId

/-- The kind of the event that a call records. -/
def eventType : String :=
  match c.request with
  | .project _ => projectRegistered
  | .intent _ => intentAccepted
  | .plan _ => planAccepted
  | .run _ => StrEnum.value RunEventType.runQueued

/-- The request of a call, as it is recorded. -/
def document : Mapping :=
  match c.request with
  | .project request => D.contracts.project.toBuiltins request
  | .intent request => D.contracts.intent.toBuiltins request
  | .plan request => D.contracts.plan.toBuiltins request
  | .run request => D.contracts.run.toBuiltins request

/-- The program of a call. -/
def program : Service Outcome :=
  match c.request with
  | .project request => registerProject H D c.caller c.answers request
  | .intent request => acceptIntent H D c.caller c.answers request
  | .plan request => acceptPlan H D c.caller c.answers request
  | .run request => submitRun H D c.caller c.answers request

end AdmissionCall

/-! ### Reading -/

section

variable {H} {D} {α β : Type} {q : α → Prop} {q' : β → Prop} {x : Reading α}

variable (H) in
/-- A part of a call that only reads, and whose result satisfies `q` when it does not raise. -/
def ReadsTo (q : α → Prop) (x : Reading α) : Prop :=
  x.run.Reads (Store.perform H) fun result ↦ ∀ a, result = .ok a → q a

theorem readsTo_liftExcept {y : Except RuntimeApiFailureCode α} (h : ∀ a, y = .ok a → q a) :
    ReadsTo H q (liftExcept y) := h

theorem readsTo_pure {a : α} (h : q a) : ReadsTo H q (pure a) := by
  rintro _ ⟨⟩
  exact h

theorem ReadsTo.bind {f : α → Reading β} (hx : ReadsTo H q x) (hf : ∀ a, q a → ReadsTo H q' (f a)) :
    ReadsTo H q' (x >>= f) := by
  refine Program.reads_bind hx fun result hresult ↦ ?_
  cases result with
  | ok a => exact hf a (hresult a rfl)
  | error code => exact nofun

theorem readsTo_readStream {streamId : String} {limit : Option ℕ} :
    ReadsTo H (fun _ ↦ True) (readStream streamId limit) :=
  ⟨fun _ ↦ rfl, fun _ _ _ ↦ trivial⟩

theorem readsTo_readRequired {streamId eventType : String} :
    ReadsTo H (fun _ ↦ True) (readRequired streamId eventType) :=
  readsTo_readStream.bind fun _ _ ↦ readsTo_liftExcept fun _ _ ↦ trivial

/-- A check in a part of a call that only reads. -/
theorem ReadsTo.check {y : Except RuntimeApiFailureCode β} {f : β → Reading α}
    (hf : ∀ b, ReadsTo H q (f b)) : ReadsTo H q (liftExcept y >>= f) :=
  (readsTo_liftExcept fun _ _ ↦ trivial).bind (q := fun _ ↦ True) fun b _ ↦ hf b

/-- A required event in a part of a call that only reads. -/
theorem ReadsTo.required {streamId eventType : String} {f : EventEnvelope → Reading α}
    (hf : ∀ e, ReadsTo H q (f e)) : ReadsTo H q (readRequired streamId eventType >>= f) :=
  readsTo_readRequired.bind fun e _ ↦ hf e

theorem readsTo_begin : ReadsTo H (fun _ ↦ True) (begin caller answers) :=
  .check fun _ ↦ readsTo_liftExcept fun _ _ ↦ trivial

theorem readsTo_readReferences (request : RunRequest) :
    ReadsTo H (fun _ ↦ True) (readReferences H D request) :=
  .required fun _ ↦ .required fun _ ↦ .required fun _ ↦ .check fun _ ↦ .check fun _ ↦ .check fun _ ↦
    .check fun _ ↦ readsTo_pure trivial

theorem readsTo_begin_bind {f : PUnit → Reading α} (hf : ∀ u, ReadsTo H q (f u)) :
    ReadsTo H q (begin caller answers >>= f) :=
  (readsTo_begin caller answers).bind fun u _ ↦ hf u

/-- What a call prepares is recorded in the stream of its identifier, for its request and principal. -/
structure Prepares (streamId eventType : String) (request : Mapping) (principalId : String)
    (r : Recording) : Prop where
  stream : r.streamId = streamId
  kind : r.eventType = eventType
  request : r.request = request
  principal : r.principalId = principalId

theorem readsTo_prepareProject (request : ProjectRequest) :
    ReadsTo H (Prepares (projectStream request.projectId) projectRegistered
        (D.contracts.project.toBuiltins request) caller.principalId)
      (prepareProject D caller answers request) :=
  readsTo_begin_bind caller answers fun _ ↦ .check fun _ ↦ readsTo_pure ⟨rfl, rfl, rfl, rfl⟩

theorem readsTo_prepareIntent (request : IntentRequest) :
    ReadsTo H (Prepares (intentStream request.intentId) intentAccepted
        (D.contracts.intent.toBuiltins request) caller.principalId)
      (prepareIntent H D caller answers request) :=
  readsTo_begin_bind caller answers fun _ ↦ .required fun _ ↦ .check fun _ ↦ .check fun _ ↦
    readsTo_pure ⟨rfl, rfl, rfl, rfl⟩

theorem readsTo_readRetainedPlan (request : PlanRequest) :
    ReadsTo H (fun _ ↦ True) (readRetainedPlan H D request) := by
  refine readsTo_readStream.bind fun priorPlan _ ↦ ?_
  split
  · exact readsTo_pure trivial
  · exact .required fun _ ↦ readsTo_liftExcept fun _ _ ↦ trivial

theorem readsTo_preparePlan (request : PlanRequest) :
    ReadsTo H (Prepares (planStream request.planId) planAccepted
        (D.contracts.plan.toBuiltins request) caller.principalId)
      (preparePlan H D caller answers request) :=
  readsTo_begin_bind caller answers fun _ ↦ .required fun _ ↦ .required fun _ ↦ .check fun _ ↦
    .check fun _ ↦ .check fun _ ↦ .check fun _ ↦ .check fun _ ↦ .check fun _ ↦
    (readsTo_readRetainedPlan request).bind fun _ _ ↦ .check fun _ ↦ readsTo_pure ⟨rfl, rfl, rfl, rfl⟩

theorem readsTo_prepareRun (request : RunRequest) :
    ReadsTo H (Prepares (runStream request.runId) (StrEnum.value RunEventType.runQueued)
        (D.contracts.run.toBuiltins request) caller.principalId)
      (prepareRun H D caller answers request) :=
  readsTo_begin_bind caller answers fun _ ↦ (readsTo_readReferences request).bind fun _ _ ↦
    .check fun _ ↦ .check fun _ ↦ .check fun _ ↦ readsTo_pure ⟨rfl, rfl, rfl, rfl⟩

/-! ### Responses -/

/-- A run is loaded from its stream: its queued event is the first one, and its latest event is one of
the stream. -/
theorem events_of_loadRun {fs : FileSystem} {repositoryRoot isolationRoot runId : String}
    {plan : PlanRequest} {events : List EventEnvelope} {loaded : LoadedRun}
    (h : loadRun H fs repositoryRoot isolationRoot plan runId events = .ok loaded) :
    loaded.events = events ∧ events.head? = some loaded.state.queuedEvent ∧
      loaded.state.latestEvent ∈ events := by
  simp only [loadRun, Checked.bind_eq_ok, Checked.ofOption_eq_ok, Checked.require_eq_ok,
    Checked.mapError_eq_ok, Checked.exists_unit, Checked.pure_eq_ok] at h
  obtain ⟨queued, hhead, htype, state, hstate, kernelState, -, _, -, rfl⟩ := h
  obtain ⟨es, rfl⟩ := List.head?_eq_some_iff.mp hhead
  simp only [foldRunLifecycle, Checked.bind_eq_ok, Checked.exists_unit, check_eq_ok,
    present_eq_ok, RunLifecycle.checkStream] at hstate
  obtain ⟨-, last, -, -, ⟨⟨-, -, -, hknown⟩, -⟩, hfold⟩ := hstate
  -- an event of this kind is known only as a public event
  have hexecution : isExecution queued = false := by
    rw [isExecution, htype, Bool.and_eq_false_iff]
    exact .inr (by decide)
  have hpublic : isPublic queued = true := by simpa [isKnown, hexecution] using hknown
  rw [List.filter_cons_of_pos hpublic] at hfold
  simp only [Checked.bind_eq_ok, Checked.exists_unit, Checked.pure_eq_ok] at hfold
  obtain ⟨-, -, -, -, s, -, -, rfl⟩ := hfold
  refine ⟨rfl, rfl, ?_⟩
  have hlast : (queued :: es.filter isPublic).getLast (by simp) ∈ queued :: es.filter isPublic :=
    List.getLast_mem _
  exact (List.cons_sublist_cons.mpr List.filter_sublist).subset hlast

/-- The response presents a run by the first event of its stream, and by this event or a later one. -/
def Shows (events : List EventEnvelope) (y : Response) : Prop :=
  events.head? = some y.admission ∧
    (y.event = y.admission ∨ [y.admission, y.event].Sublist events)

theorem Shows.mono {events events' : List EventEnvelope} {y : Response} (h : Shows events y)
    (hle : events <+: events') : Shows events' y := by
  refine ⟨?_, h.2.imp_right fun hsublist ↦ hsublist.trans hle.sublist⟩
  obtain ⟨es, rfl⟩ := hle
  rw [List.head?_append, h.1, Option.some_or]

theorem shows_of_loadRun {fs : FileSystem} {repositoryRoot isolationRoot runId : String}
    {plan : PlanRequest} {events : List EventEnvelope} {loaded : LoadedRun} {y : Response}
    (h : loadRun H fs repositoryRoot isolationRoot plan runId events = .ok loaded)
    (hy : runResponse loaded = .ok y) : Shows events y := by
  obtain ⟨hevents, hhead, hlatest⟩ := events_of_loadRun h
  simp only [runResponse, Checked.bind_eq_ok, Checked.pure_eq_ok] at hy
  obtain ⟨event, hevent, _, -, _, -, rfl⟩ := hy
  have hmem : event ∈ events := by
    unfold presentedEvent at hevent
    split at hevent
    · exact Except.ok.inj hevent ▸ hlatest
    · have hfound := List.mem_of_find?_eq_some (Checked.ofOption_eq_ok.mp hevent)
      exact hevents ▸ List.mem_reverse.mp hfound
  refine ⟨hhead, ?_⟩
  obtain ⟨es, rfl⟩ := List.head?_eq_some_iff.mp hhead
  rcases List.mem_cons.mp hmem with rfl | hmem
  · exact .inl rfl
  · exact .inr (List.cons_sublist_cons.mpr (List.singleton_sublist.mpr hmem))

theorem readsTo_respondRun (runId : String) (events : List EventEnvelope) :
    ReadsTo H (Shows events) (do
      let loaded ← loadEvents H D answers runId events
      liftExcept (runResponse loaded)) := by
  have hload : ReadsTo H (fun loaded ↦ ∀ y, runResponse loaded = .ok y → Shows events y)
      (loadEvents H D answers runId events) := by
    refine .check fun _ ↦ .check fun _ ↦ .check fun _ ↦ .check fun _ ↦
      (readsTo_readReferences _).bind fun references _ ↦ .check fun _ ↦ .check fun _ ↦
      .check fun _ ↦ ?_
    refine (readsTo_liftExcept fun loaded h ↦ h).bind fun loaded h ↦ .check fun _ ↦ ?_
    exact readsTo_pure fun y hy ↦ shows_of_loadRun h hy
  exact hload.bind fun loaded h ↦ readsTo_liftExcept h

/-! ### Admitted events -/

variable (H) in
/-- The documents of the ledger and of an event that digests are taken of. -/
def documents (L : Ledger) (e : EventEnvelope) : Set JsonValue :=
  {v | ∃ x ∈ e :: L, v = .object x.payload ∨ v = .object (x.idempotencyDocument H)}

variable (H) in
/-- The admission event of a stream: its first event, with the kind and the payload of an event that is
to be recorded. -/
structure Admitted (L : Ledger) (e x : EventEnvelope) : Prop where
  head : (L.readStream e.streamId).head? = some x
  kind : x.eventType = e.eventType
  hash : x.payloadHash H = e.payloadHash H

variable {L L' : Ledger} {e y : EventEnvelope}

theorem head?_readStream_of_le {streamId : String} {z : EventEnvelope}
    (h : (L.readStream streamId).head? = some z) (hle : L <+: L') :
    (L'.readStream streamId).head? = some z := by
  obtain ⟨M, rfl⟩ := hle
  rw [Ledger.readStream_append, List.head?_append, h, Option.some_or]

theorem Admitted.mono (h : Admitted H L e y) (hle : L <+: L') : Admitted H L' e y :=
  ⟨head?_readStream_of_le h.head hle, h.kind, h.hash⟩

theorem collisionFreeOn_documents (h : H.CollisionFreeOn (documents H L' e)) (hle : L <+: L') :
    H.CollisionFreeOn (documents H L e) := by
  have hsubset : documents H L e ⊆ documents H L' e := fun v ⟨z, hz, hv⟩ ↦
    ⟨z, List.cons_subset_cons e hle.subset hz, hv⟩
  exact fun v hv w hw ↦ h v (hsubset hv) w (hsubset hw)

/-- The event with the number one is the first event of its stream. -/
theorem head?_of_first (hL : L.Consistent) (hy : y ∈ L) (hsequence : y.streamSequence = 1) :
    (L.readStream y.streamId).head? = some y := by
  have hmem : y ∈ L.readStream y.streamId := Ledger.mem_readStream.mpr ⟨hy, rfl⟩
  cases hstream : L.readStream y.streamId with
  | nil => simp [hstream] at hmem
  | cons z zs =>
    have hz : z ∈ L ∧ z.streamId = y.streamId := Ledger.mem_readStream.mp (by simp [hstream])
    have hfirst := hL.sequences y.streamId
    rw [hstream, List.map_cons, consecutive_cons] at hfirst
    rcases hL.trichotomy hy hz.1 with rfl | hearlier | hearlier
    · rfl
    · have := hearlier.2 hz.2.symm
      omega
    · have := hearlier.2 hz.2
      omega

/-- Two admission events of a stream are one. -/
theorem Store.head?_of_admission (s : Store) (hy : y ∈ s.ledger)
    (htype : y.eventType ∈ admissionEventTypes) :
    (s.ledger.readStream y.streamId).head? = some y :=
  head?_of_first s.consistent hy (s.admits y hy htype)

/-- **An accepted append.** It returns the admission event of the stream. -/
theorem admitted_of_append {r : Recording} {s : Store} {n : Int}
    (htype : r.eventType ∈ admissionEventTypes)
    (h : Ledger.append H s.ledger (r.event H) n = .ok (y, L'))
    (hH : H.CollisionFreeOn (documents H L' (r.event H))) : Admitted H L' (r.event H) y := by
  obtain ⟨hL', hadmits, -⟩ := Store.append_keeps s.consistent s.admits h
  have hy : y ∈ L' ∧ y.streamId = r.streamId ∧ y.eventType = r.eventType ∧
      y.payloadHash H = (r.event H).payloadHash H := by
    rcases (Ledger.append_eq_ok.mp h).2 with ⟨_, hfound, heq⟩ | ⟨-, -, -, -, heq⟩
    · obtain ⟨rfl, rfl⟩ := Prod.mk.inj heq
      have hanswers := Ledger.idempotentEvent_eq_some hfound
      have hcontent := (EventEnvelope.idempotencyHash_eq_iff fun v hv w hw ↦
        hH v (by grind [documents, hanswers.mem]) w (by grind [documents, hanswers.mem])).mp
        hanswers.repeats.hash
      refine ⟨hanswers.mem, hanswers.stream, hcontent.eventType, ?_⟩
      rw [EventEnvelope.payloadHash, EventEnvelope.payloadHash, Host.jsonDigest, Host.jsonDigest,
        hcontent.payload]
    · obtain ⟨rfl, rfl⟩ := Prod.mk.inj heq
      exact ⟨by simp, rfl, rfl, rfl⟩
  obtain ⟨hmem, hstream, hkind, hhash⟩ := hy
  refine ⟨?_, hkind, hhash⟩
  have hhead := head?_of_first hL' hmem (hadmits y hmem (hkind ▸ htype))
  rwa [hstream] at hhead

/-- An append of the first event of a stream: it returns the event of an earlier request, or stores the
event when the stream is empty. -/
theorem append_first (H : Host) (r : Recording) (L : Ledger) :
    Ledger.append H L (r.event H) 0 = Ledger.idempotentEvent H L (r.event H) >>= fun
      | some x => .ok (x, L)
      | none => Checked.require (L.currentSequence r.streamId = 0) .concurrency >>= fun _ ↦
          Ledger.insertEvent L (r.event H) := by
  have hdedup : [r.streamId].dedup = [r.streamId] := List.dedup_eq_self.mpr (List.nodup_singleton _)
  have hstream : (r.event H).streamId = r.streamId := rfl
  have hsequence : (r.event H).streamSequence = 1 := rfl
  cases hx : Ledger.idempotentEvent H L (r.event H) with
  | error code => simp [Ledger.append, Ledger.appendMany, hx, Checked.forEach, Checked.require]
  | ok x =>
    cases x with
    | some x =>
      simp [Ledger.append, Ledger.appendMany, hx, Checked.forEach, Checked.require,
        Ledger.existingInOrder, List.reduceOption]
    | none =>
      cases hinsert : Ledger.insertEvent L (r.event H) <;>
        simp [Ledger.append, Ledger.appendMany, hx, hdedup, hstream, hsequence, Checked.forEach,
          Checked.require, Ledger.validateBatchStream, Ledger.insertBatch, hinsert]

theorem raises_idempotentEvent (H : Host) (L : Ledger) (e : EventEnvelope) :
    Checked.Raises (· = StoreError.idempotency) (Ledger.idempotentEvent H L e) := by
  unfold Ledger.idempotentEvent
  repeat' split
  all_goals first | exact Checked.raises_ok _ | exact Checked.raises_error rfl

theorem raises_insertEvent (L : Ledger) (e : EventEnvelope) :
    Checked.Raises (· = StoreError.conflict) (Ledger.insertEvent L e) :=
  Checked.raises_bind (Checked.raises_require rfl) fun _ ↦
    Checked.raises_bind (Checked.raises_require rfl) fun _ ↦ Checked.raises_ok _

/-- An append of the first event of a stream fails with the errors of a race only. -/
theorem error_of_append {r : Recording} {error : StoreError}
    (h : Ledger.append H L (r.event H) 0 = .error error) :
    error = .concurrency ∨ error = .conflict ∨ error = .idempotency := by
  rw [append_first] at h
  cases hfound : Ledger.idempotentEvent H L (r.event H) with
  | error code =>
    rw [hfound] at h
    exact .inr (.inr (Except.error.inj h ▸ raises_idempotentEvent H L _ code hfound))
  | ok found =>
    rw [hfound] at h
    cases found with
    | some z => exact nomatch h
    | none =>
      by_cases hempty : L.currentSequence r.streamId = 0
      · rw [Checked.ok_bind, Checked.require_bind_of_true hempty] at h
        exact .inr (.inl (raises_insertEvent L _ error h))
      · simp only [Checked.ok_bind, Checked.require, if_neg hempty, Checked.error_bind,
          Except.error.injEq] at h
        exact .inl h.symm

/-! ### Safety -/

/-- The store after others worked on it. -/
def Store.Extends (s t : Store) : Prop := s.ledger <+: t.ledger

theorem Store.Extends.refl (s : Store) : s.Extends s := List.prefix_rfl

theorem Store.Extends.trans {s t u : Store} (h : s.Extends t) (h' : t.Extends u) : s.Extends u :=
  List.IsPrefix.trans h h'

theorem OtherEvents.extends_append (o : OtherEvents) (s : Store) : s.Extends (o.append H s) := by
  unfold OtherEvents.append
  split
  case h_1 h => exact (OtherEvents.append_keeps s.consistent s.admits h).2.2
  case h_2 => exact .refl s

theorem Store.extends_perform (o : StoreOp) (s : Store) : s.Extends (perform H o s).2 := by
  cases o with
  | read streamId limit => exact .refl s
  | append r n =>
    rw [perform]
    split
    case h_1 h => exact (Store.append_keeps s.consistent s.admits h).2.2
    case h_2 => exact .refl s

theorem Store.perform_append_ok {r : Recording} {n : Int} {s : Store}
    (h : Ledger.append H s.ledger (r.event H) n = .ok (y, L')) :
    ∃ t : Store, t.ledger = L' ∧ perform H (.append r n) s = (.ok y, t) := by
  have keeps := append_keeps s.consistent s.admits h
  refine ⟨⟨L', keeps.1, keeps.2.1⟩, rfl, ?_⟩
  rw [perform]
  split <;> simp_all

theorem Store.perform_append_error {r : Recording} {n : Int} {s : Store} {error : StoreError}
    (h : Ledger.append H s.ledger (r.event H) n = .error error) :
    perform H (.append r n) s = (.error error, s) := by
  rw [perform]
  split <;> simp_all

variable (H) in
/-- What a call that records an event guarantees: the event that it returns is the admission event, and
when it raises, it raises a conflict and has changed nothing. -/
def RecordingSettled (e : EventEnvelope) (changes : Program.Changes Store)
    (result : Except CallError EventEnvelope) (t : Store) : Prop :=
  match result with
  | .ok y => H.CollisionFreeOn (documents H t.ledger e) → Admitted H t.ledger e y
  | .error error => error = .api .conflict ∧ Program.Quiet changes

/-- A comparison with an earlier admission: it accepts the admission event only. -/
structure Compares (r : Recording) (limit : Option ℕ)
    (idempotent : List EventEnvelope → Except RuntimeApiFailureCode EventEnvelope) : Prop where
  admitted (s : Store) (y : EventEnvelope) (h : idempotent (s.readStream r.streamId limit) = .ok y) :
    Admitted H s.ledger (r.event H) y
  raises (events : List EventEnvelope) : Checked.Raises (· = .conflict) (idempotent events)

theorem Compares.recorded {r : Recording} {limit : Option ℕ}
    {idempotent : List EventEnvelope → Except RuntimeApiFailureCode EventEnvelope}
    (h : Compares (H := H) r limit idempotent) {changes : Program.Changes Store}
    (hquiet : Program.Quiet changes) {s t : Store} (hst : s.Extends t) :
    RecordingSettled H (r.event H) changes
      ((idempotent (s.readStream r.streamId limit)).mapError CallError.api) t := by
  cases hresult : idempotent (s.readStream r.streamId limit) with
  | ok y => exact fun _ ↦ (h.admitted s y hresult).mono hst
  | error code => exact ⟨congrArg _ (h.raises _ _ hresult), hquiet⟩

/-- **Recording.** Whatever the others do between the reads and the append, a recording returns the
admission event of its stream, or raises a conflict without any change. -/
theorem Recording.safe_record {r : Recording} {limit : Option ℕ}
    {idempotent : List EventEnvelope → Except RuntimeApiFailureCode EventEnvelope}
    (htype : r.eventType ∈ admissionEventTypes) (hcompares : Compares (H := H) r limit idempotent)
    {changes : Program.Changes Store} (hquiet : Program.Quiet changes) (s : Store) :
    Program.Safe (Store.perform H) Store.Extends (RecordingSettled H (r.event H)) changes
      (r.record limit idempotent) s := by
  have hread (t : Store) : Program.Quiet [(t, (Store.perform H (.read r.streamId limit) t).2)] :=
    List.forall_mem_singleton.mpr rfl
  refine Program.safe_perform_bind fun t _ ↦ ⟨.refl t, ?_⟩
  have hquiet₁ := List.forall_mem_append.mpr ⟨hquiet, hread t⟩
  split
  case isTrue => exact fun u htu ↦ hcompares.recorded hquiet₁ htu
  case isFalse =>
    refine Program.safe_perform_bind fun t' _ ↦ ⟨Store.extends_perform _ t', ?_⟩
    cases happend : Ledger.append H t'.ledger (r.event H) 0 with
    | ok result =>
      -- the append was accepted: the stream begins with what it returned
      obtain ⟨y, L'⟩ := result
      obtain ⟨u, rfl, hu⟩ := Store.perform_append_ok happend
      rw [hu]
      exact fun u' huu' hH ↦ (admitted_of_append htype happend
        (collisionFreeOn_documents hH huu')).mono huu'
    | error error =>
      rw [Store.perform_append_error happend]
      have hquiet₂ := List.forall_mem_append.mpr ⟨hquiet₁,
        List.forall_mem_singleton.mpr (rfl : ((t', t') : Store × Store).2 = t')⟩
      have hraced : Program.Safe (Store.perform H) Store.Extends (RecordingSettled H (r.event H))
          ((changes ++ [(t, t)]) ++ [(t', t')]) (do
            let raced : List EventEnvelope ← Program.perform (StoreOp.read r.streamId limit)
            if raced ≠ [] then return (idempotent raced).mapError .api
            else return .error (.api .conflict)) t' := by
        refine Program.safe_perform_bind fun t'' _ ↦ ⟨.refl t'', ?_⟩
        have hquiet₃ := List.forall_mem_append.mpr ⟨hquiet₂, hread t''⟩
        split
        case isTrue => exact fun u htu ↦ hcompares.recorded hquiet₃ htu
        case isFalse => exact fun _ _ ↦ ⟨rfl, hquiet₃⟩
      rcases error_of_append happend with rfl | rfl | rfl
      all_goals exact hraced

theorem compares_requireIdempotent (r : Recording) :
    Compares (H := H) r (some 2) (requireIdempotent H r.eventType (r.payload H)) where
  admitted s y h := by
    unfold requireIdempotent at h
    split at h
    case h_1 existing hexisting =>
      split at h
      case isTrue hcheck =>
        obtain rfl := Except.ok.inj h
        have hhead : (s.ledger.readStream r.streamId).head? = some existing := by
          have htake := congrArg List.head? hexisting
          rwa [Store.readStream, List.head?_take, if_neg (by decide)] at htake
        exact ⟨hhead, hcheck.1.1, hcheck.2⟩
      case isFalse => exact nomatch h
    case h_2 => exact nomatch h
  raises events := by
    unfold requireIdempotent
    repeat' split
    all_goals first | exact Checked.raises_ok _ | exact Checked.raises_error rfl

theorem compares_requireRunIdempotent {r : Recording}
    (htype : r.eventType = StrEnum.value RunEventType.runQueued) :
    Compares (H := H) r none (requireRunIdempotent H (r.payload H)) where
  admitted s y h := by
    unfold requireRunIdempotent at h
    split at h
    case h_1 existing _ hexisting =>
      split at h
      case isTrue hcheck =>
        obtain rfl := Except.ok.inj h
        exact ⟨congrArg List.head? hexisting, hcheck.1.1.trans htype.symm, hcheck.2⟩
      case isFalse => exact nomatch h
    case h_2 => exact nomatch h
  raises events := by
    unfold requireRunIdempotent
    repeat' split
    all_goals first | exact Checked.raises_ok _ | exact Checked.raises_error rfl

/-- The response to an admission presents its event. -/
theorem immutableResponse_eq {γ : Type} {codec : Codec γ} {response : Response}
    (h : immutableResponse H codec y = .ok response) : response = ⟨y, y⟩ := by
  simp only [immutableResponse, Checked.bind_eq_ok, Checked.pure_eq_ok] at h
  obtain ⟨_, -, _, -, _, -, rfl⟩ := h
  rfl

variable (D) in
/-- The run that a call loads is presented by its admission event. -/
theorem safe_readRun (runId : String) (changes : Program.Changes Store) (s : Store) :
    Program.Safe (Store.perform H) Store.Extends
      (fun _ result t ↦ ∀ response, result = .ok response →
        Shows (t.ledger.readStream (runStream runId)) response)
      changes (readRun H D answers runId).run s := by
  refine Program.safe_perform_bind fun t _ ↦ ⟨.refl t, ?_⟩
  refine Program.safe_of_reads Store.Extends.refl Store.Extends.trans
    (readsTo_respondRun (H := H) (D := D) answers runId (t.readStream (runStream runId) none)) ?_
  rintro changes' result u - hshows ⟨M, hu⟩ response hresponse
  refine (hshows response hresponse).mono ?_
  rw [← hu, Ledger.readStream_append]
  exact List.prefix_append _ _

namespace AdmissionCall

variable {c : AdmissionCall}

variable (H D c) in
/-- The admission event that a call comes to record. -/
structure Records (e : EventEnvelope) : Prop where
  stream : e.streamId = c.streamId
  kind : e.eventType = c.eventType
  first : e.streamSequence = 1
  source : e.source = runtimeEventSource
  payload : ∃ references extra,
    e.payload = requestEventPayload H (c.document D) c.caller.principalId references extra

variable (c) in
/-- The response presents an admission: it names its principal and shows its event, or when the run goes
on, a later event of the run. -/
def Presents (L : Ledger) (x : EventEnvelope) (response : Response) : Prop :=
  response.admission = x ∧ (response.event = x ∨
    (∃ request, c.request = .run request) ∧
      [x, response.event].Sublist (L.readStream c.streamId))

variable (c) in
/-- What a call responds for a recorded event. -/
def Responds (y : EventEnvelope) (L : Ledger) (response : Response) : Prop :=
  response = ⟨y, y⟩ ∨ (∃ request, c.request = .run request) ∧
    Shows (L.readStream c.streamId) response

variable (H D c) in
/-- **What a call guarantees.** It raises and has changed nothing, or it came to record an event: then it
raised a conflict and has changed nothing, or the stream begins with an admission of the same payload,
which is what it presents if it succeeds. -/
def Settled (changes : Program.Changes Store) (outcome : Outcome) (t : Store) : Prop :=
  match outcome.event with
  | none => (∃ code, outcome.result = .error (.api code)) ∧ Program.Quiet changes
  | some e => c.Records H D e ∧
      (outcome.result = .error (.api .conflict) ∧ Program.Quiet changes ∨
        (H.CollisionFreeOn (documents H t.ledger e) → ∃ x, Admitted H t.ledger e x ∧
          ∀ response, outcome.result = .ok response → c.Presents t.ledger x response))

variable (D c) in
/-- What a call prepares. -/
abbrev Prepares (r : Recording) : Prop :=
  Bootstrap.Prepares c.streamId c.eventType (c.document D) c.caller.principalId r

theorem eventType_mem : c.eventType ∈ admissionEventTypes := by
  unfold eventType
  split <;> simp [admissionEventTypes]

theorem presents_of_responds (hrecords : c.Records H D e) (hadmitted : Admitted H L e y)
    {response : Response} (h : c.Responds y L response) : c.Presents L y response := by
  rcases h with rfl | ⟨hrun, hhead, hshows⟩
  · exact ⟨rfl, .inl rfl⟩
  · have hadmission : response.admission = y :=
      Option.some.inj (hhead.symm.trans (hrecords.stream ▸ hadmitted.head))
    rw [hadmission] at hshows
    exact ⟨hadmission, hshows.imp_right fun hsublist ↦ ⟨hrun, hsublist⟩⟩

/-- A call that prepares, records and responds. -/
theorem safe_admit {prepare : Reading Recording}
    {record : Recording → Service (Except CallError EventEnvelope)}
    {respond : EventEnvelope → Reading Response}
    (hprepare : ReadsTo H (c.Prepares D) prepare)
    (hrecord : ∀ r, c.Prepares D r → ∀ changes, Program.Quiet changes → ∀ s,
      Program.Safe (Store.perform H) Store.Extends (RecordingSettled H (r.event H)) changes (record r) s)
    (hrespond : ∀ y changes s, Program.Safe (Store.perform H) Store.Extends
      (fun _ result t ↦ ∀ response, result = .ok response → c.Responds y t.ledger response)
      changes (respond y).run s) (s : Store) :
    Program.Safe (Store.perform H) Store.Extends (c.Settled H D) [] (admitRequest H prepare record respond)
      s := by
  have hprepared : Program.Safe (Store.perform H) Store.Extends (fun changes prepared _ ↦
      Program.Quiet changes ∧ ∀ r, prepared = .ok r → c.Prepares D r) []
      prepare.run s :=
    Program.safe_of_reads Store.Extends.refl Store.Extends.trans hprepare
      fun _ _ _ hquiet h _ ↦ ⟨hquiet, h⟩
  refine hprepared.bind fun changes prepared t hprepared ↦ ?_
  obtain ⟨hquiet, hprepares⟩ := hprepared t (.refl t)
  cases prepared with
  | error code => exact fun _ _ ↦ ⟨⟨code, rfl⟩, hquiet⟩
  | ok r =>
    have hprepares := hprepares r rfl
    have hrecords : c.Records H D (r.event H) := ⟨hprepares.stream, hprepares.kind, rfl, rfl, r.references,
      r.extra, hprepares.request ▸ hprepares.principal ▸ rfl⟩
    refine (hrecord r hprepares changes hquiet t).bind fun changes recorded t hrecorded ↦ ?_
    cases recorded with
    | error error =>
      intro u htu
      obtain ⟨rfl, hquiet⟩ := hrecorded u htu
      exact ⟨hrecords, .inl ⟨rfl, hquiet⟩⟩
    | ok y =>
      have hresponds := (hrespond y changes t).after Store.Extends.trans (.refl t)
      refine hresponds.bind fun changes result u hresult ↦ fun u' huu' ↦ ⟨hrecords, .inr fun hH ↦ ?_⟩
      obtain ⟨htu, hresult⟩ := hresult u' huu'
      have hadmitted := hrecorded u' htu hH
      refine ⟨y, hadmitted, fun response hresponse ↦ ?_⟩
      exact presents_of_responds hrecords hadmitted
        (hresult response (Checked.mapError_eq_ok.mp hresponse))

theorem safe_immutableResponse {γ : Type} {codec : Codec γ} (y : EventEnvelope)
    (changes : Program.Changes Store) (s : Store) :
    Program.Safe (Store.perform H) Store.Extends
      (fun _ result t ↦ ∀ response, result = .ok response → c.Responds y t.ledger response)
      changes (liftExcept (immutableResponse H codec y)).run s :=
  fun _ _ _ h ↦ .inl (immutableResponse_eq h)

variable (H D c) in
/-- **Calls.** Every call guarantees this, whatever the others do. -/
theorem safe (s : Store) :
    Program.Safe (Store.perform H) Store.Extends (c.Settled H D) [] (c.program H D) s := by
  have himmutable (r : Recording) (hr : c.Prepares D r) (changes : Program.Changes Store)
      (hquiet : Program.Quiet changes) (s : Store) : Program.Safe (Store.perform H) Store.Extends
        (RecordingSettled H (r.event H)) changes (r.recordImmutable H) s :=
    Recording.safe_record (hr.kind ▸ eventType_mem) (compares_requireIdempotent r) hquiet s
  obtain ⟨request, caller, answers⟩ := c
  cases request with
  | project request =>
    exact safe_admit (readsTo_prepareProject caller answers request) himmutable
      safe_immutableResponse s
  | intent request =>
    exact safe_admit (readsTo_prepareIntent caller answers request) himmutable
      safe_immutableResponse s
  | plan request =>
    exact safe_admit (readsTo_preparePlan caller answers request) himmutable
      safe_immutableResponse s
  | run request =>
    refine safe_admit (readsTo_prepareRun caller answers request) (fun r hr changes hquiet s ↦ ?_)
      (fun y changes s ↦ ?_) s
    · exact Recording.safe_record (hr.kind ▸ AdmissionCall.eventType_mem)
        (compares_requireRunIdempotent hr.kind) hquiet s
    · exact (safe_readRun D answers request.runId changes s).mono fun _ _ _ h response hresponse ↦
        .inr ⟨⟨request, rfl⟩, h response hresponse⟩

end AdmissionCall

/-! ### Interleavings -/

/-- The admission events of a stream. -/
def admissions (L : Ledger) (streamId : String) : List EventEnvelope :=
  (L.readStream streamId).filter fun e ↦ e.eventType ∈ admissionEventTypes

/-- A stream has one admission event at most, its first event. -/
theorem Store.admissions_eq (s : Store) (streamId : String) :
    admissions s.ledger streamId =
      ((s.ledger.readStream streamId).head?.filter fun e ↦ e.eventType ∈ admissionEventTypes).toList := by
  cases hstream : s.ledger.readStream streamId with
  | nil => rw [admissions, hstream]; rfl
  | cons z zs =>
    have hrest : zs.filter (fun e ↦ e.eventType ∈ admissionEventTypes) = [] := by
      refine List.filter_eq_nil_iff.mpr fun w hw htype ↦ ?_
      have hw' : w ∈ s.ledger ∧ w.streamId = streamId :=
        Ledger.mem_readStream.mp (hstream ▸ List.mem_cons_of_mem z hw)
      have hhead := s.head?_of_admission hw'.1 (by simpa using htype)
      rw [hw'.2, hstream, List.head?_cons, Option.some.injEq] at hhead
      have hearlier := s.consistent.pairwise_earlier.sublist
        (List.filter_sublist (p := fun e : EventEnvelope ↦ e.streamId = streamId))
      change List.Pairwise _ (s.ledger.readStream streamId) at hearlier
      rw [hstream, List.pairwise_cons] at hearlier
      have := (hearlier.1 w hw).2 (congrArg _ hhead)
      rw [hhead] at this
      omega
    rw [admissions, hstream, List.filter_cons, hrest, List.head?_cons, Option.filter_some]
    split <;> rfl

/-- **Immutable admission.** In every interleaving of any number of calls, each read and each append of
a call being one step, with any batches of other components in between: a stream has one admission event
at most. A call that is done either raised before it came to record an event, or came to record an event
with its request and its principal. Then, if it succeeded, the stream has one admission event, with the
same payload, which the call presents; and if the stream has an admission event with another payload,
the call raised a conflict. A call that raises one of these changed nothing. -/
theorem immutable_admission (H : Host) (D : Deployment) (calls : List AdmissionCall)
    (schedule : List (Pool.Turn OtherEvents)) :
    let pool := (Pool.start Store.empty (calls.map (·.program H D))).run (Store.perform H)
      (OtherEvents.append H) schedule
    (∀ streamId, (admissions pool.store.ledger streamId).length ≤ 1) ∧
    ∀ (index : ℕ) (c : AdmissionCall) outcome changes, calls[index]? = some c →
      pool.threads[index]? = some (.done outcome, changes) →
      (outcome.event = none →
        (∃ code, outcome.result = .error (.api code)) ∧ Program.Quiet changes) ∧
      ∀ e ∈ outcome.event, c.Records H D e ∧
        (H.CollisionFreeOn (documents H pool.store.ledger e) →
          (∀ response, outcome.result = .ok response →
            ∃ x, admissions pool.store.ledger c.streamId = [x] ∧
              (JsonValue.object x.payload).canonical = (JsonValue.object e.payload).canonical ∧
              c.Presents pool.store.ledger x response) ∧
          ∀ x ∈ admissions pool.store.ledger c.streamId,
            (JsonValue.object x.payload).canonical ≠ (JsonValue.object e.payload).canonical →
            outcome.result = .error (.api .conflict) ∧ Program.Quiet changes) := by
  intro pool
  refine ⟨fun streamId ↦ ?_, fun index c outcome changes hc hthread ↦ ?_⟩
  · rw [pool.store.admissions_eq]
    exact Option.length_toList_le
  · have hstart : (Pool.start Store.empty (calls.map (·.program H D))).Safe (Store.perform H)
        Store.Extends fun index changes outcome t ↦
          ∀ c, calls[index]? = some c → c.Settled H D changes outcome t := by
      intro index p changes hp
      rw [Pool.start, List.getElem?_map, List.getElem?_map] at hp
      cases hcall : calls[index]? with
      | none => simp [hcall] at hp
      | some c =>
        rw [hcall] at hp
        obtain ⟨rfl, rfl⟩ := Prod.mk.inj (Option.some.inj hp)
        exact (c.safe H D _).mono fun _ _ _ h c' hc' ↦
          Option.some.inj (hcall.symm.trans hc') ▸ h
    have hsafe := (hstart.run Store.Extends.refl Store.Extends.trans
      (fun o s ↦ o.extends_append s) schedule).1 index _ _ hthread pool.store (.refl _) c hc
    unfold AdmissionCall.Settled at hsafe
    cases hevent : outcome.event with
    | none =>
      rw [hevent] at hsafe
      exact ⟨fun _ ↦ hsafe, nofun⟩
    | some e =>
      rw [hevent] at hsafe
      refine ⟨nofun, fun e' he' ↦ ?_⟩
      obtain rfl := Option.some.inj he'
      obtain ⟨hrecords, hsettled⟩ := hsafe
      refine ⟨hrecords, fun hH ↦ ?_⟩
      rcases hsettled with ⟨hconflict, hquiet⟩ | hadmitted
      · exact ⟨fun response h ↦ absurd (hconflict.symm.trans h) nofun, fun _ _ _ ↦ ⟨hconflict, hquiet⟩⟩
      · obtain ⟨x, hadmitted, hpresents⟩ := hadmitted hH
        have hone : admissions pool.store.ledger c.streamId = [x] := by
          have hkind : x.eventType ∈ admissionEventTypes :=
            hadmitted.kind ▸ hrecords.kind ▸ AdmissionCall.eventType_mem
          rw [pool.store.admissions_eq, ← hrecords.stream, hadmitted.head, Option.filter_some,
            if_pos (by simpa using hkind)]
          rfl
        have hx := (Ledger.mem_readStream.mp (List.mem_of_mem_head? hadmitted.head)).1
        have hpayload := hH _ ⟨x, List.mem_cons_of_mem _ hx, .inl rfl⟩ _
          ⟨e, List.mem_cons_self, .inl rfl⟩ hadmitted.hash
        refine ⟨fun response h ↦ ⟨x, hone, hpayload, hpresents response h⟩, fun x' hx' hne ↦ ?_⟩
        rw [hone, List.mem_singleton] at hx'
        exact absurd hpayload (hx' ▸ hne)

end

/-! ### A race -/

namespace AdmissionCall.Sample

/-- The digest of the configuration. -/
def configurationDigest : String :=
  digestPrefix ++ (hexText 0x44136fa355b3678a1146ad16f7e8649e94fb4fc21fe77e8310c060f61caaff8a).1

/-- The request, as it is recorded. -/
def builtins (r : ProjectRequest) : Mapping := [
  ("schema_version", .str "project-request/v1"), ("project_id", .str r.projectId),
  ("root", .str r.root), ("configuration_provider", .str "kernform"),
  ("configuration_version", .str "0.2.0"),
  ("configuration_digest", .str r.configurationDigest), ("idempotency_key", .str r.idempotencyKey)]

/-- The conversions of the sample, in which only projects are registered. -/
def contracts : Contracts where
  project :=
    { toBuiltins := builtins
      convert := fun m ↦ do
        let projectId ← (m.get "project_id").text?
        let root ← (m.get "root").text?
        let configurationDigest ← (m.get "configuration_digest").text?
        let idempotencyKey ← (m.get "idempotency_key").text?
        let request := ProjectRequest.mk projectId root configurationDigest idempotencyKey
        if builtins request = m then some request else none }
  intent := ⟨fun _ ↦ [], fun _ ↦ none⟩
  plan := ⟨fun _ ↦ [], fun _ ↦ none⟩
  run := ⟨fun _ ↦ [], fun _ ↦ none⟩

def deployment : Deployment where
  contracts := contracts
  fs := ⟨fun _ ↦ false, some, fun _ ↦ true, fun _ ↦ true, fun _ ↦ true⟩
  repositoryRoot := "/repository"
  isolationRoot := "/isolation"

def request : ProjectRequest := ⟨"p-1", "/srv/p-1", configurationDigest, "k-1"⟩

/-- The digest of the request. -/
def requestDigest : { s : String // isHex 64 s = true } :=
  hexText 0xda7eaab932445270bb53486bdbf24b1bf5c9f0e6199401ee50d77ea992707fec

/-- The payload that a principal records. -/
def payload (principalId : String) : JsonValue := .object [
  ("request", .object (builtins request)),
  ("request_digest", .str (digestPrefix ++ requestDigest.1)), ("principal_id", .str principalId)]

/-- The document of the event of a principal. -/
def document (principalId eventId payloadDigest : String) : JsonValue := .object [
  ("actor", .str principalId), ("causation_id", .null), ("correlation_id", .str eventId),
  ("effective_at", .str "2026-01-01T00:00:00+00:00"), ("event_type", .str projectRegistered),
  ("payload_hash", .str (digestPrefix ++ payloadDigest)), ("schema_version", .int 1),
  ("source", .str runtimeEventSource), ("stream_id", .str "project:p-1")]

/-- The digests of the two payloads. -/
def payloadDigests : List { s : String // isHex 64 s = true } := [
  hexText 0x8e55f74af5d7e43fed6d91dd27e0b5257d91fb330fb7141b1d618d2021704f6d,
  hexText 0x5de7ff91ed051c0dfda634872e0c95c578980e52bfd3d084d1d08da8fae09f32]

/-- SHA-256 on the documents of two principals that register one project. -/
def host : Host := .ofTables
  [((JsonValue.object (builtins request)).canonical, requestDigest),
    ((payload "operator-1").canonical, payloadDigests[0]),
    ((payload "operator-2").canonical, payloadDigests[1]),
    ((document "operator-1" "e-1" payloadDigests[0].1).canonical,
      hexText 0xf375129df2cd1d1e0e5d933db55887726e34b983ed319cf159577dbfd6b717b1),
    ((document "operator-2" "e-2" payloadDigests[1].1).canonical,
      hexText 0x434d49ddd137754550900f8277fb3e22b4ce59d6eebff234865e5e62209964ec)]
  [] [(1767225600000000, "2026-01-01T00:00:00+00:00")]

/-- A principal registers the project. -/
def call (principalId eventId : String) : AdmissionCall where
  request := .project request
  caller := ⟨principalId, eventId, 1767225600000000⟩
  answers := ⟨.ok ⟨⟩, fun _ ↦ .ok ⟨⟩, fun _ _ ↦ .ok ⟨⟩, fun _ ↦ .ok ⟨⟩, fun _ ↦ .ok ⟨⟩,
    fun _ _ _ _ ↦ .ok ⟨⟩⟩

/-- The two calls. -/
def calls : List AdmissionCall := [call "operator-1" "e-1", call "operator-2" "e-2"]

/-- Both calls read the empty stream; the first one appends, and the second one loses the race. -/
def schedule : List (Pool.Turn OtherEvents) :=
  [.thread 0, .thread 1, .thread 0, .thread 1, .thread 1]

def pool : Pool StoreOp StoreOp.Reply Outcome Store :=
  (Pool.start Store.empty (calls.map (·.program host deployment))).run (Store.perform host)
    (OtherEvents.append host) schedule

/-- The outcome of a call that is done. -/
def outcome? (index : ℕ) : Option Outcome :=
  match pool.threads[index]? with
  | some (.done outcome, _) => some outcome
  | _ => none

/-- The documents that digests are taken of. -/
def documentList (e : EventEnvelope) : List JsonValue :=
  (e :: pool.store.ledger).flatMap fun x ↦ [.object x.payload, .object (x.idempotencyDocument host)]

/-- What is evaluated of the race: the first call succeeds, and the payloads differ. -/
def isRace : Bool :=
  match outcome? 0, outcome? 1 with
  | some ⟨some e, .ok _⟩, some ⟨some e', _⟩ =>
    (documentList e ++ documentList e').all (fun v ↦ (documentList e ++ documentList e').all fun w ↦
      host.jsonDigest v ≠ host.jsonDigest w || v.canonical = w.canonical) &&
    (JsonValue.object e.payload).canonical ≠ (JsonValue.object e'.payload).canonical
  | _, _ => false

theorem isRace_eq : isRace = true := by decide +kernel

theorem thread_of_outcome {index : ℕ} {outcome : Outcome} (h : outcome? index = some outcome) :
    ∃ changes, pool.threads[index]? = some (.done outcome, changes) := by
  unfold outcome? at h
  split at h
  case h_1 changes hthread => exact ⟨changes, Option.some.inj h ▸ hthread⟩
  case h_2 => exact nomatch h

/-- What the evaluation of the race says. -/
theorem exists_race : ∃ e e' response result,
    outcome? 0 = some ⟨some e, .ok response⟩ ∧ outcome? 1 = some ⟨some e', result⟩ ∧
      host.CollisionFreeOn (documents host pool.store.ledger e) ∧
      host.CollisionFreeOn (documents host pool.store.ledger e') ∧
      (JsonValue.object e.payload).canonical ≠ (JsonValue.object e'.payload).canonical := by
  have h := isRace_eq
  unfold isRace at h
  split at h
  case h_2 => exact nomatch h
  case h_1 e response e' result hfirst hsecond =>
    simp only [Bool.and_eq_true, List.all_eq_true, Bool.or_eq_true, decide_eq_true_eq, ne_eq] at h
    obtain ⟨hcollisions, hpayload⟩ := h
    have hmem {f : EventEnvelope} {v : JsonValue} (hv : v ∈ documents host pool.store.ledger f) :
        v ∈ documentList f := by
      obtain ⟨x, hx, hv⟩ := hv
      exact List.mem_flatMap.mpr ⟨x, hx, by simpa using hv⟩
    refine ⟨e, e', response, result, hfirst, hsecond, fun v hv w hw hdigest ↦ ?_,
      fun v hv w hw hdigest ↦ ?_, hpayload⟩
    · exact (hcollisions v (List.mem_append_left _ (hmem hv)) w
        (List.mem_append_left _ (hmem hw))).resolve_left (not_not_intro hdigest)
    · exact (hcollisions v (List.mem_append_right _ (hmem hv)) w
        (List.mem_append_right _ (hmem hw))).resolve_left (not_not_intro hdigest)

end AdmissionCall.Sample

open AdmissionCall.Sample in
/-- The first principal registers the project, and the second one, which read the empty stream before,
is told of a conflict. -/
theorem immutable_admission_sample : ∃ x e e' response,
    admissions pool.store.ledger "project:p-1" = [x] ∧
      outcome? 0 = some ⟨some e, .ok response⟩ ∧ response.event = x ∧
      outcome? 1 = some ⟨some e', .error (.api .conflict)⟩ := by
  obtain ⟨e, e', response, result, hfirst, hsecond, hH, hH', hpayload⟩ := exists_race
  obtain ⟨changes, hthread⟩ := thread_of_outcome hfirst
  obtain ⟨changes', hthread'⟩ := thread_of_outcome hsecond
  obtain ⟨-, hcalls⟩ := immutable_admission host deployment calls schedule
  obtain ⟨-, hfirst'⟩ := hcalls 0 (call "operator-1" "e-1") _ changes rfl hthread
  obtain ⟨-, hsecond'⟩ := hcalls 1 (call "operator-2" "e-2") _ changes' rfl hthread'
  obtain ⟨x, hone, hx, -, hpresents⟩ := ((hfirst' e rfl).2 hH).1 response rfl
  have hone' : admissions pool.store.ledger "project:p-1" = [x] := hone
  obtain ⟨rfl, -⟩ := ((hsecond' e' rfl).2 hH').2 x (hone' ▸ List.mem_singleton_self x)
    (fun heq ↦ hpayload (hx.symm.trans heq))
  refine ⟨x, e, e', response, hone', hfirst, ?_, hsecond⟩
  rcases hpresents with hevent | ⟨⟨request, hrun⟩, -⟩
  · exact hevent
  · exact nomatch hrun

end Blackcell.Bootstrap
