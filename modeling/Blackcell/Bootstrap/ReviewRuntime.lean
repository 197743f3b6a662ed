import Blackcell.Bootstrap.RunLoading
import Blackcell.Kernel.Store
import Blackcell.Orchestration.ReviewLifecycle

/-!
# The scheduler of reviews

`ReviewRuntimeService` of `bootstrap/review_runtime.py`. A call reads the ledger, builds one event, and
checks that the stream of the review still folds with it; then it appends the event behind the events
that it has seen. Other calls may append in between, so what a call has seen and what it appends to are
two ledgers.

## Main definitions

* `Submission` : an event, and the number of events of its stream that the call has seen.
* `claim`, `renewLease`, `recordProviderDispatch`, `recordSuccess`, `recordFailure`, `reconcile` : the
  calls.
* `Request`, `Request.perform` : a call with its arguments.

## Main results

* `Submission.append_eq_ok` : an accepted submission is the next event of its stream.
* `claimed_of_perform` : a claim is for a run whose success another principal recorded.
* `submitted_of_perform` : what a call submits is accepted after the events that it has seen.
-/

namespace Blackcell.Bootstrap

open Blackcell.Kernel Blackcell.Orchestration

/-- The event that a call appends, and the number of events of its stream that the call has seen. -/
structure Submission where
  event : EventEnvelope
  expectedSequence : Int

/-- The append of a submission. -/
def Submission.append (H : Host) (L : Ledger) (x : Submission) :
    Except StoreError (EventEnvelope × Ledger) :=
  Ledger.append H L x.event x.expectedSequence

section Append

variable {H : Host} {L L' : Ledger} {x : Submission} {stored : EventEnvelope}

/-- **Submissions.** The append of a submission changes nothing, or the event is the next one of its
stream, and the call has seen the stream. -/
theorem Submission.append_eq_ok (h : x.append H L = .ok (stored, L')) :
    L' = L ∨ L' = L ++ [L.stored x.event] ∧ L.currentSequence x.event.streamId = x.expectedSequence := by
  obtain ⟨-, ⟨_, -, hr⟩ | ⟨-, hsequence, -, -, hr⟩⟩ := Ledger.append_eq_ok.mp h
  · exact .inl (Prod.mk.inj hr).2
  · exact .inr ⟨(Prod.mk.inj hr).2, hsequence⟩

/-- A stream that has grown no further than a call has seen it is what the call has seen. -/
theorem readStream_of_seen {seen : Ledger} {streamId : String} (hseen : seen <+: L)
    (h : L.currentSequence streamId = ((seen.readStream streamId).length : Nat)) :
    L.readStream streamId = seen.readStream streamId := by
  obtain ⟨later, rfl⟩ := hseen
  have hlength : (Ledger.readStream (seen ++ later) streamId).length =
      (seen.readStream streamId).length :=
    Int.ofNat_inj.mp h
  rw [Ledger.readStream_append, List.length_append] at hlength
  have hnil : Ledger.readStream later streamId = [] := List.eq_nil_of_length_eq_zero (by omega)
  rw [Ledger.readStream_append, hnil, List.append_nil]

end Append

/-- `EventStore.get`. -/
def getEvent (L : Ledger) (eventId : String) : Option EventEnvelope :=
  L.find? fun e ↦ e.eventId = eventId

/-- An identifier and an instant of a new event. -/
structure NewEvent where
  eventId : String
  recordedAt : Datetime

/-- `_transition`: the event after the latest one of a stream. -/
def transition (latest : EventEnvelope) (new : NewEvent) (eventType principalId : String)
    (fields : Mapping) (idempotencyKey : String) : EventEnvelope where
  eventId := new.eventId
  streamId := latest.streamId
  streamSequence := latest.streamSequence + 1
  eventType := eventType
  schemaVersion := 1
  recordedAt := new.recordedAt.instant
  effectiveAt := new.recordedAt.instant
  correlationId := latest.correlationId
  causationId := some latest.eventId
  actor := principalId
  source := RunLifecycle.runtimeEventSource
  payload := ("principal_id", .str principalId) :: fields
  idempotencyKey := some idempotencyKey
  globalPosition := none

/-- The event by which a run succeeded, as both schedulers demand it. -/
def isSuccessOf (H : Host) (runId correlationId runEventDigest : String) (e : EventEnvelope) : Prop :=
  e.streamId = "run:" ++ runId ∧
    e.eventType = StrEnum.value RunLifecycle.RunEventType.runSucceeded ∧
    e.source = RunLifecycle.runtimeEventSource ∧ e.correlationId = correlationId ∧
    e.payloadHash H = runEventDigest ∧ e.payload.get "run_id" = .str runId ∧
    e.payload.get "status" = .str "succeeded"

instance (H : Host) (runId correlationId runEventDigest : String) (e : EventEnvelope) :
    Decidable (isSuccessOf H runId correlationId runEventDigest e) :=
  inferInstanceAs (Decidable (_ ∧ _ ∧ _ ∧ _ ∧ _ ∧ _ ∧ _))

namespace ReviewRuntime

open Blackcell.Orchestration.ReviewLifecycle

/-- `ReviewRuntimeFailureCode`. -/
inductive ReviewRuntimeFailureCode where
  | invalidRequest | notFound | conflict
  deriving DecidableEq, Repr

/-- A call of the scheduler. -/
abbrev Call := Except ReviewRuntimeFailureCode

/-- Raise `CONFLICT` unless the condition holds. -/
def check (p : Prop) [Decidable p] : Call PUnit := Checked.require p .conflict

@[simp] theorem check_eq_ok {p : Prop} [Decidable p] {u : PUnit} : check p = .ok u ↔ p :=
  Checked.require_eq_ok

/-- Raise `INVALID_REQUEST` unless the condition holds. -/
def checkRequest (p : Prop) [Decidable p] : Call PUnit := Checked.require p .invalidRequest

@[simp] theorem checkRequest_eq_ok {p : Prop} [Decidable p] {u : PUnit} :
    checkRequest p = .ok u ↔ p :=
  Checked.require_eq_ok

variable (H : Host) (seen : Ledger)

/-- The fold of a stream inside a call. -/
def foldStream (runId : String) (events : List EventEnvelope) : Call ReviewLifecycleState :=
  (foldReviewLifecycle H runId events).mapError fun _ ↦ .conflict

/-- `inspect`. -/
def inspect (runId : String) : Call (Option ReviewLifecycleState) :=
  match seen.readStream (reviewStream runId) with
  | [] => pure none
  | events => some <$> foldStream H runId events

/-- `_append`, up to the append: the stream still folds with the event. -/
def submit (runId : String) (existing : List EventEnvelope) (event : EventEnvelope) :
    Call Submission := do
  let _ ← foldStream H runId (existing ++ [event])
  pure ⟨event, existing.length⟩

/-- `_require_execution_event`. -/
def requireExecutionEvent (candidate : ReviewCandidate H) : Call EventEnvelope := do
  let event ← Checked.ofOption (getEvent seen candidate.evidence.runEventId)
    ReviewRuntimeFailureCode.conflict
  check (isSuccessOf H candidate.evidence.runId candidate.correlationId
    candidate.evidence.runEventDigest event)
  pure event

/-- The event of a claim. -/
def claimEvent (candidate : ReviewCandidate H) (previous : Option ReviewLifecycleState)
    (sequence : Int) (lease : ReviewLease) (new : NewEvent) : EventEnvelope where
  eventId := new.eventId
  streamId := reviewStream candidate.evidence.runId
  streamSequence := sequence
  eventType := StrEnum.value ReviewEventType.claimed
  schemaVersion := 1
  recordedAt := new.recordedAt.instant
  effectiveAt := new.recordedAt.instant
  correlationId := candidate.correlationId
  causationId := some ((previous.map (·.latestEvent.eventId)).getD candidate.evidence.runEventId)
  actor := lease.workerId
  source := RunLifecycle.runtimeEventSource
  payload := [("principal_id", .str lease.workerId), ("lease_digest", .str (lease.digest H)),
    ("lease", .object (lease.payload H)), ("status", .str "claimed")]
  idempotencyKey := some ("review-claimed:" ++ lease.digest H)
  globalPosition := none

/-- The lease of a claim. -/
def claimLease (candidate : ReviewCandidate H) (previous : Option ReviewLifecycleState)
    (workerId : String) (hworker : Stage.isStageIdentifier workerId) (expiresAt : Timestamp) :
    ReviewLease where
  evidence := candidate.evidence
  attempt := (previous.map (·.fold.lease.attempt)).getD 0 + 1
  fencingToken := (previous.map (·.fold.lease.fencingToken)).getD 0 + 1
  workerId := workerId
  expiresAt := expiresAt
  valid := candidate.valid
  isWorker := hworker
  positive := ⟨Nat.le_add_left 1 _, Nat.le_add_left 1 _⟩

/-- `claim`, up to the append. -/
def claim (candidate : ReviewCandidate H) (workerId : String) (leaseExpiresAt : Datetime)
    (new : NewEvent) : Call (ReviewLease × Submission) :=
  if hworker : Stage.isStageIdentifier workerId then do
    checkRequest (new.recordedAt.aware ∧ leaseExpiresAt.aware)
    checkRequest (new.recordedAt.instant < leaseExpiresAt.instant)
    let executionEvent ← requireExecutionEvent H seen candidate
    check (executionEvent.actor ≠ workerId)
    let existing := seen.readStream (reviewStream candidate.evidence.runId)
    let previous ← inspect H seen candidate.evidence.runId
    check (∀ state ∈ previous, state.fold.status = .requeued ∧
      candidate.evidence = state.fold.lease.evidence)
    let lease := claimLease H candidate previous workerId hworker leaseExpiresAt.instant
    let submission ← submit H candidate.evidence.runId existing
      (claimEvent H candidate previous (existing.length + 1) lease new)
    pure (lease, submission)
  else .error .invalidRequest

/-- `_require_active`: the state of the review, and the stream. -/
def requireActive (lease : ReviewLease) (principalId : String)
    (allowed : List ReviewLifecycleStatus) : Call (ReviewLifecycleState × List EventEnvelope) := do
  checkRequest (Stage.isStageIdentifier principalId)
  let existing := seen.readStream (reviewStream lease.evidence.runId)
  Checked.require (existing ≠ []) ReviewRuntimeFailureCode.notFound
  let state ← foldStream H lease.evidence.runId existing
  check (state.fold.status ∈ allowed ∧ state.fold.lease.digest H = lease.digest H ∧
    state.fold.lease.workerId = principalId)
  pure (state, existing)

/-- `renew_lease`, up to the append. -/
def renewLease (lease : ReviewLease) (leaseExpiresAt : Datetime) (principalId : String)
    (new : NewEvent) : Call (ReviewLease × Submission) := do
  let (state, existing) ← requireActive H seen lease principalId [.claimed]
  checkRequest (new.recordedAt.aware ∧ leaseExpiresAt.aware)
  checkRequest (new.recordedAt.instant < leaseExpiresAt.instant ∧
    lease.expiresAt < leaseExpiresAt.instant)
  let renewed := { lease with expiresAt := leaseExpiresAt.instant }
  let submission ← submit H lease.evidence.runId existing
    (transition state.latestEvent new (StrEnum.value ReviewEventType.leaseRenewed) principalId
      [("previous_lease_digest", .str (lease.digest H)), ("lease_digest", .str (renewed.digest H)),
        ("lease", .object (renewed.payload H)), ("status", .str "claimed")]
      ("review-lease-renewed:" ++ lease.digest H ++ ":" ++ renewed.digest H))
  pure (renewed, submission)

/-- `record_provider_dispatch`, up to the append. -/
def recordProviderDispatch (lease : ReviewLease)
    (acceptanceDigest contextDigest contextArtifactDigest principalId : String) (new : NewEvent) :
    Call Submission := do
  let (state, existing) ← requireActive H seen lease principalId [.claimed]
  checkRequest (isHexDigest acceptanceDigest ∧ isHexDigest contextDigest ∧
    isHexDigest contextArtifactDigest ∧ new.recordedAt.aware)
  check (contextDigest = contextArtifactDigest ∧ new.recordedAt.instant ≤ lease.expiresAt)
  submit H lease.evidence.runId existing
    (transition state.latestEvent new (StrEnum.value ReviewEventType.providerDispatchStarted)
      principalId
      [("run_id", .str lease.evidence.runId), ("review_id", .str lease.evidence.reviewId),
        ("lease_digest", .str (lease.digest H)),
        ("provider_request_id", .str (reviewProviderRequestId (lease.digest H))),
        ("acceptance_digest", .str acceptanceDigest), ("context_digest", .str contextDigest),
        ("context_artifact_digest", .str contextArtifactDigest),
        ("status", .str "provider-dispatch-started")]
      ("review-provider-dispatch:" ++ lease.digest H))

/-- `record_success`, up to the append. -/
def recordSuccess (lease : ReviewLease)
    (contextDigest proposalArtifactDigest providerResultArtifactDigest admittedArtifactDigest : String)
    (findingCount : Int) (principalId : String) (new : NewEvent) : Call Submission := do
  let (state, existing) ← requireActive H seen lease principalId [.providerDispatched]
  checkRequest ((isHexDigest contextDigest ∧ isHexDigest proposalArtifactDigest ∧
    isHexDigest providerResultArtifactDigest ∧ isHexDigest admittedArtifactDigest) ∧
    (0 ≤ findingCount ∧ findingCount ≤ Stage.maxFindings) ∧ new.recordedAt.aware)
  check (state.fold.contextDigest = some contextDigest ∧
    new.recordedAt.instant ≤ lease.expiresAt)
  submit H lease.evidence.runId existing
    (transition state.latestEvent new (StrEnum.value ReviewEventType.succeeded) principalId
      [("run_id", .str lease.evidence.runId), ("review_id", .str lease.evidence.reviewId),
        ("lease_digest", .str (lease.digest H)), ("context_digest", .str contextDigest),
        ("proposal_artifact_digest", .str proposalArtifactDigest),
        ("provider_result_artifact_digest", .str providerResultArtifactDigest),
        ("admitted_artifact_digest", .str admittedArtifactDigest),
        ("finding_count", .int findingCount), ("status", .str "succeeded")]
      ("review-succeeded:" ++ lease.digest H))

/-- `record_failure`, up to the append. -/
def recordFailure (lease : ReviewLease) (failureCode : String)
    (resultArtifactDigest : Option String) (principalId : String) (new : NewEvent) :
    Call Submission := do
  let (state, existing) ← requireActive H seen lease principalId [.claimed, .providerDispatched]
  checkRequest (Stage.isFailureCode failureCode ∧ (∀ d ∈ resultArtifactDigest, isHexDigest d) ∧
    new.recordedAt.aware)
  submit H lease.evidence.runId existing
    (transition state.latestEvent new (StrEnum.value ReviewEventType.failed) principalId
      [("run_id", .str lease.evidence.runId), ("review_id", .str lease.evidence.reviewId),
        ("lease_digest", .str (lease.digest H)), ("failure_code", .str failureCode),
        ("result_artifact_digest", .ofText? resultArtifactDigest),
        ("status", .str "reviewer-error")]
      ("review-failed:" ++ lease.digest H))

/-- One run of `reconcile`, up to the append: a claimed review is requeued, a dispatched one needs
reconciliation, and any other one is left alone. -/
def reconcile (runId principalId : String) (new : NewEvent) : Call (Option Submission) := do
  checkRequest (Stage.isStageIdentifier principalId)
  let found ← inspect H seen runId
  let state ← Checked.ofOption found ReviewRuntimeFailureCode.notFound
  let existing := seen.readStream (reviewStream runId)
  check (¬(state.active ∧ principalId = state.fold.lease.workerId))
  let leaseDigest := state.fold.lease.digest H
  let names : Mapping := [("run_id", .str runId),
    ("review_id", .str state.fold.lease.evidence.reviewId), ("lease_digest", .str leaseDigest)]
  match state.fold.status with
  | .claimed => do
    let submission ← submit H runId existing
      (transition state.latestEvent new (StrEnum.value ReviewEventType.requeued) principalId
        (names ++ [("disposition", .str "pre-dispatch"), ("status", .str "requeued")])
        ("review-requeued:" ++ leaseDigest))
    pure (some submission)
  | .providerDispatched => do
    let submission ← submit H runId existing
      (transition state.latestEvent new (StrEnum.value ReviewEventType.reconciliationRequired)
        principalId
        (names ++ [("failure_code", .str reviewDispatchAmbiguous),
          ("status", .str "reconciliation-required")])
        ("review-reconciliation-required:" ++ leaseDigest))
    pure (some submission)
  | _ => pure none

/-! ### Calls -/

/-- A call of the scheduler with its arguments. -/
inductive Request where
  | claim (candidate : ReviewCandidate H) (workerId : String) (leaseExpiresAt : Datetime)
  | renewLease (lease : ReviewLease) (leaseExpiresAt : Datetime) (principalId : String)
  | recordProviderDispatch (lease : ReviewLease)
      (acceptanceDigest contextDigest contextArtifactDigest principalId : String)
  | recordSuccess (lease : ReviewLease) (contextDigest proposalArtifactDigest
      providerResultArtifactDigest admittedArtifactDigest : String) (findingCount : Int)
      (principalId : String)
  | recordFailure (lease : ReviewLease) (failureCode : String) (resultArtifactDigest : Option String)
      (principalId : String)
  | reconcile (runId principalId : String)

/-- What a call appends. -/
def Request.perform (new : NewEvent) : Request H → Call (Option Submission)
  | .claim candidate workerId leaseExpiresAt => do
    let (_, x) ← ReviewRuntime.claim H seen candidate workerId leaseExpiresAt new
    pure (some x)
  | .renewLease lease leaseExpiresAt principalId => do
    let (_, x) ← ReviewRuntime.renewLease H seen lease leaseExpiresAt principalId new
    pure (some x)
  | .recordProviderDispatch lease acceptance context artifact principalId => do
    let x ← ReviewRuntime.recordProviderDispatch H seen lease acceptance context artifact principalId
      new
    pure (some x)
  | .recordSuccess lease context proposal result admitted findingCount principalId => do
    let x ← ReviewRuntime.recordSuccess H seen lease context proposal result admitted findingCount
      principalId new
    pure (some x)
  | .recordFailure lease failureCode result principalId => do
    let x ← ReviewRuntime.recordFailure H seen lease failureCode result principalId new
    pure (some x)
  | .reconcile runId principalId => ReviewRuntime.reconcile H seen runId principalId new

/-- The run whose review a call is about. -/
def Request.runId {H : Host} : Request H → String
  | .claim candidate _ _ => candidate.evidence.runId
  | .renewLease lease _ _ | .recordProviderDispatch lease _ _ _ _ | .recordSuccess lease _ _ _ _ _ _
  | .recordFailure lease _ _ _ => lease.evidence.runId
  | .reconcile runId _ => runId

section Spec

variable {H} {seen}
variable {new : NewEvent} {x : Submission}

/-- A submission to the stream of a review, which folds with its event. -/
structure Submitted (H : Host) (seen : Ledger) (runId : String) (x : Submission) : Prop where
  expected : x.expectedSequence = ((seen.readStream (reviewStream runId)).length : Nat)
  folds : ∃ state, foldReviewLifecycle H runId
    (seen.readStream (reviewStream runId) ++ [x.event]) = .ok state

theorem submit_eq_ok {runId : String} {existing : List EventEnvelope} {event : EventEnvelope} :
    submit H runId existing event = .ok x ↔
      (∃ state, foldReviewLifecycle H runId (existing ++ [event]) = .ok state) ∧
        (⟨event, existing.length⟩ : Submission) = x := by
  simp only [submit, foldStream, Checked.bind_eq_ok, Checked.mapError_eq_ok, Checked.pure_eq_ok,
    exists_and_right]

/-- What is submitted after the stream that was seen. -/
theorem submitted_of_submit {runId : String} {event : EventEnvelope}
    (h : submit H runId (seen.readStream (reviewStream runId)) event = .ok x) :
    Submitted H seen runId x ∧ x.event = event := by
  obtain ⟨hfolds, rfl⟩ := submit_eq_ok.mp h
  exact ⟨⟨rfl, hfolds⟩, rfl⟩

/-- **Claims.** A claim is for a run whose success another principal recorded. -/
theorem of_claim {candidate : ReviewCandidate H} {workerId : String} {leaseExpiresAt : Datetime}
    {lease : ReviewLease}
    (h : ReviewRuntime.claim H seen candidate workerId leaseExpiresAt new = .ok (lease, x)) :
    Submitted H seen candidate.evidence.runId x ∧ x.event.actor = workerId ∧
      x.event.eventType = StrEnum.value ReviewEventType.claimed ∧
      ∃ success ∈ seen, isSuccessOf H candidate.evidence.runId candidate.correlationId
        candidate.evidence.runEventDigest success ∧ success.actor ≠ workerId := by
  unfold ReviewRuntime.claim at h
  split at h
  case isFalse => exact absurd h (by simp)
  simp only [requireExecutionEvent, Checked.bind_eq_ok, checkRequest_eq_ok, check_eq_ok,
    Checked.exists_unit, Checked.ofOption_eq_ok, Checked.pure_eq_ok, Prod.mk.injEq] at h
  obtain ⟨-, -, success, ⟨_, hget, hsuccess, rfl⟩, hactor, previous, -, -, submission, hsubmit, -,
    rfl⟩ := h
  obtain ⟨hsubmitted, hevent⟩ := submitted_of_submit hsubmit
  refine ⟨hsubmitted, by rw [hevent]; rfl, by rw [hevent]; rfl, _, ?_, hsuccess, hactor⟩
  exact List.mem_of_find?_eq_some hget

theorem requireActive_eq_ok {lease : ReviewLease} {principalId : String}
    {allowed : List ReviewLifecycleStatus} {state : ReviewLifecycleState}
    {existing : List EventEnvelope}
    (h : requireActive H seen lease principalId allowed = .ok (state, existing)) :
    existing = seen.readStream (reviewStream lease.evidence.runId) := by
  simp only [requireActive, Checked.bind_eq_ok, Checked.pure_eq_ok, Prod.mk.injEq] at h
  obtain ⟨_, -, _, -, _, -, _, -, -, rfl⟩ := h
  rfl

/-- A transition of another kind is no claim. -/
theorem submitted_of_transition {runId principalId key : String} {latest : EventEnvelope}
    {fields : Mapping} {kind : ReviewEventType} (hkind : kind ≠ .claimed)
    (h : submit H runId (seen.readStream (reviewStream runId))
      (transition latest new (StrEnum.value kind) principalId fields key) = .ok x) :
    Submitted H seen runId x ∧ x.event.eventType ≠ StrEnum.value ReviewEventType.claimed := by
  obtain ⟨hsubmitted, hevent⟩ := submitted_of_submit h
  refine ⟨hsubmitted, fun htype ↦ hkind (StrEnum.value_injective ?_)⟩
  rw [hevent] at htype
  exact htype

/-- **Calls.** What a call submits is accepted after the events that it has seen, and only a claim
submits a claim. -/
theorem submitted_of_perform {request : Request H}
    (h : request.perform H seen new = .ok (some x)) :
    Submitted H seen request.runId x ∧
      (x.event.eventType = StrEnum.value ReviewEventType.claimed →
        ∃ candidate workerId leaseExpiresAt, request = .claim candidate workerId leaseExpiresAt) := by
  cases request with
  | claim candidate workerId leaseExpiresAt =>
    simp only [Request.perform, Checked.bind_eq_ok, Checked.pure_eq_ok, Option.some.injEq] at h
    obtain ⟨⟨lease, x⟩, hclaim, rfl⟩ := h
    exact ⟨(of_claim hclaim).1, fun _ ↦ ⟨_, _, _, rfl⟩⟩
  | renewLease lease leaseExpiresAt principalId =>
    simp only [Request.perform, renewLease, Checked.bind_eq_ok, Checked.pure_eq_ok,
      Option.some.injEq] at h
    obtain ⟨_, ⟨⟨state, existing⟩, hactive, _, -, _, -, _, hsubmit, rfl⟩, rfl⟩ := h
    obtain rfl := requireActive_eq_ok hactive
    obtain ⟨hsubmitted, hother⟩ := submitted_of_transition (by decide) hsubmit
    exact ⟨hsubmitted, fun htype ↦ absurd htype hother⟩
  | recordProviderDispatch lease acceptance context artifact principalId =>
    simp only [Request.perform, recordProviderDispatch, Checked.bind_eq_ok, Checked.pure_eq_ok,
      Option.some.injEq] at h
    obtain ⟨_, ⟨⟨state, existing⟩, hactive, _, -, _, -, hsubmit⟩, rfl⟩ := h
    obtain rfl := requireActive_eq_ok hactive
    obtain ⟨hsubmitted, hother⟩ := submitted_of_transition (by decide) hsubmit
    exact ⟨hsubmitted, fun htype ↦ absurd htype hother⟩
  | recordSuccess lease context proposal result admitted findingCount principalId =>
    simp only [Request.perform, recordSuccess, Checked.bind_eq_ok, Checked.pure_eq_ok,
      Option.some.injEq] at h
    obtain ⟨_, ⟨⟨state, existing⟩, hactive, _, -, _, -, hsubmit⟩, rfl⟩ := h
    obtain rfl := requireActive_eq_ok hactive
    obtain ⟨hsubmitted, hother⟩ := submitted_of_transition (by decide) hsubmit
    exact ⟨hsubmitted, fun htype ↦ absurd htype hother⟩
  | recordFailure lease failureCode result principalId =>
    simp only [Request.perform, recordFailure, Checked.bind_eq_ok, Checked.pure_eq_ok,
      Option.some.injEq] at h
    obtain ⟨_, ⟨⟨state, existing⟩, hactive, _, -, hsubmit⟩, rfl⟩ := h
    obtain rfl := requireActive_eq_ok hactive
    obtain ⟨hsubmitted, hother⟩ := submitted_of_transition (by decide) hsubmit
    exact ⟨hsubmitted, fun htype ↦ absurd htype hother⟩
  | reconcile runId principalId =>
    simp only [Request.perform, reconcile, Checked.bind_eq_ok] at h
    obtain ⟨_, -, _, -, state, -, _, -, h⟩ := h
    cases hstatus : state.fold.status <;>
      simp only [hstatus, Checked.bind_eq_ok, Checked.pure_eq_ok, Option.some.injEq,
        reduceCtorEq] at h
    case claimed =>
      obtain ⟨_, hsubmit, rfl⟩ := h
      obtain ⟨hsubmitted, hother⟩ := submitted_of_transition (by decide) hsubmit
      exact ⟨hsubmitted, fun htype ↦ absurd htype hother⟩
    case providerDispatched =>
      obtain ⟨_, hsubmit, rfl⟩ := h
      obtain ⟨hsubmitted, hother⟩ := submitted_of_transition (by decide) hsubmit
      exact ⟨hsubmitted, fun htype ↦ absurd htype hother⟩

end Spec

end ReviewRuntime

end Blackcell.Bootstrap
