import Blackcell.Bootstrap.ReviewRuntime
import Blackcell.Orchestration.VerificationLifecycle

/-!
# The scheduler of verifications

`VerificationRuntimeService` of `bootstrap/verification_runtime.py`. A claim is for a run that succeeded
and whose review succeeded; it reads the events of the review before it reads the stream of the
verification, so what it has seen of them are two ledgers.

## Main definitions

* `requireSourceEvents` : the events that a claim rests on.
* `claim`, `recordCompleted`, `recordFailure`, `reconcile` : the calls.
* `Request`, `Request.perform` : a call with its arguments.

## Main results

* `of_claim` : what a claim says about the run and about its review.
* `submitted_of_perform` : what a call submits is accepted after the events that it has seen.
-/

namespace Blackcell.Bootstrap.VerificationRuntime

open Blackcell.Kernel Blackcell.Orchestration Blackcell.Orchestration.VerificationLifecycle

/-- `VerificationRuntimeFailureCode`. -/
inductive VerificationRuntimeFailureCode where
  | invalidRequest | notFound | conflict
  deriving DecidableEq, Repr

/-- A call of the scheduler. -/
abbrev Call := Except VerificationRuntimeFailureCode

/-- Raise `CONFLICT` unless the condition holds. -/
def check (p : Prop) [Decidable p] : Call PUnit := Checked.require p .conflict

@[simp] theorem check_eq_ok {p : Prop} [Decidable p] {u : PUnit} : check p = .ok u ↔ p :=
  Checked.require_eq_ok

/-- Raise `INVALID_REQUEST` unless the condition holds. -/
def checkRequest (p : Prop) [Decidable p] : Call PUnit := Checked.require p .invalidRequest

@[simp] theorem checkRequest_eq_ok {p : Prop} [Decidable p] {u : PUnit} :
    checkRequest p = .ok u ↔ p :=
  Checked.require_eq_ok

variable (H : Host) (sources seen : Ledger)

/-- The fold of a stream inside a call. -/
def foldStream (runId : String) (events : List EventEnvelope) :
    Call (VerificationLifecycleState H) :=
  (foldVerificationLifecycle H runId events).mapError fun _ ↦ .conflict

/-- `inspect`. -/
def inspect (runId : String) : Call (Option (VerificationLifecycleState H)) :=
  match seen.readStream (verificationStream runId) with
  | [] => pure none
  | events => some <$> foldStream H runId events

/-- `_append`, up to the append: the stream still folds with the event. -/
def submit (runId : String) (existing : List EventEnvelope) (event : EventEnvelope) :
    Call Submission := do
  let _ ← foldStream H runId (existing ++ [event])
  pure ⟨event, existing.length⟩

/-- The event by which a review succeeded. -/
def isReviewSuccessOf (runId correlationId reviewEventDigest : String) (e : EventEnvelope) : Prop :=
  e.streamId = ReviewLifecycle.reviewStream runId ∧
    e.eventType = StrEnum.value ReviewLifecycle.ReviewEventType.succeeded ∧
    e.source = RunLifecycle.runtimeEventSource ∧ e.correlationId = correlationId ∧
    e.payloadHash H = reviewEventDigest

instance (runId correlationId reviewEventDigest : String) (e : EventEnvelope) :
    Decidable (isReviewSuccessOf H runId correlationId reviewEventDigest e) :=
  inferInstanceAs (Decidable (_ ∧ _ ∧ _ ∧ _ ∧ _))

/-- The review that a candidate names is the one that was folded. -/
def agrees (v : VerificationEvidence) (s : ReviewLifecycle.ReviewLifecycleState) : Prop :=
  s.fold.lease.evidence.runEventId = v.runEventId ∧
    s.fold.lease.evidence.runEventDigest = v.runEventDigest ∧
    s.fold.lease.evidence.stateDigest = v.stateDigest ∧
    s.fold.lease.evidence.artifactEvidenceDigest = v.artifactEvidenceDigest ∧
    s.fold.lease.evidence.reviewId = v.reviewId ∧
    s.fold.acceptanceDigest = some v.acceptanceDigest ∧
    s.fold.contextDigest = some v.contextDigest ∧
    s.fold.proposalArtifactDigest = some v.proposalArtifactDigest ∧
    s.fold.providerResultArtifactDigest = some v.providerResultArtifactDigest ∧
    s.fold.admittedArtifactDigest = some v.admittedReviewDigest ∧
    s.fold.findingCount = some v.findingCount

instance (v : VerificationEvidence) (s : ReviewLifecycle.ReviewLifecycleState) :
    Decidable (agrees v s) := by
  unfold agrees
  infer_instance

/-- `_require_source_events`: the event of the run, and the actors of the review. -/
def requireSourceEvents (candidate : VerificationCandidate H) :
    Call (EventEnvelope × List String) := do
  let v := candidate.evidence
  let execution ← Checked.ofOption (getEvent sources v.runEventId)
    VerificationRuntimeFailureCode.conflict
  check (isSuccessOf H v.runId candidate.correlationId v.runEventDigest execution)
  let review ← Checked.ofOption (getEvent sources v.reviewEventId)
    VerificationRuntimeFailureCode.conflict
  check (isReviewSuccessOf H v.runId candidate.correlationId v.reviewEventDigest review)
  let reviewEvents := sources.readStream (ReviewLifecycle.reviewStream v.runId)
  let state ← (ReviewLifecycle.foldReviewLifecycle H v.runId reviewEvents).mapError
    fun _ ↦ VerificationRuntimeFailureCode.conflict
  check (state.fold.status = .succeeded ∧ state.latestEvent.eventId = review.eventId ∧
    agrees v state)
  pure (execution, reviewEvents.map (·.actor))

/-- The event of a claim. -/
def claimEvent (candidate : VerificationCandidate H)
    (previous : Option (VerificationLifecycleState H)) (sequence : Int)
    (lease : VerificationLease H) (new : NewEvent) : EventEnvelope where
  eventId := new.eventId
  streamId := verificationStream candidate.evidence.runId
  streamSequence := sequence
  eventType := StrEnum.value VerificationEventType.claimed
  schemaVersion := 1
  recordedAt := new.recordedAt.instant
  effectiveAt := new.recordedAt.instant
  correlationId := candidate.correlationId
  causationId := some ((previous.map (·.latestEvent.eventId)).getD candidate.evidence.reviewEventId)
  actor := lease.workerId
  source := RunLifecycle.runtimeEventSource
  payload := [("principal_id", .str lease.workerId), ("lease_digest", .str lease.digest),
    ("lease", .object lease.payload), ("status", .str "claimed")]
  idempotencyKey := some ("verification-claimed:" ++ lease.digest)
  globalPosition := none

/-- The lease of a claim. -/
def claimLease (candidate : VerificationCandidate H)
    (previous : Option (VerificationLifecycleState H)) (workerId : String)
    (hworker : Stage.isStageIdentifier workerId) (expiresAt : Timestamp) : VerificationLease H where
  evidence := candidate.evidence
  attempt := (previous.map (·.fold.lease.attempt)).getD 0 + 1
  fencingToken := (previous.map (·.fold.lease.fencingToken)).getD 0 + 1
  workerId := workerId
  expiresAt := expiresAt
  valid := candidate.valid
  isWorker := hworker
  positive := ⟨Nat.le_add_left 1 _, Nat.le_add_left 1 _⟩

/-- `claim`, up to the append. -/
def claim (candidate : VerificationCandidate H) (workerId : String) (leaseExpiresAt : Datetime)
    (new : NewEvent) : Call (VerificationLease H × Submission) :=
  if hworker : Stage.isStageIdentifier workerId then do
    checkRequest (new.recordedAt.aware ∧ leaseExpiresAt.aware)
    checkRequest (new.recordedAt.instant < leaseExpiresAt.instant)
    let (execution, reviewActors) ← requireSourceEvents H sources candidate
    check (workerId ≠ execution.actor ∧ workerId ∉ reviewActors)
    let existing := seen.readStream (verificationStream candidate.evidence.runId)
    let previous ← inspect H seen candidate.evidence.runId
    check (∀ state ∈ previous, state.fold.status = .requeued ∧
      candidate.evidence = state.fold.lease.evidence)
    let lease := claimLease H candidate previous workerId hworker leaseExpiresAt.instant
    let submission ← submit H candidate.evidence.runId existing
      (claimEvent H candidate previous (existing.length + 1) lease new)
    pure (lease, submission)
  else .error .invalidRequest

/-- `_require_active`: the state of the verification, and the stream. -/
def requireActive (lease : VerificationLease H) (principalId : String) :
    Call (VerificationLifecycleState H × List EventEnvelope) := do
  checkRequest (Stage.isStageIdentifier principalId)
  let existing := seen.readStream (verificationStream lease.evidence.runId)
  Checked.require (existing ≠ []) VerificationRuntimeFailureCode.notFound
  let state ← foldStream H lease.evidence.runId existing
  check (state.fold.status = .claimed ∧ state.fold.lease.digest = lease.digest ∧
    state.fold.lease.workerId = principalId)
  pure (state, existing)

/-- `record_completed`, up to the append. -/
def recordCompleted (lease : VerificationLease H) (verdict : VerificationStatus)
    (reportArtifactDigest matrixDigest principalId : String) (new : NewEvent) : Call Submission := do
  let (state, existing) ← requireActive H seen lease principalId
  checkRequest (isHexDigest reportArtifactDigest ∧ isHexDigest matrixDigest ∧ new.recordedAt.aware)
  submit H lease.evidence.runId existing
    (transition state.latestEvent new (StrEnum.value VerificationEventType.completed) principalId
      [("run_id", .str lease.evidence.runId), ("verification_id", .str lease.evidence.verificationId),
        ("lease_digest", .str lease.digest), ("verdict", .str (StrEnum.value verdict)),
        ("report_artifact_digest", .str reportArtifactDigest), ("matrix_digest", .str matrixDigest),
        ("status", .str "completed")]
      ("verification-completed:" ++ lease.digest))

/-- `record_failure`, up to the append. -/
def recordFailure (lease : VerificationLease H) (failureCode : String)
    (resultArtifactDigest : Option String) (principalId : String) (new : NewEvent) :
    Call Submission := do
  let (state, existing) ← requireActive H seen lease principalId
  checkRequest (Stage.isFailureCode failureCode ∧ (∀ d ∈ resultArtifactDigest, isHexDigest d) ∧
    new.recordedAt.aware)
  submit H lease.evidence.runId existing
    (transition state.latestEvent new (StrEnum.value VerificationEventType.failed) principalId
      [("run_id", .str lease.evidence.runId), ("verification_id", .str lease.evidence.verificationId),
        ("lease_digest", .str lease.digest), ("failure_code", .str failureCode),
        ("result_artifact_digest", .ofText? resultArtifactDigest),
        ("status", .str "verifier-error")]
      ("verification-failed:" ++ lease.digest))

/-- One run of `reconcile`, up to the append: a claimed verification is requeued by another principal,
and any other one is left alone. -/
def reconcile (runId principalId : String) (new : NewEvent) : Call (Option Submission) := do
  checkRequest (Stage.isStageIdentifier principalId)
  let found ← inspect H seen runId
  let state ← Checked.ofOption found VerificationRuntimeFailureCode.notFound
  if state.fold.status = .claimed then
    check (principalId ≠ state.fold.lease.workerId)
    let submission ← submit H runId (seen.readStream (verificationStream runId))
      (transition state.latestEvent new (StrEnum.value VerificationEventType.requeued) principalId
        [("run_id", .str runId), ("verification_id", .str state.fold.lease.evidence.verificationId),
          ("lease_digest", .str state.fold.lease.digest),
          ("disposition", .str "deterministic-retry"), ("status", .str "requeued")]
        ("verification-requeued:" ++ state.fold.lease.digest))
    pure (some submission)
  else pure none

/-! ### Calls -/

/-- A call of the scheduler with its arguments. -/
inductive Request where
  | claim (candidate : VerificationCandidate H) (workerId : String) (leaseExpiresAt : Datetime)
  | recordCompleted (lease : VerificationLease H) (verdict : VerificationStatus)
      (reportArtifactDigest matrixDigest principalId : String)
  | recordFailure (lease : VerificationLease H) (failureCode : String)
      (resultArtifactDigest : Option String) (principalId : String)
  | reconcile (runId principalId : String)

/-- What a call appends. -/
def Request.perform (new : NewEvent) : Request H → Call (Option Submission)
  | .claim candidate workerId leaseExpiresAt => do
    let (_, x) ← VerificationRuntime.claim H sources seen candidate workerId leaseExpiresAt new
    pure (some x)
  | .recordCompleted lease verdict report matrix principalId => do
    let x ← VerificationRuntime.recordCompleted H seen lease verdict report matrix principalId new
    pure (some x)
  | .recordFailure lease failureCode result principalId => do
    let x ← VerificationRuntime.recordFailure H seen lease failureCode result principalId new
    pure (some x)
  | .reconcile runId principalId => VerificationRuntime.reconcile H seen runId principalId new

/-- The run whose verification a call is about. -/
def Request.runId {H : Host} : Request H → String
  | .claim candidate _ _ => candidate.evidence.runId
  | .recordCompleted lease _ _ _ _ | .recordFailure lease _ _ _ => lease.evidence.runId
  | .reconcile runId _ => runId

section Spec

variable {H} {sources seen} {new : NewEvent} {x : Submission}

/-- A submission to the stream of a verification, which folds with its event. -/
structure Submitted (H : Host) (seen : Ledger) (runId : String) (x : Submission) : Prop where
  expected : x.expectedSequence = ((seen.readStream (verificationStream runId)).length : Nat)
  folds : ∃ state, foldVerificationLifecycle H runId
    (seen.readStream (verificationStream runId) ++ [x.event]) = .ok state

/-- What is submitted after the stream that was seen. -/
theorem submitted_of_submit {runId : String} {event : EventEnvelope}
    (h : submit H runId (seen.readStream (verificationStream runId)) event = .ok x) :
    Submitted H seen runId x ∧ x.event = event := by
  simp only [submit, foldStream, Checked.bind_eq_ok, Checked.mapError_eq_ok,
    Checked.pure_eq_ok] at h
  obtain ⟨state, hfolds, rfl⟩ := h
  exact ⟨⟨rfl, state, hfolds⟩, rfl⟩

/-- A transition of another kind is no claim. -/
theorem submitted_of_transition {runId principalId key : String} {latest : EventEnvelope}
    {fields : Mapping} {kind : VerificationEventType} (hkind : kind ≠ .claimed)
    (h : submit H runId (seen.readStream (verificationStream runId))
      (transition latest new (StrEnum.value kind) principalId fields key) = .ok x) :
    Submitted H seen runId x ∧
      x.event.eventType ≠ StrEnum.value VerificationEventType.claimed := by
  obtain ⟨hsubmitted, hevent⟩ := submitted_of_submit h
  refine ⟨hsubmitted, fun htype ↦ hkind (StrEnum.value_injective ?_)⟩
  rw [hevent] at htype
  exact htype

/-- **Claims.** A claim is for a run whose success another principal recorded, and whose review
succeeded without an event of the principal. -/
theorem of_claim {candidate : VerificationCandidate H} {workerId : String}
    {leaseExpiresAt : Datetime} {lease : VerificationLease H}
    (h : VerificationRuntime.claim H sources seen candidate workerId leaseExpiresAt new =
      .ok (lease, x)) :
    Submitted H seen candidate.evidence.runId x ∧ x.event.actor = workerId ∧
      x.event.eventType = StrEnum.value VerificationEventType.claimed ∧
      (∃ success ∈ sources, isSuccessOf H candidate.evidence.runId candidate.correlationId
        candidate.evidence.runEventDigest success ∧ success.actor ≠ workerId) ∧
      (∃ review ∈ sources.readStream (ReviewLifecycle.reviewStream candidate.evidence.runId),
        ReviewLifecycle.Ends review) ∧
      ∀ e ∈ sources.readStream (ReviewLifecycle.reviewStream candidate.evidence.runId),
        e.actor ≠ workerId := by
  unfold VerificationRuntime.claim at h
  split at h
  case isFalse => exact absurd h (by simp)
  simp only [requireSourceEvents, Checked.bind_eq_ok, checkRequest_eq_ok, check_eq_ok,
    Checked.exists_unit, Checked.ofOption_eq_ok, Checked.pure_eq_ok, Prod.mk.injEq] at h
  obtain ⟨-, -, ⟨success, actors⟩, ⟨_, hsuccess, hisSuccess, review, hreview, hisReview, _, -, -, rfl,
    rfl⟩, ⟨hactor, hactors⟩, previous, -, -, submission, hsubmit, -, rfl⟩ := h
  obtain ⟨hsubmitted, hevent⟩ := submitted_of_submit hsubmit
  refine ⟨hsubmitted, by rw [hevent]; rfl, by rw [hevent]; rfl,
    ⟨_, List.mem_of_find?_eq_some hsuccess, hisSuccess, Ne.symm hactor⟩,
    ⟨review, Ledger.mem_readStream.mpr ⟨List.mem_of_find?_eq_some hreview, hisReview.1⟩,
      .succeeded, hisReview.2.1, rfl⟩, fun e he hworker ↦ hactors ?_⟩
  exact List.mem_map.mpr ⟨e, he, hworker⟩

theorem requireActive_eq_ok {lease : VerificationLease H} {principalId : String}
    {state : VerificationLifecycleState H} {existing : List EventEnvelope}
    (h : requireActive H seen lease principalId = .ok (state, existing)) :
    existing = seen.readStream (verificationStream lease.evidence.runId) := by
  simp only [requireActive, Checked.bind_eq_ok, Checked.pure_eq_ok, Prod.mk.injEq] at h
  obtain ⟨_, -, _, -, _, -, _, -, -, rfl⟩ := h
  rfl

/-- **Calls.** What a call submits is accepted after the events that it has seen, and only a claim
submits a claim. -/
theorem submitted_of_perform {request : Request H}
    (h : request.perform H sources seen new = .ok (some x)) :
    Submitted H seen request.runId x ∧
      (x.event.eventType = StrEnum.value VerificationEventType.claimed →
        ∃ candidate workerId leaseExpiresAt, request = .claim candidate workerId leaseExpiresAt) := by
  cases request with
  | claim candidate workerId leaseExpiresAt =>
    simp only [Request.perform, Checked.bind_eq_ok, Checked.pure_eq_ok, Option.some.injEq] at h
    obtain ⟨⟨lease, x⟩, hclaim, rfl⟩ := h
    exact ⟨(of_claim hclaim).1, fun _ ↦ ⟨_, _, _, rfl⟩⟩
  | recordCompleted lease verdict report matrix principalId =>
    simp only [Request.perform, recordCompleted, Checked.bind_eq_ok, Checked.pure_eq_ok,
      Option.some.injEq] at h
    obtain ⟨_, ⟨⟨state, existing⟩, hactive, _, -, hsubmit⟩, rfl⟩ := h
    obtain rfl := requireActive_eq_ok hactive
    obtain ⟨hsubmitted, hother⟩ := submitted_of_transition (by decide) hsubmit
    exact ⟨hsubmitted, fun htype ↦ absurd htype hother⟩
  | recordFailure lease failureCode result principalId =>
    simp only [Request.perform, recordFailure, Checked.bind_eq_ok, Checked.pure_eq_ok,
      Option.some.injEq] at h
    obtain ⟨_, ⟨⟨state, existing⟩, hactive, _, -, hsubmit⟩, rfl⟩ := h
    obtain rfl := requireActive_eq_ok hactive
    obtain ⟨hsubmitted, hother⟩ := submitted_of_transition (by decide) hsubmit
    exact ⟨hsubmitted, fun htype ↦ absurd htype hother⟩
  | reconcile runId principalId =>
    simp only [Request.perform, reconcile, Checked.bind_eq_ok] at h
    obtain ⟨_, -, _, -, state, -, h⟩ := h
    split at h
    · simp only [Checked.bind_eq_ok, Checked.pure_eq_ok, Option.some.injEq] at h
      obtain ⟨_, -, _, hsubmit, rfl⟩ := h
      obtain ⟨hsubmitted, hother⟩ := submitted_of_transition (by decide) hsubmit
      exact ⟨hsubmitted, fun htype ↦ absurd htype hother⟩
    · simp at h

end Spec

end Blackcell.Bootstrap.VerificationRuntime
