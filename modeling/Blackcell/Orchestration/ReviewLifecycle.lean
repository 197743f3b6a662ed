import Blackcell.Foundation.History
import Blackcell.Orchestration.Stage

/-!
# The lifecycle of a review

The stream of a review in `orchestration/review_lifecycle.py`. A review is claimed under a lease, may
be requeued and claimed again, and ends when it has succeeded, failed, or needs reconciliation. A claim
is for the same evidence as the first one; the terminal states accept no event.

## Main definitions

* `ReviewCandidate`, `ReviewLease` : what is reviewed, and the lease of a claim.
* `foldReviewEvent` : one event of the stream, a branch for each kind.
* `foldReviewLifecycle` : the fold of a complete stream.
* `Transition` : the transitions of the fold.

## Main results

* `transition_of_foldReviewEvent` : every accepted event is one of the transitions.
* `open_of_fold` : a review that has ended accepts no further event.
* `stream_of_fold` : the events of an accepted stream are those of the review.
-/

namespace Blackcell.Orchestration.ReviewLifecycle

open Blackcell.Kernel

/-- `REVIEW_EVENT_TYPES`. -/
inductive ReviewEventType where
  | claimed | leaseRenewed | providerDispatchStarted | succeeded | failed | requeued
  | reconciliationRequired
  deriving DecidableEq, Repr

instance : StrEnum ReviewEventType where
  value
    | .claimed => "review.claimed"
    | .leaseRenewed => "review.lease-renewed"
    | .providerDispatchStarted => "review.provider-dispatch-started"
    | .succeeded => "review.succeeded"
    | .failed => "review.failed"
    | .requeued => "review.requeued"
    | .reconciliationRequired => "review.reconciliation-required"
  members := [.claimed, .leaseRenewed, .providerDispatchStarted, .succeeded, .failed, .requeued,
    .reconciliationRequired]
  mem_members := by intro a; cases a <;> decide
  nodup_values := by decide

/-- `REVIEW_LEASE_SCHEMA`. -/
def reviewLeaseSchema : String := "review-lease/v1"

/-- `REVIEW_DISPATCH_AMBIGUOUS`. -/
def reviewDispatchAmbiguous : String := "review-dispatch-ambiguous"

/-- `ReviewLifecycleError`. -/
inductive ReviewLifecycleError where
  | invalidReviewLifecycle
  deriving DecidableEq, Repr

/-- `ReviewLifecycleStatus`. -/
inductive ReviewLifecycleStatus where
  | claimed | providerDispatched | succeeded | failed | requeued | reconciliationRequired
  deriving DecidableEq, Repr

/-- Raise `ReviewLifecycleError` unless the condition holds. -/
def check (p : Prop) [Decidable p] : Except ReviewLifecycleError PUnit :=
  Checked.require p .invalidReviewLifecycle

@[simp] theorem check_eq_ok {p : Prop} [Decidable p] {u : PUnit} : check p = .ok u ↔ p :=
  Checked.require_eq_ok

/-! ### Candidates and leases -/

section Values

variable (H : Host)

/-- `review_id`. -/
def reviewId (runId runEventDigest : String) : String :=
  "review-" ++ String.ofList ((withoutDigestPrefix (H.jsonDigest (.object [
    ("run_id", .str runId), ("run_event_digest", .str runEventDigest),
    ("stage", .str "review")]))).toList.take 48)

/-- `review_provider_request_id`. -/
def reviewProviderRequestId (leaseDigest : String) : String :=
  "review-" ++ String.ofList ((withoutDigestPrefix leaseDigest).toList.take 48)

/-- `review_stream`. -/
def reviewStream (runId : String) : String := "review:" ++ runId

/-- The evidence that a review is about: the tuple that candidates and leases are compared by. -/
structure ReviewEvidence where
  runId : String
  reviewId : String
  runEventId : String
  runEventDigest : String
  stateDigest : String
  artifactEvidenceDigest : String
  deriving DecidableEq

/-- What the constructors demand of the evidence. -/
def ReviewEvidence.Valid (v : ReviewEvidence) : Prop :=
  (Stage.isStageIdentifier v.runId ∧ Stage.isStageIdentifier v.reviewId ∧
    Stage.isStageIdentifier v.runEventId) ∧
  isHexDigest v.runEventDigest ∧ isHexDigest v.stateDigest ∧ isHexDigest v.artifactEvidenceDigest

instance (v : ReviewEvidence) : Decidable v.Valid := inferInstanceAs (Decidable (_ ∧ _))

/-- `ReviewCandidate`. -/
structure ReviewCandidate where
  evidence : ReviewEvidence
  correlationId : String
  valid : evidence.Valid
  isCorrelation : Stage.isStageIdentifier correlationId
  isReviewId : evidence.reviewId = reviewId H evidence.runId evidence.runEventDigest

/-- `ReviewLease`, which expires at an instant in UTC. -/
structure ReviewLease where
  evidence : ReviewEvidence
  attempt : Nat
  fencingToken : Nat
  workerId : String
  expiresAt : Timestamp
  valid : evidence.Valid
  isWorker : Stage.isStageIdentifier workerId
  positive : 1 ≤ attempt ∧ 1 ≤ fencingToken

/-- `ReviewLease(...)`. -/
def ReviewLease.create (evidence : ReviewEvidence) (attempt fencingToken : Nat) (workerId : String)
    (expiresAt : Timestamp) : Except ReviewLifecycleError ReviewLease :=
  if h : evidence.Valid ∧ Stage.isStageIdentifier workerId ∧ 1 ≤ attempt ∧ 1 ≤ fencingToken then
    .ok ⟨evidence, attempt, fencingToken, workerId, expiresAt, h.1, h.2.1, h.2.2⟩
  else .error .invalidReviewLifecycle

/-- `review_lease_payload`. -/
def ReviewLease.payload (l : ReviewLease) : Mapping := [
  ("schema_version", .str reviewLeaseSchema),
  ("run_id", .str l.evidence.runId),
  ("review_id", .str l.evidence.reviewId),
  ("attempt", .int l.attempt),
  ("fencing_token", .int l.fencingToken),
  ("worker_id", .str l.workerId),
  ("run_event_id", .str l.evidence.runEventId),
  ("run_event_digest", .str l.evidence.runEventDigest),
  ("state_digest", .str l.evidence.stateDigest),
  ("artifact_evidence_digest", .str l.evidence.artifactEvidenceDigest),
  ("expires_at", .str (H.isoformat l.expiresAt))]

/-- `ReviewLease.digest`. -/
def ReviewLease.digest (l : ReviewLease) : String := H.jsonDigest (.object (l.payload H))

/-- `review_lease_from_mapping`. -/
def reviewLeaseFromMapping (raw : Mapping) : Except ReviewLifecycleError ReviewLease := do
  let error := ReviewLifecycleError.invalidReviewLifecycle
  Stage.exact error raw ["schema_version", "run_id", "review_id", "attempt", "fencing_token",
    "worker_id", "run_event_id", "run_event_digest", "state_digest", "artifact_evidence_digest",
    "expires_at"]
  check (raw.get "schema_version" = .str reviewLeaseSchema)
  let expiresAt ← Stage.instant error H (raw.get "expires_at")
  let runId ← Stage.identifier error (raw.get "run_id")
  let reviewId ← Stage.identifier error (raw.get "review_id")
  let attempt ← Stage.positiveInteger error (raw.get "attempt")
  let fencingToken ← Stage.positiveInteger error (raw.get "fencing_token")
  let workerId ← Stage.identifier error (raw.get "worker_id")
  let runEventId ← Stage.identifier error (raw.get "run_event_id")
  let runEventDigest ← Stage.digest error (raw.get "run_event_digest")
  let stateDigest ← Stage.digest error (raw.get "state_digest")
  let artifactEvidenceDigest ← Stage.digest error (raw.get "artifact_evidence_digest")
  ReviewLease.create ⟨runId, reviewId, runEventId, runEventDigest, stateDigest,
    artifactEvidenceDigest⟩ attempt fencingToken workerId expiresAt

end Values

/-! ### The fold -/

/-- The local variables of `fold_review_lifecycle`, after the first claim. -/
structure ReviewFold where
  status : ReviewLifecycleStatus
  lease : ReviewLease
  baseline : ReviewLease
  acceptanceDigest : Option String
  contextDigest : Option String
  providerRequestId : Option String
  providerDispatchEventId : Option String
  proposalArtifactDigest : Option String
  providerResultArtifactDigest : Option String
  admittedArtifactDigest : Option String
  findingCount : Option Nat
  failureCode : Option String
  resultArtifactDigest : Option String

/-- `ReviewLifecycleState`, without the baseline of its fold. -/
structure ReviewLifecycleState where
  runId : String
  fold : ReviewFold
  latestEvent : EventEnvelope

/-- `ReviewLifecycleState.active`. -/
def ReviewLifecycleState.active (s : ReviewLifecycleState) : Prop :=
  s.fold.status = .claimed ∨ s.fold.status = .providerDispatched

instance (s : ReviewLifecycleState) : Decidable s.active := inferInstanceAs (Decidable (_ ∨ _))

section Fold

variable (H : Host) (runId : String) (e : EventEnvelope)

/-- `_host_transition`: the fold of a review with the expected status, whose lease the event names. -/
def hostTransition (s : Option ReviewFold) (expected : ReviewLifecycleStatus) :
    Except ReviewLifecycleError ReviewFold := do
  let f ← Checked.ofOption s ReviewLifecycleError.invalidReviewLifecycle
  check (f.status = expected)
  check (e.payload.get "run_id" = .str f.lease.evidence.runId)
  check (e.payload.get "review_id" = .str f.lease.evidence.reviewId)
  check (e.payload.get "lease_digest" = .str (f.lease.digest H))
  pure f

/-- `_active_lease`: the same, for an event that the worker of the lease records. -/
def activeLease (s : Option ReviewFold) (principal : String) (expected : ReviewLifecycleStatus)
    (allowExpired : Bool) : Except ReviewLifecycleError ReviewFold := do
  let f ← hostTransition H e s expected
  check (principal = f.lease.workerId)
  check (allowExpired ∨ e.recordedAt ≤ f.lease.expiresAt)
  pure f

/-- The claim of a lease, whatever was claimed before. -/
def ReviewFold.claimed (lease baseline : ReviewLease) : ReviewFold :=
  ⟨.claimed, lease, baseline, none, none, none, none, none, none, none, none, none, none⟩

/-- `REVIEW_CLAIMED`. -/
def foldClaimed (s : Option ReviewFold) (principal : String) :
    Except ReviewLifecycleError ReviewFold := do
  let error := ReviewLifecycleError.invalidReviewLifecycle
  Stage.exact error e.payload ["principal_id", "lease_digest", "lease", "status"]
  check (∀ f ∈ s, f.status = .requeued)
  let raw ← Stage.mapping error (e.payload.get "lease")
  let candidate ← reviewLeaseFromMapping H raw
  check (candidate.evidence.runId = runId ∧ candidate.workerId = principal)
  check (e.payload.get "lease_digest" = .str (candidate.digest H))
  check (e.payload.get "status" = .str "claimed")
  check (e.recordedAt < candidate.expiresAt)
  check (s.isNone → e.causationId = some candidate.evidence.runEventId)
  check (candidate.attempt = (s.map (·.lease.attempt)).getD 0 + 1)
  check (candidate.fencingToken = (s.map (·.lease.fencingToken)).getD 0 + 1)
  check (∀ f ∈ s, candidate.evidence = f.baseline.evidence)
  pure (.claimed candidate ((s.map (·.baseline)).getD candidate))

/-- `REVIEW_LEASE_RENEWED`. -/
def foldLeaseRenewed (s : Option ReviewFold) (principal : String) :
    Except ReviewLifecycleError ReviewFold := do
  let error := ReviewLifecycleError.invalidReviewLifecycle
  Stage.exact error e.payload ["principal_id", "previous_lease_digest", "lease_digest", "lease",
    "status"]
  let raw ← Stage.mapping error (e.payload.get "lease")
  let renewed ← reviewLeaseFromMapping H raw
  let f ← Checked.ofOption s error
  check (f.status = .claimed ∧ principal = f.lease.workerId ∧ renewed.workerId = principal)
  check (e.payload.get "previous_lease_digest" = .str (f.lease.digest H))
  check (e.payload.get "lease_digest" = .str (renewed.digest H))
  check (e.payload.get "status" = .str "claimed")
  check (e.recordedAt < renewed.expiresAt ∧ f.lease.expiresAt < renewed.expiresAt)
  check (renewed.evidence = f.lease.evidence ∧ renewed.attempt = f.lease.attempt ∧
    renewed.fencingToken = f.lease.fencingToken)
  pure { f with lease := renewed }

/-- `REVIEW_PROVIDER_DISPATCH_STARTED`. -/
def foldProviderDispatchStarted (s : Option ReviewFold) (principal : String) :
    Except ReviewLifecycleError ReviewFold := do
  let error := ReviewLifecycleError.invalidReviewLifecycle
  Stage.exact error e.payload ["principal_id", "run_id", "review_id", "lease_digest",
    "provider_request_id", "acceptance_digest", "context_digest", "context_artifact_digest",
    "status"]
  let f ← activeLease H e s principal .claimed false
  let requestId ← Stage.identifier error (e.payload.get "provider_request_id")
  let acceptance ← Stage.digest error (e.payload.get "acceptance_digest")
  let context ← Stage.digest error (e.payload.get "context_digest")
  check (requestId = reviewProviderRequestId (f.lease.digest H))
  check (e.payload.get "context_artifact_digest" = .str context)
  check (e.payload.get "status" = .str "provider-dispatch-started")
  pure { f with
    acceptanceDigest := some acceptance
    contextDigest := some context
    providerRequestId := some requestId
    providerDispatchEventId := some e.eventId
    status := .providerDispatched }

/-- `REVIEW_SUCCEEDED`. -/
def foldSucceeded (s : Option ReviewFold) (principal : String) :
    Except ReviewLifecycleError ReviewFold := do
  let error := ReviewLifecycleError.invalidReviewLifecycle
  Stage.exact error e.payload ["principal_id", "run_id", "review_id", "lease_digest",
    "context_digest", "proposal_artifact_digest", "provider_result_artifact_digest",
    "admitted_artifact_digest", "finding_count", "status"]
  let f ← activeLease H e s principal .providerDispatched false
  let count ← Stage.findingCount error (e.payload.get "finding_count")
  check (e.payload.get "context_digest" = .ofText? f.contextDigest)
  check (e.payload.get "status" = .str "succeeded")
  let proposal ← Stage.digest error (e.payload.get "proposal_artifact_digest")
  let providerResult ← Stage.digest error (e.payload.get "provider_result_artifact_digest")
  let admitted ← Stage.digest error (e.payload.get "admitted_artifact_digest")
  pure { f with
    proposalArtifactDigest := some proposal
    providerResultArtifactDigest := some providerResult
    admittedArtifactDigest := some admitted
    findingCount := some count
    status := .succeeded }

/-- `REVIEW_FAILED`. -/
def foldFailed (s : Option ReviewFold) (principal : String) :
    Except ReviewLifecycleError ReviewFold := do
  let error := ReviewLifecycleError.invalidReviewLifecycle
  Stage.exact error e.payload ["principal_id", "run_id", "review_id", "lease_digest",
    "failure_code", "result_artifact_digest", "status"]
  let before ← Checked.ofOption s error
  check (before.status = .claimed ∨ before.status = .providerDispatched)
  let f ← activeLease H e s principal before.status true
  let code ← Stage.failure error (e.payload.get "failure_code")
  let result ← Stage.optionalDigest error (e.payload.get "result_artifact_digest")
  check (e.payload.get "status" = .str "reviewer-error")
  pure { f with failureCode := some code, resultArtifactDigest := result, status := .failed }

/-- `REVIEW_REQUEUED`. -/
def foldRequeued (s : Option ReviewFold) : Except ReviewLifecycleError ReviewFold := do
  let error := ReviewLifecycleError.invalidReviewLifecycle
  Stage.exact error e.payload ["principal_id", "run_id", "review_id", "lease_digest", "disposition",
    "status"]
  let f ← hostTransition H e s .claimed
  check (e.payload.get "disposition" = .str "pre-dispatch")
  check (e.payload.get "status" = .str "requeued")
  pure { f with status := .requeued }

/-- `REVIEW_RECONCILIATION_REQUIRED`. -/
def foldReconciliationRequired (s : Option ReviewFold) :
    Except ReviewLifecycleError ReviewFold := do
  let error := ReviewLifecycleError.invalidReviewLifecycle
  Stage.exact error e.payload ["principal_id", "run_id", "review_id", "lease_digest",
    "failure_code", "status"]
  let f ← hostTransition H e s .providerDispatched
  let code ← Stage.failure error (e.payload.get "failure_code")
  check (code = reviewDispatchAmbiguous)
  check (e.payload.get "status" = .str "reconciliation-required")
  pure { f with failureCode := some code, status := .reconciliationRequired }

/-- One branch for each kind of event. -/
def foldBranch (s : Option ReviewFold) (principal : String) :
    ReviewEventType → Except ReviewLifecycleError ReviewFold
  | .claimed => foldClaimed H runId e s principal
  | .leaseRenewed => foldLeaseRenewed H e s principal
  | .providerDispatchStarted => foldProviderDispatchStarted H e s principal
  | .succeeded => foldSucceeded H e s principal
  | .failed => foldFailed H e s principal
  | .requeued => foldRequeued H e s
  | .reconciliationRequired => foldReconciliationRequired H e s

/-- The body of the loop over the events. -/
def foldReviewEvent (s : Option ReviewFold) (e : EventEnvelope) :
    Except ReviewLifecycleError (Option ReviewFold) := do
  let error := ReviewLifecycleError.invalidReviewLifecycle
  let principal ← Stage.principal error e
  let kind ← Checked.ofOption (StrEnum.ofValue? e.eventType) error
  let f ← foldBranch H runId e s principal kind
  pure (some f)

/-- `fold_review_lifecycle`. -/
def foldReviewLifecycle (events : List EventEnvelope) :
    Except ReviewLifecycleError ReviewLifecycleState := do
  let error := ReviewLifecycleError.invalidReviewLifecycle
  check (Stage.isStageIdentifier runId)
  let latest ← Checked.ofOption events.getLast? error
  Stage.checkOrder error (reviewStream runId)
    ((StrEnum.members : List ReviewEventType).map StrEnum.value) 1 events
  Stage.checkChain error events
  let s ← History.run (foldReviewEvent H runId) none events
  let f ← Checked.ofOption s error
  pure ⟨runId, f, latest⟩

end Fold

/-! ### Transitions -/

/-- The event is of a kind. -/
def IsKind (kind : ReviewEventType) (e : EventEnvelope) : Prop := e.eventType = StrEnum.value kind

instance (kind : ReviewEventType) (e : EventEnvelope) : Decidable (IsKind kind e) :=
  inferInstanceAs (Decidable (_ = _))

/-- An event is of one kind. -/
theorem IsKind.unique {kind kind' : ReviewEventType} {e : EventEnvelope} (h : IsKind kind e)
    (h' : IsKind kind' e) : kind = kind' :=
  StrEnum.value_injective (h.symm.trans h')

/-- The status of a review after an event of a kind. -/
def ReviewEventType.status : ReviewEventType → ReviewLifecycleStatus
  | .claimed | .leaseRenewed => .claimed
  | .providerDispatchStarted => .providerDispatched
  | .succeeded => .succeeded
  | .failed => .failed
  | .requeued => .requeued
  | .reconciliationRequired => .reconciliationRequired

/-- The status that an event of a kind finds, which is not about a new lease. -/
def ReviewEventType.Follows : ReviewEventType → ReviewLifecycleStatus → Prop
  | .providerDispatchStarted, status | .requeued, status => status = .claimed
  | .succeeded, status | .reconciliationRequired, status => status = .providerDispatched
  | .failed, status => status = .claimed ∨ status = .providerDispatched
  | .claimed, _ | .leaseRenewed, _ => False

/-- The kinds that only the worker of the lease records. -/
def ReviewEventType.byWorker : ReviewEventType → Bool
  | .providerDispatchStarted | .succeeded | .failed => true
  | _ => false

/-- The kinds that are recorded before the lease expires. -/
def ReviewEventType.beforeExpiry : ReviewEventType → Bool
  | .providerDispatchStarted | .succeeded => true
  | _ => false

section Transitions

variable (H : Host)

/-- The lease of a claim or of a renewal. -/
def leaseOf (e : EventEnvelope) : Option ReviewLease :=
  if IsKind .claimed e ∨ IsKind .leaseRenewed e then
    (e.payload.get "lease").fields?.bind fun raw ↦ (reviewLeaseFromMapping H raw).toOption
  else none

/-- The event names the lease. -/
def NamesLease (e : EventEnvelope) (lease : ReviewLease) : Prop :=
  e.payload.get "lease_digest" = .str (lease.digest H)

/-- The transitions of the fold, from the review before an event to the one after it. -/
inductive Transition (s : Option ReviewFold) (e : EventEnvelope) : ReviewFold → Prop
  | claim (lease : ReviewLease) (kind : IsKind .claimed e)
      (requeued : ∀ f ∈ s, f.status = .requeued) (read : leaseOf H e = some lease)
      (expiry : e.recordedAt < lease.expiresAt) (worker : lease.workerId = e.actor)
      (attempt : lease.attempt = (s.map (·.lease.attempt)).getD 0 + 1)
      (fence : lease.fencingToken = (s.map (·.lease.fencingToken)).getD 0 + 1)
      (evidence : ∀ f ∈ s, lease.evidence = f.baseline.evidence) :
      Transition s e (.claimed lease ((s.map (·.baseline)).getD lease))
  | renew (f : ReviewFold) (lease : ReviewLease) (kind : IsKind .leaseRenewed e)
      (before : s = some f) (claimed : f.status = .claimed)
      (worker : e.actor = f.lease.workerId ∧ lease.workerId = f.lease.workerId)
      (read : leaseOf H e = some lease) (expiry : e.recordedAt < lease.expiresAt)
      (longer : f.lease.expiresAt < lease.expiresAt) (evidence : lease.evidence = f.lease.evidence)
      (attempt : lease.attempt = f.lease.attempt)
      (fence : lease.fencingToken = f.lease.fencingToken) :
      Transition s e { f with lease := lease }
  | record (kind : ReviewEventType) (f f' : ReviewFold) (isKind : IsKind kind e)
      (before : s = some f) (follows : kind.Follows f.status) (names : NamesLease H e f.lease)
      (worker : kind.byWorker → e.actor = f.lease.workerId)
      (expiry : kind.beforeExpiry → e.recordedAt ≤ f.lease.expiresAt)
      (status : f'.status = kind.status) (lease : f'.lease = f.lease)
      (baseline : f'.baseline = f.baseline) : Transition s e f'

variable {H} {runId : String} {e : EventEnvelope} {s s' : Option ReviewFold} {f : ReviewFold}
  {principal : String}

/-- The review is there, has the expected status, and the event names its lease. -/
private theorem hostTransition_eq_ok {expected : ReviewLifecycleStatus}
    (h : hostTransition H e s expected = .ok f) :
    s = some f ∧ f.status = expected ∧ NamesLease H e f.lease := by
  simp only [hostTransition, Checked.bind_eq_ok, Checked.ofOption_eq_ok, check_eq_ok,
    Checked.exists_unit, Checked.pure_eq_ok] at h
  obtain ⟨_, hs, hstatus, -, -, hlease, rfl⟩ := h
  exact ⟨hs, hstatus, hlease⟩

private theorem activeLease_eq_ok {expected : ReviewLifecycleStatus} {allowExpired : Bool}
    (h : activeLease H e s principal expected allowExpired = .ok f) :
    (s = some f ∧ f.status = expected ∧ NamesLease H e f.lease) ∧ principal = f.lease.workerId ∧
      (allowExpired = true ∨ e.recordedAt ≤ f.lease.expiresAt) := by
  simp only [activeLease, Checked.bind_eq_ok, check_eq_ok, Checked.exists_unit,
    Checked.pure_eq_ok] at h
  obtain ⟨_, hhost, hworker, hexpiry, rfl⟩ := h
  exact ⟨hostTransition_eq_ok hhost, hworker, hexpiry⟩

/-- The lease that a claim or a renewal was read with. -/
private theorem leaseOf_eq_some {raw : Mapping} {lease : ReviewLease}
    (hkind : IsKind .claimed e ∨ IsKind .leaseRenewed e)
    (hraw : Stage.mapping ReviewLifecycleError.invalidReviewLifecycle (e.payload.get "lease") = .ok raw)
    (hlease : reviewLeaseFromMapping H raw = .ok lease) : leaseOf H e = some lease := by
  have hfields : (e.payload.get "lease").fields? = some raw := by
    simpa [Stage.mapping] using hraw
  rw [leaseOf, if_pos hkind, hfields, Option.bind_some, hlease]
  rfl

/-- The seven branches are transitions. -/
theorem transition_of_foldBranch {kind : ReviewEventType} (hkind : IsKind kind e)
    (hprincipal : principal = e.actor) (h : foldBranch H runId e s principal kind = .ok f) :
    Transition H s e f := by
  cases kind with
  | claimed =>
    simp only [foldBranch, foldClaimed, Checked.bind_eq_ok, check_eq_ok, Checked.exists_unit,
      Checked.pure_eq_ok] at h
    obtain ⟨-, hrequeued, raw, hraw, lease, hlease, ⟨-, hworker⟩, -, -, hexpiry, -, hattempt, hfence,
      hevidence, rfl⟩ := h
    exact .claim lease hkind hrequeued (leaseOf_eq_some (.inl hkind) hraw hlease) hexpiry
      (hworker.trans hprincipal) hattempt hfence hevidence
  | leaseRenewed =>
    simp only [foldBranch, foldLeaseRenewed, Checked.bind_eq_ok, check_eq_ok, Checked.exists_unit,
      Checked.ofOption_eq_ok, Checked.pure_eq_ok] at h
    obtain ⟨-, raw, hraw, lease, hlease, g, rfl, ⟨hstatus, hworker, hsame⟩, -, -, -,
      ⟨hexpiry, hlonger⟩, ⟨hevidence, hattempt, hfence⟩, rfl⟩ := h
    subst hprincipal
    exact .renew g lease hkind rfl hstatus ⟨hworker, hsame.trans hworker⟩
      (leaseOf_eq_some (.inr hkind) hraw hlease) hexpiry hlonger hevidence hattempt hfence
  | providerDispatchStarted =>
    simp only [foldBranch, foldProviderDispatchStarted, Checked.bind_eq_ok, check_eq_ok,
      Checked.exists_unit, Checked.pure_eq_ok] at h
    obtain ⟨-, g, hlease, -, -, -, -, -, -, -, -, -, rfl⟩ := h
    obtain ⟨⟨hs, hstatus, hnames⟩, hworker, hexpiry⟩ := activeLease_eq_ok hlease
    exact .record _ g _ hkind hs hstatus hnames (fun _ ↦ hprincipal ▸ hworker)
      (fun _ ↦ hexpiry.resolve_left (by decide)) rfl rfl rfl
  | succeeded =>
    simp only [foldBranch, foldSucceeded, Checked.bind_eq_ok, check_eq_ok, Checked.exists_unit,
      Checked.pure_eq_ok] at h
    obtain ⟨-, g, hlease, -, -, -, -, -, -, -, -, -, -, rfl⟩ := h
    obtain ⟨⟨hs, hstatus, hnames⟩, hworker, hexpiry⟩ := activeLease_eq_ok hlease
    exact .record _ g _ hkind hs hstatus hnames (fun _ ↦ hprincipal ▸ hworker)
      (fun _ ↦ hexpiry.resolve_left (by decide)) rfl rfl rfl
  | failed =>
    simp only [foldBranch, foldFailed, Checked.bind_eq_ok, check_eq_ok, Checked.exists_unit,
      Checked.ofOption_eq_ok, Checked.pure_eq_ok] at h
    obtain ⟨-, before, hbefore, hstatus, g, hlease, -, -, -, -, -, rfl⟩ := h
    obtain ⟨⟨hs, -, hnames⟩, hworker, -⟩ := activeLease_eq_ok hlease
    obtain rfl : before = g := Option.some.inj (hbefore.symm.trans hs)
    exact .record _ before _ hkind hs hstatus hnames (fun _ ↦ hprincipal ▸ hworker)
      (fun hkind ↦ absurd hkind (by decide)) rfl rfl rfl
  | requeued =>
    simp only [foldBranch, foldRequeued, Checked.bind_eq_ok, check_eq_ok, Checked.exists_unit,
      Checked.pure_eq_ok] at h
    obtain ⟨-, g, hhost, -, -, rfl⟩ := h
    obtain ⟨hs, hstatus, hnames⟩ := hostTransition_eq_ok hhost
    exact .record _ g _ hkind hs hstatus hnames (fun hkind ↦ absurd hkind (by decide))
      (fun hkind ↦ absurd hkind (by decide)) rfl rfl rfl
  | reconciliationRequired =>
    simp only [foldBranch, foldReconciliationRequired, Checked.bind_eq_ok, check_eq_ok,
      Checked.exists_unit, Checked.pure_eq_ok] at h
    obtain ⟨-, g, hhost, -, -, -, -, rfl⟩ := h
    obtain ⟨hs, hstatus, hnames⟩ := hostTransition_eq_ok hhost
    exact .record _ g _ hkind hs hstatus hnames (fun hkind ↦ absurd hkind (by decide))
      (fun hkind ↦ absurd hkind (by decide)) rfl rfl rfl

/-- **One event.** Every accepted event is one of the transitions. -/
theorem transition_of_foldReviewEvent (h : foldReviewEvent H runId s e = .ok s') :
    ∃ f, s' = some f ∧ Transition H s e f := by
  simp only [foldReviewEvent, Checked.bind_eq_ok, Checked.ofOption_eq_ok, Checked.pure_eq_ok] at h
  obtain ⟨principal, hprincipal, kind, hkind, f, hf, rfl⟩ := h
  exact ⟨f, rfl, transition_of_foldBranch (StrEnum.ofValue?_eq_some.mp hkind).symm
    (Stage.principal_eq_ok hprincipal).2 hf⟩

end Transitions

/-! ### Ended reviews -/

/-- The statuses in which a review has ended. -/
def ReviewLifecycleStatus.isEnded : ReviewLifecycleStatus → Bool
  | .succeeded | .failed | .reconciliationRequired => true
  | .claimed | .providerDispatched | .requeued => false

/-- The event ends a review. -/
def Ends (e : EventEnvelope) : Prop :=
  ∃ kind : ReviewEventType, IsKind kind e ∧ kind.status.isEnded = true

section Ended

variable {H : Host} {runId : String} {e : EventEnvelope} {s : Option ReviewFold} {f : ReviewFold}

/-- A transition finds a review that has not ended, and ends it only by an event that ends reviews. -/
theorem Transition.ended (h : Transition H s e f) :
    (∀ g ∈ s, g.status.isEnded = false) ∧ (f.status.isEnded = true ↔ Ends e) := by
  have hends : ∀ kind : ReviewEventType, IsKind kind e → (kind.status.isEnded = true ↔ Ends e) := by
    refine fun kind hkind ↦ ⟨fun hended ↦ ⟨kind, hkind, hended⟩, ?_⟩
    rintro ⟨kind', hkind', hended⟩
    exact hkind.unique hkind' ▸ hended
  cases h with
  | claim lease kind requeued =>
    exact ⟨fun g hg ↦ by rw [requeued g hg]; rfl, hends _ kind⟩
  | renew f lease kind before claimed =>
    subst before
    rw [← hends _ kind]
    exact ⟨by simp [claimed, ReviewLifecycleStatus.isEnded], by rw [claimed]; rfl⟩
  | record kind f f' isKind before follows names worker expiry status =>
    subst before
    refine ⟨?_, by rw [status]; exact hends _ isKind⟩
    cases kind <;> simp_all [ReviewEventType.Follows, ReviewLifecycleStatus.isEnded]
    rcases follows with h | h <;> simp [h]

/-- **Ended reviews.** In an accepted stream only the last event ends the review. -/
theorem open_of_fold {es : List EventEnvelope} {state : ReviewLifecycleState}
    (h : foldReviewLifecycle H runId (es ++ [e]) = .ok state) : ∀ x ∈ es, ¬Ends x := by
  simp only [foldReviewLifecycle, Checked.bind_eq_ok] at h
  obtain ⟨_, -, _, -, _, -, _, -, s, hrun, -⟩ := h
  obtain ⟨s₁, hes, he⟩ := History.run_append_eq_ok.mp hrun
  -- A review that has not ended was not ended by any of its events.
  have hinv : (∀ g ∈ s₁, g.status.isEnded = false) → ∀ x ∈ es, ¬Ends x := by
    refine History.invariant
      (fun es s ↦ (∀ g ∈ s, g.status.isEnded = false) → ∀ x ∈ es, ¬Ends x) (by simp) ?_ hes
    intro pre x s s' hpre hx hopen y hy
    obtain ⟨f, rfl, htransition⟩ := transition_of_foldReviewEvent hx
    obtain ⟨hbefore, hends⟩ := htransition.ended
    rcases List.mem_append.mp hy with hy | hy
    · exact hpre hbefore y hy
    · rw [List.mem_singleton.mp hy, ← hends, hopen f rfl]
      decide
  rw [History.run_cons, Checked.bind_eq_ok] at he
  obtain ⟨_, hlast, -⟩ := he
  obtain ⟨f, -, htransition⟩ := transition_of_foldReviewEvent hlast
  exact hinv htransition.ended.1

/-- The events of an accepted stream are those of the review. -/
theorem stream_of_fold {es : List EventEnvelope} {state : ReviewLifecycleState}
    (h : foldReviewLifecycle H runId es = .ok state) :
    ∀ x ∈ es, x.streamId = reviewStream runId := by
  simp only [foldReviewLifecycle, Checked.bind_eq_ok] at h
  obtain ⟨_, -, _, -, _, horder, -⟩ := h
  exact fun x hx ↦ (Stage.eventType_mem horder x hx).1

end Ended

end Blackcell.Orchestration.ReviewLifecycle
