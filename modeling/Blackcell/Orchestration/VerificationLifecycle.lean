import Blackcell.Orchestration.ReviewLifecycle

/-!
# The lifecycle of a verification

The stream of a verification in `orchestration/verification_lifecycle.py`. A verification is claimed
for the evidence of one run and of its review, may be requeued by another principal and claimed again,
and ends when it has completed with a verdict, or failed.

## Main definitions

* `VerificationCandidate`, `VerificationLease` : what is verified, and the lease of a claim.
* `foldVerificationEvent` : one event of the stream, a branch for each kind.
* `foldVerificationLifecycle` : the fold of a complete stream.

## Main results

* `stream_of_fold` : the events of an accepted stream are those of the verification.
-/

namespace Blackcell.Orchestration.VerificationLifecycle

open Blackcell.Kernel

/-- `VerificationStatus`. -/
inductive VerificationStatus where
  | pass | fail | inconclusive
  deriving DecidableEq, Repr

instance : StrEnum VerificationStatus where
  value
    | .pass => "pass"
    | .fail => "fail"
    | .inconclusive => "inconclusive"
  members := [.pass, .fail, .inconclusive]
  mem_members := by intro a; cases a <;> decide
  nodup_values := by decide

/-- `VERIFICATION_EVENT_TYPES`. -/
inductive VerificationEventType where
  | claimed | completed | failed | requeued
  deriving DecidableEq, Repr

instance : StrEnum VerificationEventType where
  value
    | .claimed => "verification.claimed"
    | .completed => "verification.completed"
    | .failed => "verification.failed"
    | .requeued => "verification.requeued"
  members := [.claimed, .completed, .failed, .requeued]
  mem_members := by intro a; cases a <;> decide
  nodup_values := by decide

/-- `VERIFICATION_LEASE_SCHEMA`. -/
def verificationLeaseSchema : String := "verification-lease/v1"

/-- `VerificationLifecycleError`. -/
inductive VerificationLifecycleError where
  | invalidVerificationLifecycle
  deriving DecidableEq, Repr

/-- `VerificationLifecycleStatus`. -/
inductive VerificationLifecycleStatus where
  | claimed | completed | failed | requeued
  deriving DecidableEq, Repr

/-- Raise `VerificationLifecycleError` unless the condition holds. -/
def check (p : Prop) [Decidable p] : Except VerificationLifecycleError PUnit :=
  Checked.require p .invalidVerificationLifecycle

@[simp] theorem check_eq_ok {p : Prop} [Decidable p] {u : PUnit} : check p = .ok u ↔ p :=
  Checked.require_eq_ok

/-! ### Candidates and leases -/

section Values

variable (H : Host)

/-- `verification_id`. -/
def verificationId (runId reviewEventDigest : String) : String :=
  "verification-" ++ String.ofList ((withoutDigestPrefix (H.jsonDigest (.object [
    ("run_id", .str runId), ("review_event_digest", .str reviewEventDigest),
    ("stage", .str "verification")]))).toList.take 48)

/-- `verification_stream`. -/
def verificationStream (runId : String) : String := "verification:" ++ runId

/-- The evidence that a verification is about: the tuple that candidates and leases are compared by. -/
structure VerificationEvidence where
  runId : String
  verificationId : String
  runEventId : String
  runEventDigest : String
  stateDigest : String
  artifactEvidenceDigest : String
  reviewId : String
  reviewEventId : String
  reviewEventDigest : String
  acceptanceDigest : String
  contextDigest : String
  proposalArtifactDigest : String
  providerResultArtifactDigest : String
  admittedReviewDigest : String
  findingCount : Nat
  deriving DecidableEq

/-- What the constructors demand of the evidence. -/
def VerificationEvidence.Valid (v : VerificationEvidence) : Prop :=
  (Stage.isStageIdentifier v.runId ∧ Stage.isStageIdentifier v.verificationId ∧
    Stage.isStageIdentifier v.runEventId ∧ Stage.isStageIdentifier v.reviewId ∧
    Stage.isStageIdentifier v.reviewEventId) ∧
  (isHexDigest v.runEventDigest ∧ isHexDigest v.stateDigest ∧
    isHexDigest v.artifactEvidenceDigest ∧ isHexDigest v.reviewEventDigest ∧
    isHexDigest v.acceptanceDigest ∧ isHexDigest v.contextDigest ∧
    isHexDigest v.proposalArtifactDigest ∧ isHexDigest v.providerResultArtifactDigest ∧
    isHexDigest v.admittedReviewDigest) ∧
  v.findingCount ≤ Stage.maxFindings ∧
  v.reviewId = ReviewLifecycle.reviewId H v.runId v.runEventDigest ∧
  v.verificationId = VerificationLifecycle.verificationId H v.runId v.reviewEventDigest

instance (v : VerificationEvidence) : Decidable (v.Valid H) :=
  inferInstanceAs (Decidable (_ ∧ _ ∧ _ ∧ _ ∧ _))

/-- `VerificationCandidate`. -/
structure VerificationCandidate where
  evidence : VerificationEvidence
  correlationId : String
  valid : evidence.Valid H
  isCorrelation : Stage.isStageIdentifier correlationId

/-- `VerificationLease`, which expires at an instant in UTC. -/
structure VerificationLease where
  evidence : VerificationEvidence
  attempt : Nat
  fencingToken : Nat
  workerId : String
  expiresAt : Timestamp
  valid : evidence.Valid H
  isWorker : Stage.isStageIdentifier workerId
  positive : 1 ≤ attempt ∧ 1 ≤ fencingToken

/-- `VerificationLease(...)`. -/
def VerificationLease.create (evidence : VerificationEvidence) (attempt fencingToken : Nat)
    (workerId : String) (expiresAt : Timestamp) :
    Except VerificationLifecycleError (VerificationLease H) :=
  if h : evidence.Valid H ∧ Stage.isStageIdentifier workerId ∧ 1 ≤ attempt ∧ 1 ≤ fencingToken then
    .ok ⟨evidence, attempt, fencingToken, workerId, expiresAt, h.1, h.2.1, h.2.2⟩
  else .error .invalidVerificationLifecycle

/-- `verification_lease_payload`. -/
def VerificationLease.payload (l : VerificationLease H) : Mapping := [
  ("schema_version", .str verificationLeaseSchema),
  ("run_id", .str l.evidence.runId),
  ("verification_id", .str l.evidence.verificationId),
  ("attempt", .int l.attempt),
  ("fencing_token", .int l.fencingToken),
  ("worker_id", .str l.workerId),
  ("run_event_id", .str l.evidence.runEventId),
  ("run_event_digest", .str l.evidence.runEventDigest),
  ("state_digest", .str l.evidence.stateDigest),
  ("artifact_evidence_digest", .str l.evidence.artifactEvidenceDigest),
  ("review_id", .str l.evidence.reviewId),
  ("review_event_id", .str l.evidence.reviewEventId),
  ("review_event_digest", .str l.evidence.reviewEventDigest),
  ("acceptance_digest", .str l.evidence.acceptanceDigest),
  ("context_digest", .str l.evidence.contextDigest),
  ("proposal_artifact_digest", .str l.evidence.proposalArtifactDigest),
  ("provider_result_artifact_digest", .str l.evidence.providerResultArtifactDigest),
  ("admitted_review_digest", .str l.evidence.admittedReviewDigest),
  ("finding_count", .int l.evidence.findingCount),
  ("expires_at", .str (H.isoformat l.expiresAt))]

/-- `VerificationLease.digest`. -/
def VerificationLease.digest (l : VerificationLease H) : String :=
  H.jsonDigest (.object (l.payload H))

/-- The evidence inside the mapping of a lease. -/
def evidenceFromMapping (raw : Mapping) :
    Except VerificationLifecycleError VerificationEvidence := do
  let error := VerificationLifecycleError.invalidVerificationLifecycle
  let runId ← Stage.identifier error (raw.get "run_id")
  let verificationId ← Stage.identifier error (raw.get "verification_id")
  let runEventId ← Stage.identifier error (raw.get "run_event_id")
  let runEventDigest ← Stage.digest error (raw.get "run_event_digest")
  let stateDigest ← Stage.digest error (raw.get "state_digest")
  let artifactEvidenceDigest ← Stage.digest error (raw.get "artifact_evidence_digest")
  let reviewId ← Stage.identifier error (raw.get "review_id")
  let reviewEventId ← Stage.identifier error (raw.get "review_event_id")
  let reviewEventDigest ← Stage.digest error (raw.get "review_event_digest")
  let acceptanceDigest ← Stage.digest error (raw.get "acceptance_digest")
  let contextDigest ← Stage.digest error (raw.get "context_digest")
  let proposalArtifactDigest ← Stage.digest error (raw.get "proposal_artifact_digest")
  let providerResultArtifactDigest ←
    Stage.digest error (raw.get "provider_result_artifact_digest")
  let admittedReviewDigest ← Stage.digest error (raw.get "admitted_review_digest")
  let findingCount ← Stage.findingCount error (raw.get "finding_count")
  pure ⟨runId, verificationId, runEventId, runEventDigest, stateDigest, artifactEvidenceDigest,
    reviewId, reviewEventId, reviewEventDigest, acceptanceDigest, contextDigest,
    proposalArtifactDigest, providerResultArtifactDigest, admittedReviewDigest, findingCount⟩

/-- `verification_lease_from_mapping`. -/
def verificationLeaseFromMapping (raw : Mapping) :
    Except VerificationLifecycleError (VerificationLease H) := do
  let error := VerificationLifecycleError.invalidVerificationLifecycle
  Stage.exact error raw ["schema_version", "run_id", "verification_id", "attempt", "fencing_token",
    "worker_id", "run_event_id", "run_event_digest", "state_digest", "artifact_evidence_digest",
    "review_id", "review_event_id", "review_event_digest", "acceptance_digest", "context_digest",
    "proposal_artifact_digest", "provider_result_artifact_digest", "admitted_review_digest",
    "finding_count", "expires_at"]
  check (raw.get "schema_version" = .str verificationLeaseSchema)
  let expiresAt ← Stage.instant error H (raw.get "expires_at")
  let attempt ← Stage.positiveInteger error (raw.get "attempt")
  let fencingToken ← Stage.positiveInteger error (raw.get "fencing_token")
  let workerId ← Stage.identifier error (raw.get "worker_id")
  let evidence ← evidenceFromMapping raw
  VerificationLease.create H evidence attempt fencingToken workerId expiresAt

end Values

/-! ### The fold -/

/-- The local variables of `fold_verification_lifecycle`, after the first claim. -/
structure VerificationFold (H : Host) where
  status : VerificationLifecycleStatus
  lease : VerificationLease H
  baseline : VerificationLease H
  verdict : Option VerificationStatus
  reportArtifactDigest : Option String
  matrixDigest : Option String
  failureCode : Option String
  resultArtifactDigest : Option String

/-- `VerificationLifecycleState`, without the baseline of its fold. -/
structure VerificationLifecycleState (H : Host) where
  runId : String
  fold : VerificationFold H
  latestEvent : EventEnvelope

section Fold

variable {H : Host} (runId : String) (e : EventEnvelope)

/-- `_host_transition`: the fold of a claimed verification, whose lease the event names. -/
def hostTransition (s : Option (VerificationFold H)) :
    Except VerificationLifecycleError (VerificationFold H) := do
  let f ← Checked.ofOption s VerificationLifecycleError.invalidVerificationLifecycle
  check (f.status = .claimed)
  check (e.payload.get "run_id" = .str f.lease.evidence.runId)
  check (e.payload.get "verification_id" = .str f.lease.evidence.verificationId)
  check (e.payload.get "lease_digest" = .str f.lease.digest)
  pure f

/-- `_active_lease`: the same, for an event that the worker of the lease records. -/
def activeLease (s : Option (VerificationFold H)) (principal : String) :
    Except VerificationLifecycleError (VerificationFold H) := do
  let f ← hostTransition e s
  check (principal = f.lease.workerId)
  pure f

/-- The claim of a lease, whatever was claimed before. -/
def VerificationFold.claimed (lease baseline : VerificationLease H) : VerificationFold H :=
  ⟨.claimed, lease, baseline, none, none, none, none, none⟩

/-- `VERIFICATION_CLAIMED`. -/
def foldClaimed (s : Option (VerificationFold H)) (principal : String) :
    Except VerificationLifecycleError (VerificationFold H) := do
  let error := VerificationLifecycleError.invalidVerificationLifecycle
  Stage.exact error e.payload ["principal_id", "lease_digest", "lease", "status"]
  check (∀ f ∈ s, f.status = .requeued)
  let raw ← Stage.mapping error (e.payload.get "lease")
  let candidate ← verificationLeaseFromMapping H raw
  check (candidate.evidence.runId = runId ∧ candidate.workerId = principal)
  check (e.payload.get "lease_digest" = .str candidate.digest)
  check (e.payload.get "status" = .str "claimed")
  check (e.recordedAt < candidate.expiresAt)
  check (s.isNone → e.causationId = some candidate.evidence.reviewEventId)
  check (candidate.attempt = (s.map (·.lease.attempt)).getD 0 + 1)
  check (candidate.fencingToken = (s.map (·.lease.fencingToken)).getD 0 + 1)
  check (∀ f ∈ s, candidate.evidence = f.baseline.evidence)
  pure (.claimed candidate ((s.map (·.baseline)).getD candidate))

/-- `VERIFICATION_COMPLETED`. -/
def foldCompleted (s : Option (VerificationFold H)) (principal : String) :
    Except VerificationLifecycleError (VerificationFold H) := do
  let error := VerificationLifecycleError.invalidVerificationLifecycle
  Stage.exact error e.payload ["principal_id", "run_id", "verification_id", "lease_digest",
    "verdict", "report_artifact_digest", "matrix_digest", "status"]
  let f ← activeLease e s principal
  let verdict ← Checked.ofOption ((e.payload.get "verdict").text?.bind StrEnum.ofValue?) error
  let report ← Stage.digest error (e.payload.get "report_artifact_digest")
  let matrix ← Stage.digest error (e.payload.get "matrix_digest")
  check (e.payload.get "status" = .str "completed")
  pure { f with
    verdict := some verdict
    reportArtifactDigest := some report
    matrixDigest := some matrix
    status := .completed }

/-- `VERIFICATION_FAILED`. -/
def foldFailed (s : Option (VerificationFold H)) (principal : String) :
    Except VerificationLifecycleError (VerificationFold H) := do
  let error := VerificationLifecycleError.invalidVerificationLifecycle
  Stage.exact error e.payload ["principal_id", "run_id", "verification_id", "lease_digest",
    "failure_code", "result_artifact_digest", "status"]
  let f ← activeLease e s principal
  let code ← Stage.failure error (e.payload.get "failure_code")
  let result ← Stage.optionalDigest error (e.payload.get "result_artifact_digest")
  check (e.payload.get "status" = .str "verifier-error")
  pure { f with failureCode := some code, resultArtifactDigest := result, status := .failed }

/-- `VERIFICATION_REQUEUED`. -/
def foldRequeued (s : Option (VerificationFold H)) (principal : String) :
    Except VerificationLifecycleError (VerificationFold H) := do
  let error := VerificationLifecycleError.invalidVerificationLifecycle
  Stage.exact error e.payload ["principal_id", "run_id", "verification_id", "lease_digest",
    "disposition", "status"]
  let f ← hostTransition e s
  check (principal ≠ f.lease.workerId)
  check (e.payload.get "disposition" = .str "deterministic-retry")
  check (e.payload.get "status" = .str "requeued")
  pure { f with status := .requeued }

/-- One branch for each kind of event. -/
def foldBranch (s : Option (VerificationFold H)) (principal : String) :
    VerificationEventType → Except VerificationLifecycleError (VerificationFold H)
  | .claimed => foldClaimed runId e s principal
  | .completed => foldCompleted e s principal
  | .failed => foldFailed e s principal
  | .requeued => foldRequeued e s principal

/-- The body of the loop over the events. -/
def foldVerificationEvent (s : Option (VerificationFold H)) (e : EventEnvelope) :
    Except VerificationLifecycleError (Option (VerificationFold H)) := do
  let error := VerificationLifecycleError.invalidVerificationLifecycle
  let principal ← Stage.principal error e
  let kind ← Checked.ofOption (StrEnum.ofValue? e.eventType) error
  let f ← foldBranch runId e s principal kind
  pure (some f)

/-- `fold_verification_lifecycle`. -/
def foldVerificationLifecycle (H : Host) (runId : String) (events : List EventEnvelope) :
    Except VerificationLifecycleError (VerificationLifecycleState H) := do
  let error := VerificationLifecycleError.invalidVerificationLifecycle
  check (Stage.isStageIdentifier runId)
  let latest ← Checked.ofOption events.getLast? error
  Stage.checkOrder error (verificationStream runId)
    ((StrEnum.members : List VerificationEventType).map StrEnum.value) 1 events
  Stage.checkChain error events
  let s ← History.run (foldVerificationEvent runId) none events
  let f ← Checked.ofOption s error
  pure ⟨runId, f, latest⟩

/-- The events of an accepted stream are those of the verification. -/
theorem stream_of_fold {H : Host} {runId : String} {es : List EventEnvelope}
    {state : VerificationLifecycleState H}
    (h : foldVerificationLifecycle H runId es = .ok state) :
    ∀ x ∈ es, x.streamId = verificationStream runId := by
  simp only [foldVerificationLifecycle, Checked.bind_eq_ok] at h
  obtain ⟨_, -, _, -, _, horder, -⟩ := h
  exact fun x hx ↦ (Stage.eventType_mem horder x hx).1

end Fold

end Blackcell.Orchestration.VerificationLifecycle
