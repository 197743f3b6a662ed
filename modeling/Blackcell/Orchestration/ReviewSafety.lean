import Blackcell.Orchestration.ReviewLifecycle

/-!
# The safety of a review

What the fold of a review says about whole streams. The lease of the fold is the latest one of the
stream, its attempt counts the claims, and a review that is claimed or requeued has not been dispatched.

## Main definitions

* `leases`, `claims`, `dispatches` : the leases of a stream, its claims, and its provider dispatches.
* `SafetyInv` : what an accepted stream says about the fold.

## Main results

* `SafetyInv.step` : every transition keeps the invariant.
* `review_stream_safety` : the safety of every accepted stream.
-/

namespace Blackcell.Orchestration.ReviewLifecycle

open Blackcell.Kernel

section Streams

variable (H : Host)

/-- The leases of a stream, oldest first. -/
def leases (es : List EventEnvelope) : List ReviewLease := es.filterMap (leaseOf H)

/-- The claims of a stream. -/
def claims (es : List EventEnvelope) : List EventEnvelope := es.filter fun e ↦ IsKind .claimed e

/-- The provider dispatches of a stream. -/
def dispatches (es : List EventEnvelope) : List EventEnvelope :=
  es.filter fun e ↦ IsKind .providerDispatchStarted e

variable {H} {es : List EventEnvelope} {e : EventEnvelope} {lease : ReviewLease}

theorem leases_append_some (h : leaseOf H e = some lease) :
    leases H (es ++ [e]) = leases H es ++ [lease] := by
  simp [leases, h]

theorem leases_append_none {kind : ReviewEventType} (h : IsKind kind e)
    (hne : kind ≠ .claimed ∧ kind ≠ .leaseRenewed) : leases H (es ++ [e]) = leases H es := by
  have hnone : leaseOf H e = none := by
    refine if_neg ?_
    rintro (hclaimed | hrenewed)
    · exact hne.1 (h.unique hclaimed)
    · exact hne.2 (h.unique hrenewed)
  simp [leases, hnone]

theorem claims_append_claim (h : IsKind .claimed e) : claims (es ++ [e]) = claims es ++ [e] := by
  simp [claims, h]

theorem claims_append_of_ne {kind : ReviewEventType} (h : IsKind kind e) (hne : kind ≠ .claimed) :
    claims (es ++ [e]) = claims es := by
  have hclaim : ¬IsKind .claimed e := fun hclaim ↦ hne (h.unique hclaim)
  simp [claims, hclaim]

theorem dispatches_append_dispatch (h : IsKind .providerDispatchStarted e) :
    dispatches (es ++ [e]) = dispatches es ++ [e] := by
  simp [dispatches, h]

theorem dispatches_append_of_ne {kind : ReviewEventType} (h : IsKind kind e)
    (hne : kind ≠ .providerDispatchStarted) : dispatches (es ++ [e]) = dispatches es := by
  have hdispatch : ¬IsKind .providerDispatchStarted e := fun hdispatch ↦ hne (h.unique hdispatch)
  simp [dispatches, hdispatch]

end Streams

/-! ### The invariant -/

/-- The review was dispatched by the worker of its lease, which has not changed since. -/
def DispatchedBy (H : Host) (es : List EventEnvelope) (lease : ReviewLease) : Prop :=
  ∃ d, dispatches es = [d] ∧ NamesLease H d lease ∧ d.actor = lease.workerId

/-- What an accepted stream says about the fold of the review. -/
structure SafetyInv (H : Host) (es : List EventEnvelope) (f : ReviewFold) : Prop where
  latest : (leases H es).getLast? = some f.lease
  first : (leases H es).head? = some f.baseline
  evidence : ∀ lease ∈ leases H es, lease.evidence = f.baseline.evidence
  attempt : f.lease.attempt = (claims es).length
  fence : f.lease.fencingToken = (claims es).length
  undispatched : f.status = .claimed ∨ f.status = .requeued → dispatches es = []
  dispatched : f.status = .providerDispatched → DispatchedBy H es f.lease
  once : (dispatches es).length ≤ 1

variable {H : Host} {runId : String} {es : List EventEnvelope} {e : EventEnvelope}
  {s : Option ReviewFold} {f : ReviewFold}

/-- The leases of a stream have the evidence of the review. -/
theorem SafetyInv.lease_evidence (hI : SafetyInv H es f) : f.lease.evidence = f.baseline.evidence :=
  hI.evidence _ (List.mem_of_getLast? hI.latest)

/-- **Claims.** A claim starts the stream, or follows a requeue. -/
theorem SafetyInv.claim (hnone : s = none → es = []) (hI : ∀ f ∈ s, SafetyInv H es f)
    {lease : ReviewLease} (kind : IsKind .claimed e) (requeued : ∀ f ∈ s, f.status = .requeued)
    (read : leaseOf H e = some lease)
    (attempt : lease.attempt = (s.map (·.lease.attempt)).getD 0 + 1)
    (fence : lease.fencingToken = (s.map (·.lease.fencingToken)).getD 0 + 1)
    (evidence : ∀ f ∈ s, lease.evidence = f.baseline.evidence) :
    SafetyInv H (es ++ [e]) (.claimed lease ((s.map (·.baseline)).getD lease)) := by
  have hdispatches : dispatches (es ++ [e]) = dispatches es := dispatches_append_of_ne kind (by decide)
  have hundispatched : dispatches es = [] := by
    cases s with
    | none => rw [hnone rfl, dispatches, List.filter_nil]
    | some g => exact (hI g rfl).undispatched (.inr (requeued g rfl))
  refine ⟨by simp [leases_append_some read, ReviewFold.claimed], ?_, ?_, ?_, ?_,
    fun _ ↦ hdispatches.trans hundispatched, fun h ↦ absurd h (by simp [ReviewFold.claimed]),
    by simp [hdispatches, hundispatched]⟩
  · cases s with
    | none =>
      obtain rfl := hnone rfl
      simp [leases, read, ReviewFold.claimed]
    | some g =>
      rw [leases_append_some read, List.head?_append, (hI g rfl).first]
      rfl
  · rw [leases_append_some read]
    intro lease' hmem
    cases s with
    | none =>
      have hlease : lease' = lease := by simpa [hnone rfl, leases] using hmem
      rw [hlease]
      rfl
    | some g =>
      rcases List.mem_append.mp hmem with hmem | hmem
      · exact (hI g rfl).evidence lease' hmem
      · rw [List.mem_singleton.mp hmem]
        exact evidence g rfl
  · rw [claims_append_claim kind, List.length_append, List.length_singleton]
    cases s with
    | none => simpa [hnone rfl, claims, ReviewFold.claimed] using attempt
    | some g =>
      rw [← (hI g rfl).attempt]
      exact attempt
  · rw [claims_append_claim kind, List.length_append, List.length_singleton]
    cases s with
    | none => simpa [hnone rfl, claims, ReviewFold.claimed] using fence
    | some g =>
      rw [← (hI g rfl).fence]
      exact fence

/-- **Renewals.** A renewal replaces the lease of a claimed review. -/
theorem SafetyInv.renew (hI : SafetyInv H es f) {lease : ReviewLease} (kind : IsKind .leaseRenewed e)
    (claimed : f.status = .claimed) (read : leaseOf H e = some lease)
    (evidence : lease.evidence = f.lease.evidence) (attempt : lease.attempt = f.lease.attempt)
    (fence : lease.fencingToken = f.lease.fencingToken) :
    SafetyInv H (es ++ [e]) { f with lease := lease } := by
  have hdispatches : dispatches (es ++ [e]) = dispatches es := dispatches_append_of_ne kind (by decide)
  have hclaims : claims (es ++ [e]) = claims es := claims_append_of_ne kind (by decide)
  have hundispatched := hI.undispatched (.inl claimed)
  refine ⟨by simp [leases_append_some read], ?_, ?_, ?_, ?_,
    fun _ ↦ hdispatches.trans hundispatched, fun h ↦ absurd h (by simp [claimed]),
    by simp [hdispatches, hundispatched]⟩
  · rw [leases_append_some read, List.head?_append, hI.first]
    rfl
  · rw [leases_append_some read]
    intro lease' hmem
    rcases List.mem_append.mp hmem with hmem | hmem
    · exact hI.evidence lease' hmem
    · rw [List.mem_singleton.mp hmem, evidence]
      exact hI.lease_evidence
  · rw [hclaims, ← hI.attempt]
    exact attempt
  · rw [hclaims, ← hI.fence]
    exact fence

/-- **Records.** Any other event keeps the lease, and dispatches a claimed review only. -/
theorem SafetyInv.record (hI : SafetyInv H es f) {kind : ReviewEventType} {f' : ReviewFold}
    (isKind : IsKind kind e) (follows : kind.Follows f.status) (names : NamesLease H e f.lease)
    (worker : kind.byWorker → e.actor = f.lease.workerId) (status : f'.status = kind.status)
    (lease : f'.lease = f.lease) (baseline : f'.baseline = f.baseline) :
    SafetyInv H (es ++ [e]) f' := by
  have hne : kind ≠ .claimed ∧ kind ≠ .leaseRenewed := by
    constructor <;> rintro rfl <;> exact follows
  have hleases : leases H (es ++ [e]) = leases H es := leases_append_none isKind hne
  have hclaims : claims (es ++ [e]) = claims es := claims_append_of_ne isKind hne.1
  refine ⟨by rw [hleases, lease]; exact hI.latest, by rw [hleases, baseline]; exact hI.first,
    by rw [hleases, baseline]; exact hI.evidence, by rw [hclaims, lease]; exact hI.attempt,
    by rw [hclaims, lease]; exact hI.fence, ?_, ?_, ?_⟩
  · intro hstatus
    -- Only a requeue leaves such a status, and it finds a claimed review.
    have hrequeued : kind = .requeued := by
      rw [status] at hstatus
      cases kind <;> simp_all [ReviewEventType.status]
    subst hrequeued
    rw [dispatches_append_of_ne isKind (by decide)]
    exact hI.undispatched (.inl follows)
  · intro hstatus
    have hdispatch : kind = .providerDispatchStarted := by
      rw [status] at hstatus
      cases kind <;> simp_all [ReviewEventType.status]
    subst hdispatch
    refine ⟨e, ?_, lease ▸ names, lease ▸ worker rfl⟩
    rw [dispatches_append_dispatch isKind, hI.undispatched (.inl follows), List.nil_append]
  · by_cases hdispatch : kind = .providerDispatchStarted
    · subst hdispatch
      rw [dispatches_append_dispatch isKind, hI.undispatched (.inl follows)]
      simp
    · rw [dispatches_append_of_ne isKind hdispatch]
      exact hI.once

/-- **One event.** Every transition keeps the invariant. -/
theorem SafetyInv.step (hnone : s = none → es = []) (hI : ∀ f ∈ s, SafetyInv H es f)
    (h : Transition H s e f) : SafetyInv H (es ++ [e]) f := by
  cases h with
  | claim lease kind requeued read expiry worker attempt fence evidence =>
    exact .claim hnone hI kind requeued read attempt fence evidence
  | renew f lease kind before claimed worker read expiry longer evidence attempt fence =>
    exact (hI f before).renew kind claimed read evidence attempt fence
  | record kind f f' isKind before follows names worker expiry status lease baseline =>
    exact (hI f before).record isKind follows names worker status lease baseline

/-- The fold of a prefix, with the invariant. -/
theorem safetyInv_of_run (h : History.run (foldReviewEvent H runId) none es = .ok s) :
    (s = none → es = []) ∧ ∀ f ∈ s, SafetyInv H es f := by
  refine History.invariant (fun es s ↦ (s = none → es = []) ∧ ∀ f ∈ s, SafetyInv H es f)
    ⟨fun _ ↦ rfl, by simp⟩ ?_ h
  rintro pre e s s' ⟨hnone, hI⟩ hstep
  obtain ⟨f, rfl, htransition⟩ := transition_of_foldReviewEvent hstep
  refine ⟨by simp, fun g hg ↦ ?_⟩
  obtain rfl := Option.some.inj hg
  exact .step hnone hI htransition

/-- **At an event.** In an accepted stream each event is a transition from the fold of the events before
it, which keeps the invariant. -/
theorem transition_at {events pre post : List EventEnvelope} {state : ReviewLifecycleState}
    (h : foldReviewLifecycle H runId events = .ok state) (hsplit : events = pre ++ e :: post) :
    ∃ s f, (s = none → pre = []) ∧ (∀ g ∈ s, SafetyInv H pre g) ∧ Transition H s e f ∧
      SafetyInv H (pre ++ [e]) f := by
  simp only [foldReviewLifecycle, Checked.bind_eq_ok] at h
  obtain ⟨_, -, _, -, _, -, _, -, final, hrun, -⟩ := h
  rw [hsplit] at hrun
  obtain ⟨s, s', hpre, hstep, -⟩ := History.split hrun
  obtain ⟨f, -, htransition⟩ := transition_of_foldReviewEvent hstep
  obtain ⟨hnone, hI⟩ := safetyInv_of_run hpre
  exact ⟨s, f, hnone, hI, htransition, .step hnone hI htransition⟩

/-! ### Safety -/

section Safety

variable {events pre post : List EventEnvelope} {state : ReviewLifecycleState}

/-- At most one dispatch is in an accepted stream. -/
theorem dispatched_once (h : foldReviewLifecycle H runId events = .ok state) :
    (dispatches events).length ≤ 1 := by
  rcases List.eq_nil_or_concat' events with rfl | ⟨pre, e, rfl⟩
  · simp [dispatches]
  · have hsplit : pre ++ [e] = pre ++ e :: [] := rfl
    obtain ⟨s, f, -, -, -, hI⟩ := transition_at h hsplit
    exact hI.once

/-- A claim, a renewal or a requeue is recorded of a review that has not been dispatched. -/
theorem undispatched_before (h : foldReviewLifecycle H runId events = .ok state)
    (hsplit : events = pre ++ e :: post)
    (hkind : IsKind .claimed e ∨ IsKind .leaseRenewed e ∨ IsKind .requeued e) :
    ∀ d ∈ pre, ¬IsKind .providerDispatchStarted d := by
  suffices hnil : dispatches pre = [] by
    intro d hd hdispatch
    have : d ∈ dispatches pre := List.mem_filter.mpr ⟨hd, by simpa using hdispatch⟩
    simp [hnil] at this
  obtain ⟨s, f, hnone, hI, htransition, -⟩ := transition_at h hsplit
  cases htransition with
  | claim lease kind requeued =>
    cases s with
    | none => rw [hnone rfl, dispatches, List.filter_nil]
    | some g => exact (hI g rfl).undispatched (.inr (requeued g rfl))
  | renew f lease kind before claimed => exact (hI f before).undispatched (.inl claimed)
  | record kind f f' isKind before follows =>
    rcases hkind with hkind | hkind | hkind
    · obtain rfl := isKind.unique hkind
      exact follows.elim
    · obtain rfl := isKind.unique hkind
      exact follows.elim
    · obtain rfl := isKind.unique hkind
      exact (hI f before).undispatched (.inl follows)

/-- The attempt of a claim counts the claims before it. -/
theorem claim_counts (h : foldReviewLifecycle H runId events = .ok state)
    (hsplit : events = pre ++ e :: post) (hkind : IsKind .claimed e) :
    ∃ lease, leaseOf H e = some lease ∧ lease.workerId = e.actor ∧
      e.recordedAt < lease.expiresAt ∧ lease.attempt = (claims pre).length + 1 ∧
      lease.fencingToken = (claims pre).length + 1 := by
  obtain ⟨s, f, -, -, htransition, hI⟩ := transition_at h hsplit
  cases htransition with
  | claim lease kind requeued read expiry worker attempt fence evidence =>
    have hlength : (claims (pre ++ [e])).length = (claims pre).length + 1 := by
      rw [claims_append_claim hkind, List.length_append, List.length_singleton]
    exact ⟨lease, read, worker, expiry, hlength ▸ hI.attempt, hlength ▸ hI.fence⟩
  | renew f lease kind => exact absurd (hkind.unique kind) (by decide)
  | record kind f f' isKind before follows =>
    obtain rfl := isKind.unique hkind
    exact follows.elim

/-- The leases of a stream have the evidence of the first one. -/
theorem same_evidence (h : foldReviewLifecycle H runId events = .ok state) :
    ∀ first ∈ (leases H events).head?, ∀ lease ∈ leases H events,
      lease.evidence = first.evidence := by
  rcases List.eq_nil_or_concat' events with rfl | ⟨pre, e, rfl⟩
  · simp [leases]
  · have hsplit : pre ++ [e] = pre ++ e :: [] := rfl
    obtain ⟨s, f, -, -, -, hI⟩ := transition_at h hsplit
    intro first hfirst lease hlease
    obtain rfl : f.baseline = first := Option.some.inj (hI.first.symm.trans hfirst)
    exact hI.evidence lease hlease

/-- A renewal extends the latest lease of its worker. -/
theorem renewal_extends (h : foldReviewLifecycle H runId events = .ok state)
    (hsplit : events = pre ++ e :: post) (hkind : IsKind .leaseRenewed e) :
    ∃ before lease, (leases H pre).getLast? = some before ∧ leaseOf H e = some lease ∧
      e.actor = before.workerId ∧ lease.workerId = before.workerId ∧
      lease.attempt = before.attempt ∧ lease.fencingToken = before.fencingToken ∧
      before.expiresAt < lease.expiresAt ∧ e.recordedAt < lease.expiresAt := by
  obtain ⟨s, f, -, hI, htransition, -⟩ := transition_at h hsplit
  cases htransition with
  | claim lease kind => exact absurd (hkind.unique kind) (by decide)
  | renew f lease kind before claimed worker read expiry longer evidence attempt fence =>
    exact ⟨f.lease, lease, (hI f before).latest, read, worker.1, worker.2, attempt, fence, longer,
      expiry⟩
  | record kind f f' isKind before follows =>
    obtain rfl := isKind.unique hkind
    exact follows.elim

/-- A success is recorded by the worker of the latest lease, under which the review was dispatched,
before it expires. -/
theorem success_dispatched (h : foldReviewLifecycle H runId events = .ok state)
    (hsplit : events = pre ++ e :: post) (hkind : IsKind .succeeded e) :
    ∃ lease d, (leases H pre).getLast? = some lease ∧ dispatches pre = [d] ∧
      NamesLease H d lease ∧ NamesLease H e lease ∧ d.actor = lease.workerId ∧
      e.actor = lease.workerId ∧ e.recordedAt ≤ lease.expiresAt := by
  obtain ⟨s, f, -, hI, htransition, -⟩ := transition_at h hsplit
  cases htransition with
  | claim lease kind => exact absurd (hkind.unique kind) (by decide)
  | renew f lease kind => exact absurd (hkind.unique kind) (by decide)
  | record kind f f' isKind before follows names worker expiry =>
    obtain rfl := isKind.unique hkind
    obtain ⟨d, hd, hnames, hactor⟩ := (hI f before).dispatched follows
    exact ⟨f.lease, d, (hI f before).latest, hd, hnames, names, hactor, worker rfl, expiry rfl⟩

/-- Nothing follows an event that ends the review. -/
theorem ends_last (h : foldReviewLifecycle H runId events = .ok state)
    (hsplit : events = pre ++ e :: post) (hends : Ends e) : post = [] := by
  rcases List.eq_nil_or_concat' post with rfl | ⟨post, last, rfl⟩
  · rfl
  · rw [hsplit, ← List.cons_append, ← List.append_assoc] at h
    exact absurd hends (open_of_fold h e (by simp))

end Safety

/-- **Review safety.** In every accepted stream of a review: there is at most one provider dispatch over
all leases, and claims, requeues and renewals come before it; the attempts and the fencing tokens of the
claims are consecutive from 1; all leases are for the same evidence; a renewal extends the latest lease
of its worker; a success is recorded by the worker of the latest lease, under which the review was
dispatched, and before that lease expires; and no event follows a success, a failure or the need of
reconciliation. -/
theorem review_stream_safety {events : List EventEnvelope} {state : ReviewLifecycleState}
    (h : foldReviewLifecycle H runId events = .ok state) :
    (dispatches events).length ≤ 1 ∧
    (∀ first ∈ (leases H events).head?, ∀ lease ∈ leases H events,
      lease.evidence = first.evidence) ∧
    ∀ pre e post, events = pre ++ e :: post →
      (IsKind .claimed e ∨ IsKind .leaseRenewed e ∨ IsKind .requeued e →
        ∀ d ∈ pre, ¬IsKind .providerDispatchStarted d) ∧
      (IsKind .claimed e → ∃ lease, leaseOf H e = some lease ∧ lease.workerId = e.actor ∧
        e.recordedAt < lease.expiresAt ∧ lease.attempt = (claims pre).length + 1 ∧
        lease.fencingToken = (claims pre).length + 1) ∧
      (IsKind .leaseRenewed e → ∃ before lease, (leases H pre).getLast? = some before ∧
        leaseOf H e = some lease ∧ e.actor = before.workerId ∧ lease.workerId = before.workerId ∧
        lease.attempt = before.attempt ∧ lease.fencingToken = before.fencingToken ∧
        before.expiresAt < lease.expiresAt ∧ e.recordedAt < lease.expiresAt) ∧
      (IsKind .succeeded e → ∃ lease d, (leases H pre).getLast? = some lease ∧
        dispatches pre = [d] ∧ NamesLease H d lease ∧ NamesLease H e lease ∧
        d.actor = lease.workerId ∧ e.actor = lease.workerId ∧ e.recordedAt ≤ lease.expiresAt) ∧
      (Ends e → post = []) :=
  ⟨dispatched_once h, same_evidence h, fun _ _ _ hsplit ↦ ⟨undispatched_before h hsplit,
    claim_counts h hsplit, renewal_extends h hsplit, success_dispatched h hsplit,
    ends_last h hsplit⟩⟩

/-! ### A sample stream

A review that is claimed, renewed, dispatched, and succeeds. Its digests are those of SHA-256. -/

namespace Sample

/-- A digest. -/
def digest (c : Char) : String := digestPrefix ++ String.ofList (List.replicate 64 c)

/-- The document of the lease that expires at an instant, with sorted keys. -/
def document (expiresAt : String) : Mapping := [("artifact_evidence_digest", .str (digest 'c')),
  ("attempt", .int 1), ("expires_at", .str expiresAt), ("fencing_token", .int 1),
  ("review_id", .str "review-1"), ("run_event_digest", .str (digest 'a')),
  ("run_event_id", .str "closed"), ("run_id", .str "run-1"),
  ("schema_version", .str reviewLeaseSchema), ("state_digest", .str (digest 'b')),
  ("worker_id", .str "worker-3")]

/-- The claimed lease, and the renewed one. -/
def claimedLease : Mapping := document "2026-01-01T00:05:00+00:00"

/-- The renewed lease. -/
def renewedLease : Mapping := document "2026-01-01T00:10:00+00:00"

/-- SHA-256 on the two leases. -/
def host : Host := .ofTables
  [(.object claimedLease,
      hexText 0x04ac484fd022cc9877a7211c29d2546c9425034b27cb3b4e9ddf79fa77b09599),
    (.object renewedLease,
      hexText 0x94ced401903273a1ac379e7113f2b213496ed95b4ab78ff3b0cbe8a625dc77f6)]
  [("2026-01-01T00:05:00+00:00", ⟨1767225900000000, true⟩),
    ("2026-01-01T00:10:00+00:00", ⟨1767226200000000, true⟩)]
  [(1767225900000000, "2026-01-01T00:05:00+00:00"), (1767226200000000, "2026-01-01T00:10:00+00:00")]

/-- An event of the review by its worker, one second after the event before it. -/
def event (sequence : Int) (eventId cause : String) (kind : ReviewEventType) (status : String)
    (fields : Mapping) : EventEnvelope where
  eventId := eventId
  streamId := "review:run-1"
  streamSequence := sequence
  eventType := StrEnum.value kind
  schemaVersion := 1
  recordedAt := 1767225600000000 + 1000000 * sequence
  effectiveAt := 1767225600000000 + 1000000 * sequence
  correlationId := "queued"
  causationId := some cause
  actor := "worker-3"
  source := RunLifecycle.runtimeEventSource
  payload := [("principal_id", .str "worker-3"), ("status", .str status)] ++ fields
  idempotencyKey := none
  globalPosition := none

/-- The digest of a lease. -/
def leaseDigest (lease : Mapping) : JsonValue := .str (host.jsonDigest (.object lease))

/-- The stream of the review. -/
def reviewed : List EventEnvelope := [
  event 1 "claimed" "closed" .claimed "claimed"
    [("lease_digest", leaseDigest claimedLease), ("lease", .object claimedLease)],
  event 2 "renewed" "claimed" .leaseRenewed "claimed"
    [("previous_lease_digest", leaseDigest claimedLease), ("lease_digest", leaseDigest renewedLease),
      ("lease", .object renewedLease)],
  event 3 "dispatched" "renewed" .providerDispatchStarted "provider-dispatch-started"
    [("run_id", .str "run-1"), ("review_id", .str "review-1"),
      ("lease_digest", leaseDigest renewedLease),
      ("provider_request_id", .str "review-94ced401903273a1ac379e7113f2b213496ed95b4ab78ff3"),
      ("acceptance_digest", .str (digest 'd')), ("context_digest", .str (digest 'e')),
      ("context_artifact_digest", .str (digest 'e'))],
  event 4 "succeeded" "dispatched" .succeeded "succeeded"
    [("run_id", .str "run-1"), ("review_id", .str "review-1"),
      ("lease_digest", leaseDigest renewedLease), ("context_digest", .str (digest 'e')),
      ("proposal_artifact_digest", .str (digest 'd')),
      ("provider_result_artifact_digest", .str (digest 'd')),
      ("admitted_artifact_digest", .str (digest 'd')), ("finding_count", .int 0)]]

end Sample

/-- The sample review succeeds under its renewed lease. -/
theorem review_stream_safety_sample : ∃ lease d, (leases Sample.host (Sample.reviewed.take 3)).getLast? =
    some lease ∧ dispatches (Sample.reviewed.take 3) = [d] ∧ NamesLease Sample.host d lease := by
  have hok : (foldReviewLifecycle Sample.host "run-1" Sample.reviewed).isOk = true := by
    decide +kernel
  obtain ⟨state, h⟩ := Checked.exists_of_isOk hok
  obtain ⟨-, -, hat⟩ := review_stream_safety h
  obtain ⟨-, -, -, hsuccess, -⟩ := hat (Sample.reviewed.take 3) _ [] rfl
  obtain ⟨lease, d, hlatest, hd, hnames, -⟩ := hsuccess (by decide)
  exact ⟨lease, d, hlatest, hd, hnames⟩

end Blackcell.Orchestration.ReviewLifecycle
