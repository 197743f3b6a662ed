import Blackcell.Orchestration.VerificationLifecycle

/-!
# The safety of a verification

What the fold of a verification says about whole streams. Claims and the events that release them
alternate, so that the events at even places are the claims, and the attempt of a claim is read off its
place. A claim may be released by a requeue at any time: the expiry of a lease does not supersede
deterministic work, and is compared by no event after the claim.

## Main definitions

* `Transition` : the transitions of the fold.
* `SafetyInv` : what an accepted stream says about the fold.

## Main results

* `transition_of_foldVerificationEvent` : every accepted event is one of the transitions.
* `verification_stream_safety` : the safety of every accepted stream.
* `not_requeued_after_expiry` : a claim is not only requeued after its lease has expired.
-/

namespace Blackcell.Orchestration.VerificationLifecycle

open Blackcell.Kernel

/-! ### Transitions -/

/-- The event is of a kind. -/
def IsKind (kind : VerificationEventType) (e : EventEnvelope) : Prop :=
  e.eventType = StrEnum.value kind

instance (kind : VerificationEventType) (e : EventEnvelope) : Decidable (IsKind kind e) :=
  inferInstanceAs (Decidable (_ = _))

/-- An event is of one kind. -/
theorem IsKind.unique {kind kind' : VerificationEventType} {e : EventEnvelope} (h : IsKind kind e)
    (h' : IsKind kind' e) : kind = kind' :=
  StrEnum.value_injective (h.symm.trans h')

/-- The event is terminal. -/
def IsTerminal (e : EventEnvelope) : Prop := IsKind .completed e ∨ IsKind .failed e

/-- The status of a verification after an event of a kind. -/
def VerificationEventType.status : VerificationEventType → VerificationLifecycleStatus
  | .claimed => .claimed
  | .completed => .completed
  | .failed => .failed
  | .requeued => .requeued

section

variable (H : Host)

/-- The lease of a claim. -/
def leaseOf (e : EventEnvelope) : Option (VerificationLease H) :=
  if IsKind .claimed e then
    (e.payload.get "lease").fields?.bind fun raw ↦ (verificationLeaseFromMapping H raw).toOption
  else none

/-- The leases of a stream, oldest first. -/
def leases (es : List EventEnvelope) : List (VerificationLease H) := es.filterMap (leaseOf H)

variable {H}

/-- The event names the run, the verification and the lease. -/
def NamesLease (e : EventEnvelope) (lease : VerificationLease H) : Prop :=
  e.payload.get "run_id" = .str lease.evidence.runId ∧
    e.payload.get "verification_id" = .str lease.evidence.verificationId ∧
    e.payload.get "lease_digest" = .str lease.digest

/-- The transitions of the fold, from the verification before an event to the one after it. -/
inductive Transition (s : Option (VerificationFold H)) (e : EventEnvelope) :
    VerificationFold H → Prop
  | claim (lease : VerificationLease H) (kind : IsKind .claimed e)
      (requeued : ∀ f ∈ s, f.status = .requeued) (read : leaseOf H e = some lease)
      (expiry : e.recordedAt < lease.expiresAt) (worker : lease.workerId = e.actor)
      (attempt : lease.attempt = (s.map (·.lease.attempt)).getD 0 + 1)
      (fence : lease.fencingToken = (s.map (·.lease.fencingToken)).getD 0 + 1)
      (evidence : ∀ f ∈ s, lease.evidence = f.baseline.evidence) :
      Transition s e (.claimed lease ((s.map (·.baseline)).getD lease))
  | release (kind : VerificationEventType) (f f' : VerificationFold H) (isKind : IsKind kind e)
      (notClaim : kind ≠ .claimed) (before : s = some f) (claimed : f.status = .claimed)
      (names : NamesLease e f.lease) (worker : kind ≠ .requeued → e.actor = f.lease.workerId)
      (other : kind = .requeued → e.actor ≠ f.lease.workerId) (status : f'.status = kind.status)
      (lease : f'.lease = f.lease) (baseline : f'.baseline = f.baseline) : Transition s e f'

variable {runId : String} {e : EventEnvelope} {s s' : Option (VerificationFold H)}
  {f : VerificationFold H} {principal : String}

private theorem of_hostTransition (h : hostTransition e s = .ok f) :
    s = some f ∧ f.status = .claimed ∧ NamesLease e f.lease := by
  simp only [hostTransition, Checked.bind_eq_ok, Checked.ofOption_eq_ok, check_eq_ok,
    Checked.exists_unit, Checked.pure_eq_ok] at h
  obtain ⟨_, hs, hstatus, hrun, hid, hlease, rfl⟩ := h
  exact ⟨hs, hstatus, hrun, hid, hlease⟩

private theorem of_activeLease (h : activeLease e s principal = .ok f) :
    (s = some f ∧ f.status = .claimed ∧ NamesLease e f.lease) ∧ principal = f.lease.workerId := by
  simp only [activeLease, Checked.bind_eq_ok, check_eq_ok, Checked.exists_unit,
    Checked.pure_eq_ok] at h
  obtain ⟨_, hhost, hworker, rfl⟩ := h
  exact ⟨of_hostTransition hhost, hworker⟩

/-- The four branches are transitions. -/
theorem transition_of_foldBranch {kind : VerificationEventType} (hkind : IsKind kind e)
    (hprincipal : principal = e.actor) (h : foldBranch runId e s principal kind = .ok f) :
    Transition s e f := by
  subst hprincipal
  cases kind with
  | claimed =>
    simp only [foldBranch, foldClaimed, Stage.mapping, Checked.bind_eq_ok, check_eq_ok,
      Checked.exists_unit, Checked.ofOption_eq_ok, Checked.pure_eq_ok] at h
    obtain ⟨-, hrequeued, raw, hraw, lease, hlease, ⟨-, hworker⟩, -, -, hexpiry, -, hattempt, hfence,
      hevidence, rfl⟩ := h
    refine .claim lease hkind hrequeued ?_ hexpiry hworker hattempt hfence hevidence
    rw [leaseOf, if_pos hkind, hraw, Option.bind_some, hlease]
    rfl
  | completed =>
    simp only [foldBranch, foldCompleted, Checked.bind_eq_ok, check_eq_ok, Checked.exists_unit,
      Checked.pure_eq_ok] at h
    obtain ⟨-, g, hlease, _, -, _, -, _, -, -, rfl⟩ := h
    obtain ⟨⟨hs, hstatus, hnames⟩, hworker⟩ := of_activeLease hlease
    exact .release _ g _ hkind (by decide) hs hstatus hnames (fun _ ↦ hworker)
      (fun h ↦ absurd h (by decide)) rfl rfl rfl
  | failed =>
    simp only [foldBranch, foldFailed, Checked.bind_eq_ok, check_eq_ok, Checked.exists_unit,
      Checked.pure_eq_ok] at h
    obtain ⟨-, g, hlease, _, -, _, -, -, rfl⟩ := h
    obtain ⟨⟨hs, hstatus, hnames⟩, hworker⟩ := of_activeLease hlease
    exact .release _ g _ hkind (by decide) hs hstatus hnames (fun _ ↦ hworker)
      (fun h ↦ absurd h (by decide)) rfl rfl rfl
  | requeued =>
    simp only [foldBranch, foldRequeued, Checked.bind_eq_ok, check_eq_ok, Checked.exists_unit,
      Checked.pure_eq_ok] at h
    obtain ⟨-, g, hhost, hother, -, -, rfl⟩ := h
    obtain ⟨hs, hstatus, hnames⟩ := of_hostTransition hhost
    exact .release _ g _ hkind (by decide) hs hstatus hnames (fun h ↦ absurd rfl h)
      (fun _ ↦ hother) rfl rfl rfl

/-- **One event.** Every accepted event is one of the transitions. -/
theorem transition_of_foldVerificationEvent (h : foldVerificationEvent runId s e = .ok s') :
    ∃ f, s' = some f ∧ Transition s e f := by
  simp only [foldVerificationEvent, Checked.bind_eq_ok, Checked.ofOption_eq_ok,
    Checked.pure_eq_ok] at h
  obtain ⟨principal, hprincipal, kind, hkind, f, hf, rfl⟩ := h
  exact ⟨f, rfl, transition_of_foldBranch (StrEnum.ofValue?_eq_some.mp hkind).symm
    (Stage.principal_eq_ok hprincipal).2 hf⟩

end

/-! ### The invariant -/

section Invariant

variable {H : Host} {runId : String} {es : List EventEnvelope} {e : EventEnvelope}
  {s : Option (VerificationFold H)} {f : VerificationFold H}

/-- What an accepted stream says about the fold of the verification. -/
structure SafetyInv (es : List EventEnvelope) (f : VerificationFold H) : Prop where
  latest : (leases H es).getLast? = some f.lease
  first : (leases H es).head? = some f.baseline
  evidence : ∀ lease ∈ leases H es, lease.evidence = f.baseline.evidence
  count : es.length = 2 * f.lease.attempt - if f.status = .claimed then 1 else 0
  fence : f.lease.fencingToken = f.lease.attempt

theorem leases_append_claim {lease : VerificationLease H} (h : leaseOf H e = some lease) :
    leases H (es ++ [e]) = leases H es ++ [lease] := by
  simp [leases, h]

theorem leases_append_of_ne {kind : VerificationEventType} (h : IsKind kind e)
    (hne : kind ≠ .claimed) : leases H (es ++ [e]) = leases H es := by
  have hnone : leaseOf H e = none := if_neg fun hclaimed ↦ hne (h.unique hclaimed)
  simp [leases, hnone]

/-- **Claims.** A claim starts the stream, or follows a requeue. -/
theorem SafetyInv.claim (hnone : s = none → es = []) (hI : ∀ f ∈ s, SafetyInv es f)
    {lease : VerificationLease H} (requeued : ∀ f ∈ s, f.status = .requeued)
    (read : leaseOf H e = some lease)
    (attempt : lease.attempt = (s.map (·.lease.attempt)).getD 0 + 1)
    (fence : lease.fencingToken = (s.map (·.lease.fencingToken)).getD 0 + 1)
    (evidence : ∀ f ∈ s, lease.evidence = f.baseline.evidence) :
    SafetyInv (es ++ [e]) (.claimed lease ((s.map (·.baseline)).getD lease)) := by
  cases s with
  | none =>
    obtain rfl := hnone rfl
    refine ⟨by simp [leases, read, VerificationFold.claimed],
      by simp [leases, read, VerificationFold.claimed],
      by simp [leases, read, VerificationFold.claimed], ?_, fence.trans attempt.symm⟩
    simp only [Option.map_none, Option.getD_none, Nat.zero_add] at attempt
    simp [VerificationFold.claimed, attempt]
  | some g =>
    have hg := hI g rfl
    refine ⟨by simp [leases_append_claim read, VerificationFold.claimed], ?_, ?_, ?_, ?_⟩
    · rw [leases_append_claim read, List.head?_append, hg.first]
      rfl
    · rw [leases_append_claim read]
      intro lease' hmem
      rcases List.mem_append.mp hmem with hmem | hmem
      · exact hg.evidence lease' hmem
      · rw [List.mem_singleton.mp hmem]
        exact evidence g rfl
    · have hcount := hg.count
      simp only [requeued g rfl, reduceCtorEq, if_false, Nat.sub_zero] at hcount
      simp only [Option.map_some, Option.getD_some] at attempt
      simp only [VerificationFold.claimed, List.length_append, List.length_singleton, if_true,
        attempt]
      omega
    · change lease.fencingToken = lease.attempt
      rw [fence, attempt, Option.map_some, Option.map_some, Option.getD_some, Option.getD_some,
        hg.fence]

/-- **Releases.** Any other event releases a claimed verification, and keeps its lease. -/
theorem SafetyInv.release (hI : SafetyInv es f) {kind : VerificationEventType}
    {f' : VerificationFold H} (isKind : IsKind kind e) (notClaim : kind ≠ .claimed)
    (claimed : f.status = .claimed) (status : f'.status = kind.status)
    (lease : f'.lease = f.lease) (baseline : f'.baseline = f.baseline) :
    SafetyInv (es ++ [e]) f' := by
  have hleases : leases H (es ++ [e]) = leases H es := leases_append_of_ne isKind notClaim
  refine ⟨by rw [hleases, lease]; exact hI.latest, by rw [hleases, baseline]; exact hI.first,
    by rw [hleases, baseline]; exact hI.evidence, ?_, by rw [lease]; exact hI.fence⟩
  have hreleased : f'.status ≠ .claimed := by
    rw [status]
    cases kind <;> simp_all [VerificationEventType.status]
  have hcount := hI.count
  have hpositive := f.lease.positive.1
  rw [if_pos claimed] at hcount
  rw [if_neg hreleased, lease, List.length_append, List.length_singleton]
  omega

/-- **One event.** Every transition keeps the invariant. -/
theorem SafetyInv.step (hnone : s = none → es = []) (hI : ∀ f ∈ s, SafetyInv es f)
    (h : Transition s e f) : SafetyInv (es ++ [e]) f := by
  cases h with
  | claim lease kind requeued read expiry worker attempt fence evidence =>
    exact .claim hnone hI requeued read attempt fence evidence
  | release kind f f' isKind notClaim before claimed names worker other status lease baseline =>
    exact (hI f before).release isKind notClaim claimed status lease baseline

/-- **At an event.** In an accepted stream each event is a transition from the fold of the events before
it, whose invariant holds. -/
theorem transition_at {events pre post : List EventEnvelope} {state : VerificationLifecycleState H}
    (h : foldVerificationLifecycle H runId events = .ok state) (hsplit : events = pre ++ e :: post) :
    ∃ (s : Option (VerificationFold H)) (f : VerificationFold H), (s = none → pre = []) ∧
      (∀ g ∈ s, SafetyInv pre g) ∧ Transition s e f ∧ SafetyInv (pre ++ [e]) f ∧
      ∃ final, History.run (foldVerificationEvent runId) (some f) post = .ok final := by
  simp only [foldVerificationLifecycle, Checked.bind_eq_ok] at h
  obtain ⟨_, -, _, -, _, -, _, -, final, hrun, -⟩ := h
  rw [hsplit] at hrun
  obtain ⟨s, s', hpre, hstep, hpost⟩ := History.split hrun
  obtain ⟨hnone, hI⟩ : (s = none → pre = []) ∧ ∀ g ∈ s, SafetyInv pre g := by
    refine History.invariant (fun es s ↦ (s = none → es = []) ∧ ∀ g ∈ s, SafetyInv es g)
      ⟨fun _ ↦ rfl, by simp⟩ ?_ hpre
    rintro pre e s s' ⟨hnone, hI⟩ hstep
    obtain ⟨f, rfl, htransition⟩ := transition_of_foldVerificationEvent hstep
    refine ⟨by simp, fun g hg ↦ ?_⟩
    obtain rfl := Option.some.inj hg
    exact .step hnone hI htransition
  obtain ⟨f, rfl, htransition⟩ := transition_of_foldVerificationEvent hstep
  exact ⟨s, f, hnone, hI, htransition, .step hnone hI htransition, final, hpost⟩

end Invariant

/-! ### Safety -/

section Safety

variable {H : Host} {runId : String} {events pre post : List EventEnvelope} {e : EventEnvelope}
  {state : VerificationLifecycleState H}

/-- A claim stands at an even place, and its attempt is read off this place. -/
theorem claim_counts (h : foldVerificationLifecycle H runId events = .ok state)
    (hsplit : events = pre ++ e :: post) (hkind : IsKind .claimed e) :
    ∃ lease, leaseOf H e = some lease ∧ lease.workerId = e.actor ∧
      e.recordedAt < lease.expiresAt ∧ pre.length = 2 * (lease.attempt - 1) ∧
      lease.fencingToken = lease.attempt := by
  obtain ⟨s, f, -, -, htransition, hI, -⟩ := transition_at h hsplit
  cases htransition with
  | claim lease kind requeued read expiry worker =>
    refine ⟨lease, read, worker, expiry, ?_, hI.fence⟩
    have hcount := hI.count
    simp only [VerificationFold.claimed, List.length_append, List.length_singleton, if_true] at hcount
    omega
  | release kind f f' isKind notClaim => exact absurd (isKind.unique hkind) notClaim

/-- Every other event stands at an odd place, and names the lease of the claim before it: a requeue is
that of another principal, a terminal event that of the worker. -/
theorem release_names (h : foldVerificationLifecycle H runId events = .ok state)
    (hsplit : events = pre ++ e :: post) (hkind : ¬IsKind .claimed e) :
    ∃ lease, (leases H pre).getLast? = some lease ∧ NamesLease e lease ∧
      pre.length = 2 * lease.attempt - 1 ∧ (IsKind .requeued e → e.actor ≠ lease.workerId) ∧
      (IsTerminal e → e.actor = lease.workerId) ∧ (IsKind .requeued e ∨ IsTerminal e) := by
  obtain ⟨s, f, -, hI, htransition, -, -⟩ := transition_at h hsplit
  cases htransition with
  | claim lease kind => exact absurd kind hkind
  | release kind f f' isKind notClaim before claimed names worker other =>
    refine ⟨f.lease, (hI f before).latest, names, ?_, fun h ↦ other (isKind.unique h), ?_, ?_⟩
    · rw [(hI f before).count, if_pos claimed]
    · rintro (h | h) <;> exact worker (by rw [isKind.unique h]; decide)
    · cases kind with
      | claimed => exact absurd rfl notClaim
      | requeued => exact .inl isKind
      | completed => exact .inr (.inl isKind)
      | failed => exact .inr (.inr isKind)

/-- Nothing follows a terminal event. -/
theorem terminal_last (h : foldVerificationLifecycle H runId events = .ok state)
    (hsplit : events = pre ++ e :: post) (hterminal : IsTerminal e) : post = [] := by
  obtain ⟨s, f, -, -, htransition, -, final, hpost⟩ := transition_at h hsplit
  have hstatus : f.status = .completed ∨ f.status = .failed := by
    cases htransition with
    | claim lease kind =>
      rcases hterminal with h | h <;> exact absurd (kind.unique h) (by decide)
    | release kind f f' isKind notClaim before claimed names worker other status =>
      rcases hterminal with h | h
      · exact .inl (by rw [status, isKind.unique h]; rfl)
      · exact .inr (by rw [status, isKind.unique h]; rfl)
  cases post with
  | nil => rfl
  | cons next post =>
    rw [History.run_cons, Checked.bind_eq_ok] at hpost
    obtain ⟨_, hnext, -⟩ := hpost
    obtain ⟨g, -, htransition⟩ := transition_of_foldVerificationEvent hnext
    cases htransition with
    | claim lease kind requeued => simp [requeued f rfl] at hstatus
    | release kind f f' isKind notClaim before claimed =>
      obtain rfl := Option.some.inj before
      simp [claimed] at hstatus

/-- The leases of a stream have the evidence of the first one. -/
theorem same_evidence (h : foldVerificationLifecycle H runId events = .ok state) :
    ∀ first ∈ (leases H events).head?, ∀ lease ∈ leases H events,
      lease.evidence = first.evidence := by
  rcases List.eq_nil_or_concat' events with rfl | ⟨pre, e, rfl⟩
  · simp [leases]
  · have hsplit : pre ++ [e] = pre ++ e :: [] := rfl
    obtain ⟨s, f, -, -, -, hI, -⟩ := transition_at h hsplit
    intro first hfirst lease hlease
    obtain rfl : f.baseline = first := Option.some.inj (hI.first.symm.trans hfirst)
    exact hI.evidence lease hlease

end Safety

/-- **Verification safety.** In every accepted stream of a verification the claims stand at the even
places, and are numbered there by their attempts and fencing tokens, for the evidence of the first one.
At the odd places stand the events that release them: a requeue by another principal than the worker of
the lease, or a terminal event by this worker. Both name the lease of the claim, and nothing follows a
terminal event. -/
theorem verification_stream_safety {H : Host} {runId : String} {events : List EventEnvelope}
    {state : VerificationLifecycleState H}
    (h : foldVerificationLifecycle H runId events = .ok state) :
    (∀ first ∈ (leases H events).head?, ∀ lease ∈ leases H events,
      lease.evidence = first.evidence) ∧
    ∀ pre e post, events = pre ++ e :: post →
      (IsKind .claimed e → ∃ lease, leaseOf H e = some lease ∧ lease.workerId = e.actor ∧
        e.recordedAt < lease.expiresAt ∧ pre.length = 2 * (lease.attempt - 1) ∧
        lease.fencingToken = lease.attempt) ∧
      (¬IsKind .claimed e → ∃ lease, (leases H pre).getLast? = some lease ∧ NamesLease e lease ∧
        pre.length = 2 * lease.attempt - 1 ∧ (IsKind .requeued e → e.actor ≠ lease.workerId) ∧
        (IsTerminal e → e.actor = lease.workerId) ∧ (IsKind .requeued e ∨ IsTerminal e)) ∧
      (IsTerminal e → post = []) :=
  ⟨same_evidence h, fun _ _ _ hsplit ↦ ⟨claim_counts h hsplit, release_names h hsplit,
    terminal_last h hsplit⟩⟩

/-! ### A sample stream

A verification that is claimed, and requeued one second later. Its digests are those of SHA-256. -/

namespace Sample

/-- A digest. -/
def digest (c : Char) : String := digestPrefix ++ String.ofList (List.replicate 64 c)

/-- The document of the lease, with sorted keys. -/
def lease : Mapping := [("acceptance_digest", .str (digest 'e')),
  ("admitted_review_digest", .str (digest 'e')), ("artifact_evidence_digest", .str (digest 'c')),
  ("attempt", .int 1), ("context_digest", .str (digest 'e')),
  ("expires_at", .str "2026-01-01T00:05:00+00:00"), ("fencing_token", .int 1),
  ("finding_count", .int 0), ("proposal_artifact_digest", .str (digest 'e')),
  ("provider_result_artifact_digest", .str (digest 'e')),
  ("review_event_digest", .str (digest 'd')), ("review_event_id", .str "reviewed"),
  ("review_id", .str "review-a111ecf868329f001c272c42013c6909817aa0916b6e8f87"),
  ("run_event_digest", .str (digest 'a')), ("run_event_id", .str "closed"), ("run_id", .str "run-1"),
  ("schema_version", .str verificationLeaseSchema), ("state_digest", .str (digest 'b')),
  ("verification_id", .str "verification-760190d447676fc36dc613fcda27ea862af19e3191da39b2"),
  ("worker_id", .str "worker-4")]

/-- SHA-256 on the documents of the verification. -/
def host : Host := .ofTables
  [(.object [("review_event_digest", .str (digest 'd')), ("run_id", .str "run-1"),
        ("stage", .str "verification")],
      hexText 0x760190d447676fc36dc613fcda27ea862af19e3191da39b24089ac8bb8b7d61d),
    (.object [("run_event_digest", .str (digest 'a')), ("run_id", .str "run-1"),
        ("stage", .str "review")],
      hexText 0xa111ecf868329f001c272c42013c6909817aa0916b6e8f873a61c1e51e2a3b1c),
    (.object lease, hexText 0x771e3ef8f35172bec1dd83d2a6eb1906c4105d73eba8d39f236b33dd3890b4bf)]
  [("2026-01-01T00:05:00+00:00", ⟨1767225900000000, true⟩)]
  [(1767225900000000, "2026-01-01T00:05:00+00:00")]

/-- An event of the verification, as many seconds after the first instant as events were before. -/
def event (sequence : Int) (eventId cause actor : String) (kind : VerificationEventType)
    (status : String) (fields : Mapping) : EventEnvelope where
  eventId := eventId
  streamId := "verification:run-1"
  streamSequence := sequence
  eventType := StrEnum.value kind
  schemaVersion := 1
  recordedAt := 1767225600000000 + 1000000 * sequence
  effectiveAt := 1767225600000000 + 1000000 * sequence
  correlationId := "queued"
  causationId := some cause
  actor := actor
  source := RunLifecycle.runtimeEventSource
  payload := [("principal_id", .str actor), ("status", .str status),
    ("lease_digest", .str (host.jsonDigest (.object lease)))] ++ fields
  idempotencyKey := none
  globalPosition := none

/-- The claim of the verification. -/
def claimed : EventEnvelope :=
  event 1 "claimed" "reviewed" "worker-4" .claimed "claimed" [("lease", .object lease)]

/-- The requeue, before the lease expires. -/
def requeued : EventEnvelope :=
  event 2 "requeued" "claimed" "operator-1" .requeued "requeued"
    [("run_id", .str "run-1"),
      ("verification_id", .str "verification-760190d447676fc36dc613fcda27ea862af19e3191da39b2"),
      ("disposition", .str "deterministic-retry")]

/-- The evidence in the document. -/
def evidence : VerificationEvidence where
  runId := "run-1"
  verificationId := "verification-760190d447676fc36dc613fcda27ea862af19e3191da39b2"
  runEventId := "closed"
  runEventDigest := digest 'a'
  stateDigest := digest 'b'
  artifactEvidenceDigest := digest 'c'
  reviewId := "review-a111ecf868329f001c272c42013c6909817aa0916b6e8f87"
  reviewEventId := "reviewed"
  reviewEventDigest := digest 'd'
  acceptanceDigest := digest 'e'
  contextDigest := digest 'e'
  proposalArtifactDigest := digest 'e'
  providerResultArtifactDigest := digest 'e'
  admittedReviewDigest := digest 'e'
  findingCount := 0

theorem isHexDigest_digest {c : Char} (h : isHexChar c = true) : isHexDigest (digest c) = true :=
  isHexDigest_append (isHex_ofList (by simp [h]))

theorem identifiers : Stage.isStageIdentifier evidence.runId ∧
    Stage.isStageIdentifier evidence.verificationId ∧ Stage.isStageIdentifier evidence.runEventId ∧
    Stage.isStageIdentifier evidence.reviewId ∧ Stage.isStageIdentifier evidence.reviewEventId := by
  decide +kernel

theorem digests : isHexDigest (digest 'a') ∧ isHexDigest (digest 'b') ∧ isHexDigest (digest 'c') ∧
    isHexDigest (digest 'd') ∧ isHexDigest (digest 'e') :=
  ⟨isHexDigest_digest (by decide), isHexDigest_digest (by decide), isHexDigest_digest (by decide),
    isHexDigest_digest (by decide), isHexDigest_digest (by decide)⟩

theorem valid : evidence.Valid host := by
  obtain ⟨ha, hb, hc, hd, he⟩ := digests
  exact ⟨identifiers, ⟨ha, hb, hc, hd, he, he, he, he, he⟩, Nat.zero_le _, by decide +kernel,
    by decide +kernel⟩

theorem worker_isWorker : Stage.isStageIdentifier "worker-4" := by decide +kernel

theorem first_positive : 1 ≤ 1 ∧ 1 ≤ 1 := ⟨le_rfl, le_rfl⟩

/-- The lease of the document. -/
def held : VerificationLease host :=
  ⟨evidence, 1, 1, "worker-4", 1767225900000000, valid, worker_isWorker, first_positive⟩

example : held.workerId = "worker-4" := by decide +kernel

theorem digest_held : held.digest = host.jsonDigest (.object lease) := by decide +kernel

/-! The digests and the identifiers are read by lemmas: the kernel is not made to spell them again. -/

theorem evidence_read : evidenceFromMapping lease = .ok evidence := by
  obtain ⟨ha, hb, hc, hd, he⟩ := digests
  have hids := identifiers
  simp only [evidence] at hids
  simp [evidenceFromMapping, lease, evidence, Mapping.get_cons, Stage.digest_of_isHexDigest, ha, hb,
    hc, hd, he, hids, Stage.identifier, Checked.require, Stage.text, Stage.findingCount,
    Checked.ofOption, JsonValue.text?, JsonValue.int?]

theorem lease_read : verificationLeaseFromMapping host lease = .ok held := by
  have hcreate : VerificationLease.create host held.evidence held.attempt held.fencingToken
      held.workerId held.expiresAt = .ok held := dif_pos ⟨held.valid, held.isWorker, held.positive⟩
  simp only [verificationLeaseFromMapping, Checked.bind_eq_ok, Checked.exists_unit, check_eq_ok,
    Stage.exact, Checked.require_eq_ok]
  exact ⟨by decide +kernel, by decide +kernel, 1767225900000000, by decide +kernel, 1,
    by decide +kernel, 1, by decide +kernel, "worker-4", by decide +kernel, evidence, evidence_read,
    hcreate⟩

example : claimed.streamId = verificationStream "run-1" := by decide +kernel

theorem leases_claimed : leases host [claimed] = [held] := by
  have hraw : (claimed.payload.get "lease").fields? = some lease := rfl
  have hread : (verificationLeaseFromMapping host lease).toOption = some held := by
    rw [lease_read]
    rfl
  have hclaim : leaseOf host claimed = some held := by
    rw [leaseOf, if_pos (by decide), hraw, Option.bind_some, hread]
  exact List.filterMap_cons_some hclaim

theorem claimed_folded :
    foldVerificationEvent "run-1" none claimed = .ok (some (.claimed held held)) := by
  simp only [foldVerificationEvent, Checked.bind_eq_ok, Checked.pure_eq_ok]
  refine ⟨"worker-4", by decide +kernel, .claimed, by decide +kernel, .claimed held held, ?_, rfl⟩
  simp only [foldBranch, foldClaimed, Stage.exact, Checked.bind_eq_ok, Checked.exists_unit,
    check_eq_ok, Checked.require_eq_ok, Checked.pure_eq_ok]
  refine ⟨by decide +kernel, by simp, lease, rfl, held, lease_read, ⟨rfl, rfl⟩, ?_,
    by decide +kernel, by decide, fun _ ↦ rfl, rfl, rfl, by simp, rfl⟩
  rw [digest_held]
  rfl

theorem requeued_folded : foldVerificationEvent "run-1" (some (.claimed held held)) requeued =
    .ok (some { VerificationFold.claimed held held with status := .requeued }) := by
  simp only [foldVerificationEvent, Checked.bind_eq_ok, Checked.pure_eq_ok]
  refine ⟨"operator-1", by decide +kernel, .requeued, by decide +kernel, _, ?_, rfl⟩
  simp only [foldBranch, foldRequeued, hostTransition, Stage.exact, Checked.bind_eq_ok,
    Checked.exists_unit, check_eq_ok, Checked.require_eq_ok, Checked.pure_eq_ok,
    Checked.ofOption_eq_ok]
  refine ⟨by decide +kernel, .claimed held held, ⟨_, rfl, rfl, rfl, rfl, ?_, rfl⟩, by decide, rfl,
    rfl, rfl⟩
  rw [VerificationFold.claimed, digest_held]
  rfl

theorem accepted :
    ∃ state, foldVerificationLifecycle host "run-1" [claimed, requeued] = .ok state := by
  have hrun : History.run (foldVerificationEvent "run-1") none [claimed, requeued] =
      .ok (some { VerificationFold.claimed held held with status := .requeued }) := by
    rw [History.run_cons, claimed_folded, Checked.ok_bind, History.run_cons, requeued_folded,
      Checked.ok_bind, History.run_nil]
  simp only [foldVerificationLifecycle, Checked.bind_eq_ok, Checked.exists_unit, check_eq_ok,
    Checked.pure_eq_ok, Checked.ofOption_eq_ok]
  exact ⟨_, by decide +kernel, requeued, rfl, by decide +kernel, by decide +kernel, _, hrun, _, rfl,
    rfl⟩

end Sample

/-- The sample claim is released by another principal than its worker. -/
theorem verification_stream_safety_sample : ∃ lease,
    (leases Sample.host [Sample.claimed]).getLast? = some lease ∧
      Sample.requeued.actor ≠ lease.workerId := by
  obtain ⟨state, h⟩ := Sample.accepted
  obtain ⟨-, hat⟩ := verification_stream_safety h
  obtain ⟨-, hrelease, -⟩ := hat [Sample.claimed] Sample.requeued [] rfl
  obtain ⟨lease, hlatest, -, -, hother, -⟩ := hrelease (by decide)
  exact ⟨lease, hlatest, hother (by decide)⟩

/-- A claim is not only requeued after its lease has expired: the sample claim is requeued one second
after it was recorded. -/
theorem not_requeued_after_expiry :
    ¬∀ (H : Host) (runId : String) (events : List EventEnvelope)
      (state : VerificationLifecycleState H),
      foldVerificationLifecycle H runId events = .ok state →
      ∀ pre e post, events = pre ++ e :: post → IsKind .requeued e →
        ∃ lease, (leases H pre).getLast? = some lease ∧ lease.expiresAt ≤ e.recordedAt := by
  intro hclaim
  obtain ⟨state, h⟩ := Sample.accepted
  obtain ⟨lease, hlatest, hexpired⟩ := hclaim _ _ _ _ h [Sample.claimed] Sample.requeued [] rfl
    (by decide)
  rw [Sample.leases_claimed, List.getLast?_singleton, Option.some_inj] at hlatest
  rw [← hlatest] at hexpired
  exact absurd hexpired (by decide)

end Blackcell.Orchestration.VerificationLifecycle
