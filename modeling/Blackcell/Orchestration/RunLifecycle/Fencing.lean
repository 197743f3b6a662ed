import Blackcell.Orchestration.RunLifecycle.Trace

/-!
# Fencing of the public run stream

A claim opens a lease on one node, with the next fencing token. Until an event closes it, no other
claim is accepted, and every event about a lease names that claim. The invariant relates the lease
that the fold holds to the claim that is open in the stream, and the two counters of the fold to
the numbers of claims.

## Main definitions

* `LeaseInv` : the invariant.
* `SameLease`, `RecordedByClaimant` : two events about one lease, by the claiming worker in time.

## Main results

* `LeaseInv.step` : every transition keeps the invariant.
* `run_stream_fencing` : the fencing law of accepted streams.
-/

namespace Blackcell.Orchestration.RunLifecycle

open Blackcell.Kernel

/-- The events about an open lease: they prepare it, dispatch it or close it. -/
def RunEventType.leaseScoped (kind : RunEventType) : Bool :=
  kind = .nodeWorktreePrepared || kind = .nodeProviderDispatchStarted || kind.releases

/-- Two events name one node and one lease digest. -/
def SameLease (c e : EventEnvelope) : Prop :=
  ∃ nodeId leaseDigest,
    c.payload.get "node_id" = .str nodeId ∧ e.payload.get "node_id" = .str nodeId ∧
    c.payload.get "lease_digest" = .str leaseDigest ∧
    e.payload.get "lease_digest" = .str leaseDigest

/-- The worker that recorded the claim `c` recorded the event, and not after the lease expired. -/
def RecordedByClaimant (H : Host) (c e : EventEnvelope) : Prop :=
  ∃ expiresAt, c.payload.get "worker_id" = .str e.actor ∧
    timestamp H (c.payload.get "expires_at") = .ok expiresAt ∧ e.recordedAt ≤ expiresAt

/-- The claim event that a lease was opened by. -/
structure Opened (H : Host) (c : EventEnvelope) (lease : ActiveLease) : Prop where
  names : lease.Names c
  worker : c.payload.get "worker_id" = .str lease.workerId
  expiry : timestamp H (c.payload.get "expires_at") = .ok lease.expiresAt

/-- The lease of the fold is the open claim of the stream, and its counters count claims. -/
structure LeaseInv (H : Host) (es : List EventEnvelope) (s : FoldState) : Prop where
  idle : s.active = none → ∀ c between, ¬SinceClaim es c between
  held : ∀ lease, s.active = some lease → ∃ c between, SinceClaim es c between ∧ Opened H c lease
  fence : s.maximumFence = (claims es).length
  attempts : ∀ nodeId, (s.nodes nodeId).attempts = (claimsOf nodeId es).length

variable {H : Host} {runId : String} {deps : NodeDependencies} {es : List EventEnvelope}
  {s s' : FoldState} {e : EventEnvelope}

theorem LeaseInv.initial (h : Quiet es) : LeaseInv H es .initial where
  idle _ _ _ := not_sinceClaim_of_quiet h
  held lease hlease := by simp [FoldState.initial] at hlease
  fence := by simp [FoldState.initial, claims_of_quiet h]
  attempts nodeId := by
    simp [FoldState.initial, NodeLifecycleState.initial, claimsOf, claims_of_quiet h]

/-- An event that neither claims nor closes keeps the open claim, so only its lease can change. -/
theorem LeaseInv.keep (hI : LeaseInv H es s) (hmoves : ¬movesLease e)
    (hnone : s'.active = none → s.active = none)
    (hsome : ∀ lease', s'.active = some lease' → ∃ lease, s.active = some lease ∧
      ∀ c, Opened H c lease → Opened H c lease')
    (hfence : s'.maximumFence = s.maximumFence)
    (hattempts : ∀ k, (s'.nodes k).attempts = (s.nodes k).attempts) :
    LeaseInv H (es ++ [e]) s' := by
  have hclaims : claims (es ++ [e]) = claims es :=
    claims_append_of_ne fun h ↦ hmoves (movesLease_of_claim h)
  refine ⟨fun hidle c between hopen ↦ ?_, fun lease' hlease' ↦ ?_, ?_, fun k ↦ ?_⟩
  · rcases hopen.of_append with ⟨hclaim, -, -⟩ | ⟨-, between', -, hold⟩
    · exact hmoves (movesLease_of_claim hclaim)
    · exact hI.idle (hnone hidle) c between' hold
  · obtain ⟨lease, hlease, hopened⟩ := hsome lease' hlease'
    obtain ⟨c, between, hopen, hc⟩ := hI.held lease hlease
    exact ⟨c, between ++ [e], hopen.append hmoves, hopened c hc⟩
  · rw [hfence, hI.fence, hclaims]
  · rw [hattempts, hI.attempts, claimsOf, claimsOf, hclaims]

/-- An event that closes the lease leaves no claim open. -/
theorem LeaseInv.close (hI : LeaseInv H es s) {kind : RunEventType}
    (hkind : runEventType? e = some kind) (hrelease : kind.releases = true)
    (hactive : s'.active = none) (hfence : s'.maximumFence = s.maximumFence)
    (hattempts : ∀ k, (s'.nodes k).attempts = (s.nodes k).attempts) :
    LeaseInv H (es ++ [e]) s' := by
  have hclaims : claims (es ++ [e]) = claims es := by
    refine claims_append_of_ne fun h ↦ ?_
    obtain rfl : kind = .nodeClaimed := by simpa [hkind] using h
    exact absurd hrelease (by decide)
  refine ⟨fun _ c between ↦ not_sinceClaim_of_releases hkind hrelease, fun lease hlease ↦ ?_, ?_,
    fun k ↦ ?_⟩
  · simp [hactive] at hlease
  · rw [hfence, hI.fence, hclaims]
  · rw [hattempts, hI.attempts, claimsOf, claimsOf, hclaims]

/-- A claim opens the lease that it describes. -/
theorem LeaseInv.claim (hI : LeaseInv H es s) {lease : ActiveLease}
    (hkind : runEventType? e = some .nodeClaimed)
    (hlease : claimedLease H deps e.payload = .ok lease)
    (hattempt : lease.attempt = (s.nodes lease.nodeId).attempts + 1)
    (hfence : lease.fencingToken = s.maximumFence + 1) : LeaseInv H (es ++ [e]) (s.claim lease) := by
  obtain ⟨hnames, -, -, -, hworker, hexpiry, -⟩ := claimedLease_eq_ok hlease
  refine ⟨fun hidle ↦ ?_, fun lease' hlease' ↦ ?_, ?_, fun k ↦ ?_⟩
  · simp [FoldState.claim] at hidle
  · obtain rfl : lease = lease' := by simpa [FoldState.claim] using hlease'
    exact ⟨e, [], sinceClaim_append_claim hkind, hnames, hworker, hexpiry⟩
  · simp [FoldState.claim, hfence, claims_append_claim hkind, hI.fence]
  · rw [claimsOf_append_claim hkind hnames.1, ← hI.attempts]
    by_cases hk : k = lease.nodeId
    · simp [FoldState.claim, FoldState.setNode_nodes, hk, hattempt]
    · simp [FoldState.claim, FoldState.setNode_nodes, hk]

/-- The attempts of all nodes, when the changed node keeps its own. -/
theorem setNode_attempts {nodeId : String} {state : NodeLifecycleState}
    (h : state.attempts = (s.nodes nodeId).attempts) (k : String) :
    ((s.setNode nodeId state).nodes k).attempts = (s.nodes k).attempts := by
  rw [FoldState.setNode_nodes]
  split_ifs with hk
  · rw [h, hk]
  · rfl

/-- **Step.** Every transition keeps the lease invariant. -/
theorem LeaseInv.step (hI : LeaseInv H es s) (h : Transition H deps s e s') :
    LeaseInv H (es ++ [e]) s' := by
  have hsame : ∀ lease', s.active = some lease' → ∃ lease, s.active = some lease ∧
      ∀ c, Opened H c lease → Opened H c lease' := fun lease' h ↦ ⟨lease', h, fun _ ↦ id⟩
  cases h with
  | pass hkind =>
    exact hI.keep (not_movesLease_of_none hkind) id hsame rfl fun _ ↦ rfl
  | claim lease hkind _ _ _ _ hlease _ _ hattempt hfence _ =>
    exact hI.claim hkind hlease hattempt hfence
  | prepare lease hkind _ hactive =>
    refine hI.keep (not_movesLease hkind (by decide) rfl) (by simp) (fun lease' hlease' ↦ ?_) rfl
      (setNode_attempts rfl)
    obtain rfl : _ = lease' := Option.some.inj hlease'
    exact ⟨lease, hactive, fun c hc ↦ ⟨hc.names, hc.worker, hc.expiry⟩⟩
  | dispatch lease _ _ hkind _ hactive =>
    refine hI.keep (not_movesLease hkind (by decide) rfl) (by simp) (fun lease' hlease' ↦ ?_) rfl
      fun _ ↦ rfl
    obtain rfl : _ = lease' := Option.some.inj hlease'
    exact ⟨lease, hactive, fun c hc ↦ ⟨hc.names, hc.worker, hc.expiry⟩⟩
  | requestCancel hkind =>
    exact hI.keep (not_movesLease hkind (by decide) rfl) id hsame rfl fun _ ↦ rfl
  | release kind status lease state hkind hrelease _ _ _ _ _ _ _ _ _ hattempts =>
    exact hI.close hkind (by simp [RunEventType.releases, hrelease]) rfl rfl
      (setNode_attempts hattempts)
  | cleanup kind nodeId state hkind hcleanup _ _ _ _ hattempts =>
    refine hI.keep (not_movesLease hkind ?_ ?_) id hsame rfl (setNode_attempts hattempts)
    · rintro rfl
      exact absurd hcleanup (by decide)
    · cases kind <;> first | rfl | exact absurd hcleanup (by decide)
  | close kind status hkind hclose =>
    refine hI.keep (not_movesLease hkind ?_ ?_) id hsame rfl fun _ ↦ rfl
    · rintro rfl
      simp [RunEventType.close?] at hclose
    · cases kind <;> first | rfl | simp [RunEventType.close?] at hclose

/-- A lease-scoped event names the open claim, and its worker recorded it if it has to. -/
theorem LeaseInv.scoped (hI : LeaseInv H es s) (h : Transition H deps s e s')
    {kind : RunEventType} (hkind : runEventType? e = some kind) (hscoped : kind.leaseScoped = true) :
    ∃ c between, SinceClaim es c between ∧ SameLease c e ∧
      (kind.byWorker = true → RecordedByClaimant H c e) := by
  have hfrom (lease : ActiveLease) (hactive : s.active = some lease) (hnames : lease.Names e)
      (hworker : kind.byWorker = true → e.actor = lease.workerId ∧ e.recordedAt ≤ lease.expiresAt) :
      ∃ c between, SinceClaim es c between ∧ SameLease c e ∧
        (kind.byWorker = true → RecordedByClaimant H c e) := by
    obtain ⟨c, between, hopen, hc⟩ := hI.held lease hactive
    refine ⟨c, between, hopen, ⟨lease.nodeId, lease.leaseDigest, hc.names.1, hnames.1, hc.names.2,
      hnames.2⟩, fun hby ↦ ?_⟩
    obtain ⟨hactor, htime⟩ := hworker hby
    exact ⟨lease.expiresAt, by rw [hc.worker, hactor], hc.expiry, htime⟩
  cases h with
  | pass hnone => simp [hkind] at hnone
  | claim _ hkind' =>
    obtain rfl : kind = .nodeClaimed := by simpa [hkind] using hkind'
    exact absurd hscoped (by decide)
  | prepare lease hkind' _ hactive hnames _ hworker hexpiry =>
    exact hfrom lease hactive hnames fun _ ↦ ⟨hworker, hexpiry⟩
  | dispatch lease _ _ hkind' _ hactive hnames _ hworker hexpiry =>
    exact hfrom lease hactive hnames fun _ ↦ ⟨hworker, hexpiry⟩
  | requestCancel hkind' =>
    obtain rfl : kind = .runCancelRequested := by simpa [hkind] using hkind'
    exact absurd hscoped (by decide)
  | release kind' _ lease _ hkind' _ _ hactive hnames _ hworker =>
    obtain rfl : kind = kind' := by simpa [hkind] using hkind'
    exact hfrom lease hactive hnames hworker
  | cleanup kind' _ _ hkind' hcleanup =>
    obtain rfl : kind = kind' := by simpa [hkind] using hkind'
    cases kind <;> first | exact absurd hscoped (by decide) | exact absurd hcleanup (by decide)
  | close kind' _ hkind' hclose =>
    obtain rfl : kind = kind' := by simpa [hkind] using hkind'
    cases kind <;> first | exact absurd hscoped (by decide) | simp [RunEventType.close?] at hclose

/-- A claim is accepted only while no claim is open, and carries the next token and attempt. -/
theorem LeaseInv.claimed (hI : LeaseInv H es s) (h : Transition H deps s e s')
    (hkind : runEventType? e = some .nodeClaimed) :
    (∀ c between, ¬SinceClaim es c between) ∧
      e.payload.get "fencing_token" = .int ((claims es).length + 1) ∧
      ∃ nodeId, e.payload.get "node_id" = .str nodeId ∧
        e.payload.get "attempt" = .int ((claimsOf nodeId es).length + 1) := by
  cases h with
  | claim lease _ _ _ hactive _ hlease _ _ hattempt hfence _ =>
    obtain ⟨⟨hnode, -⟩, -, hpayload, htoken, -⟩ := claimedLease_eq_ok hlease
    refine ⟨hI.idle hactive, ?_, lease.nodeId, hnode, ?_⟩
    · rw [htoken, hfence, hI.fence]
      rfl
    · rw [hpayload, hattempt, hI.attempts]
      rfl
  | release kind _ _ _ hkind' hrelease =>
    obtain rfl : kind = .nodeClaimed := by simpa [hkind] using hkind'.symm
    simp [RunEventType.release?] at hrelease
  | cleanup kind _ _ hkind' hcleanup =>
    obtain rfl : kind = .nodeClaimed := by simpa [hkind] using hkind'.symm
    simp [RunEventType.isCleanup] at hcleanup
  | close kind _ hkind' hclose =>
    obtain rfl : kind = .nodeClaimed := by simpa [hkind] using hkind'.symm
    simp [RunEventType.close?] at hclose
  | _ => simp_all

/-- **Fencing.** In an accepted stream a claim is recorded only while no claim is open; the `k`-th
claim carries fencing token `k`, and its attempt is the number of claims of its node so far.
Every event about a lease is recorded while a claim is open, and names the node and the lease digest
of that claim; where only the worker may record it, the claiming worker did, before the lease
expired. -/
theorem run_stream_fencing {events : List EventEnvelope} {state : RunLifecycleState}
    (h : foldRunLifecycle H runId deps events = .ok state) {pre post : List EventEnvelope}
    (hsplit : events = pre ++ e :: post) :
    (runEventType? e = some .nodeClaimed →
      (∀ c between, ¬SinceClaim pre c between) ∧
      e.payload.get "fencing_token" = .int ((claims pre).length + 1) ∧
      ∃ nodeId, e.payload.get "node_id" = .str nodeId ∧
        e.payload.get "attempt" = .int ((claimsOf nodeId pre).length + 1)) ∧
    ∀ kind, runEventType? e = some kind → kind.leaseScoped = true →
      (∃ c between, SinceClaim pre c between) ∧
      ∀ c between, SinceClaim pre c between →
        SameLease c e ∧ (kind.byWorker = true → RecordedByClaimant H c e) := by
  refine ⟨fun hkind ↦ ?_, fun kind hkind hscoped ↦ ?_⟩
  · obtain ⟨s₁, s₂, -, hI, htransition, -⟩ := history_at (LeaseInv H)
      (fun _ ↦ LeaseInv.initial) (fun _ _ _ _ ↦ LeaseInv.step) h hsplit hkind (by decide)
    exact hI.claimed htransition hkind
  · have hnew : kind ≠ .runQueued := by
      rintro rfl
      exact absurd hscoped (by decide)
    obtain ⟨s₁, s₂, -, hI, htransition, -⟩ := history_at (LeaseInv H)
      (fun _ ↦ LeaseInv.initial) (fun _ _ _ _ ↦ LeaseInv.step) h hsplit hkind hnew
    obtain ⟨c, between, hopen, hsame, hworker⟩ := hI.scoped htransition hkind hscoped
    refine ⟨⟨c, between, hopen⟩, fun c' between' hopen' ↦ ?_⟩
    obtain ⟨rfl, -⟩ := hopen.unique hopen'
    exact ⟨hsame, hworker⟩

/-- The law at the second claim of the sample stream, and at the dispatch between the claims. -/
theorem run_stream_fencing_sample :
    ∃ state, foldRunLifecycle Sample.host "run-1" Sample.dependencies Sample.started = .ok state ∧
      ∀ pre e post, Sample.started = pre ++ e :: post →
        (runEventType? e = some .nodeClaimed →
          (∀ c between, ¬SinceClaim pre c between) ∧
          e.payload.get "fencing_token" = .int ((claims pre).length + 1) ∧
          ∃ nodeId, e.payload.get "node_id" = .str nodeId ∧
            e.payload.get "attempt" = .int ((claimsOf nodeId pre).length + 1)) ∧
        ∀ kind, runEventType? e = some kind → kind.leaseScoped = true →
          (∃ c between, SinceClaim pre c between) ∧
          ∀ c between, SinceClaim pre c between →
            SameLease c e ∧ (kind.byWorker = true → RecordedByClaimant Sample.host c e) := by
  obtain ⟨state, h⟩ := Sample.started_accepted
  exact ⟨state, h, fun pre e post hsplit ↦ run_stream_fencing h hsplit⟩

end Blackcell.Orchestration.RunLifecycle
