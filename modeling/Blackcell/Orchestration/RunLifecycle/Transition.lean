import Blackcell.Orchestration.RunLifecycle.Fold

/-!
# The transitions of a run

What an accepted event can do to the accumulated state of the fold. The seventeen branches of the
fold are seven transitions: a claim opens a lease, the lease is prepared and dispatched, a lease is
released by one of five events, a run is asked to cancel, a retained worktree is cleaned up, and
a run is closed. An event of the generated execution passes without effect. Every invariant of the
fold is derived from these cases.

## Main definitions

* `ActiveLease.Names` : an event names the node and the digest of a lease.
* `RunEventType.release?`, `RunEventType.close?` : the statuses that the releasing and the closing
  events leave behind.
* `observe` : the fold read over the complete stream, public or not.
* `Transition` : the transitions, with the guards that the fold checked.

## Main results

* `transition_of_observe` : every accepted event is one of the transitions.
-/

namespace Blackcell.Orchestration.RunLifecycle

open Blackcell.Kernel

/-- The event names the node and the digest of the lease. -/
def ActiveLease.Names (lease : ActiveLease) (e : EventEnvelope) : Prop :=
  e.payload.get "node_id" = .str lease.nodeId ∧
    e.payload.get "lease_digest" = .str lease.leaseDigest

/-- The five events that release the active lease, with the statuses of the node and of the run
after them. -/
def RunEventType.release? : RunEventType → Option (NodeStatus × RunStatus)
  | .nodeSucceeded => some (.succeeded, .queued)
  | .nodeFailed => some (.failed, .failed)
  | .nodeRequeued => some (.pending, .queued)
  | .nodeCanceled => some (.canceled, .canceling)
  | .nodeReconciliationRequired => some (.reconciliationRequired, .reconciliationRequired)
  | _ => none

/-- The event releases the active lease. -/
def RunEventType.releases (kind : RunEventType) : Bool := kind.release?.isSome

/-- The events that only the worker of the lease records, and not after the lease expired. -/
def RunEventType.byWorker : RunEventType → Bool
  | .nodeWorktreePrepared | .nodeProviderDispatchStarted | .nodeSucceeded | .nodeFailed => true
  | _ => false

/-- The four events that close a run, with the status of the run after them. -/
def RunEventType.close? : RunEventType → Option RunStatus
  | .runSucceeded => some .succeeded
  | .runFailed => some .failed
  | .runCanceled => some .canceled
  | .runReconciliationRequired => some .reconciliationRequired
  | _ => none

section

variable {H : Host} {deps : NodeDependencies}

theorem text_eq_ok {v : JsonValue} {s : String} :
    text v = .ok s ↔ v = .str s ∧ s ≠ "" ∧ s.length ≤ 256 := by
  simp only [text, Checked.bind_eq_ok, present_eq_ok, JsonValue.text?_eq_some, check_eq_ok,
    Checked.pure_eq_ok, Checked.exists_unit]
  constructor
  · rintro ⟨_, rfl, h, rfl⟩
    exact ⟨rfl, h⟩
  · rintro ⟨rfl, h⟩
    exact ⟨s, rfl, h, rfl⟩

theorem digest_eq_ok {v : JsonValue} {s : String} (h : digest H v = .ok s) : v = .str s := by
  simp only [digest, Checked.bind_eq_ok, text_eq_ok, check_eq_ok, Checked.pure_eq_ok,
    Checked.exists_unit] at h
  obtain ⟨_, ⟨rfl, -⟩, -, rfl⟩ := h
  rfl

theorem of_commit {v : JsonValue} {s : String} (h : commit H v = .ok s) : v = .str s := by
  simp only [commit, Checked.bind_eq_ok, text_eq_ok, check_eq_ok, Checked.pure_eq_ok,
    Checked.exists_unit] at h
  obtain ⟨_, ⟨rfl, -⟩, -, rfl⟩ := h
  rfl

theorem positiveInteger_eq_ok {v : JsonValue} {n : Nat} (h : positiveInteger v = .ok n) :
    v = .int n := by
  simp only [positiveInteger, Checked.bind_eq_ok, present_eq_ok, JsonValue.int?_eq_some,
    check_eq_ok, Checked.pure_eq_ok, Checked.exists_unit] at h
  obtain ⟨m, rfl, hm, rfl⟩ := h
  rw [Int.toNat_of_nonneg (by omega)]

theorem node_eq_ok {payload : Mapping} {nodeId : String} :
    node deps payload = .ok nodeId ↔
      payload.get "node_id" = .str nodeId ∧ nodeId ∈ deps.known := by
  simp only [node, Checked.bind_eq_ok, present_eq_ok, JsonValue.text?_eq_some, check_eq_ok,
    Checked.pure_eq_ok, Checked.exists_unit]
  constructor
  · rintro ⟨_, h, hk, rfl⟩
    exact ⟨h, hk⟩
  · rintro ⟨h, hk⟩
    exact ⟨nodeId, h, hk, rfl⟩

/-- A lease-scoped event names the active lease. -/
theorem activeLease_eq_ok {payload : Mapping} {active : Option ActiveLease} {prepared worker : Bool}
    {lease : ActiveLease} :
    activeLease deps payload active prepared worker = .ok lease ↔
      active = some lease ∧
        (payload.get "node_id" = .str lease.nodeId ∧
          payload.get "lease_digest" = .str lease.leaseDigest) ∧
        lease.nodeId ∈ deps.known ∧ (prepared → lease.prepared) ∧
        (worker → payload.get "principal_id" = .str lease.workerId) := by
  simp only [activeLease, Checked.bind_eq_ok, present_eq_ok, node_eq_ok, check_eq_ok,
    Checked.pure_eq_ok, Checked.exists_unit]
  constructor
  · rintro ⟨_, rfl, _, ⟨hnode, hknown⟩, rfl, hdigest, hprepared, hworker, rfl⟩
    exact ⟨rfl, ⟨hnode, hdigest⟩, hknown, hprepared, hworker⟩
  · rintro ⟨rfl, ⟨hnode, hdigest⟩, hknown, hprepared, hworker⟩
    exact ⟨lease, rfl, lease.nodeId, ⟨hnode, hknown⟩, rfl, hdigest, hprepared, hworker, rfl⟩

/-- What a claim event says about the lease that it opens. -/
theorem claimedLease_eq_ok {payload : Mapping} {lease : ActiveLease}
    (h : claimedLease H deps payload = .ok lease) :
    (payload.get "node_id" = .str lease.nodeId ∧
      payload.get "lease_digest" = .str lease.leaseDigest) ∧
    lease.nodeId ∈ deps.known ∧ payload.get "attempt" = .int lease.attempt ∧
    payload.get "fencing_token" = .int lease.fencingToken ∧
    payload.get "worker_id" = .str lease.workerId ∧
    timestamp H (payload.get "expires_at") = .ok lease.expiresAt ∧
    lease.prepared = false ∧ lease.providerDispatchEventId = none := by
  simp only [claimedLease, Checked.bind_eq_ok, node_eq_ok, text_eq_ok, Checked.pure_eq_ok] at h
  obtain ⟨_, ⟨hnode, hknown⟩, _, hattempt, _, hfence, _, ⟨hworker, -⟩, _, hdigest, _, -, _, htime,
    _, -, -, -, rfl⟩ := h
  exact ⟨⟨hnode, digest_eq_ok hdigest⟩, hknown, positiveInteger_eq_ok hattempt,
    positiveInteger_eq_ok hfence, hworker, htime, rfl, rfl⟩

end

/-! ### The transitions -/

section

variable (H : Host) (runId : String) (deps : NodeDependencies)

/-- The fold read over the complete stream: an event that is not public leaves the state. -/
def observe (s : FoldState) (e : EventEnvelope) : Except LifecycleError FoldState :=
  if isPublic e then foldEvent H runId deps s e else .ok s

/-- The transitions of the fold. The kind of the event and the guards that the fold checked are
hypotheses; the state after the event is the index. -/
inductive Transition (s : FoldState) (e : EventEnvelope) : FoldState → Prop
  | pass (hkind : runEventType? e = none) : Transition s e s
  | claim (lease : ActiveLease) (hkind : runEventType? e = some .nodeClaimed)
      (hterminal : s.terminal = false) (hcancel : s.cancellationRequested = false)
      (hactive : s.active = none) (hstatus : s.status = .queued ∨ s.status = .running)
      (hlease : claimedLease H deps e.payload = .ok lease)
      (hpending : (s.nodes lease.nodeId).status = .pending)
      (hdeps : ∀ dependency ∈ deps.of lease.nodeId, (s.nodes dependency).status = .succeeded)
      (hattempt : lease.attempt = (s.nodes lease.nodeId).attempts + 1)
      (hfence : lease.fencingToken = s.maximumFence + 1)
      (hexpiry : e.recordedAt < lease.expiresAt) :
      Transition s e (s.claim lease)
  | prepare (lease : ActiveLease) (hkind : runEventType? e = some .nodeWorktreePrepared)
      (hterminal : s.terminal = false) (hactive : s.active = some lease) (hnames : lease.Names e)
      (hknown : lease.nodeId ∈ deps.known) (hworker : e.actor = lease.workerId)
      (hexpiry : e.recordedAt ≤ lease.expiresAt) (hfresh : lease.prepared = false) :
      Transition s e
        { s.setStatus lease .running with active := some { lease with prepared := true } }
  | dispatch (lease : ActiveLease) (requestId contextDigest : String)
      (hkind : runEventType? e = some .nodeProviderDispatchStarted)
      (hterminal : s.terminal = false) (hactive : s.active = some lease) (hnames : lease.Names e)
      (hknown : lease.nodeId ∈ deps.known) (hworker : e.actor = lease.workerId)
      (hexpiry : e.recordedAt ≤ lease.expiresAt) (hprepared : lease.prepared = true)
      (hcancel : s.cancellationRequested = false) (hfresh : lease.providerDispatchEventId = none) :
      Transition s e { s with
        active := some { lease with
          prepared := true
          providerRequestId := some requestId
          providerContextDigest := some contextDigest
          providerDispatchEventId := some e.eventId } }
  | requestCancel (hkind : runEventType? e = some .runCancelRequested)
      (hterminal : s.terminal = false) (hcancel : s.cancellationRequested = false) :
      Transition s e { s with cancellationRequested := true, status := .canceling }
  | release (kind : RunEventType) (status : RunStatus) (lease : ActiveLease)
      (state : NodeLifecycleState) (hkind : runEventType? e = some kind)
      (hrelease : kind.release? = some (state.status, status))
      (hterminal : s.terminal = false) (hactive : s.active = some lease) (hnames : lease.Names e)
      (hknown : lease.nodeId ∈ deps.known)
      (hworker : kind.byWorker → e.actor = lease.workerId ∧ e.recordedAt ≤ lease.expiresAt)
      (hcancel : kind = .nodeSucceeded ∨ kind = .nodeRequeued → s.cancellationRequested = false)
      (hcanceled : kind = .nodeCanceled → s.cancellationRequested = true)
      (hfresh : kind = .nodeRequeued → lease.providerDispatchEventId = none)
      (hnodeId : state.nodeId = (s.nodes lease.nodeId).nodeId)
      (hattempts : state.attempts = (s.nodes lease.nodeId).attempts) :
      Transition s e { s.setNode lease.nodeId state with active := none, status := status }
  | cleanup (kind : RunEventType) (nodeId : String) (state : NodeLifecycleState)
      (hkind : runEventType? e = some kind) (hcleanup : kind.isCleanup = true)
      (hactive : s.active = none) (hsucceeded : (s.nodes nodeId).status = .succeeded)
      (hstatus : state.status = .succeeded)
      (hnodeId : state.nodeId = (s.nodes nodeId).nodeId)
      (hattempts : state.attempts = (s.nodes nodeId).attempts) :
      Transition s e (s.setNode nodeId state)
  | close (kind : RunEventType) (status : RunStatus) (hkind : runEventType? e = some kind)
      (hclose : kind.close? = some status) (hterminal : s.terminal = false)
      (hactive : s.active = none)
      (hsucceeded : kind = .runSucceeded →
        s.cancellationRequested = false ∧ ∀ k ∈ deps.known, (s.nodes k).status = .succeeded)
      (hfailed : kind = .runFailed → ∃ k ∈ deps.known, (s.nodes k).status = .failed)
      (hcanceled : kind = .runCanceled → s.cancellationRequested = true)
      (hreconciliation : kind = .runReconciliationRequired →
        ∃ k ∈ deps.known, (s.nodes k).status = .reconciliationRequired) :
      Transition s e { s with
        status := status
        terminal := kind ≠ .runReconciliationRequired
        reconciliationRecorded :=
          s.reconciliationRecorded || kind = .runReconciliationRequired }

end

section

variable {H : Host} {runId : String} {deps : NodeDependencies} {s s' : FoldState}
  {e : EventEnvelope}

private theorem actor_eq {w : String} (hprincipal : principal e.payload e = .ok ⟨⟩)
    (h : e.payload.get "principal_id" = .str w) : e.actor = w := by
  rw [principal, check_eq_ok, h, JsonValue.str.injEq] at hprincipal
  exact hprincipal.symm

theorem claim_transition (hkind : runEventType? e = some .nodeClaimed)
    (hterminal : s.terminal = false) (h : foldNodeClaimed H runId deps s e = .ok s') :
    Transition H deps s e s' := by
  simp only [foldNodeClaimed, Checked.bind_eq_ok, check_eq_ok, Checked.exists_unit,
    Checked.pure_eq_ok] at h
  obtain ⟨⟨hcancel, hactive, hstatus⟩, -, -, lease, hlease, ⟨hpending, hdeps⟩, hattempt, hfence,
    hexpiry, -, -, rfl⟩ := h
  exact .claim lease hkind hterminal (by simpa using hcancel) hactive hstatus hlease hpending hdeps
    hattempt hfence hexpiry

theorem prepare_transition (hkind : runEventType? e = some .nodeWorktreePrepared)
    (hterminal : s.terminal = false) (hprincipal : principal e.payload e = .ok ⟨⟩)
    (h : foldNodeWorktreePrepared H runId deps s e = .ok s') : Transition H deps s e s' := by
  simp only [foldNodeWorktreePrepared, Checked.bind_eq_ok, check_eq_ok, Checked.exists_unit,
    Checked.pure_eq_ok, activeLease_eq_ok] at h
  obtain ⟨-, -, lease, ⟨hactive, hnames, hknown, -, hworker⟩, ⟨hfresh, hexpiry⟩, _, -, -, rfl⟩ := h
  exact .prepare lease hkind hterminal hactive hnames hknown (actor_eq hprincipal (hworker trivial))
    hexpiry (by simpa using hfresh)

theorem dispatch_transition (hkind : runEventType? e = some .nodeProviderDispatchStarted)
    (hterminal : s.terminal = false) (hprincipal : principal e.payload e = .ok ⟨⟩)
    (h : foldNodeProviderDispatchStarted H runId deps s e = .ok s') : Transition H deps s e s' := by
  simp only [foldNodeProviderDispatchStarted, Checked.bind_eq_ok, check_eq_ok, Checked.exists_unit,
    Checked.pure_eq_ok, activeLease_eq_ok] at h
  obtain ⟨-, -, lease, ⟨hactive, hnames, hknown, hprepared, hworker⟩, requestId, -, contextDigest,
    -, _, -, hcancel, ⟨hexpiry, hfresh⟩, -, -, -, rfl⟩ := h
  exact .dispatch lease requestId contextDigest hkind hterminal hactive hnames hknown
    (actor_eq hprincipal (hworker trivial)) hexpiry (hprepared trivial) (by simpa using hcancel) hfresh

theorem requestCancel_transition (hkind : runEventType? e = some .runCancelRequested)
    (hterminal : s.terminal = false) (h : foldRunCancelRequested H s e = .ok s') :
    Transition H deps s e s' := by
  simp only [foldRunCancelRequested, Checked.bind_eq_ok, check_eq_ok, Checked.exists_unit,
    Checked.pure_eq_ok] at h
  obtain ⟨-, _, -, hcancel, -, -, -, _, -, rfl⟩ := h
  exact .requestCancel hkind hterminal (by simpa using hcancel)

theorem succeed_transition (hkind : runEventType? e = some .nodeSucceeded)
    (hterminal : s.terminal = false) (hprincipal : principal e.payload e = .ok ⟨⟩)
    (h : foldNodeSucceeded H runId deps s e = .ok s') : Transition H deps s e s' := by
  simp only [foldNodeSucceeded, Checked.bind_eq_ok, check_eq_ok, Checked.exists_unit,
    Checked.pure_eq_ok, activeLease_eq_ok] at h
  obtain ⟨-, -, lease, ⟨hactive, hnames, hknown, -, hworker⟩, ⟨hcancel, hexpiry⟩, _, -, _, -, -, -,
    -, -, -, _, -, -, rfl⟩ := h
  exact .release .nodeSucceeded .queued lease _ hkind rfl hterminal hactive hnames hknown
    (fun _ ↦ ⟨actor_eq hprincipal (hworker trivial), hexpiry⟩) (fun _ ↦ by simpa using hcancel)
    (by simp) (by simp) rfl rfl

theorem fail_transition (hkind : runEventType? e = some .nodeFailed)
    (hterminal : s.terminal = false) (hprincipal : principal e.payload e = .ok ⟨⟩)
    (h : foldNodeFailed H runId deps s e = .ok s') : Transition H deps s e s' := by
  simp only [foldNodeFailed, Checked.bind_eq_ok, check_eq_ok, Checked.exists_unit,
    Checked.pure_eq_ok, activeLease_eq_ok] at h
  obtain ⟨-, -, lease, ⟨hactive, hnames, hknown, -, hworker⟩, hexpiry, _, -, _, -, _, -, -, rfl⟩ := h
  exact .release .nodeFailed .failed lease _ hkind rfl hterminal hactive hnames hknown
    (fun _ ↦ ⟨actor_eq hprincipal (hworker trivial), hexpiry⟩) (by simp) (by simp) (by simp) rfl rfl

theorem requeue_transition (hkind : runEventType? e = some .nodeRequeued)
    (hterminal : s.terminal = false) (h : foldNodeRequeued H runId deps s e = .ok s') :
    Transition H deps s e s' := by
  simp only [foldNodeRequeued, Checked.bind_eq_ok, check_eq_ok, Checked.exists_unit,
    Checked.pure_eq_ok, activeLease_eq_ok] at h
  obtain ⟨-, -, lease, ⟨hactive, hnames, hknown, -, -⟩, hfresh, -, hcancel, -, rfl⟩ := h
  exact .release .nodeRequeued .queued lease _ hkind rfl hterminal hactive hnames hknown
    (by simp [RunEventType.byWorker]) (fun _ ↦ by simpa using hcancel) (by simp)
    (fun _ ↦ hfresh) rfl rfl

theorem cancel_transition (hkind : runEventType? e = some .nodeCanceled)
    (hterminal : s.terminal = false) (h : foldNodeCanceled H runId deps s e = .ok s') :
    Transition H deps s e s' := by
  simp only [foldNodeCanceled, Checked.bind_eq_ok, check_eq_ok, Checked.exists_unit,
    Checked.pure_eq_ok, activeLease_eq_ok] at h
  obtain ⟨-, -, lease, ⟨hactive, hnames, hknown, -, -⟩, _, -, hcancel, -, _, -, rfl⟩ := h
  exact .release .nodeCanceled .canceling lease _ hkind rfl hterminal hactive hnames hknown
    (by simp [RunEventType.byWorker]) (by simp) (fun _ ↦ hcancel) (by simp) rfl rfl

theorem reconcile_transition (hkind : runEventType? e = some .nodeReconciliationRequired)
    (hterminal : s.terminal = false)
    (h : foldNodeReconciliationRequired H runId deps s e = .ok s') : Transition H deps s e s' := by
  simp only [foldNodeReconciliationRequired, Checked.bind_eq_ok, check_eq_ok, Checked.exists_unit,
    Checked.pure_eq_ok, activeLease_eq_ok] at h
  obtain ⟨-, -, lease, ⟨hactive, hnames, hknown, -, -⟩, _, -, -, rfl⟩ := h
  exact .release .nodeReconciliationRequired .reconciliationRequired lease _ hkind rfl hterminal
    hactive hnames hknown (by simp [RunEventType.byWorker]) (by simp) (by simp) (by simp) rfl rfl

private theorem cleanupNode_eq_ok {payload : Mapping} {expected : WorktreeCleanupStatus}
    {nodeId : String} (h : cleanupNode deps payload s expected = .ok nodeId) :
    s.active = none ∧ (s.nodes nodeId).status = .succeeded := by
  simp only [cleanupNode, Checked.bind_eq_ok, check_eq_ok, Checked.exists_unit, Checked.pure_eq_ok] at h
  obtain ⟨_, -, ⟨hactive, hstatus, -⟩, -, -, -, -, rfl⟩ := h
  exact ⟨hactive, hstatus⟩

theorem requestCleanup_transition (hkind : runEventType? e = some .nodeWorktreeCleanupRequested)
    (h : foldNodeWorktreeCleanupRequested runId deps s e = .ok s') : Transition H deps s e s' := by
  simp only [foldNodeWorktreeCleanupRequested, Checked.bind_eq_ok, check_eq_ok, Checked.exists_unit,
    Checked.pure_eq_ok] at h
  obtain ⟨-, -, nodeId, hnode, -, -, rfl⟩ := h
  obtain ⟨hactive, hstatus⟩ := cleanupNode_eq_ok hnode
  exact .cleanup _ nodeId _ hkind rfl hactive hstatus hstatus rfl rfl

theorem cleaned_transition (hkind : runEventType? e = some .nodeWorktreeCleaned)
    (h : foldNodeWorktreeCleaned H runId deps s e = .ok s') : Transition H deps s e s' := by
  simp only [foldNodeWorktreeCleaned, Checked.bind_eq_ok, check_eq_ok, Checked.exists_unit,
    Checked.pure_eq_ok] at h
  obtain ⟨-, -, nodeId, hnode, -, -, -, rfl⟩ := h
  obtain ⟨hactive, hstatus⟩ := cleanupNode_eq_ok hnode
  exact .cleanup _ nodeId _ hkind rfl hactive hstatus hstatus rfl rfl

theorem cleanupFailed_transition (hkind : runEventType? e = some .nodeWorktreeCleanupFailed)
    (h : foldNodeWorktreeCleanupFailed runId deps s e = .ok s') : Transition H deps s e s' := by
  simp only [foldNodeWorktreeCleanupFailed, Checked.bind_eq_ok, check_eq_ok, Checked.exists_unit,
    Checked.pure_eq_ok] at h
  obtain ⟨-, -, nodeId, hnode, _, -, _, -, -, rfl⟩ := h
  obtain ⟨hactive, hstatus⟩ := cleanupNode_eq_ok hnode
  exact .cleanup _ nodeId _ hkind rfl hactive hstatus hstatus rfl rfl

private theorem checkRunClosed_eq_ok {declared : String} {retained : Bool} {u : PUnit}
    (h : checkRunClosed runId s e declared retained = .ok u) : s.active = none := by
  simp only [checkRunClosed, Checked.bind_eq_ok, check_eq_ok, Checked.exists_unit] at h
  exact h.2.2.2.2

theorem runSucceeded_transition (hkind : runEventType? e = some .runSucceeded)
    (hterminal : s.terminal = false) (h : foldRunSucceeded runId deps s e = .ok s') :
    Transition H deps s e s' := by
  simp only [foldRunSucceeded, Checked.bind_eq_ok, check_eq_ok, Checked.exists_unit,
    Checked.pure_eq_ok] at h
  obtain ⟨hclosed, hcancel, hall, rfl⟩ := h
  simpa using (.close _ _ hkind rfl hterminal
    (checkRunClosed_eq_ok hclosed) (fun _ ↦ ⟨by simpa using hcancel, hall⟩) (by simp) (by simp)
    (by simp) : Transition H deps s e _)

theorem runFailed_transition (hkind : runEventType? e = some .runFailed)
    (hterminal : s.terminal = false) (h : foldRunFailed runId deps s e = .ok s') :
    Transition H deps s e s' := by
  simp only [foldRunFailed, Checked.bind_eq_ok, check_eq_ok, Checked.exists_unit,
    Checked.pure_eq_ok] at h
  obtain ⟨hclosed, hfailed, rfl⟩ := h
  simpa using (.close _ _ hkind rfl hterminal
    (checkRunClosed_eq_ok hclosed) (by simp) (fun _ ↦ hfailed) (by simp) (by simp) :
    Transition H deps s e _)

theorem runCanceled_transition (hkind : runEventType? e = some .runCanceled)
    (hterminal : s.terminal = false) (h : foldRunCanceled runId deps s e = .ok s') :
    Transition H deps s e s' := by
  simp only [foldRunCanceled, Checked.bind_eq_ok, check_eq_ok, Checked.exists_unit,
    Checked.pure_eq_ok] at h
  obtain ⟨hclosed, hcancel, rfl⟩ := h
  simpa using (.close _ _ hkind rfl hterminal
    (checkRunClosed_eq_ok hclosed) (by simp) (by simp) (fun _ ↦ hcancel) (by simp) :
    Transition H deps s e _)

theorem runReconciliation_transition (hkind : runEventType? e = some .runReconciliationRequired)
    (hterminal : s.terminal = false)
    (h : foldRunReconciliationRequired runId deps s e = .ok s') : Transition H deps s e s' := by
  simp only [foldRunReconciliationRequired, Checked.bind_eq_ok, check_eq_ok, Checked.exists_unit,
    Checked.pure_eq_ok] at h
  obtain ⟨hclosed, hreconciliation, rfl⟩ := h
  simpa [hterminal] using (.close _ _ hkind rfl hterminal
    (checkRunClosed_eq_ok hclosed) (by simp) (by simp) (by simp) (fun _ ↦ hreconciliation) :
    Transition H deps s e _)

/-- Every public event that the fold accepts is one of the transitions. -/
theorem transition_of_foldEvent (h : foldEvent H runId deps s e = .ok s') :
    Transition H deps s e s' := by
  simp only [foldEvent, Checked.bind_eq_ok, present_eq_ok, check_eq_ok, Checked.exists_unit] at h
  obtain ⟨kind, hkind, hterminal, hprincipal, hbranch⟩ := h
  have hopen (hkeep : kind.isCleanup = false) : s.terminal = false := by
    simpa [hkeep] using hterminal
  cases kind with
  | runQueued => simp [foldBranch] at hbranch
  | nodeClaimed => exact claim_transition hkind (hopen rfl) hbranch
  | nodeWorktreePrepared => exact prepare_transition hkind (hopen rfl) hprincipal hbranch
  | nodeProviderDispatchStarted => exact dispatch_transition hkind (hopen rfl) hprincipal hbranch
  | runCancelRequested => exact requestCancel_transition hkind (hopen rfl) hbranch
  | nodeSucceeded => exact succeed_transition hkind (hopen rfl) hprincipal hbranch
  | nodeFailed => exact fail_transition hkind (hopen rfl) hprincipal hbranch
  | nodeRequeued => exact requeue_transition hkind (hopen rfl) hbranch
  | nodeCanceled => exact cancel_transition hkind (hopen rfl) hbranch
  | nodeReconciliationRequired => exact reconcile_transition hkind (hopen rfl) hbranch
  | nodeWorktreeCleanupRequested => exact requestCleanup_transition hkind hbranch
  | nodeWorktreeCleaned => exact cleaned_transition hkind hbranch
  | nodeWorktreeCleanupFailed => exact cleanupFailed_transition hkind hbranch
  | runSucceeded => exact runSucceeded_transition hkind (hopen rfl) hbranch
  | runFailed => exact runFailed_transition hkind (hopen rfl) hbranch
  | runCanceled => exact runCanceled_transition hkind (hopen rfl) hbranch
  | runReconciliationRequired => exact runReconciliation_transition hkind (hopen rfl) hbranch

/-- **Inversion.** Every event of an accepted stream is one of the transitions. -/
theorem transition_of_observe (h : observe H runId deps s e = .ok s') :
    Transition H deps s e s' := by
  by_cases hpublic : isPublic e = true
  · rw [observe, if_pos hpublic] at h
    exact transition_of_foldEvent h
  · rw [observe, if_neg hpublic, Except.ok.injEq] at h
    subst h
    exact .pass (by simpa [isPublic] using hpublic)

end

end Blackcell.Orchestration.RunLifecycle
