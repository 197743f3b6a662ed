import Blackcell.Orchestration.RunLifecycle.Fencing

/-!
# Provider dispatch

A node is dispatched to its provider at most once. Nothing counts dispatches: the law rests on the
guards of several events. A dispatch needs a prepared lease that was not dispatched before; a
dispatched lease is not requeued; and a node that left the active state in another way is never
pending again, so it is not claimed again.

## Main definitions

* `StatusInv` : a node is occupied exactly while the active lease is on it.
* `PreparedInv` : the active lease is prepared only after its `node.worktree-prepared` event.
* `Dispatched` : a dispatched node still holds its lease, or it was settled by one of four events.

## Main results

* `Dispatched.step` : what happens to a dispatched node, and what no longer does.
* `provider_dispatch_at_most_once` : the law of accepted streams.
-/

namespace Blackcell.Orchestration.RunLifecycle

open Blackcell.Kernel

/-- A node in the active state. -/
def NodeStatus.occupied : NodeStatus → Bool
  | .claimed | .running => true
  | _ => false

/-- A node that left the active state for good. -/
def NodeStatus.settled : NodeStatus → Bool
  | .succeeded | .failed | .canceled | .reconciliationRequired => true
  | _ => false

/-- The four events that settle a node. -/
def RunEventType.settles : RunEventType → Bool
  | .nodeSucceeded | .nodeFailed | .nodeCanceled | .nodeReconciliationRequired => true
  | _ => false

/-- The events that would use a node once more. -/
def RunEventType.reuses : RunEventType → Bool
  | .nodeClaimed | .nodeProviderDispatchStarted | .nodeRequeued => true
  | _ => false

theorem settled_of_release {kind : RunEventType} {status : NodeStatus} {run : RunStatus}
    (h : kind.release? = some (status, run)) (hkind : kind ≠ .nodeRequeued) :
    status.settled = true ∧ kind.settles = true := by
  cases kind <;> simp_all [RunEventType.release?] <;> obtain ⟨rfl, -⟩ := h <;> decide

theorem not_occupied_of_release {kind : RunEventType} {status : NodeStatus} {run : RunStatus}
    (h : kind.release? = some (status, run)) : status.occupied = false := by
  cases kind <;> simp_all [RunEventType.release?] <;> obtain ⟨rfl, -⟩ := h <;> rfl

theorem not_settled_of_occupied {status : NodeStatus} (h : status.occupied = true) :
    status.settled = false := by
  cases status <;> simp_all [NodeStatus.occupied, NodeStatus.settled]

/-- A node is occupied exactly while the active lease is on it. -/
structure StatusInv (s : FoldState) : Prop where
  active : ∀ lease, s.active = some lease → (s.nodes lease.nodeId).status.occupied = true
  only : ∀ k, (s.nodes k).status.occupied = true → ∃ lease, s.active = some lease ∧ lease.nodeId = k

variable {H : Host} {runId : String} {deps : NodeDependencies} {es : List EventEnvelope}
  {s s' : FoldState} {e : EventEnvelope}

theorem StatusInv.initial : StatusInv .initial where
  active lease h := by simp [FoldState.initial] at h
  only k h := by simp [FoldState.initial, NodeLifecycleState.initial, NodeStatus.occupied] at h

/-- **Step.** Every transition keeps the nodes and the active lease together. -/
theorem StatusInv.step (hI : StatusInv s) (h : Transition H deps s e s') : StatusInv s' := by
  cases h with
  | pass => exact hI
  | requestCancel => exact ⟨hI.active, hI.only⟩
  | close => exact ⟨hI.active, hI.only⟩
  | claim lease _ _ _ hactive =>
    refine ⟨fun lease' h ↦ ?_, fun k hk ↦ ⟨lease, rfl, ?_⟩⟩
    · obtain rfl : lease = lease' := Option.some.inj h
      simp [FoldState.claim, FoldState.setNode_nodes, NodeStatus.occupied]
    · by_contra hne
      rw [FoldState.claim, FoldState.setNode_nodes, if_neg (Ne.symm hne)] at hk
      obtain ⟨lease', hlease', -⟩ := hI.only k hk
      simp [hactive] at hlease'
  | prepare lease _ _ hactive =>
    refine ⟨fun lease' h ↦ ?_, fun k hk ↦ ⟨_, rfl, ?_⟩⟩
    · obtain rfl : _ = lease' := Option.some.inj h
      simp [FoldState.setStatus, FoldState.setNode_nodes, NodeStatus.occupied]
    · by_contra hne
      rw [FoldState.setStatus, FoldState.setNode_nodes, if_neg (Ne.symm hne)] at hk
      obtain ⟨lease', hlease', hnode⟩ := hI.only k hk
      obtain rfl : lease = lease' := by simpa [hactive] using hlease'
      exact hne hnode
  | dispatch lease _ _ _ _ hactive =>
    refine ⟨fun lease' h ↦ ?_, fun k hk ↦ ⟨_, rfl, ?_⟩⟩
    · obtain rfl : _ = lease' := Option.some.inj h
      exact hI.active lease hactive
    · obtain ⟨lease', hlease', hnode⟩ := hI.only k hk
      obtain rfl : lease = lease' := by simpa [hactive] using hlease'
      exact hnode
  | release kind status lease state _ hrelease _ hactive =>
    refine ⟨fun lease' h ↦ by simp at h, fun k hk ↦ ?_⟩
    rw [FoldState.setNode_nodes] at hk
    split_ifs at hk with hnode
    · simp [not_occupied_of_release hrelease] at hk
    · obtain ⟨lease', hlease', hnode'⟩ := hI.only k hk
      obtain rfl : lease = lease' := by simpa [hactive] using hlease'
      exact absurd hnode'.symm hnode
  | cleanup kind nodeId state _ _ hactive _ hstatus =>
    refine ⟨fun lease' h ↦ by simp [hactive] at h, fun k hk ↦ ?_⟩
    rw [FoldState.setNode_nodes] at hk
    split_ifs at hk with hnode
    · simp [hstatus, NodeStatus.occupied] at hk
    · exact hI.only k hk

/-- The active lease is prepared only after its `node.worktree-prepared` event. -/
def PreparedInv (es : List EventEnvelope) (s : FoldState) : Prop :=
  ∀ lease, s.active = some lease → ∃ c between, SinceClaim es c between ∧ lease.Names c ∧
    (lease.prepared = true → ∃ p ∈ between,
      runEventType? p = some .nodeWorktreePrepared ∧ lease.Names p)

theorem PreparedInv.initial : PreparedInv es .initial := by
  intro lease h
  simp [FoldState.initial] at h

/-- An event that does not move the lease keeps the events since its claim. -/
theorem PreparedInv.keep (hI : PreparedInv es s) (hmoves : ¬movesLease e)
    (hactive : s'.active = s.active) : PreparedInv (es ++ [e]) s' := by
  intro lease hlease
  obtain ⟨c, between, hopen, hnames, hprepared⟩ := hI lease (hactive ▸ hlease)
  refine ⟨c, between ++ [e], hopen.append hmoves, hnames, fun h ↦ ?_⟩
  obtain ⟨p, hp, hkind, hpnames⟩ := hprepared h
  exact ⟨p, List.mem_append_left _ hp, hkind, hpnames⟩

/-- **Step.** Every transition keeps the preparation of the active lease recorded. -/
theorem PreparedInv.step (hI : PreparedInv es s) (h : Transition H deps s e s') :
    PreparedInv (es ++ [e]) s' := by
  cases h with
  | pass hkind => exact hI.keep (not_movesLease_of_none hkind) rfl
  | requestCancel hkind => exact hI.keep (not_movesLease hkind (by decide) rfl) rfl
  | close => intro lease hlease; simp_all
  | cleanup => intro lease hlease; simp_all
  | release => intro lease hlease; simp at hlease
  | claim lease hkind _ _ _ _ hlease =>
    intro lease' h
    obtain rfl : lease = lease' := Option.some.inj h
    obtain ⟨hnames, -, -, -, -, -, hfresh, -⟩ := claimedLease_eq_ok hlease
    exact ⟨e, [], sinceClaim_append_claim hkind, hnames, by simp [hfresh]⟩
  | prepare lease hkind _ hactive hnames =>
    intro lease' h
    obtain rfl : _ = lease' := Option.some.inj h
    obtain ⟨c, between, hopen, hc, -⟩ := hI lease hactive
    exact ⟨c, between ++ [e], hopen.append (not_movesLease hkind (by decide) rfl), hc,
      fun _ ↦ ⟨e, by simp, hkind, hnames⟩⟩
  | dispatch lease _ _ hkind _ hactive _ _ _ _ hprepared =>
    intro lease' h
    obtain rfl : _ = lease' := Option.some.inj h
    obtain ⟨c, between, hopen, hc, hp⟩ := hI lease hactive
    obtain ⟨p, hmem, hpkind, hpnames⟩ := hp hprepared
    exact ⟨c, between ++ [e], hopen.append (not_movesLease hkind (by decide) rfl), hc,
      fun _ ↦ ⟨p, List.mem_append_left _ hmem, hpkind, hpnames⟩⟩

/-- A dispatched node still holds its lease, or one of the events `es` settled it. -/
def Dispatched (nodeId leaseDigest : String) (es : List EventEnvelope) (s : FoldState) : Prop :=
  (∃ lease, s.active = some lease ∧ lease.nodeId = nodeId ∧ lease.leaseDigest = leaseDigest ∧
      lease.providerDispatchEventId ≠ none) ∨
    (s.nodes nodeId).status.settled = true ∧ ∃ e ∈ es, ∃ kind, runEventType? e = some kind ∧
      kind.settles = true ∧ e.payload.get "node_id" = .str nodeId ∧
      e.payload.get "lease_digest" = .str leaseDigest

variable {nodeId leaseDigest : String}

/-- A settled node stays settled when its own state keeps its status. -/
theorem Dispatched.settle (h : Dispatched nodeId leaseDigest es s) (hidle : s.active = none)
    (hstatus : (s'.nodes nodeId).status = (s.nodes nodeId).status) :
    Dispatched nodeId leaseDigest (es ++ [e]) s' := by
  rcases h with ⟨lease, hlease, -⟩ | ⟨hsettled, e', he', hrest⟩
  · simp [hidle] at hlease
  · exact .inr ⟨by rw [hstatus, hsettled], e', List.mem_append_left _ he', hrest⟩

/-- A node with an active lease is not settled, so a dispatched one holds the dispatched lease. -/
theorem Dispatched.holds (h : Dispatched nodeId leaseDigest es s) (hI : StatusInv s)
    {lease : ActiveLease} (hactive : s.active = some lease) (hnode : lease.nodeId = nodeId) :
    lease.leaseDigest = leaseDigest ∧ lease.providerDispatchEventId ≠ none := by
  rcases h with ⟨lease', hlease', -, hdigest, hdispatch⟩ | ⟨hsettled, -⟩
  · obtain rfl : lease = lease' := by simpa [hactive] using hlease'
    exact ⟨hdigest, hdispatch⟩
  · have hopen := not_settled_of_occupied (hI.active lease hactive)
    simp [hnode, hsettled] at hopen

/-- A settled node stays settled while the lease on another node changes. -/
theorem Dispatched.other (h : Dispatched nodeId leaseDigest es s) {lease : ActiveLease}
    (hactive : s.active = some lease) (hnode : lease.nodeId ≠ nodeId)
    (hstatus : (s'.nodes nodeId).status = (s.nodes nodeId).status) :
    Dispatched nodeId leaseDigest (es ++ [e]) s' := by
  rcases h with ⟨lease', hlease', hnode', -⟩ | ⟨hsettled, e', he', hrest⟩
  · obtain rfl : lease = lease' := by simpa [hactive] using hlease'
    exact absurd hnode' hnode
  · exact .inr ⟨by rw [hstatus, hsettled], e', List.mem_append_left _ he', hrest⟩

/-- **Step.** A dispatched node stays dispatched, and no event uses it once more. -/
theorem Dispatched.step (h : Dispatched nodeId leaseDigest es s) (hI : StatusInv s)
    (ht : Transition H deps s e s') :
    Dispatched nodeId leaseDigest (es ++ [e]) s' ∧
      ∀ kind, runEventType? e = some kind → kind.reuses = true →
        e.payload.get "node_id" ≠ .str nodeId := by
  cases ht with
  | pass hkind =>
    refine ⟨h.imp_right fun ⟨hsettled, e', he', hrest⟩ ↦
      ⟨hsettled, e', List.mem_append_left _ he', hrest⟩, fun kind hkind' ↦ ?_⟩
    simp [hkind] at hkind'
  | requestCancel hkind =>
    refine ⟨h.imp_right fun ⟨hsettled, e', he', hrest⟩ ↦
      ⟨hsettled, e', List.mem_append_left _ he', hrest⟩, fun kind hkind' hreuse ↦ ?_⟩
    obtain rfl : kind = .runCancelRequested := by simpa [hkind] using hkind'.symm
    exact absurd hreuse (by decide)
  | close kind _ hkind hclose _ hactive =>
    refine ⟨h.settle hactive rfl, fun kind' hkind' hreuse ↦ ?_⟩
    obtain rfl : kind = kind' := by simpa [hkind] using hkind'
    cases kind <;> first | exact absurd hreuse (by decide) | simp [RunEventType.close?] at hclose
  | cleanup kind k state hkind hcleanup hactive hsucceeded hstatus =>
    refine ⟨h.settle hactive ?_, fun kind' hkind' hreuse ↦ ?_⟩
    · rw [FoldState.setNode_nodes]
      split_ifs with hk
      · rw [hstatus, hk, hsucceeded]
      · rfl
    · obtain rfl : kind = kind' := by simpa [hkind] using hkind'
      cases kind <;> first | exact absurd hreuse (by decide) | exact absurd hcleanup (by decide)
  | claim lease hkind _ _ hactive _ hlease hpending =>
    -- The claimed node is pending, so it is not the settled one.
    have hnode : lease.nodeId ≠ nodeId := by
      rintro rfl
      rcases h with ⟨lease', hlease', -⟩ | ⟨hsettled, -⟩
      · simp [hactive] at hlease'
      · simp [hpending, NodeStatus.settled] at hsettled
    refine ⟨h.settle hactive ?_, fun _ _ _ hnames ↦ ?_⟩
    · rw [FoldState.claim, FoldState.setNode_nodes, if_neg (Ne.symm hnode)]
    · rw [(claimedLease_eq_ok hlease).1.1, JsonValue.str.injEq] at hnames
      exact hnode hnames
  | prepare lease hkind _ hactive =>
    refine ⟨?_, fun kind hkind' hreuse ↦ ?_⟩
    · by_cases hnode : lease.nodeId = nodeId
      · obtain ⟨hdigest, hdispatch⟩ := h.holds hI hactive hnode
        exact .inl ⟨_, rfl, hnode, hdigest, hdispatch⟩
      · refine h.other hactive hnode ?_
        rw [FoldState.setStatus, FoldState.setNode_nodes, if_neg (Ne.symm hnode)]
    · obtain rfl : kind = .nodeWorktreePrepared := by simpa [hkind] using hkind'.symm
      exact absurd hreuse (by decide)
  | dispatch lease _ _ hkind _ hactive hnames _ _ _ _ _ hfresh =>
    have hnode : lease.nodeId ≠ nodeId := fun hnode ↦ (h.holds hI hactive hnode).2 hfresh
    refine ⟨h.other hactive hnode rfl, fun _ _ _ hsame ↦ ?_⟩
    rw [hnames.1, JsonValue.str.injEq] at hsame
    exact hnode hsame
  | release kind _ lease state hkind hrelease _ hactive hnames _ _ _ _ hfresh =>
    by_cases hnode : lease.nodeId = nodeId
    · -- The dispatched lease itself is released, and it is not requeued.
      obtain ⟨hdigest, hdispatch⟩ := h.holds hI hactive hnode
      have hkeep : kind ≠ .nodeRequeued := fun hrequeued ↦ hdispatch (hfresh hrequeued)
      obtain ⟨hsettled, hsettles⟩ := settled_of_release hrelease hkeep
      refine ⟨.inr ⟨by simp [FoldState.setNode_nodes, hnode, hsettled], e, by simp, kind, hkind,
        hsettles, by rw [hnames.1, hnode], by rw [hnames.2, hdigest]⟩, fun kind' hkind' hreuse ↦ ?_⟩
      obtain rfl : kind = kind' := by simpa [hkind] using hkind'
      cases kind <;> first | exact absurd hreuse (by decide) | exact absurd hsettles (by decide)
    · refine ⟨h.other hactive hnode ?_, fun _ _ _ hsame ↦ ?_⟩
      · simp [FoldState.setNode_nodes, Ne.symm hnode]
      · rw [hnames.1, JsonValue.str.injEq] at hsame
        exact hnode hsame

/-- After a dispatch the dispatched lease is active, and it was prepared since its claim. -/
theorem PreparedInv.dispatched (hI : PreparedInv es s) (h : Transition H deps s e s')
    (hkind : runEventType? e = some .nodeProviderDispatchStarted) :
    ∃ nodeId leaseDigest, e.payload.get "node_id" = .str nodeId ∧
      e.payload.get "lease_digest" = .str leaseDigest ∧ Dispatched nodeId leaseDigest [] s' ∧
      ∃ c between p, SinceClaim es c between ∧ p ∈ between ∧
        runEventType? p = some .nodeWorktreePrepared ∧ SameLease c e ∧ SameLease p e := by
  cases h with
  | dispatch lease _ _ _ _ hactive hnames _ _ _ hprepared =>
    obtain ⟨c, between, hopen, hc, hp⟩ := hI lease hactive
    obtain ⟨p, hmem, hpkind, hpnames⟩ := hp hprepared
    exact ⟨lease.nodeId, lease.leaseDigest, hnames.1, hnames.2,
      .inl ⟨_, rfl, rfl, rfl, by simp⟩, c, between, p, hopen, hmem, hpkind,
      ⟨_, _, hc.1, hnames.1, hc.2, hnames.2⟩, ⟨_, _, hpnames.1, hnames.1, hpnames.2, hnames.2⟩⟩
  | release kind _ _ _ hkind' hrelease =>
    obtain rfl : kind = .nodeProviderDispatchStarted := by simpa [hkind] using hkind'.symm
    simp [RunEventType.release?] at hrelease
  | cleanup kind _ _ hkind' hcleanup =>
    obtain rfl : kind = .nodeProviderDispatchStarted := by simpa [hkind] using hkind'.symm
    simp [RunEventType.isCleanup] at hcleanup
  | close kind _ hkind' hclose =>
    obtain rfl : kind = .nodeProviderDispatchStarted := by simpa [hkind] using hkind'.symm
    simp [RunEventType.close?] at hclose
  | _ => simp_all

/-- A dispatched node stays dispatched along the rest of an accepted stream, and no event of the
rest uses it once more. -/
theorem Dispatched.run {post : List EventEnvelope} (h : Dispatched nodeId leaseDigest [] s)
    (hI : StatusInv s) (hrun : History.run (observe H runId deps) s post = .ok s') :
    Dispatched nodeId leaseDigest post s' ∧ ∀ e ∈ post, ∀ kind, runEventType? e = some kind →
      kind.reuses = true → e.payload.get "node_id" ≠ .str nodeId := by
  let I (es : List EventEnvelope) (s : FoldState) : Prop :=
    StatusInv s ∧ Dispatched nodeId leaseDigest es s ∧ ∀ e ∈ es, ∀ kind,
      runEventType? e = some kind → kind.reuses = true → e.payload.get "node_id" ≠ .str nodeId
  have hkeep : ∀ es e s s', I es s → observe H runId deps s e = .ok s' → I (es ++ [e]) s' := by
    rintro es e s s' ⟨hstatus, hdispatched, hold⟩ hs
    have ht := transition_of_observe hs
    obtain ⟨hnew, hlast⟩ := hdispatched.step hstatus ht
    refine ⟨hstatus.step ht, hnew, fun e' he' ↦ ?_⟩
    rcases List.mem_append.mp he' with hmem | hmem
    · exact hold e' hmem
    · rwa [List.mem_singleton.mp hmem]
  exact (History.invariant I ⟨hI, h, by simp⟩ hkeep hrun).2

/-- The fold around a dispatch: it was prepared, and the rest of the stream keeps it. -/
theorem dispatch_history {events : List EventEnvelope} {state : RunLifecycleState}
    (h : foldRunLifecycle H runId deps events = .ok state) {pre post : List EventEnvelope}
    (hsplit : events = pre ++ e :: post)
    (hkind : runEventType? e = some .nodeProviderDispatchStarted) :
    ∃ nodeId leaseDigest s, e.payload.get "node_id" = .str nodeId ∧
      e.payload.get "lease_digest" = .str leaseDigest ∧ state.activeLease = s.active ∧
      (∃ c between p, SinceClaim pre c between ∧ p ∈ between ∧
        runEventType? p = some .nodeWorktreePrepared ∧ SameLease c e ∧ SameLease p e) ∧
      Dispatched nodeId leaseDigest post s ∧ ∀ e' ∈ post, ∀ kind, runEventType? e' = some kind →
        kind.reuses = true → e'.payload.get "node_id" ≠ .str nodeId := by
  obtain ⟨s₁, s₂, s, ⟨hprepared, hstatus⟩, ht, hpost, -, hfolds⟩ :=
    history_at (fun es s ↦ PreparedInv es s ∧ StatusInv s)
      (fun _ _ ↦ ⟨PreparedInv.initial, StatusInv.initial⟩)
      (fun _ _ _ _ hI ht ↦ ⟨hI.1.step ht, hI.2.step ht⟩) h hsplit hkind (by decide)
  obtain ⟨nodeId, leaseDigest, hnode, hdigest, hdispatched, hbefore⟩ :=
    hprepared.dispatched ht hkind
  obtain ⟨hafter, hunused⟩ := hdispatched.run (hstatus.step ht) hpost
  exact ⟨nodeId, leaseDigest, s, hnode, hdigest, hfolds.lease, hbefore, hafter, hunused⟩

/-- **At most one dispatch.** In an accepted stream a dispatch of a node follows the
`node.worktree-prepared` event of its lease, which follows the claim. No other event of the stream
dispatches the node; after the dispatch the node is neither requeued nor claimed. At the end of the
stream the dispatched lease is still active, or one of the four settling events closed it. -/
theorem provider_dispatch_at_most_once {events : List EventEnvelope} {state : RunLifecycleState}
    (h : foldRunLifecycle H runId deps events = .ok state) {pre post : List EventEnvelope}
    (hsplit : events = pre ++ e :: post)
    (hkind : runEventType? e = some .nodeProviderDispatchStarted) :
    ∃ nodeId leaseDigest, e.payload.get "node_id" = .str nodeId ∧
      e.payload.get "lease_digest" = .str leaseDigest ∧
      (∃ c between p, SinceClaim pre c between ∧ p ∈ between ∧
        runEventType? p = some .nodeWorktreePrepared ∧ SameLease c e ∧ SameLease p e) ∧
      (∀ e' ∈ pre, runEventType? e' = some .nodeProviderDispatchStarted →
        e'.payload.get "node_id" ≠ .str nodeId) ∧
      (∀ e' ∈ post, ∀ kind, runEventType? e' = some kind → kind.reuses = true →
        e'.payload.get "node_id" ≠ .str nodeId) ∧
      ((∃ lease, state.activeLease = some lease ∧ lease.nodeId = nodeId ∧
          lease.leaseDigest = leaseDigest) ∨
        ∃ e' ∈ post, ∃ kind, runEventType? e' = some kind ∧ kind.settles = true ∧
          e'.payload.get "node_id" = .str nodeId ∧
          e'.payload.get "lease_digest" = .str leaseDigest) := by
  obtain ⟨nodeId, leaseDigest, s, hnode, hdigest, hactive, hbefore, hafter, hunused⟩ :=
    dispatch_history h hsplit hkind
  refine ⟨nodeId, leaseDigest, hnode, hdigest, hbefore, fun e' he' hkind' hsame ↦ ?_, hunused, ?_⟩
  · -- An earlier dispatch of the node would forbid this one.
    obtain ⟨pre₁, pre₂, rfl⟩ := List.append_of_mem he'
    obtain ⟨nodeId', -, -, hnode', -, -, -, -, hunused'⟩ :=
      dispatch_history h (by simpa using hsplit : events = pre₁ ++ e' :: (pre₂ ++ e :: post)) hkind'
    obtain rfl : nodeId' = nodeId := by simpa [hnode'] using hsame
    exact hunused' e (by simp) _ hkind (by decide) hnode
  · rcases hafter with ⟨lease, hlease, hnode', hdigest', -⟩ | ⟨-, hsettled⟩
    · exact .inl ⟨lease, by rw [hactive, hlease], hnode', hdigest'⟩
    · exact .inr hsettled

/-- The law at the dispatch of the first node of the sample stream: it is the only one, and the
node was settled afterwards. -/
theorem provider_dispatch_at_most_once_sample :
    ∃ pre e post nodeId leaseDigest, Sample.started = pre ++ e :: post ∧
      e.payload.get "node_id" = .str nodeId ∧ e.payload.get "lease_digest" = .str leaseDigest ∧
      (∀ e' ∈ pre ++ post, runEventType? e' = some .nodeProviderDispatchStarted →
        e'.payload.get "node_id" ≠ .str nodeId) := by
  obtain ⟨state, h⟩ := Sample.started_accepted
  obtain ⟨e, hsplit, hkind⟩ : ∃ e,
      Sample.started = Sample.started.take 3 ++ e :: Sample.started.drop 4 ∧
        runEventType? e = some .nodeProviderDispatchStarted := ⟨_, rfl, by decide +kernel⟩
  obtain ⟨nodeId, leaseDigest, hnode, hdigest, -, hpre, hpost, -⟩ :=
    provider_dispatch_at_most_once h hsplit hkind
  refine ⟨_, e, _, nodeId, leaseDigest, hsplit, hnode, hdigest, fun e' he' hkind' ↦ ?_⟩
  rcases List.mem_append.mp he' with hmem | hmem
  · exact hpre e' hmem hkind'
  · exact hpost e' hmem _ hkind' (by decide)

end Blackcell.Orchestration.RunLifecycle
