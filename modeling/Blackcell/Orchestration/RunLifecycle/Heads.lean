import Blackcell.Orchestration.RunLifecycle.Trace

/-!
# Recorded heads

The commits that the fold of a run records. One kind of event records a head: the success of a node,
whose inspection is about the active lease and reports the head. A claim carries the specification of
the worktree, whose lease document names the claimed node.

## Main results

* `head_of_success` : what the success of a node records.
* `head_of_observe` : every other event leaves the recorded heads as they are.
* `document_of_claim` : the specification that a claim carries is for the claimed node.
-/

namespace Blackcell.Orchestration.RunLifecycle

open Blackcell.Kernel

variable {H : Host} {runId : String} {deps : NodeDependencies} {s s' : FoldState}
  {e : EventEnvelope}

/-- The recorded heads of two states are the same. -/
def SameHeads (s s' : FoldState) : Prop := ∀ k, (s'.nodes k).headCommit = (s.nodes k).headCommit

theorem SameHeads.refl (s : FoldState) : SameHeads s s := fun _ ↦ rfl

/-- Replacing the state of a node by one with the same head leaves all heads as they are. -/
theorem sameHeads_of_nodes {nodeId : String} {node : NodeLifecycleState}
    (hs' : s'.nodes = (s.setNode nodeId node).nodes)
    (hnode : node.headCommit = (s.nodes nodeId).headCommit) : SameHeads s s' := by
  intro k
  rw [hs', FoldState.setNode_nodes]
  split
  · rename_i hk
    rw [hk, hnode]
  · rfl

/-- The seventeen branches but one leave the recorded heads as they are. -/
theorem ensures_sameHeads {kind : RunEventType} (hkind : kind ≠ .nodeSucceeded) :
    Checked.Ensures (SameHeads s) (foldBranch H runId deps s e kind) := by
  cases kind with
  | nodeSucceeded => exact absurd rfl hkind
  | runQueued => exact Checked.ensures_error
  | nodeReconciliationRequired =>
    unfold foldBranch foldNodeReconciliationRequired
    repeat refine Checked.ensures_bind fun _ _ ↦ ?_
    exact Checked.ensures_pure (sameHeads_of_nodes rfl rfl)
  | runCancelRequested =>
    unfold foldBranch foldRunCancelRequested
    repeat refine Checked.ensures_bind fun _ _ ↦ ?_
    exact Checked.ensures_pure (.refl s)
  | nodeProviderDispatchStarted =>
    unfold foldBranch foldNodeProviderDispatchStarted
    repeat refine Checked.ensures_bind fun _ _ ↦ ?_
    exact Checked.ensures_pure (.refl s)
  | runSucceeded | runFailed | runCanceled | runReconciliationRequired =>
    unfold foldBranch
    simp only [foldRunSucceeded, foldRunFailed, foldRunCanceled, foldRunReconciliationRequired]
    repeat refine Checked.ensures_bind fun _ _ ↦ ?_
    exact Checked.ensures_pure (.refl s)
  | nodeClaimed | nodeWorktreePrepared | nodeFailed | nodeRequeued | nodeCanceled
  | nodeWorktreeCleanupRequested | nodeWorktreeCleaned | nodeWorktreeCleanupFailed =>
    unfold foldBranch
    simp only [foldNodeClaimed, foldNodeWorktreePrepared, foldNodeFailed, foldNodeRequeued,
      foldNodeCanceled, foldNodeWorktreeCleanupRequested, foldNodeWorktreeCleaned,
      foldNodeWorktreeCleanupFailed]
    repeat refine Checked.ensures_bind fun _ _ ↦ ?_
    exact Checked.ensures_pure (sameHeads_of_nodes rfl rfl)

/-- An accepted public event is accepted by its branch. -/
theorem branch_of_observe {kind : RunEventType} (hkind : runEventType? e = some kind)
    (h : observe H runId deps s e = .ok s') : foldBranch H runId deps s e kind = .ok s' := by
  rw [observe, if_pos (by simp [isPublic, hkind])] at h
  simp only [foldEvent, Checked.bind_eq_ok, present_eq_ok, hkind, Option.some.injEq,
    exists_eq_left', Checked.exists_unit] at h
  exact h.2.2

/-- **Other events.** An event that is not the success of a node leaves the recorded heads as they
are. -/
theorem head_of_observe (hkind : runEventType? e ≠ some .nodeSucceeded)
    (h : observe H runId deps s e = .ok s') : SameHeads s s' := by
  cases htype : runEventType? e with
  | none =>
    rw [observe, if_neg (by simp [isPublic, htype]), Except.ok.injEq] at h
    exact h ▸ .refl s
  | some kind =>
    have hne : kind ≠ .nodeSucceeded := fun hk ↦ hkind (hk ▸ htype)
    exact ensures_sameHeads hne s' (branch_of_observe htype h)

/-- **Success.** The success of a node records the head that an inspection of the active lease
reports, and leaves the other nodes as they are. -/
theorem head_of_success (hkind : runEventType? e = some .nodeSucceeded)
    (h : observe H runId deps s e = .ok s') :
    ∃ (lease : ActiveLease) (inspection : Mapping) (head : String), s.active = some lease ∧
      e.payload.get "inspection" = .object inspection ∧
      inspection.get "lease_digest" = .str lease.leaseDigest ∧
      inspection.get "head_commit" = .str head ∧ s'.active = none ∧
      (s'.nodes lease.nodeId).status = .succeeded ∧
      (s'.nodes lease.nodeId).headCommit = some head ∧
      (s'.nodes lease.nodeId).nodeId = (s.nodes lease.nodeId).nodeId ∧
      ∀ k, k ≠ lease.nodeId → s'.nodes k = s.nodes k := by
  have hbranch := branch_of_observe hkind h
  simp only [foldBranch, foldNodeSucceeded, inspectionOf, mapping, Checked.bind_eq_ok, check_eq_ok,
    Checked.exists_unit, Checked.pure_eq_ok, activeLease_eq_ok, present_eq_ok,
    JsonValue.fields?_eq_some] at hbranch
  obtain ⟨-, -, lease, ⟨hactive, -⟩, -, inspection, ⟨_, hinspection, -, -, hlease, -, rfl⟩, head, -,
    hhead, -, -, -, -, _, -, -, rfl⟩ := hbranch
  refine ⟨lease, _, head, hactive, hinspection, hlease, hhead, rfl, ?_, ?_, ?_, fun k hk ↦ ?_⟩
  · simp [FoldState.setNode_nodes]
  · simp [FoldState.setNode_nodes]
  · simp [FoldState.setNode_nodes]
  · simp [FoldState.setNode_nodes, hk]

/-- **Claims.** The specification that a claim carries has the lease document of the claimed node. -/
theorem document_of_claim (hkind : runEventType? e = some .nodeClaimed)
    (h : observe H runId deps s e = .ok s') :
    ∃ (lease : ActiveLease) (spec document : Mapping), s' = s.claim lease ∧ lease.Names e ∧
      e.payload.get "worktree_spec" = .object spec ∧ spec.get "lease" = .object document ∧
      document.get "node_id" = .str lease.nodeId ∧
      (s.nodes lease.nodeId).status = .pending ∧
      ∀ d ∈ deps.of lease.nodeId, (s.nodes d).status = .succeeded := by
  have hbranch := branch_of_observe hkind h
  simp only [foldBranch, foldNodeClaimed, checkLeaseDocument, mapping, Checked.bind_eq_ok,
    check_eq_ok, Checked.exists_unit, Checked.pure_eq_ok, present_eq_ok,
    JsonValue.fields?_eq_some] at hbranch
  obtain ⟨-, -, -, lease, hlease, ⟨hpending, hdeps⟩, -, -, -, -, ⟨-, document, hdocument, -, hnode,
    -⟩, rfl⟩ := hbranch
  have hnames := (claimedLease_eq_ok hlease).1
  simp only [claimedLease, mapping, Checked.bind_eq_ok, present_eq_ok, JsonValue.fields?_eq_some,
    Checked.pure_eq_ok] at hlease
  obtain ⟨_, -, _, -, _, -, _, -, _, -, _, -, _, -, spec, hspec, _, -, rfl⟩ := hlease
  exact ⟨_, spec, document, rfl, hnames, hspec, hdocument, hnode, hpending, hdeps⟩

end Blackcell.Orchestration.RunLifecycle
