import Blackcell.Orchestration.RunLifecycle.Progress

/-!
# Settled runs

What stays of a run once it has ended. The only public events of a run that has ended are about the
worktrees that it retains, and they change what the fold says about these worktrees and nothing else.

## Main definitions

* `NodeLifecycleState.settled` : a node without what is said about its worktree.

## Main results

* `settled_of_foldEvent` : one event of a run that has ended.
* `settled_history` : the stream of a run that has ended, and goes on.
* `unclaimed_history` : the nodes of a run without claims are pending.
-/

namespace Blackcell.Orchestration.RunLifecycle

open Blackcell.Kernel

/-- A node without what is said about its worktree. -/
def NodeLifecycleState.settled (node : NodeLifecycleState) : NodeLifecycleState :=
  { node with retainedWorktree := false, cleanupStatus := none, cleanupFailureCode := none }

/-- What a state says about a run that has ended. -/
structure SameSettled (s s' : FoldState) : Prop where
  status : s'.status = s.status
  cancellation : s'.cancellationRequested = s.cancellationRequested
  active : s'.active = s.active
  terminal : s'.terminal = s.terminal
  nodes : ∀ k, (s'.nodes k).settled = (s.nodes k).settled

variable {H : Host} {runId : String} {deps : NodeDependencies} {s s' s'' : FoldState}
  {e : EventEnvelope}

theorem SameSettled.refl (s : FoldState) : SameSettled s s := ⟨rfl, rfl, rfl, rfl, fun _ ↦ rfl⟩

theorem SameSettled.trans (h : SameSettled s s') (h' : SameSettled s' s'') : SameSettled s s'' where
  status := h'.status.trans h.status
  cancellation := h'.cancellation.trans h.cancellation
  active := h'.active.trans h.active
  terminal := h'.terminal.trans h.terminal
  nodes k := (h'.nodes k).trans (h.nodes k)

/-- Replacing a node by one that differs in its worktree only. -/
theorem sameSettled_setNode {nodeId : String} {node : NodeLifecycleState}
    (hnode : node.settled = (s.nodes nodeId).settled) : SameSettled s (s.setNode nodeId node) := by
  refine ⟨rfl, rfl, rfl, rfl, fun k ↦ ?_⟩
  rw [FoldState.setNode_nodes]
  split
  · rename_i hk
    rw [hnode, hk]
  · rfl

/-- **One event.** An event of a run that has ended is about a worktree. -/
theorem settled_of_foldEvent (hterminal : s.terminal = true)
    (h : foldEvent H runId deps s e = .ok s') :
    (∀ kind, runEventType? e = some kind → kind.isCleanup = true) ∧ SameSettled s s' := by
  simp only [foldEvent, Checked.bind_eq_ok, present_eq_ok, check_eq_ok, Checked.exists_unit] at h
  obtain ⟨kind, hkind, hcleanup, -, h⟩ := h
  refine ⟨fun kind' hkind' ↦ ?_, ?_⟩
  · rw [← Option.some.inj (hkind.symm.trans hkind')]
    exact hcleanup hterminal
  · cases kind with
    | nodeWorktreeCleanupRequested =>
      simp only [foldBranch, foldNodeWorktreeCleanupRequested, Checked.bind_eq_ok, check_eq_ok,
        Checked.exists_unit, Checked.pure_eq_ok] at h
      obtain ⟨-, -, nodeId, -, -, -, rfl⟩ := h
      exact sameSettled_setNode rfl
    | nodeWorktreeCleaned =>
      simp only [foldBranch, foldNodeWorktreeCleaned, Checked.bind_eq_ok, check_eq_ok,
        Checked.exists_unit, Checked.pure_eq_ok] at h
      obtain ⟨-, -, nodeId, -, -, -, -, rfl⟩ := h
      exact sameSettled_setNode rfl
    | nodeWorktreeCleanupFailed =>
      simp only [foldBranch, foldNodeWorktreeCleanupFailed, Checked.bind_eq_ok, check_eq_ok,
        Checked.exists_unit, Checked.pure_eq_ok] at h
      obtain ⟨-, -, nodeId, -, code, -, retained, -, -, rfl⟩ := h
      exact sameSettled_setNode rfl
    | _ => exact absurd (hcleanup hterminal) (by decide)

/-- **The rest of a stream.** After a terminal event the stream goes on with events about worktrees,
and the run stays as it is but for its worktrees. -/
theorem settled_history {p q : List EventEnvelope} {state state' : RunLifecycleState}
    {t : EventEnvelope} {kind : RunEventType} (h : foldRunLifecycle H runId deps p = .ok state)
    (h' : foldRunLifecycle H runId deps (p ++ q) = .ok state') (ht : t ∈ p)
    (hkind : runEventType? t = some kind) (hterminal : kind.isTerminal = true) :
    (∀ e ∈ q, ∀ kind', runEventType? e = some kind' → kind'.isCleanup = true) ∧
      state'.status = state.status ∧
      state'.nodes.map NodeLifecycleState.settled = state.nodes.map NodeLifecycleState.settled := by
  have hpublic : p.filter isPublic ≠ [] :=
    List.ne_nil_of_mem (List.mem_filter.mpr ⟨ht, by simp [isPublic, hkind]⟩)
  obtain ⟨queued, rest, s₁, s, hfilter, hqueued, hfold, hrest, -, hfolds, hprefix⟩ :=
    foldRunLifecycle_append h' hpublic
  have hI : ProgressInv p s₁ := invariant_of_run ProgressInv (fun _ ↦ ProgressInv.initial)
    (fun _ _ _ _ ↦ ProgressInv.step) hfilter hqueued hfold
  have hclosed : s₁.terminal = true := hI.closed t ht kind hkind hterminal
  obtain ⟨state₁, hstate₁, hfolds₁⟩ := hprefix fun _ hopen ↦ absurd hclosed hopen
  obtain rfl : state₁ = state := Except.ok.inj (hstate₁.symm.trans h)
  have hrun := History.invariant
    (fun es s ↦ (∀ e ∈ es, ∀ kind', runEventType? e = some kind' → kind'.isCleanup = true) ∧
      SameSettled s₁ s) ⟨by simp, .refl s₁⟩ ?_ hrest
  · refine ⟨hrun.1, by rw [hfolds.status, hrun.2.status, hfolds₁.status], ?_⟩
    rw [hfolds.nodes, hfolds₁.nodes, List.map_map, List.map_map]
    exact List.map_congr_left fun k _ ↦ hrun.2.nodes k
  · rintro es e s s' ⟨hes, hs⟩ he
    have hcase : (∀ kind', runEventType? e = some kind' → kind'.isCleanup = true) ∧
        SameSettled s s' := by
      by_cases hpublic : isPublic e = true
      · rw [observe, if_pos hpublic] at he
        exact settled_of_foldEvent (hs.terminal.trans hclosed) he
      · rw [observe, if_neg hpublic, Except.ok.injEq] at he
        subst he
        have hnone : runEventType? e = none := by simpa [isPublic] using hpublic
        exact ⟨by simp [hnone], .refl s⟩
    refine ⟨fun x hx ↦ ?_, hs.trans hcase.2⟩
    rcases List.mem_append.mp hx with hx | hx
    · exact hes x hx
    · exact List.mem_singleton.mp hx ▸ hcase.1

/-- A run whose nodes were never claimed has no active lease, and its nodes are pending. -/
theorem unclaimed_history {events : List EventEnvelope} {state : RunLifecycleState}
    (h : foldRunLifecycle H runId deps events = .ok state)
    (hnone : ∀ e ∈ events, runEventType? e ≠ some .nodeClaimed) :
    state.activeLease = none ∧ ∀ node ∈ state.nodes, node.status = .pending := by
  obtain ⟨s, hI, -, hfolds⟩ := history_end ClaimedOrFresh (fun _ _ ↦ .inr ⟨rfl, fun _ ↦ rfl⟩)
    (fun _ _ _ _ ↦ ClaimedOrFresh.step) h
  rcases hI with ⟨c, hc, hkind⟩ | ⟨hactive, hpending⟩
  · exact absurd hkind (hnone c hc)
  · rw [hfolds.lease, hfolds.nodes]
    refine ⟨hactive, fun node hnode ↦ ?_⟩
    obtain ⟨k, -, rfl⟩ := List.mem_map.mp hnode
    exact hpending k

end Blackcell.Orchestration.RunLifecycle
