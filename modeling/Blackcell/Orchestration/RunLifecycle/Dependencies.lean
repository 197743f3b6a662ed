import Blackcell.Orchestration.RunLifecycle.Dispatch

/-!
# Dependency order and cancellation safety

A node is claimed only after its dependencies succeeded, a run succeeds only after all of its nodes
did, and a run that was asked to cancel starts nothing more. The invariant reads the succeeded nodes
and the request to cancel back into the stream.

## Main definitions

* `RunEventType.advances` : the events that are not accepted after a request to cancel.
* `SuccessInv`, `CancelInv` : the invariants.

## Main results

* `dependency_order_and_cancellation_safety` : the law of accepted streams.
-/

namespace Blackcell.Orchestration.RunLifecycle

open Blackcell.Kernel

/-- The events that advance a run: they start, finish or repeat work, or close it as succeeded. -/
def RunEventType.advances : RunEventType → Bool
  | .nodeClaimed | .nodeProviderDispatchStarted | .nodeSucceeded | .nodeRequeued | .runSucceeded =>
    true
  | _ => false

/-- A `node.succeeded` event of the node is in the stream. -/
def RecordedSuccess (es : List EventEnvelope) (nodeId : String) : Prop :=
  ∃ e ∈ es, runEventType? e = some .nodeSucceeded ∧ e.payload.get "node_id" = .str nodeId

/-- Every succeeded node has a `node.succeeded` event. -/
def SuccessInv (es : List EventEnvelope) (s : FoldState) : Prop :=
  ∀ k, (s.nodes k).status = .succeeded → RecordedSuccess es k

/-- A request to cancel is remembered. -/
def CancelInv (es : List EventEnvelope) (s : FoldState) : Prop :=
  ∀ e ∈ es, runEventType? e = some .runCancelRequested → s.cancellationRequested = true

variable {H : Host} {runId : String} {deps : NodeDependencies} {es : List EventEnvelope}
  {s s' : FoldState} {e : EventEnvelope}

theorem RecordedSuccess.append {nodeId : String} (h : RecordedSuccess es nodeId) :
    RecordedSuccess (es ++ [e]) nodeId := by
  obtain ⟨e', he', hrest⟩ := h
  exact ⟨e', List.mem_append_left _ he', hrest⟩

theorem SuccessInv.initial : SuccessInv es .initial := by
  intro k hk
  simp [FoldState.initial, NodeLifecycleState.initial] at hk

/-- Replacing the state of a node keeps the invariant when a success is recorded. -/
theorem SuccessInv.setNode (hI : SuccessInv es s) {nodeId : String} {state : NodeLifecycleState}
    (h : state.status = .succeeded → RecordedSuccess (es ++ [e]) nodeId)
    (hnodes : s'.nodes = (s.setNode nodeId state).nodes) : SuccessInv (es ++ [e]) s' := by
  intro k hk
  rw [hnodes, FoldState.setNode_nodes] at hk
  split_ifs at hk with hnode
  · exact hnode ▸ h hk
  · exact (hI k hk).append

/-- **Step.** Every transition keeps the successes recorded. -/
theorem SuccessInv.step (hI : SuccessInv es s) (h : Transition H deps s e s') :
    SuccessInv (es ++ [e]) s' := by
  cases h with
  | pass => exact fun k hk ↦ (hI k hk).append
  | requestCancel => exact fun k hk ↦ (hI k hk).append
  | dispatch => exact fun k hk ↦ (hI k hk).append
  | close => exact fun k hk ↦ (hI k hk).append
  | claim lease => exact hI.setNode (by simp) rfl
  | prepare lease => exact hI.setNode (by simp) rfl
  | cleanup kind nodeId state _ _ _ hsucceeded =>
    exact hI.setNode (fun _ ↦ (hI nodeId hsucceeded).append) rfl
  | release kind status lease state hkind hrelease _ _ hnames =>
    refine hI.setNode (fun hsucceeded ↦ ?_) rfl
    have hkindEq : kind = .nodeSucceeded := by
      cases kind <;> simp_all [RunEventType.release?]
    exact ⟨e, by simp, hkindEq ▸ hkind, hnames.1⟩

/-- **Step.** A request to cancel is never taken back. -/
theorem CancelInv.step (hI : CancelInv es s) (h : Transition H deps s e s') :
    CancelInv (es ++ [e]) s' := by
  intro e' he' hkind'
  rcases List.mem_append.mp he' with hmem | hmem
  · have hcancel := hI e' hmem hkind'
    cases h <;> first | exact hcancel | rfl
  · obtain rfl : e' = e := List.mem_singleton.mp hmem
    cases h with
    | requestCancel => rfl
    | release kind _ _ _ hkind hrelease =>
      obtain rfl : kind = .runCancelRequested := by simpa [hkind'] using hkind.symm
      simp [RunEventType.release?] at hrelease
    | cleanup kind _ _ hkind hcleanup =>
      obtain rfl : kind = .runCancelRequested := by simpa [hkind'] using hkind.symm
      simp [RunEventType.isCleanup] at hcleanup
    | close kind _ hkind hclose =>
      obtain rfl : kind = .runCancelRequested := by simpa [hkind'] using hkind.symm
      simp [RunEventType.close?] at hclose
    | _ => simp_all

theorem CancelInv.initial (h : Quiet es) : CancelInv es .initial := by
  intro e he hkind
  rcases h e he with hnone | hqueued
  · simp [hkind] at hnone
  · simp [hkind] at hqueued

/-- A claim is accepted only when all dependencies of its node have succeeded. -/
theorem SuccessInv.claimed (hI : SuccessInv es s) (h : Transition H deps s e s')
    (hkind : runEventType? e = some .nodeClaimed) :
    ∃ nodeId ∈ deps.known, e.payload.get "node_id" = .str nodeId ∧
      ∀ dependency ∈ deps.of nodeId, RecordedSuccess es dependency := by
  cases h with
  | claim lease _ _ _ _ _ hlease _ hdeps =>
    obtain ⟨⟨hnode, -⟩, hknown, -⟩ := claimedLease_eq_ok hlease
    exact ⟨lease.nodeId, hknown, hnode, fun d hd ↦ hI d (hdeps d hd)⟩
  | release kind _ _ _ hkind' hrelease =>
    obtain rfl : kind = .nodeClaimed := by simpa [hkind] using hkind'.symm
    simp [RunEventType.release?] at hrelease
  | cleanup kind _ _ hkind' hcleanup =>
    obtain rfl : kind = .nodeClaimed := by simpa [hkind] using hkind'.symm
    simp [RunEventType.isCleanup] at hcleanup
  | close kind _ hkind' hclose =>
    obtain rfl : kind = .nodeClaimed := by simpa [hkind] using hkind'.symm
    simp [RunEventType.close?] at hclose
  | _ => simp_all

/-- A run is closed as succeeded only when all of its nodes have succeeded. -/
theorem SuccessInv.runSucceeded (hI : SuccessInv es s) (h : Transition H deps s e s')
    (hkind : runEventType? e = some .runSucceeded) :
    ∀ nodeId ∈ deps.known, RecordedSuccess es nodeId := by
  cases h with
  | close kind _ hkind' _ _ _ hsucceeded =>
    obtain rfl : kind = .runSucceeded := by simpa [hkind] using hkind'.symm
    exact fun k hk ↦ hI k ((hsucceeded rfl).2 k hk)
  | release kind _ _ _ hkind' hrelease =>
    obtain rfl : kind = .runSucceeded := by simpa [hkind] using hkind'.symm
    simp [RunEventType.release?] at hrelease
  | cleanup kind _ _ hkind' hcleanup =>
    obtain rfl : kind = .runSucceeded := by simpa [hkind] using hkind'.symm
    simp [RunEventType.isCleanup] at hcleanup
  | _ => simp_all

/-- No event that advances the run is accepted once it was asked to cancel. -/
theorem not_advances_of_cancel (h : Transition H deps s e s')
    (hcancel : s.cancellationRequested = true) {kind : RunEventType}
    (hkind : runEventType? e = some kind) : kind.advances = false := by
  cases h with
  | pass hnone => simp [hkind] at hnone
  | claim _ _ _ hopen => simp [hcancel] at hopen
  | dispatch _ _ _ _ _ _ _ _ _ _ _ hopen => simp [hcancel] at hopen
  | requestCancel _ _ hopen => simp [hcancel] at hopen
  | prepare _ hkind' =>
    obtain rfl : kind = .nodeWorktreePrepared := by simpa [hkind] using hkind'
    rfl
  | release kind' _ _ _ hkind' hrelease _ _ _ _ _ hopen =>
    obtain rfl : kind = kind' := by simpa [hkind] using hkind'
    cases kind <;> simp_all [RunEventType.release?, RunEventType.advances]
  | cleanup kind' _ _ hkind' hcleanup =>
    obtain rfl : kind = kind' := by simpa [hkind] using hkind'
    cases kind <;> simp_all [RunEventType.isCleanup, RunEventType.advances]
  | close kind' _ hkind' hclose _ _ hopen =>
    obtain rfl : kind = kind' := by simpa [hkind] using hkind'
    cases kind <;> simp_all [RunEventType.close?, RunEventType.advances]

/-- **Dependency order and cancellation safety.** In an accepted stream a node is claimed only after
a `node.succeeded` event of each of its dependencies, and `run.succeeded` is recorded only after a
`node.succeeded` event of every declared node. After `run.cancel-requested` no claim, no provider
dispatch, no node success, no requeue and no `run.succeeded` is recorded. -/
theorem dependency_order_and_cancellation_safety {events : List EventEnvelope}
    {state : RunLifecycleState} (h : foldRunLifecycle H runId deps events = .ok state)
    {pre post : List EventEnvelope} (hsplit : events = pre ++ e :: post) :
    (runEventType? e = some .nodeClaimed → ∃ nodeId ∈ deps.known,
      e.payload.get "node_id" = .str nodeId ∧
      ∀ dependency ∈ deps.of nodeId, RecordedSuccess pre dependency) ∧
    (runEventType? e = some .runSucceeded → ∀ nodeId ∈ deps.known, RecordedSuccess pre nodeId) ∧
    ((∃ c ∈ pre, runEventType? c = some .runCancelRequested) →
      ∀ kind, runEventType? e = some kind → kind.advances = false) := by
  have hat {kind : RunEventType} (hkind : runEventType? e = some kind) (hnew : kind ≠ .runQueued) :
      ∃ s₁ s₂, (SuccessInv pre s₁ ∧ CancelInv pre s₁) ∧ Transition H deps s₁ e s₂ := by
    obtain ⟨s₁, s₂, -, hI, ht, -⟩ := history_at (fun es s ↦ SuccessInv es s ∧ CancelInv es s)
      (fun _ hquiet ↦ ⟨SuccessInv.initial, CancelInv.initial hquiet⟩)
      (fun _ _ _ _ hI ht ↦ ⟨hI.1.step ht, hI.2.step ht⟩) h hsplit hkind hnew
    exact ⟨s₁, s₂, hI, ht⟩
  refine ⟨fun hkind ↦ ?_, fun hkind ↦ ?_, fun ⟨c, hc, hcancel⟩ kind hkind ↦ ?_⟩
  · obtain ⟨s₁, s₂, ⟨hI, -⟩, ht⟩ := hat hkind (by decide)
    exact hI.claimed ht hkind
  · obtain ⟨s₁, s₂, ⟨hI, -⟩, ht⟩ := hat hkind (by decide)
    exact hI.runSucceeded ht hkind
  · by_cases hnew : kind = .runQueued
    · rw [hnew]
      rfl
    · obtain ⟨s₁, s₂, ⟨-, hI⟩, ht⟩ := hat hkind hnew
      exact not_advances_of_cancel ht (hI c hc hcancel) hkind

/-- The law at the second claim of the sample stream: the first node has succeeded before it. -/
theorem dependency_order_and_cancellation_safety_sample :
    ∃ pre e, Sample.started = pre ++ [e] ∧ e.payload.get "node_id" = .str "check" ∧
      ∃ nodeId ∈ Sample.dependencies.known, e.payload.get "node_id" = .str nodeId ∧
        ∀ dependency ∈ Sample.dependencies.of nodeId, RecordedSuccess pre dependency := by
  obtain ⟨state, h⟩ := Sample.started_accepted
  obtain ⟨e, hsplit, hkind, hnode⟩ : ∃ e, Sample.started = Sample.started.take 5 ++ [e] ∧
      runEventType? e = some .nodeClaimed ∧ e.payload.get "node_id" = .str "check" :=
    ⟨_, rfl, by decide +kernel, by decide +kernel⟩
  exact ⟨_, e, hsplit, hnode, (dependency_order_and_cancellation_safety h hsplit).1 hkind⟩

end Blackcell.Orchestration.RunLifecycle
