import Blackcell.Foundation.Acyclic
import Blackcell.Orchestration.RunLifecycle.Dependencies

/-!
# Progress and closure of a run

An open run is never stuck. When no lease is active, the conditions at the end of the stream leave
only pending and succeeded nodes, and an acyclic graph with a pending node has a pending node whose
dependencies all succeeded. A closed run stays as it is: the public events after its terminal
event record the cleanup of worktrees, and the events of the generated execution pass over it.

## Main definitions

* `ProgressInv` : what the statuses of the nodes say about the run.
* `NodeDependencies.Acyclic` : the dependency graph has no cycle.

## Main results

* `ProgressInv.exists_claimable` : an open run without a lease has a claimable node.
* `Transition.of_terminal` : the transitions of a closed run.
* `run_progress_and_closure` : both laws for accepted streams.
-/

namespace Blackcell.Orchestration.RunLifecycle

open Blackcell.Kernel

/-- The dependency graph has no cycle. -/
def NodeDependencies.Acyclic (deps : NodeDependencies) : Prop :=
  IsAcyclic fun dependency node ↦ dependency ∈ deps.of node

/-- The statuses of a closed run. -/
def RunStatus.isTerminal : RunStatus → Bool
  | .succeeded | .failed | .canceled => true
  | _ => false

/-- The three events after which a run is closed for good. -/
def RunEventType.isTerminal : RunEventType → Bool
  | .runSucceeded | .runFailed | .runCanceled => true
  | _ => false

/-- What the statuses of the nodes say about the run. -/
structure ProgressInv (es : List EventEnvelope) (s : FoldState) : Prop where
  status : StatusInv s
  names : ∀ k, (s.nodes k).nodeId = k
  canceled : ∀ k, (s.nodes k).status = .canceled → s.cancellationRequested = true
  reconciliation : ∀ k, (s.nodes k).status = .reconciliationRequired →
    s.cancellationRequested = true ∨ s.terminal = true ∨
      s.active = none ∧ s.status = .reconciliationRequired
  terminal : s.terminal = true → s.status.isTerminal = true
  closed : ∀ e ∈ es, ∀ kind, runEventType? e = some kind → kind.isTerminal = true →
    s.terminal = true

variable {H : Host} {runId : String} {deps : NodeDependencies} {es : List EventEnvelope}
  {s s' : FoldState} {e : EventEnvelope}

theorem ProgressInv.initial (h : Quiet es) : ProgressInv es .initial where
  status := StatusInv.initial
  names _ := rfl
  canceled k hk := by simp [FoldState.initial, NodeLifecycleState.initial] at hk
  reconciliation k hk := by simp [FoldState.initial, NodeLifecycleState.initial] at hk
  terminal ht := by simp [FoldState.initial] at ht
  closed e he kind hkind hterminal := by
    rcases h e he with hnone | hqueued
    · simp [hkind] at hnone
    · obtain rfl : kind = .runQueued := by simpa [hkind] using hqueued
      exact absurd hterminal (by decide)

/-- The nodes keep their names. -/
theorem names_step (hI : ∀ k, (s.nodes k).nodeId = k) (h : Transition H deps s e s') :
    ∀ k, (s'.nodes k).nodeId = k := by
  have hset {nodeId : String} {state : NodeLifecycleState}
      (hname : state.nodeId = (s.nodes nodeId).nodeId) (k : String) :
      ((s.setNode nodeId state).nodes k).nodeId = k := by
    rw [FoldState.setNode_nodes]
    split_ifs with hk
    · rw [hname, hI, hk]
    · exact hI k
  cases h with
  | claim => exact hset rfl
  | prepare => exact hset rfl
  | release _ _ _ _ _ _ _ _ _ _ _ _ _ _ hname => exact hset hname
  | cleanup _ _ _ _ _ _ _ _ hname => exact hset hname
  | _ => exact hI

/-- A canceled node belongs to a run that was asked to cancel. -/
theorem canceled_step (hI : ∀ k, (s.nodes k).status = .canceled → s.cancellationRequested = true)
    (h : Transition H deps s e s') :
    ∀ k, (s'.nodes k).status = .canceled → s'.cancellationRequested = true := by
  have hset {nodeId : String} {state : NodeLifecycleState}
      (hnew : state.status = .canceled → s.cancellationRequested = true) (k : String)
      (hk : ((s.setNode nodeId state).nodes k).status = .canceled) :
      s.cancellationRequested = true := by
    rw [FoldState.setNode_nodes] at hk
    split_ifs at hk with hnode
    · exact hnew hk
    · exact hI k hk
  cases h with
  | requestCancel => exact fun _ _ ↦ rfl
  | claim => exact hset (by simp)
  | prepare => exact hset (by simp)
  | cleanup _ _ _ _ _ _ _ hstatus => exact hset (by simp [hstatus])
  | release kind _ _ state _ hrelease _ _ _ _ _ _ hcanceled =>
    refine hset fun hstatus ↦ hcanceled ?_
    cases kind <;> simp_all [RunEventType.release?]
  | _ => exact hI

/-- A node that needs reconciliation holds the run at that status, unless the run was asked to
cancel or was closed. -/
theorem reconciliation_step
    (hI : ∀ k, (s.nodes k).status = .reconciliationRequired →
      s.cancellationRequested = true ∨ s.terminal = true ∨
        s.active = none ∧ s.status = .reconciliationRequired)
    (h : Transition H deps s e s') :
    ∀ k, (s'.nodes k).status = .reconciliationRequired →
      s'.cancellationRequested = true ∨ s'.terminal = true ∨
        s'.active = none ∧ s'.status = .reconciliationRequired := by
  intro k hk
  cases h with
  | pass => exact hI k hk
  | requestCancel => exact .inl rfl
  | claim lease _ hterminal hcancel _ hstatus =>
    -- The run can be claimed from, so no node needs reconciliation.
    rw [FoldState.claim, FoldState.setNode_nodes] at hk
    split_ifs at hk with hnode
    rcases hI k hk with h | h | ⟨-, h⟩ <;> simp_all
  | prepare lease _ hterminal hactive =>
    rw [FoldState.setStatus, FoldState.setNode_nodes] at hk
    split_ifs at hk with hnode
    rcases hI k hk with h | h | ⟨h, -⟩ <;> simp_all [FoldState.setStatus]
  | dispatch lease _ _ _ hterminal hactive =>
    rcases hI k hk with h | h | ⟨h, -⟩ <;> simp_all
  | release kind status lease state _ hrelease hterminal hactive =>
    rw [FoldState.setNode_nodes] at hk
    split_ifs at hk with hnode
    · refine .inr (.inr ⟨rfl, ?_⟩)
      cases kind <;> simp_all [RunEventType.release?]
    · rcases hI k hk with h | h | ⟨h, -⟩ <;> simp_all
  | cleanup _ _ _ _ _ _ _ hstatus =>
    rw [FoldState.setNode_nodes] at hk
    split_ifs at hk with hnode
    · simp [hstatus] at hk
    · exact hI k hk
  | close kind status _ hclose _ hactive =>
    cases kind <;> simp_all [RunEventType.close?]

/-- The three transitions of a closed run: it passes over an event, or cleans a worktree. -/
theorem Transition.of_terminal (h : Transition H deps s e s') (hterminal : s.terminal = true) :
    (∀ kind, runEventType? e = some kind → kind.isCleanup = true) ∧
      s'.terminal = true ∧ s'.status = s.status ∧
      ∀ k, (s'.nodes k).nodeId = (s.nodes k).nodeId ∧ (s'.nodes k).status = (s.nodes k).status ∧
        (s'.nodes k).attempts = (s.nodes k).attempts := by
  cases h with
  | pass hkind => exact ⟨by simp [hkind], hterminal, rfl, fun _ ↦ ⟨rfl, rfl, rfl⟩⟩
  | cleanup kind nodeId state hkind hcleanup _ hsucceeded hstatus hname hattempts =>
    refine ⟨fun kind' hkind' ↦ ?_, hterminal, rfl, fun k ↦ ?_⟩
    · obtain rfl : kind = kind' := by simpa [hkind] using hkind'
      exact hcleanup
    · rw [FoldState.setNode_nodes]
      split_ifs with hk
      · exact ⟨by rw [hname, hk], by rw [hstatus, hk, hsucceeded], by rw [hattempts, hk]⟩
      · exact ⟨rfl, rfl, rfl⟩
  | _ => simp_all

theorem terminal_step (hI : s.terminal = true → s.status.isTerminal = true)
    (h : Transition H deps s e s') : s'.terminal = true → s'.status.isTerminal = true := by
  intro hterminal
  cases hold : s.terminal with
  | true =>
    obtain ⟨-, -, hstatus, -⟩ := h.of_terminal hold
    rw [hstatus]
    exact hI hold
  | false =>
    cases h with
    | close kind status _ hclose =>
      cases kind <;> simp_all [RunEventType.close?] <;> subst hclose <;> rfl
    | _ => simp_all [FoldState.claim, FoldState.setStatus]

theorem closed_step
    (hI : ∀ e ∈ es, ∀ kind, runEventType? e = some kind → kind.isTerminal = true →
      s.terminal = true)
    (h : Transition H deps s e s') :
    ∀ e' ∈ es ++ [e], ∀ kind, runEventType? e' = some kind → kind.isTerminal = true →
      s'.terminal = true := by
  intro e' he' kind hkind hterminal
  rcases List.mem_append.mp he' with hmem | hmem
  · exact (h.of_terminal (hI e' hmem kind hkind hterminal)).2.1
  · obtain rfl : e' = e := List.mem_singleton.mp hmem
    clear hI
    cases h with
    | pass hnone => simp [hkind] at hnone
    | release kind' _ _ _ hkind' hrelease =>
      obtain rfl : kind = kind' := by simpa [hkind] using hkind'
      cases kind <;> simp_all [RunEventType.release?, RunEventType.isTerminal]
    | cleanup kind' _ _ hkind' hcleanup =>
      obtain rfl : kind = kind' := by simpa [hkind] using hkind'
      cases kind <;> simp_all [RunEventType.isCleanup, RunEventType.isTerminal]
    | close kind' _ hkind' hclose =>
      obtain rfl : kind = kind' := by simpa [hkind] using hkind'
      cases kind <;> simp_all [RunEventType.isTerminal]
    | _ => cases kind <;> simp_all [RunEventType.isTerminal]

/-- **Step.** Every transition keeps the statuses of nodes and run together. -/
theorem ProgressInv.step (hI : ProgressInv es s) (h : Transition H deps s e s') :
    ProgressInv (es ++ [e]) s' where
  status := hI.status.step h
  names := names_step hI.names h
  canceled := canceled_step hI.canceled h
  reconciliation := reconciliation_step hI.reconciliation h
  terminal := terminal_step hI.terminal h
  closed := closed_step hI.closed h

/-- A run that can end here, open and without a lease, has only pending and succeeded nodes. -/
theorem ProgressInv.pending_or_succeeded (hI : ProgressInv es s) (hend : acceptsEnd deps s)
    (hidle : s.active = none) (hopen : s.status.isTerminal = false)
    (hstatus : s.status ≠ .reconciliationRequired) :
    (∃ k ∈ deps.known, (s.nodes k).status ≠ .succeeded) ∧
      ∀ k ∈ deps.known, (s.nodes k).status = .pending ∨ (s.nodes k).status = .succeeded := by
  have hterminal : ¬s.terminal = true := fun ht ↦ by simp [hI.terminal ht] at hopen
  obtain ⟨hcancel, hunfinished, hfailed, -⟩ := hend hidle hterminal
  refine ⟨hunfinished, fun k hk ↦ ?_⟩
  have hfree : (s.nodes k).status.occupied ≠ true := fun hoccupied ↦ by
    obtain ⟨lease, hlease, -⟩ := hI.status.only k hoccupied
    simp [hidle] at hlease
  cases hnode : (s.nodes k).status with
  | pending => exact .inl rfl
  | succeeded => exact .inr rfl
  | claimed => exact absurd (by rw [hnode]; rfl) hfree
  | running => exact absurd (by rw [hnode]; rfl) hfree
  | failed => exact absurd hnode (hfailed k hk)
  | canceled => exact absurd (hI.canceled k hnode) hcancel
  | reconciliationRequired =>
    rcases hI.reconciliation k hnode with h | h | ⟨-, h⟩
    · exact absurd h hcancel
    · exact absurd h hterminal
    · exact absurd h hstatus

/-- **Progress.** An open run without a lease has a pending node whose dependencies succeeded. -/
theorem ProgressInv.exists_claimable (hI : ProgressInv es s) (hacyclic : deps.Acyclic)
    (hclosed : ∀ k ∈ deps.known, ∀ d ∈ deps.of k, d ∈ deps.known) (hend : acceptsEnd deps s)
    (hidle : s.active = none) (hopen : s.status.isTerminal = false)
    (hstatus : s.status ≠ .reconciliationRequired) :
    ∃ k ∈ deps.known, (s.nodes k).status = .pending ∧
      ∀ d ∈ deps.of k, d ∈ deps.known ∧ (s.nodes d).status = .succeeded := by
  obtain ⟨hunfinished, hall⟩ := hI.pending_or_succeeded hend hidle hopen hstatus
  obtain ⟨k, hk, hne, hmin⟩ := hacyclic.exists_minimal deps.known
    (fun k ↦ (s.nodes k).status ≠ .succeeded) hunfinished
  refine ⟨k, hk, (hall k hk).resolve_right hne, fun d hd ↦ ⟨hclosed k hk d hd, ?_⟩⟩
  exact not_not.mp (hmin d (hclosed k hk d hd) hd)

/-- The dependencies of the declared nodes are declared. -/
theorem dependencies_known {events : List EventEnvelope} {state : RunLifecycleState}
    (h : foldRunLifecycle H runId deps events = .ok state) :
    ∀ k ∈ deps.known, ∀ d ∈ deps.of k, d ∈ deps.known := by
  simp only [foldRunLifecycle, checkDependencies, Checked.bind_eq_ok, check_eq_ok,
    Checked.exists_unit] at h
  obtain ⟨-, -, -, hdeps, -⟩ := h
  exact fun k hk d hd ↦ (hdeps _ (deps.mem_entries hk)).2.2 d hd

/-- The state that a node of a run shows after the run was closed. -/
def NodeLifecycleState.outcome (node : NodeLifecycleState) : String × NodeStatus × Nat :=
  (node.nodeId, node.status, node.attempts)

/-- The fold after a terminal event: the rest of the stream keeps the outcome of the run. -/
theorem closed_history {p q events : List EventEnvelope} {state : RunLifecycleState}
    {t : EventEnvelope} {kind : RunEventType}
    (h : foldRunLifecycle H runId deps events = .ok state) (hsplit : events = p ++ q) (ht : t ∈ p)
    (hkind : runEventType? t = some kind) (hterminal : kind.isTerminal = true) :
    (∀ e ∈ q, ∀ kind', runEventType? e = some kind' → kind'.isCleanup = true) ∧
      ∃ state₁, foldRunLifecycle H runId deps p = .ok state₁ ∧ state₁.status = state.status ∧
        state₁.nodes.map NodeLifecycleState.outcome = state.nodes.map NodeLifecycleState.outcome := by
  have hpublic : p.filter isPublic ≠ [] := by
    refine List.ne_nil_of_mem (List.mem_filter.mpr ⟨ht, ?_⟩)
    simp [isPublic, hkind]
  obtain ⟨queued, rest, s₁, s, hfilter, hqueued, hfold, hrest, -, hfolds, hprefix⟩ :=
    foldRunLifecycle_append (hsplit ▸ h) hpublic
  have hI : ProgressInv p s₁ := invariant_of_run ProgressInv (fun _ ↦ ProgressInv.initial)
    (fun _ _ _ _ ↦ ProgressInv.step) hfilter hqueued hfold
  have hclosed : s₁.terminal = true := hI.closed t ht kind hkind hterminal
  -- The invariant of the rest: cleanup events only, and the outcome at the end of the prefix.
  let I (es : List EventEnvelope) (s : FoldState) : Prop :=
    s.terminal = true ∧ s.status = s₁.status ∧
      (∀ k, (s.nodes k).outcome = (s₁.nodes k).outcome) ∧
      ∀ e ∈ es, ∀ kind', runEventType? e = some kind' → kind'.isCleanup = true
  have hkeep : ∀ es e s s', I es s → observe H runId deps s e = .ok s' → I (es ++ [e]) s' := by
    rintro es e s s' ⟨hs, hstatus, hnodes, hcleanup⟩ he
    obtain ⟨hlast, hs', hstatus', hnodes'⟩ := (transition_of_observe he).of_terminal hs
    refine ⟨hs', by rw [hstatus', hstatus], fun k ↦ ?_, fun e' he' ↦ ?_⟩
    · obtain ⟨hname, hnode, hattempts⟩ := hnodes' k
      rw [← hnodes k, NodeLifecycleState.outcome, hname, hnode, hattempts]
      rfl
    · rcases List.mem_append.mp he' with hmem | hmem
      · exact hcleanup e' hmem
      · rwa [List.mem_singleton.mp hmem]
  obtain ⟨-, hstatus, hnodes, hcleanup⟩ :=
    History.invariant I ⟨hclosed, rfl, fun _ ↦ rfl, by simp⟩ hkeep hrest
  obtain ⟨state₁, hfold₁, hfolds₁⟩ := hprefix fun _ hopen ↦ absurd hclosed hopen
  refine ⟨hcleanup, state₁, hfold₁, by rw [hfolds.status, hfolds₁.status, hstatus], ?_⟩
  rw [hfolds.nodes, hfolds₁.nodes, List.map_map, List.map_map]
  exact List.map_congr_left fun k _ ↦ (hnodes k).symm

/-- A node was claimed, or nothing has happened to the nodes. -/
def ClaimedOrFresh (es : List EventEnvelope) (s : FoldState) : Prop :=
  (∃ e ∈ es, runEventType? e = some .nodeClaimed) ∨
    s.active = none ∧ ∀ k, (s.nodes k).status = .pending

theorem ClaimedOrFresh.step (hI : ClaimedOrFresh es s) (h : Transition H deps s e s') :
    ClaimedOrFresh (es ++ [e]) s' := by
  rcases hI with ⟨c, hc, hkind⟩ | ⟨hactive, hpending⟩
  · exact .inl ⟨c, List.mem_append_left _ hc, hkind⟩
  · cases h with
    | claim lease hkind => exact .inl ⟨e, by simp, hkind⟩
    | pass hkind => exact .inr ⟨hactive, hpending⟩
    | requestCancel hkind => exact .inr ⟨hactive, hpending⟩
    | close kind status hkind => exact .inr ⟨hactive, hpending⟩
    | prepare lease hkind hterminal hlease => simp [hactive] at hlease
    | dispatch lease requestId contextDigest hkind hterminal hlease => simp [hactive] at hlease
    | release kind status lease state hkind hrelease hterminal hlease => simp [hactive] at hlease
    | cleanup kind nodeId state hkind hcleanup hidle hsucceeded => simp [hpending] at hsucceeded

/-- A run that succeeded has claimed a node. -/
theorem claimed_of_succeeded {events : List EventEnvelope} {state : RunLifecycleState}
    (h : foldRunLifecycle H runId deps events = .ok state) {t : EventEnvelope} (ht : t ∈ events)
    (hkind : runEventType? t = some .runSucceeded) :
    ∃ e ∈ events, runEventType? e = some .nodeClaimed := by
  obtain ⟨pre, post, hsplit⟩ := List.append_of_mem ht
  obtain ⟨s₁, s₂, -, hI, htransition, -⟩ := history_at ClaimedOrFresh
    (fun _ _ ↦ .inr ⟨rfl, fun _ ↦ rfl⟩) (fun _ _ _ _ ↦ ClaimedOrFresh.step) h hsplit hkind
    (by decide)
  rcases hI with ⟨c, hc, hclaimed⟩ | ⟨-, hpending⟩
  · exact ⟨c, hsplit ▸ List.mem_append_left _ hc, hclaimed⟩
  · -- The success of a run demands that all of its nodes have succeeded.
    obtain ⟨k, hk⟩ : ∃ k, k ∈ deps.known := by
      simp only [foldRunLifecycle, Checked.bind_eq_ok, check_eq_ok, Checked.exists_unit] at h
      obtain ⟨⟨name, dependencies⟩, hentry⟩ := List.exists_mem_of_ne_nil _ h.1.2
      exact ⟨name, (deps.mem_known).mpr (List.mem_map_of_mem hentry)⟩
    have hsucceeded : ∀ k ∈ deps.known, (s₁.nodes k).status = .succeeded := by
      cases htransition with
      | close kind status hclose hstatus hterminal hactive hsucceeded =>
        exact (hsucceeded (Option.some.inj (hclose.symm.trans hkind))).2
      | release kind status lease state hrelease hstatus =>
        obtain rfl := Option.some.inj (hrelease.symm.trans hkind)
        simp [RunEventType.release?] at hstatus
      | cleanup kind nodeId state hcleanup hiscleanup =>
        obtain rfl := Option.some.inj (hcleanup.symm.trans hkind)
        simp [RunEventType.isCleanup] at hiscleanup
      | _ => simp_all
    simpa [hpending k] using hsucceeded k hk

/-- **No stuck run, and closure.** In an accepted stream of an acyclic run whose folded status is
neither terminal nor `reconciliation-required` and which has no active lease, some pending node has
only succeeded dependencies. After `run.succeeded`, `run.failed` or `run.canceled` every public
event records a worktree cleanup; each prefix that contains the terminal event is accepted, and it
folds to the same run status, node statuses and attempts as the complete stream. -/
theorem run_progress_and_closure (hacyclic : deps.Acyclic) {events : List EventEnvelope}
    {state : RunLifecycleState} (h : foldRunLifecycle H runId deps events = .ok state) :
    (state.status.isTerminal = false → state.status ≠ .reconciliationRequired →
      state.activeLease = none →
      ∃ node ∈ state.nodes, node.status = .pending ∧ ∀ dependency ∈ deps.of node.nodeId,
        ∃ node' ∈ state.nodes, node'.nodeId = dependency ∧ node'.status = .succeeded) ∧
    ∀ pre t post kind, events = pre ++ t :: post → runEventType? t = some kind →
      kind.isTerminal = true →
      (∀ e ∈ post, ∀ kind', runEventType? e = some kind' → kind'.isCleanup = true) ∧
      ∀ post₁ post₂, post = post₁ ++ post₂ →
        ∃ state₁, foldRunLifecycle H runId deps (pre ++ t :: post₁) = .ok state₁ ∧
          state₁.status = state.status ∧ state₁.nodes.map NodeLifecycleState.outcome =
            state.nodes.map NodeLifecycleState.outcome := by
  refine ⟨fun hopen hstatus hidle ↦ ?_, fun pre t post kind hsplit hkind hterminal ↦ ⟨?_, ?_⟩⟩
  · obtain ⟨s, hI, hend, hfolds⟩ := history_end ProgressInv (fun _ ↦ ProgressInv.initial)
      (fun _ _ _ _ ↦ ProgressInv.step) h
    rw [hfolds.status] at hopen hstatus
    rw [hfolds.lease] at hidle
    obtain ⟨k, hk, hpending, hdeps⟩ := hI.exists_claimable hacyclic (dependencies_known h) hend
      hidle hopen hstatus
    rw [hfolds.nodes]
    refine ⟨s.nodes k, List.mem_map_of_mem hk, hpending, fun d hd ↦ ?_⟩
    rw [hI.names] at hd
    obtain ⟨hknown, hsucceeded⟩ := hdeps d hd
    exact ⟨s.nodes d, List.mem_map_of_mem hknown, hI.names d, hsucceeded⟩
  · exact (closed_history (p := pre ++ [t]) h (by simpa using hsplit) (by simp) hkind hterminal).1
  · rintro post₁ post₂ rfl
    exact (closed_history (p := pre ++ t :: post₁) h (by simpa using hsplit) (by simp) hkind
      hterminal).2

namespace Sample

/-- `run.cancel-requested`. -/
def cancelRequested : Entry := ⟨"cancel-requested", runtimeEventSource, "run.cancel-requested",
  "user-1", [("principal_id", .str "user-1"), ("request", .object cancelRequest),
    ("request_digest", .str (host.jsonDigest (.object cancelRequest))),
    ("status", .str "cancel-requested")]⟩

/-- An event of the generated execution on the stream of the run. -/
def taskReady : Entry := ⟨"task-ready", executionEventSource, "execution.task.ready", "worker-1",
  [("task_id", .str "task-1"), ("attempt", .int 1)]⟩

/-- A canceled run, followed by an event of the generated execution. -/
def canceled : List EventEnvelope :=
  stream 1 none [queued, cancelRequested, closed .runCanceled "canceled" false, taskReady]

theorem canceled_accepted :
    ∃ state, foldRunLifecycle host "run-1" dependencies canceled = .ok state := by
  have h : (foldRunLifecycle host "run-1" dependencies canceled).isOk = true := by
    decide +kernel
  exact Checked.exists_of_isOk h

theorem dependencies_acyclic : dependencies.Acyclic := by
  -- Only `check` has a dependency, and it is not a dependency itself.
  have hof : ∀ a b, a ∈ dependencies.of b → a = "build" ∧ b = "check" := by
    intro a b h
    by_cases hb : b = "build"
    · subst hb
      simp [NodeDependencies.of, dependencies] at h
    · by_cases hc : b = "check"
      · subst hc
        exact ⟨by simpa [NodeDependencies.of, dependencies, List.lookup_cons] using h, rfl⟩
      · simp [NodeDependencies.of, dependencies, List.lookup_cons, beq_eq_false_iff_ne.mpr hb,
          beq_eq_false_iff_ne.mpr hc] at h
  intro a h
  obtain ⟨b, hab, -⟩ := Relation.TransGen.head'_iff.mp h
  obtain ⟨c, -, hca⟩ := Relation.TransGen.tail'_iff.mp h
  have hbuild := (hof _ _ hab).1
  have hcheck := (hof _ _ hca).2
  rw [hbuild] at hcheck
  exact absurd hcheck (by decide)

end Sample

/-- Both laws on the sample streams: the canceled run is closed at `run.canceled`. -/
theorem run_progress_and_closure_sample :
    ∃ state, foldRunLifecycle Sample.host "run-1" Sample.dependencies Sample.canceled = .ok state ∧
      ∃ state₁, foldRunLifecycle Sample.host "run-1" Sample.dependencies
        (Sample.canceled.take 3) = .ok state₁ ∧ state₁.status = state.status := by
  obtain ⟨state, h⟩ := Sample.canceled_accepted
  obtain ⟨-, hclosed⟩ := run_progress_and_closure Sample.dependencies_acyclic h
  obtain ⟨-, hprefix⟩ := hclosed (Sample.canceled.take 2) _ (Sample.canceled.drop 3) .runCanceled
    rfl (by decide +kernel) rfl
  obtain ⟨state₁, hfold, hstatus, -⟩ := hprefix [] (Sample.canceled.drop 3) rfl
  exact ⟨state, h, state₁, hfold, hstatus⟩

/-- Not every event after a terminal event is a worktree cleanup: a stream is also accepted when
an event of the generated execution follows `run.canceled`. -/
theorem not_only_cleanup_after_terminal :
    ¬∀ (H : Host) (runId : String) (deps : NodeDependencies) (events : List EventEnvelope)
      (state : RunLifecycleState), deps.Acyclic →
      foldRunLifecycle H runId deps events = .ok state →
      ∀ pre t post kind, events = pre ++ t :: post → runEventType? t = some kind →
        kind.isTerminal = true →
        ∀ e ∈ post, ∃ kind', runEventType? e = some kind' ∧ kind'.isCleanup = true := by
  intro hclaim
  obtain ⟨state, h⟩ := Sample.canceled_accepted
  obtain ⟨kind, hkind, -⟩ := hclaim Sample.host "run-1" Sample.dependencies Sample.canceled state
    Sample.dependencies_acyclic h (Sample.canceled.take 2) _ (Sample.canceled.drop 3) .runCanceled
    rfl (by decide +kernel) rfl _ List.mem_cons_self
  exact absurd hkind (by decide +kernel +revert)

end Blackcell.Orchestration.RunLifecycle
