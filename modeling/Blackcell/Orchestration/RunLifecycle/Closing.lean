import Blackcell.Orchestration.RunLifecycle.Heads
import Blackcell.Orchestration.RunLifecycle.Progress

/-!
# Appending to an accepted stream

The service that appends to the stream of a run folds the longer stream first. This file says what
this fold asks of the new events, given that the stream was accepted before: they continue the
stream, its folded state accepts them one after the other, and the state after them may end a
stream. It also collects what is known of the folded state while a lease is active: nothing has gone
wrong, and only nodes that have settled retain a worktree.

## Main definitions

* `Continues` : events that continue a stream.
* `FoldsTo` : the accumulated state that an accepted stream was folded to.
* `Orderly` : the invariants of this state.

## Main results

* `foldRunLifecycle_extend` : what the fold asks of the events that continue an accepted stream.
* `FoldsTo.orderly` : an accepted stream folds to an orderly state.
-/

namespace Blackcell.Orchestration.RunLifecycle

open Blackcell.Kernel

/-! ### Extensions -/

/-- Public events of the run that continue a stream after an event. -/
def Continues (runId correlationId : String) : EventEnvelope → List EventEnvelope → Prop
  | _, [] => True
  | previous, e :: es =>
    (e.streamId = "run:" ++ runId ∧ e.streamSequence = previous.streamSequence + 1 ∧
      e.schemaVersion = 1 ∧ isPublic e = true ∧ e.correlationId = correlationId ∧
      e.causationId = some previous.eventId) ∧ Continues runId correlationId e es

section Extensions

variable {H : Host} {runId correlationId : String} {deps : NodeDependencies}
  {es fs : List EventEnvelope} {e last : EventEnvelope} {state : RunLifecycleState} {s : FoldState}

theorem Continues.all_public (h : Continues runId correlationId last fs) :
    fs.filter isPublic = fs ∧ ∀ e ∈ fs, e.correlationId = correlationId := by
  induction fs generalizing last with
  | nil => exact ⟨rfl, by simp⟩
  | cons e fs ih =>
    obtain ⟨⟨-, -, -, hpublic, hcorrelation, -⟩, hrest⟩ := h
    obtain ⟨hfilter, hall⟩ := ih hrest
    exact ⟨by rw [List.filter_cons_of_pos hpublic, hfilter],
      List.forall_mem_cons.mpr ⟨hcorrelation, hall⟩⟩

theorem Continues.streamId (h : Continues runId correlationId last fs) :
    ∀ e ∈ fs, e.streamId = "run:" ++ runId := by
  induction fs generalizing last with
  | nil => simp
  | cons e fs ih =>
    obtain ⟨⟨hstream, -⟩, hrest⟩ := h
    exact List.forall_mem_cons.mpr ⟨hstream, ih hrest⟩

theorem Continues.checkStream (h : Continues runId correlationId last fs) :
    RunLifecycle.checkStream runId (last.streamSequence + 1) fs = .ok ⟨⟩ := by
  induction fs generalizing last with
  | nil => rfl
  | cons e fs ih =>
    obtain ⟨⟨hstream, hsequence, hversion, hpublic, -, -⟩, hrest⟩ := h
    simp only [RunLifecycle.checkStream, Checked.bind_eq_ok, check_eq_ok, Checked.exists_unit]
    exact ⟨⟨hstream, hsequence, hversion, by rw [isKnown, hpublic, Bool.true_or]⟩,
      hsequence ▸ ih hrest⟩

/-- An accepted stream is numbered without gaps. -/
theorem checkStream_append_eq_ok {n : ℤ} {u : PUnit} : checkStream runId n (es ++ fs) = .ok u ↔
    checkStream runId n es = .ok u ∧ checkStream runId (n + es.length) fs = .ok u := by
  induction es generalizing n with
  | nil => simp [checkStream]
  | cons e es ih =>
    have hlength : n + ((e :: es).length : ℤ) = n + 1 + es.length := by
      rw [List.length_cons]
      omega
    simp only [List.cons_append, checkStream, Checked.bind_eq_ok, check_eq_ok, Checked.exists_unit,
      ih, hlength, and_assoc]

/-- The last event of an accepted stream has the number of the events. -/
theorem streamSequence_getLast {u : PUnit} (h : checkStream runId 1 es = .ok u)
    (hlast : es.getLast? = some e) : e.streamSequence = es.length := by
  obtain ⟨front, rfl⟩ := List.getLast?_eq_some_iff.mp hlast
  have hrest := (checkStream_append_eq_ok.mp h).2
  simp only [checkStream, Checked.bind_eq_ok, check_eq_ok, Checked.exists_unit] at hrest
  rw [hrest.1.2.1, List.length_append, List.length_singleton]
  omega

/-- The events of an accepted stream are numbered by their places. -/
theorem streamSequence_bounds {n : ℤ} {u : PUnit} (h : checkStream runId n es = .ok u) :
    ∀ e ∈ es, n ≤ e.streamSequence ∧ e.streamSequence < n + es.length := by
  induction es generalizing n with
  | nil => simp
  | cons e es ih =>
    simp only [checkStream, Checked.bind_eq_ok, check_eq_ok, Checked.exists_unit] at h
    obtain ⟨⟨-, hsequence, -⟩, hrest⟩ := h
    intro e' he'
    rw [List.length_cons]
    push_cast
    rcases List.mem_cons.mp he' with rfl | he'
    · omega
    · have hbounds := ih hrest e' he'
      omega

theorem checkStream_of_foldRunLifecycle (h : foldRunLifecycle H runId deps es = .ok state) :
    checkStream runId 1 es = .ok PUnit.unit.{1} := by
  simp only [foldRunLifecycle, Checked.bind_eq_ok, Checked.exists_unit] at h
  obtain ⟨-, _, -, -, hstream, -⟩ := h
  exact hstream

/-- The last event of an accepted stream has the number of the events. -/
theorem lastStreamSequence_of_foldRunLifecycle (h : foldRunLifecycle H runId deps es = .ok state) :
    state.lastStreamSequence = es.length := by
  have hstream := checkStream_of_foldRunLifecycle h
  simp only [foldRunLifecycle, Checked.bind_eq_ok, Checked.exists_unit, present_eq_ok] at h
  obtain ⟨-, last, hlast, -, -, h⟩ := h
  split at h
  · cases h
  · simp only [Checked.bind_eq_ok, Checked.exists_unit, Checked.pure_eq_ok] at h
    obtain ⟨-, -, -, -, s, -, -, rfl⟩ := h
    exact streamSequence_getLast hstream hlast

/-- What continues an accepted stream is new. -/
theorem not_mem_of_foldRunLifecycle (h : foldRunLifecycle H runId deps (es ++ fs) = .ok state)
    (he : e ∈ fs) : e ∉ es := by
  obtain ⟨hes, hfs⟩ := checkStream_append_eq_ok.mp (checkStream_of_foldRunLifecycle h)
  intro hmem
  have hold := streamSequence_bounds hes e hmem
  have hnew := streamSequence_bounds hfs e he
  omega

theorem checkCausation_continues (h : checkCausation es = .ok ⟨⟩) (hlast : es.getLast? = some last)
    (hfs : Continues runId correlationId last fs) : checkCausation (es ++ fs) = .ok ⟨⟩ := by
  have hchain : ∀ (previous : EventEnvelope) (fs : List EventEnvelope),
      Continues runId correlationId previous fs → checkCausation (previous :: fs) = .ok ⟨⟩ := by
    intro previous fs
    induction fs generalizing previous with
    | nil => exact fun _ ↦ rfl
    | cons e fs ih =>
      rintro ⟨⟨-, -, -, -, -, hcause⟩, hrest⟩
      simp only [checkCausation, Checked.bind_eq_ok, check_eq_ok, Checked.exists_unit]
      exact ⟨hcause, ih e hrest⟩
  induction es with
  | nil => cases hlast
  | cons e es ih =>
    cases es with
    | nil =>
      obtain rfl : e = last := by simpa using hlast
      exact hchain e fs hfs
    | cons e' es =>
      simp only [checkCausation, Checked.bind_eq_ok, check_eq_ok, Checked.exists_unit] at h
      simp only [List.cons_append, checkCausation, Checked.bind_eq_ok, check_eq_ok,
        Checked.exists_unit]
      exact ⟨h.1, ih h.2 (by simpa using hlast)⟩

/-- The state that an accepted stream was folded to. -/
structure FoldsTo (H : Host) (runId : String) (deps : NodeDependencies) (es : List EventEnvelope)
    (state : RunLifecycleState) (s : FoldState) : Prop where
  folds : Folds deps s state
  queued : ∃ queued rest, es.filter isPublic = queued :: rest ∧ state.queuedEvent = queued ∧
    runEventType? queued = some .runQueued ∧
    History.run (foldEvent H runId deps) .initial rest = .ok s
  last : ∃ last, es.getLast? = some last ∧ state.lastStreamSequence = last.streamSequence

/-- **Extensions.** The fold of an accepted stream that is continued asks that its state accepts the
new events, and that the state after them may end a stream. -/
theorem foldRunLifecycle_extend (h : foldRunLifecycle H runId deps es = .ok state) :
    ∃ s, FoldsTo H runId deps es state s ∧ acceptsEnd deps s ∧ ∀ last, es.getLast? = some last →
      ∀ fs, Continues runId state.queuedEvent.correlationId last fs → ∀ state',
        foldRunLifecycle H runId deps (es ++ fs) = .ok state' ↔
          ∃ s', History.run (foldEvent H runId deps) s fs = .ok s' ∧ acceptsEnd deps s' ∧
            state' = s'.toState runId deps state.queuedEvent
              (fs.getLast?.getD state.latestEvent) ((fs.getLast?.getD last).streamSequence) := by
  unfold foldRunLifecycle at h ⊢
  simp only [Checked.bind_eq_ok, present_eq_ok, check_eq_ok, Checked.exists_unit] at h ⊢
  obtain ⟨hrun, last, hlast, hdeps, hstream, h⟩ := h
  cases hfilter : es.filter isPublic with
  | nil => simp [hfilter] at h
  | cons queued rest =>
    simp only [hfilter, Checked.bind_eq_ok, check_eq_ok, Checked.exists_unit,
      Checked.pure_eq_ok] at h
    obtain ⟨hqueued, hvalid, hcorrelation, hcausation, s, hfold, hend, rfl⟩ := h
    refine ⟨s, ⟨⟨rfl, rfl, rfl, rfl⟩, ⟨queued, rest, hfilter, rfl, hqueued, hfold⟩,
      ⟨last, hlast, rfl⟩⟩, hend, fun last' hlast' fs hfs state' ↦ ?_⟩
    obtain rfl : last = last' := Option.some.inj (hlast.symm.trans hlast')
    have hsequence := streamSequence_getLast hstream hlast
    obtain ⟨hpublic, hsame⟩ := hfs.all_public
    have hstreams : checkStream runId 1 (es ++ fs) = .ok ⟨⟩ := by
      refine checkStream_append_eq_ok.mpr ⟨hstream, ?_⟩
      rw [Int.add_comm, ← hsequence]
      exact hfs.checkStream
    have hlasts : (es ++ fs).getLast? = some (fs.getLast?.getD last) := by
      rw [List.getLast?_append, hlast]
      cases fs.getLast? <;> rfl
    have hlatest : (queued :: (rest ++ fs)).getLast (by simp) =
        fs.getLast?.getD ((queued :: rest).getLast (by simp)) := by
      cases fs using List.reverseRecOn with
      | nil => simp
      | append_singleton fs e => simp [List.getLast_cons]
    have hcorrelations : ∀ e ∈ queued :: (rest ++ fs), e.correlationId = queued.correlationId := by
      intro e he
      rw [← List.cons_append] at he
      exact (List.mem_append.mp he).elim (hcorrelation e) (hsame e)
    simp only [List.filter_append, hfilter, hpublic, List.cons_append, hstreams, hlasts,
      Checked.bind_eq_ok, check_eq_ok, Checked.exists_unit, Checked.pure_eq_ok,
      checkCausation_continues hcausation hlast hfs, hlatest, hqueued, hvalid, hdeps, hrun,
      true_and, exists_eq_left', Option.some.injEq, History.run_append_eq_ok, hfold,
      Except.ok.injEq, ne_eq, not_false_eq_true, FoldState.toState]
    constructor
    · rintro ⟨-, s', hs', hend', hstate⟩
      exact ⟨s', hs', hend', hstate.symm⟩
    · rintro ⟨s', hs', hend', hstate⟩
      exact ⟨hcorrelations, s', hs', hend', hstate.symm⟩

end Extensions

/-! ### Leased states -/

/-- A node that nothing has gone wrong with. -/
def NodeStatus.sound : NodeStatus → Bool
  | .pending | .claimed | .running | .succeeded => true
  | _ => false

/-- Nothing has gone wrong with a run that is claimed, or may be. -/
def SoundInv (s : FoldState) : Prop :=
  s.active.isSome = true ∨ s.status = .queued ∨ s.status = .running →
    s.terminal = false ∧ ∀ k, (s.nodes k).status.sound = true

/-- Only nodes that have settled retain a worktree. -/
def RetainedInv (s : FoldState) : Prop :=
  ∀ k, (s.nodes k).retainedWorktree = true → (s.nodes k).status.settled = true

/-- The active lease is on a declared node. -/
def KnownInv (deps : NodeDependencies) (s : FoldState) : Prop :=
  ∀ lease, s.active = some lease → lease.nodeId ∈ deps.known

section Leased

variable {H : Host} {runId : String} {deps : NodeDependencies} {es : List EventEnvelope}
  {state : RunLifecycleState} {s s' : FoldState} {e : EventEnvelope} {nodeId : String}
  {node : NodeLifecycleState}

/-- A release that leaves a run that may be claimed leaves its node sound. -/
theorem sound_of_release {kind : RunEventType} {status : NodeStatus} {run : RunStatus}
    (h : kind.release? = some (status, run)) (hrun : run = .queued ∨ run = .running) :
    status.sound = true := by
  cases kind <;> simp_all [RunEventType.release?] <;> obtain ⟨rfl, rfl⟩ := h <;>
    simp_all [NodeStatus.sound]

theorem not_open_of_close {kind : RunEventType} {status : RunStatus}
    (h : kind.close? = some status) : ¬(status = .queued ∨ status = .running) := by
  cases kind <;> simp_all [RunEventType.close?] <;> subst h <;> decide

theorem sound_setNode (h : ∀ k, (s.nodes k).status.sound = true) (hnode : node.status.sound = true)
    (k : String) : ((s.setNode nodeId node).nodes k).status.sound = true := by
  rw [FoldState.setNode_nodes]
  split
  · exact hnode
  · exact h k

/-- **Step.** Every transition keeps a run sound while it is claimed or may be. -/
theorem SoundInv.step (hI : SoundInv s) (h : Transition H deps s e s') : SoundInv s' := by
  cases h with
  | pass => exact hI
  | claim lease _ hterminal _ _ hstatus =>
    obtain ⟨-, hsound⟩ := hI (.inr hstatus)
    exact fun _ ↦ ⟨hterminal, sound_setNode hsound rfl⟩
  | prepare lease _ hterminal hactive =>
    obtain ⟨-, hsound⟩ := hI (.inl (by rw [hactive]; rfl))
    exact fun _ ↦ ⟨hterminal, sound_setNode hsound rfl⟩
  | dispatch lease _ _ _ hterminal hactive =>
    obtain ⟨-, hsound⟩ := hI (.inl (by rw [hactive]; rfl))
    exact fun _ ↦ ⟨hterminal, hsound⟩
  | requestCancel _ hterminal =>
    rintro (hactive | hstatus | hstatus)
    · exact ⟨hterminal, (hI (.inl hactive)).2⟩
    · cases hstatus
    · cases hstatus
  | release kind status lease state _ hrelease hterminal hactive =>
    obtain ⟨-, hsound⟩ := hI (.inl (by rw [hactive]; rfl))
    rintro (hactive' | hstatus)
    · cases hactive'
    · exact ⟨hterminal, sound_setNode hsound (sound_of_release hrelease hstatus)⟩
  | cleanup kind nodeId state _ _ hactive _ hstatus =>
    intro hopen
    obtain ⟨hterminal, hsound⟩ := hI hopen
    exact ⟨hterminal, sound_setNode hsound (by rw [hstatus]; rfl)⟩
  | close kind status _ hclose _ hactive =>
    rintro (hactive' | hstatus)
    · simp [hactive] at hactive'
    · exact absurd hstatus (not_open_of_close hclose)

theorem KnownInv.step (hI : KnownInv deps s) (h : Transition H deps s e s') : KnownInv deps s' := by
  intro lease' hlease'
  cases h with
  | claim lease _ _ _ _ _ hlease =>
    obtain rfl : lease = lease' := Option.some.inj hlease'
    exact (claimedLease_eq_ok hlease).2.1
  | prepare lease _ _ _ _ hknown =>
    obtain rfl := Option.some.inj hlease'
    exact hknown
  | dispatch lease _ _ _ _ _ _ hknown =>
    obtain rfl := Option.some.inj hlease'
    exact hknown
  | release => cases hlease'
  | pass => exact hI lease' hlease'
  | requestCancel => exact hI lease' hlease'
  | cleanup => exact hI lease' hlease'
  | close => exact hI lease' hlease'

/-- Replacing the state of a node by one that retains a worktree only if it has settled. -/
theorem RetainedInv.setNode (hI : RetainedInv s) (hs' : s'.nodes = (s.setNode nodeId node).nodes)
    (hnode : node.retainedWorktree = true → node.status.settled = true) : RetainedInv s' := by
  intro k hk
  rw [hs', FoldState.setNode_nodes] at hk ⊢
  split at hk
  · rename_i hkey
    rw [if_pos hkey]
    exact hnode hk
  · rename_i hkey
    rw [if_neg hkey]
    exact hI k hk

/-- An occupied node retains no worktree. -/
theorem RetainedInv.not_retained (hI : RetainedInv s)
    (h : (s.nodes nodeId).status.settled = false) : (s.nodes nodeId).retainedWorktree = false :=
  Bool.eq_false_iff.mpr fun hretained ↦ Bool.false_ne_true (h.symm.trans (hI nodeId hretained))

/-- **Step.** A node retains a worktree from the event that settles it. -/
theorem RetainedInv.step (hI : RetainedInv s) (hstatus : StatusInv s)
    (h : observe H runId deps s e = .ok s') : RetainedInv s' := by
  have hoccupied : ∀ lease, s.active = some lease →
      (s.nodes lease.nodeId).retainedWorktree = false := fun lease hlease ↦
    hI.not_retained (not_settled_of_occupied (hstatus.active lease hlease))
  cases transition_of_observe h with
  | pass => exact hI
  | claim lease _ _ _ _ _ _ hpending =>
    refine hI.setNode rfl fun hretained ↦ ?_
    have hnone : (s.nodes lease.nodeId).retainedWorktree = false :=
      hI.not_retained (by rw [hpending]; rfl)
    exact absurd (hnone.symm.trans hretained) Bool.false_ne_true
  | prepare lease _ _ hactive =>
    exact hI.setNode rfl fun hretained ↦
      absurd ((hoccupied lease hactive).symm.trans hretained) Bool.false_ne_true
  | dispatch => exact hI
  | requestCancel => exact hI
  | release kind status lease state hkind hrelease _ hactive =>
    by_cases hrequeued : kind = .nodeRequeued
    · -- The transition does not say that a requeued node retains what it did before.
      subst hrequeued
      have hbranch := branch_of_observe hkind h
      simp only [foldBranch, foldNodeRequeued, Checked.bind_eq_ok, check_eq_ok, Checked.exists_unit,
        Checked.pure_eq_ok, activeLease_eq_ok] at hbranch
      obtain ⟨-, -, lease', ⟨hactive', -⟩, -, -, -, -, heq⟩ := hbranch
      rw [← heq]
      exact hI.setNode rfl fun hretained ↦
        absurd ((hoccupied lease' hactive').symm.trans hretained) Bool.false_ne_true
    · exact hI.setNode rfl fun _ ↦ (settled_of_release hrelease hrequeued).1
  | cleanup kind nodeId state _ _ _ _ hsucceeded =>
    exact hI.setNode rfl fun _ ↦ by rw [hsucceeded]; rfl
  | close => exact hI

/-- What is known of the state of an accepted stream. -/
structure Orderly (deps : NodeDependencies) (s : FoldState) : Prop where
  status : StatusInv s
  names : ∀ k, (s.nodes k).nodeId = k
  sound : SoundInv s
  retained : RetainedInv s
  known : KnownInv deps s

theorem Orderly.initial : Orderly deps .initial where
  status := .initial
  names _ := rfl
  sound _ := ⟨rfl, fun _ ↦ rfl⟩
  retained k hk := by cases hk
  known lease hlease := by cases hlease

/-- **Step.** Every accepted event keeps a state orderly. -/
theorem Orderly.step (hI : Orderly deps s) (h : observe H runId deps s e = .ok s') :
    Orderly deps s' where
  status := hI.status.step (transition_of_observe h)
  names := names_step hI.names (transition_of_observe h)
  sound := hI.sound.step (transition_of_observe h)
  retained := hI.retained.step hI.status h
  known := hI.known.step (transition_of_observe h)

/-- **Run.** An accepted stream folds to an orderly state. -/
theorem FoldsTo.orderly (h : FoldsTo H runId deps es state s) : Orderly deps s := by
  obtain ⟨queued, rest, hfilter, -, hqueued, hfold⟩ := h.queued
  exact invariant_of_observed (fun _ s ↦ Orderly deps s) (fun _ _ ↦ .initial)
    (fun _ _ _ _ hI hs ↦ hI.step hs) hfilter hqueued hfold

end Leased

end Blackcell.Orchestration.RunLifecycle
