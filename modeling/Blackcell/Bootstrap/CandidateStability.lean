import Blackcell.Bootstrap.ReviewCandidates
import Blackcell.Bootstrap.StageIndependence
import Blackcell.Orchestration.RunLifecycle.Settled

/-!
# The stability of candidates

A candidate is computed from the ledger when it is claimed, again when its review is prepared, and again
when the verification of that review is prepared. Meanwhile the ledger grows: the worktrees of the run
are removed, the review and the verification are recorded, and other runs go on. None of this changes
what is computed. The stream of a declared run that has succeeded goes on with events about its
worktrees, which no part of a candidate is read from; the stream of a generated run that has succeeded
does not go on; and what a run refers to was admitted for good.

## Main definitions

* `Cleaned` : a run, and the same run after its worktrees were removed.
* `Permits`, `RunGrowth`, `LedgerStep`, `Later` : the system, at the granularity of appends.

## Main results

* `Cleaned.reviewCandidateOf` : the candidate of a run, before and after.
* `LedgerStep.continues` : what a step leaves of a run that has succeeded.
* `review_candidates_stable` : every later ledger.
-/

namespace Blackcell.Bootstrap

open Blackcell.Kernel Blackcell.Adapters.Worktree
open Blackcell.Interfaces.Http hiding check check_eq_ok
open Blackcell.Orchestration Blackcell.Orchestration.RunLifecycle
open Blackcell.Orchestration.ExecutionRuntime (streamOf executionEventType? project)
open Blackcell.Orchestration.ReviewLifecycle (ReviewCandidate reviewStream foldReviewLifecycle)
open Blackcell.Orchestration.VerificationLifecycle (VerificationCandidate verificationStream)

/-! ### Looking up the last event -/

section Last

variable {p : EventEnvelope → Bool} {es later : List EventEnvelope} {i : ℕ}

/-- Later events without the property do not change which event is the last one with it. -/
theorem lastIndex?_append (h : ∀ e ∈ later, p e = false) :
    lastIndex? p (es ++ later) = lastIndex? p es := by
  have hlater : lastIndex? p later = none := by
    induction later with
    | nil => rfl
    | cons e later ih =>
      obtain ⟨he, hlater⟩ := List.forall_mem_cons.mp h
      simp [lastIndex?, ih hlater, he]
  induction es with
  | nil => exact hlater
  | cons e es ih => simp [lastIndex?, ih]

theorem of_lastIndex? (h : lastIndex? p es = some i) : i < es.length ∧ ∃ e ∈ es, p e = true := by
  induction es generalizing i with
  | nil => simp [lastIndex?] at h
  | cons e es ih =>
    cases hes : lastIndex? p es with
    | some j =>
      obtain ⟨hj, x, hx, hp⟩ := ih hes
      simp only [lastIndex?, hes, Option.some.injEq] at h
      subst h
      exact ⟨by simpa using hj, x, List.mem_cons_of_mem _ hx, hp⟩
    | none =>
      by_cases hp : p e = true
      · obtain rfl : 0 = i := by simpa [lastIndex?, hes, hp] using h
        exact ⟨by simp, e, List.mem_cons_self, hp⟩
      · simp [lastIndex?, hes, hp] at h

/-- The last event with a property, found from the end. -/
theorem find?_reverse_append (h : ∀ e ∈ later, p e = false) :
    (es ++ later).reverse.find? p = es.reverse.find? p := by
  have hnone : later.reverse.find? p = none :=
    List.find?_eq_none.mpr fun e he ↦ by simp [h e (List.mem_reverse.mp he)]
  rw [List.reverse_append, List.find?_append, hnone, Option.none_or]

end Last

/-! ### A run after its worktrees were removed -/

/-- The event is about a worktree. -/
def IsCleanup (e : EventEnvelope) : Prop :=
  ∃ kind, runEventType? e = some kind ∧ kind.isCleanup = true

/-- A declared run, and the same run with further events about its worktrees. -/
structure Cleaned (old new : StoredRun) (later : List EventEnvelope) : Prop where
  request : new.request = old.request
  intent : new.intent = old.intent
  plan : new.plan = old.plan
  declared : old.run.kernelState = none ∧ new.run.kernelState = none
  events : new.run.events = old.run.events ++ later
  cleanup : ∀ e ∈ later, IsCleanup e
  queued : new.run.state.queuedEvent = old.run.state.queuedEvent
  status : new.run.state.status = old.run.state.status
  nodes : new.run.state.nodes.map NodeLifecycleState.settled =
    old.run.state.nodes.map NodeLifecycleState.settled

section Cleaned

variable {H : Host} {Context Prepared : Type} {A : RunArtifacts Context Prepared} {L L' : Ledger}
  {old new : StoredRun} {later : List EventEnvelope} {e : EventEnvelope}

/-- An event about a worktree is of no other type. -/
theorem IsCleanup.ne_of_not (h : IsCleanup e) (kind : RunEventType) (hkind : kind.isCleanup = false) :
    e.eventType ≠ StrEnum.value kind := by
  obtain ⟨kind', hkind', hcleanup⟩ := h
  rw [eventType_of_kind hkind']
  intro hvalue
  rw [StrEnum.value_injective hvalue, hkind] at hcleanup
  exact Bool.false_ne_true hcleanup

theorem IsCleanup.not_terminalInspection (h : IsCleanup e) (nodeId leaseDigest : String) :
    isTerminalInspection nodeId leaseDigest e = false := by
  have h₁ := h.ne_of_not .nodeSucceeded rfl
  have h₂ := h.ne_of_not .nodeFailed rfl
  have h₃ := h.ne_of_not .nodeCanceled rfl
  simp [isTerminalInspection, h₁, h₂, h₃]

theorem IsCleanup.not_dispatch (h : IsCleanup e) (nodeId leaseDigest : String) :
    isDispatch nodeId leaseDigest e = false := by
  have h₁ := h.ne_of_not .nodeProviderDispatchStarted rfl
  simp [isDispatch, h₁]

theorem terminalInspectionHead_append {es : List EventEnvelope} {nodeId : String}
    {leaseDigest : Option String} (h : ∀ e ∈ later, IsCleanup e) :
    terminalInspectionHead (es ++ later) nodeId leaseDigest =
      terminalInspectionHead es nodeId leaseDigest := by
  unfold terminalInspectionHead
  congr 1
  funext digest
  rw [find?_reverse_append fun e he ↦ (h e he).not_terminalInspection nodeId digest]

theorem providerContextDigest_append {es : List EventEnvelope} {nodeId : String}
    {leaseDigest : Option String} (h : ∀ e ∈ later, IsCleanup e) :
    providerContextDigest (es ++ later) nodeId leaseDigest =
      providerContextDigest es nodeId leaseDigest := by
  unfold providerContextDigest
  congr 1
  funext digest
  rw [find?_reverse_append fun e he ↦ (h e he).not_dispatch nodeId digest]

/-- The expectation of a node is not about its worktree. -/
theorem nodeExpectation_settled (intent : IntentRequest) (es : List EventEnvelope) (node : PlanNode)
    (state : NodeLifecycleState) :
    nodeExpectation intent es node state.settled = nodeExpectation intent es node state := rfl

namespace Cleaned

theorem nodeExpectation (h : Cleaned old new later) (node : PlanNode) (state : NodeLifecycleState) :
    Bootstrap.nodeExpectation new.intent new.run.events node state =
      Bootstrap.nodeExpectation old.intent old.run.events node state := by
  rw [h.intent, h.events]
  unfold Bootstrap.nodeExpectation
  rw [terminalInspectionHead_append h.cleanup, providerContextDigest_append h.cleanup]

/-- The expectations of the nodes. -/
theorem artifactExpectations (h : Cleaned old new later) :
    Bootstrap.artifactExpectations new = Bootstrap.artifactExpectations old := by
  -- Both are the same function of the nodes without their worktrees.
  have hsettled : ∀ stored : StoredRun, Bootstrap.artifactExpectations stored =
      (stored.run.state.nodes.map NodeLifecycleState.settled).mapM fun state ↦ do
        let node ← Checked.ofOption (byId stored.plan.nodes state.nodeId) CandidateError.key
        return Bootstrap.nodeExpectation stored.intent stored.run.events node state := by
    intro stored
    rw [Bootstrap.artifactExpectations, List.mapM_map]
    rfl
  rw [hsettled, hsettled, h.nodes, h.plan]
  simp only [h.nodeExpectation]

theorem reviewArtifactExpectations (h : Cleaned old new later) :
    Bootstrap.reviewArtifactExpectations A H new = Bootstrap.reviewArtifactExpectations A H old := by
  simp only [Bootstrap.reviewArtifactExpectations, h.declared.1, h.declared.2, h.artifactExpectations]

theorem reviewTerminalIndex (h : Cleaned old new later) :
    Bootstrap.reviewTerminalIndex new.run = Bootstrap.reviewTerminalIndex old.run := by
  simp only [Bootstrap.reviewTerminalIndex, h.declared.1, h.declared.2, h.events]
  exact lastIndex?_append fun e he ↦ by
    simpa using (h.cleanup e he).ne_of_not .runSucceeded rfl

theorem effectiveRunStatus (h : Cleaned old new later) :
    Bootstrap.effectiveRunStatus new.run = Bootstrap.effectiveRunStatus old.run := by
  simp only [Bootstrap.effectiveRunStatus, h.declared.1, h.declared.2, h.status]

/-- The candidate at an event of the run. -/
theorem candidateOf (h : Cleaned old new later) (admission : AdmissionEvents) {index : ℕ}
    (terminal : EventEnvelope) (hindex : index < old.run.events.length) :
    Bootstrap.candidateOf H A new admission index terminal =
      Bootstrap.candidateOf H A old admission index terminal := by
  have htake : new.run.events.take (index + 1) = old.run.events.take (index + 1) := by
    rw [h.events, List.take_append_of_le_length (by omega)]
  have hkernel : ∀ es, kernelSection H new.run es = kernelSection H old.run es := fun es ↦ by
    simp only [kernelSection, h.declared.1, h.declared.2]
  have hdigest : ∀ terminalState kernel, stateDigest H new admission terminalState kernel =
      stateDigest H old admission terminalState kernel := fun terminalState kernel ↦ by
    simp only [stateDigest, h.queued]
  simp only [Bootstrap.candidateOf, h.request, h.plan, htake, hkernel, hdigest, h.queued,
    h.reviewArtifactExpectations]

/-- **The candidate.** It is that of the run before. -/
theorem reviewCandidateOf (h : Cleaned old new later)
    (hadmission : admissionEvents L' old.request = admissionEvents L old.request) :
    Bootstrap.reviewCandidateOf H A L' new = Bootstrap.reviewCandidateOf H A L old := by
  simp only [Bootstrap.reviewCandidateOf, h.reviewTerminalIndex, h.request, hadmission]
  cases hindex : Bootstrap.reviewTerminalIndex old.run with
  | none => rfl
  | some index =>
    simp only [Bootstrap.reviewTerminalIndex, h.declared.1] at hindex
    have hlt := (of_lastIndex? hindex).1
    simp only [found, Checked.ofOption_some, Checked.ok_bind, h.events,
      List.getElem?_append_left hlt]
    refine bind_congr fun terminal ↦ bind_congr fun admission ↦ ?_
    exact h.candidateOf admission terminal hlt

/-- What the context of the review is built from. -/
theorem reviewContextRequest (h : Cleaned old new later) (candidate : ReviewCandidate H) :
    Bootstrap.reviewContextRequest H A candidate new =
      Bootstrap.reviewContextRequest H A candidate old := by
  have hconstraints : reviewConstraints H new = reviewConstraints H old := by
    simp only [reviewConstraints, h.declared.1, h.declared.2, h.intent]
  simp only [Bootstrap.reviewContextRequest, h.reviewArtifactExpectations, hconstraints, h.request,
    h.intent, h.plan, h.declared.1, h.declared.2]

end Cleaned

end Cleaned

/-! ### Steps of the system -/

/-- The stream of a project, an intent or a plan. -/
def IsAdmissionStream (streamId : String) : Prop :=
  ∃ id, streamId = projectStream id ∨ streamId = intentStream id ∨ streamId = planStream id

/-- The run as a call loaded it, when the call may append transitions. -/
inductive Permits (run : LoadedRun) : Prop
  /-- `cancel_run`. -/
  | cancel (hopen : effectiveRunStatus run ∉
      [RunStatus.canceled, .succeeded, .failed, .reconciliationRequired])
  /-- `prepare_node`. -/
  | claim (hkernel : run.kernelState = none)
  /-- The calls about the active lease. -/
  | leased (hactive : run.state.activeLease.isSome)
  /-- `maintain_successful_worktrees`. -/
  | maintenance (node : NodeLifecycleState) (hnode : node ∈ run.state.nodes)
      (hsucceeded : node.status = .succeeded)

section System

variable (H : Host) (D : Deployment)

/-- What is appended to the stream of a run. A call has seen an earlier ledger when it appends, in which
the stream of the run was as it is now. -/
inductive RunGrowth (L : Ledger) (runId : String) : List EventEnvelope → Prop
  /-- `_record_run_queued`. -/
  | queued (e : EventEnvelope) (hempty : streamOf runId L = [])
      (hkind : runEventType? e = some .runQueued) : RunGrowth L runId [e]
  /-- `_append_run_transitions`; nodes are claimed by `prepare_node`. -/
  | transitions (seen : Ledger) (stored : StoredRun) (events : List EventEnvelope)
      (hseen : seen <+: L) (hcurrent : streamOf runId seen = streamOf runId L)
      (hload : loadStored H D seen runId = .ok stored) (hpermits : Permits stored.run)
      (hpublic : ∀ e ∈ events, isPublic e = true)
      (hclaim : (∃ e ∈ events, runEventType? e = some .nodeClaimed) → stored.run.kernelState = none)
      (hfold : ∃ state, foldRunLifecycle H runId (nodeDependencies stored.plan)
        (stored.run.events ++ events) = .ok state)
      (hevidence : ∃ v, validateWorktreeEvidence H D.fs D.repositoryRoot D.isolationRoot stored.plan
        (stored.run.events ++ events) = .ok v) : RunGrowth L runId events
  /-- `EventBackedExecutionRunJournal.append`. -/
  | journal (e : EventEnvelope) (type : ExecutionEventType)
      (before after : Option ExecutionRuntime.ExecutionRunState)
      (htype : executionEventType? e = some type)
      (hpublic : type = .goalAdmitted → ((streamOf runId L).filter isPublic).length ≤ 1)
      (hbefore : project H (streamOf runId L) = .ok before)
      (hafter : ExecutionRuntime.apply H before e = .ok after) : RunGrowth L runId [e]

/-- The steps of the system. -/
inductive LedgerStep (L : Ledger) : Ledger → Prop
  /-- An event of no stream that candidates are read from. -/
  | other (e : EventEnvelope) (hadmission : ¬IsAdmissionStream e.streamId)
      (hrun : ∀ runId, e.streamId ≠ runStream runId ∧ e.streamId ≠ reviewStream runId) :
      LedgerStep L (L ++ [e])
  /-- `_record_immutable`. -/
  | admitted (e : EventEnvelope) (hadmission : IsAdmissionStream e.streamId)
      (hempty : L.readStream e.streamId = []) : LedgerStep L (L ++ [e])
  /-- A call about a run. -/
  | run (runId : String) (events : List EventEnvelope)
      (hstream : ∀ e ∈ events, e.streamId = runStream runId)
      (hgrowth : RunGrowth H D L runId events) : LedgerStep L (L ++ events)
  /-- A call of `ReviewRuntimeService`. -/
  | review (seen : Ledger) (request : ReviewRuntime.Request H) (new : NewEvent) (x : Submission)
      (stored : EventEnvelope) (L' : Ledger) (hseen : seen <+: L)
      (hperform : request.perform H seen new = .ok (some x))
      (happend : x.append H L = .ok (stored, L')) : LedgerStep L L'
  /-- A call of `VerificationRuntimeService`. -/
  | verification (sources seen : Ledger) (request : VerificationRuntime.Request H) (new : NewEvent)
      (x : Submission) (stored : EventEnvelope) (L' : Ledger) (hsources : sources <+: L)
      (hseen : seen <+: L) (hperform : request.perform H sources seen new = .ok (some x))
      (happend : x.append H L = .ok (stored, L')) : LedgerStep L L'

/-- The second ledger is a later one. -/
abbrev Later : Ledger → Ledger → Prop := Relation.ReflTransGen (LedgerStep H D)

end System

/-! ### What a step appends -/

section Appends

variable {H : Host} {D : Deployment} {L L' : Ledger} {runId streamId : String}
  {events : List EventEnvelope}

theorem IsAdmissionStream.ne (h : IsAdmissionStream streamId) (runId : String) :
    streamId ≠ runStream runId ∧ streamId ≠ reviewStream runId ∧
      streamId ≠ verificationStream runId := by
  have hfirst : streamId.toList[0]? = some 'p' ∨ streamId.toList[0]? = some 'i' := by
    obtain ⟨id, rfl | rfl | rfl⟩ := h <;>
      simp [projectStream, intentStream, planStream, String.toList_append]
  refine ⟨?_, ?_, ?_⟩ <;> rintro rfl <;>
    simp [runStream, reviewStream, verificationStream, String.toList_append] at hfirst

/-- **Steps.** A step appends to one stream: to one that no candidate is read from, to an admission
stream that was empty, to the stream of a run, or to that of a review that has not ended. -/
inductive Appended (H : Host) (D : Deployment) (L : Ledger) (events : List EventEnvelope)
    (streamId : String) : Prop
  | other (hadmission : ¬IsAdmissionStream streamId)
      (hrun : ∀ runId, streamId ≠ runStream runId ∧ streamId ≠ reviewStream runId)
  | admission (hadmission : IsAdmissionStream streamId) (hempty : L.readStream streamId = [])
  | run (runId : String) (hstream : streamId = runStream runId)
      (hgrowth : RunGrowth H D L runId events)
  | review (runId : String) (hstream : streamId = reviewStream runId)
      (hopen : ∀ x ∈ L.readStream (reviewStream runId), ¬ReviewLifecycle.Ends x)

theorem LedgerStep.appended (h : LedgerStep H D L L') : L' = L ∨ ∃ events streamId,
    L' = L ++ events ∧ (∀ e ∈ events, e.streamId = streamId) ∧ Appended H D L events streamId := by
  cases h with
  | other e hadmission hrun =>
    exact .inr ⟨[e], e.streamId, rfl, by simp, .other hadmission hrun⟩
  | admitted e hadmission hempty =>
    exact .inr ⟨[e], e.streamId, rfl, by simp, .admission hadmission hempty⟩
  | run runId events hstream hgrowth =>
    exact .inr ⟨events, _, rfl, hstream, .run runId rfl hgrowth⟩
  | review seen request new x stored _ hseen hperform happend =>
    obtain ⟨⟨hexpected, state, hfolds⟩, -⟩ := ReviewRuntime.submitted_of_perform hperform
    have hstream := ReviewLifecycle.stream_of_fold hfolds x.event (by simp)
    obtain rfl | ⟨rfl, hsequence⟩ := Submission.append_eq_ok happend
    · exact .inl rfl
    · have hread := readStream_of_seen hseen (hexpected ▸ hstream ▸ hsequence)
      refine .inr ⟨[L.stored x.event], _, rfl, ?_, .review request.runId rfl ?_⟩
      · simpa using hstream
      · exact hread ▸ ReviewLifecycle.open_of_fold hfolds
  | verification sources seen request new x stored _ hsources hseen hperform happend =>
    obtain ⟨⟨-, state, hfolds⟩, -⟩ := VerificationRuntime.submitted_of_perform hperform
    have hstream := VerificationLifecycle.stream_of_fold hfolds x.event (by simp)
    obtain rfl | ⟨rfl, -⟩ := Submission.append_eq_ok happend
    · exact .inl rfl
    · refine .inr ⟨[L.stored x.event], verificationStream request.runId, rfl, ?_, .other ?_ ?_⟩
      · simpa using hstream
      · exact fun hadmission ↦ (hadmission.ne request.runId).2.2 rfl
      · exact fun runId ↦ ⟨verification_ne_run _ _, verification_ne_review _ _⟩

/-- A stream that the events are not of stays as it is. -/
theorem readStream_append_of_forall_ne {streamId' : String}
    (h : ∀ e ∈ events, e.streamId = streamId) (hne : streamId ≠ streamId') :
    Ledger.readStream (L ++ events) streamId' = L.readStream streamId' := by
  have hnil : Ledger.readStream events streamId' = [] :=
    List.filter_eq_nil_iff.mpr fun e he ↦ by simpa [h e he] using hne
  rw [Ledger.readStream_append, hnil, List.append_nil]

theorem readStream_append_of_forall (h : ∀ e ∈ events, e.streamId = streamId) :
    Ledger.readStream (L ++ events) streamId = L.readStream streamId ++ events := by
  have hself : Ledger.readStream events streamId = events :=
    List.filter_eq_self.mpr fun e he ↦ by simpa using h e he
  rw [Ledger.readStream_append, hself]

/-- **Admissions.** An admission stream that is not empty stays as it is. -/
theorem LedgerStep.admission (h : LedgerStep H D L L') (hadmission : IsAdmissionStream streamId)
    (hne : L.readStream streamId ≠ []) : L'.readStream streamId = L.readStream streamId := by
  obtain rfl | ⟨events, streamId', rfl, hstream, happended⟩ := h.appended
  · rfl
  · by_cases heq : streamId' = streamId
    · subst heq
      cases happended with
      | other hnot => exact absurd hadmission hnot
      | admission _ hempty => exact absurd hempty hne
      | run runId heq => exact absurd heq (hadmission.ne runId).1
      | review runId heq => exact absurd heq (hadmission.ne runId).2.1
    · exact readStream_append_of_forall_ne hstream heq

/-- **Runs.** The stream of a run stays as it is, or grows. -/
theorem LedgerStep.run_stream (h : LedgerStep H D L L') (runId : String) :
    streamOf runId L' = streamOf runId L ∨ ∃ events, streamOf runId L' = streamOf runId L ++ events ∧
      (∀ e ∈ events, e.streamId = runStream runId) ∧ RunGrowth H D L runId events := by
  obtain rfl | ⟨events, streamId, rfl, hstream, happended⟩ := h.appended
  · exact .inl rfl
  · by_cases heq : streamId = runStream runId
    · subst heq
      cases happended with
      | other _ hrun => exact absurd rfl (hrun runId).1
      | admission hadmission => exact absurd rfl (hadmission.ne runId).1
      | run runId' hrun hgrowth =>
        obtain rfl := ExecutionRuntime.streamId_injective hrun
        exact .inr ⟨events, readStream_append_of_forall hstream, hstream, hgrowth⟩
      | review runId' hreview => exact absurd hreview.symm (review_ne_run _ _)
    · exact .inl (readStream_append_of_forall_ne hstream heq)

/-- **Reviews.** The stream of a review that has ended stays as it is. -/
theorem LedgerStep.review_stream (h : LedgerStep H D L L')
    (hended : ∃ x ∈ L.readStream (reviewStream runId), ReviewLifecycle.Ends x) :
    L'.readStream (reviewStream runId) = L.readStream (reviewStream runId) := by
  obtain ⟨x, hx, hends⟩ := hended
  obtain rfl | ⟨events, streamId, rfl, hstream, happended⟩ := h.appended
  · rfl
  · by_cases heq : streamId = reviewStream runId
    · subst heq
      cases happended with
      | other _ hrun => exact absurd rfl (hrun runId).2
      | admission hadmission => exact absurd rfl (hadmission.ne runId).2.1
      | run runId' hrun => exact absurd hrun (review_ne_run _ _)
      | review runId' hreview hopen =>
        obtain rfl := reviewStream_injective hreview
        exact absurd hends (hopen x hx)
    · exact readStream_append_of_forall_ne hstream heq

end Appends

/-! ### Loaded runs -/

section Loaded

variable {H : Host} {D : Deployment} {L L' seen : Ledger} {runId : String} {old : StoredRun}
  {events : List EventEnvelope}

/-- The one event of an admission stream. -/
theorem requiredFrom_eq_ok {streamId eventType : String} {e : EventEnvelope}
    (h : requiredFrom L streamId eventType = .ok e) : L.readStream streamId = [e] := by
  unfold requiredFrom at h
  cases hread : L.readStream streamId with
  | nil => simp [hread, requiredEvent] at h
  | cons x rest =>
    cases rest with
    | nil =>
      simp only [hread, List.take_succ_cons, List.take_nil, requiredEvent] at h
      split at h
      · rw [Except.ok.inj h]
      · exact absurd h (by simp)
    | cons y rest => simp [hread, requiredEvent] at h

theorem requiredFrom_congr {streamId eventType : String} {e : EventEnvelope}
    (h : requiredFrom L streamId eventType = .ok e)
    (hread : L'.readStream streamId = L.readStream streamId) :
    requiredFrom L' streamId eventType = .ok e := by
  rw [requiredFrom, hread]
  exact h

/-- The events that a run refers to are the ones of their streams. -/
theorem admissionEvents_eq_ok {request : RunRequest} {admission : AdmissionEvents} :
    admissionEvents L request = .ok admission ↔
      requiredFrom L (projectStream request.projectId) projectRegistered = .ok admission.project ∧
        requiredFrom L (intentStream request.intentId) intentAccepted = .ok admission.intent ∧
        requiredFrom L (planStream request.planId) planAccepted = .ok admission.plan := by
  simp only [admissionEvents, Checked.bind_eq_ok, Checked.pure_eq_ok]
  constructor
  · rintro ⟨project, hproject, intent, hintent, plan, hplan, rfl⟩
    exact ⟨hproject, hintent, hplan⟩
  · rintro ⟨hproject, hintent, hplan⟩
    exact ⟨_, hproject, _, hintent, _, hplan, rfl⟩

/-- The reads of a loaded run. -/
theorem loadStored_eq_ok : loadStored H D L runId = .ok old ↔
    ∃ queued request admission, (streamOf runId L).head? = some queued ∧
      queued.eventType = StrEnum.value RunEventType.runQueued ∧
      decodeRequest H D.contracts.run queued = .ok request ∧ request.runId = runId ∧
      admissionEvents L request = .ok admission ∧
      decodeStored H D runId (streamOf runId L) queued request admission = .ok old := by
  simp only [loadStored, Checked.bind_eq_ok, Checked.ofOption_eq_ok, agree_eq_ok, Checked.exists_unit,
    ofApi_eq_ok, exists_and_left]
  exact Iff.rfl

/-- What is made of the reads. -/
theorem decodeStored_eq_ok {queued : EventEnvelope} {request : RunRequest} {admission : AdmissionEvents}
    (h : decodeStored H D runId events queued request admission = .ok old) :
    old.request = request ∧
      loadRun H D.fs D.repositoryRoot D.isolationRoot old.plan runId events = .ok old.run ∧
      ∀ events' run', loadRun H D.fs D.repositoryRoot D.isolationRoot old.plan runId events' = .ok run' →
        run'.kernelState = none →
        decodeStored H D runId events' queued request admission = .ok ⟨request, old.intent, old.plan, run'⟩ := by
  simp only [decodeStored, Checked.bind_eq_ok, agree_eq_ok, Checked.exists_unit, ofApi_eq_ok,
    Checked.pure_eq_ok] at h ⊢
  obtain ⟨project, hproject, intent, hintent, plan, hplan, hagree, h₁, h₂, h₃, run, hrun, -, rfl⟩ := h
  refine ⟨rfl, hrun, fun events' run' hrun' hkernel ↦ ?_⟩
  exact ⟨project, hproject, intent, hintent, plan, hplan, hagree, h₁, h₂, h₃, run', hrun',
    by simp [requireBinding, hkernel], rfl⟩

/-- What an earlier ledger loads of the same stream. -/
theorem loadStored_of_prefix {stored : StoredRun} (hseen : seen <+: L)
    (hcurrent : streamOf runId seen = streamOf runId L)
    (hload : loadStored H D seen runId = .ok stored) (hold : loadStored H D L runId = .ok old) :
    stored = old := by
  have hadmission : ∀ {streamId eventType e e'}, requiredFrom seen streamId eventType = .ok e →
      requiredFrom L streamId eventType = .ok e' → e = e' := by
    intro streamId eventType e e' h h'
    obtain ⟨later, rfl⟩ := hseen
    have hread := requiredFrom_eq_ok h'
    rw [Ledger.readStream_append, requiredFrom_eq_ok h, List.singleton_append] at hread
    exact (List.cons.inj hread).1
  obtain ⟨queued, request, admission, hhead, -, hrequest, -, hreads, hdecode⟩ := loadStored_eq_ok.mp hload
  obtain ⟨queued', request', admission', hhead', -, hrequest', -, hreads', hdecode'⟩ :=
    loadStored_eq_ok.mp hold
  rw [hcurrent] at hhead hdecode
  obtain rfl := Option.some.inj (hhead.symm.trans hhead')
  obtain rfl := Except.ok.inj (hrequest.symm.trans hrequest')
  obtain ⟨hproject, hintent, hplan⟩ := admissionEvents_eq_ok.mp hreads
  obtain ⟨hproject', hintent', hplan'⟩ := admissionEvents_eq_ok.mp hreads'
  have heq : admission = admission' := by
    cases admission
    cases admission'
    simp only [AdmissionEvents.mk.injEq]
    exact ⟨hadmission hproject hproject', hadmission hintent hintent', hadmission hplan hplan'⟩
  subst heq
  exact Except.ok.inj (hdecode.symm.trans hdecode')

/-- The parts of a loaded run. -/
theorem loadRun_eq_ok {plan : PlanRequest} {run : LoadedRun} :
    loadRun H D.fs D.repositoryRoot D.isolationRoot plan runId events = .ok run ↔
      (∃ queued, events.head? = some queued ∧
        queued.eventType = StrEnum.value RunEventType.runQueued) ∧
      run.events = events ∧
      foldRunLifecycle H runId (nodeDependencies plan) events = .ok run.state ∧
      project H events = .ok run.kernelState ∧
      ∃ v, validateWorktreeEvidence H D.fs D.repositoryRoot D.isolationRoot plan events = .ok v := by
  simp only [loadRun, Checked.bind_eq_ok, Checked.ofOption_eq_ok, Checked.require_eq_ok,
    Checked.exists_unit, Checked.mapError_eq_ok, Checked.pure_eq_ok]
  constructor
  · rintro ⟨queued, hhead, htype, state, hstate, kernel, hkernel, v, hv, rfl⟩
    exact ⟨⟨queued, hhead, htype⟩, rfl, hstate, hkernel, v, hv⟩
  · rintro ⟨⟨queued, hhead, htype⟩, rfl, hstate, hkernel, v, hv⟩
    exact ⟨queued, hhead, htype, _, hstate, _, hkernel, v, hv, rfl⟩

/-- Public events do not begin a generated execution. -/
theorem project_append_of_public (h : project H (streamOf runId L) = .ok none)
    (hstream : ∀ e ∈ events, e.streamId = runStream runId)
    (hpublic : ∀ e ∈ events, isPublic e = true) :
    project H (streamOf runId L ++ events) = .ok none := by
  refine History.run_append_eq_ok.mpr ⟨none, h, ?_⟩
  induction events with
  | nil => rfl
  | cons e events ih =>
    obtain ⟨hes, hstream⟩ := List.forall_mem_cons.mp hstream
    obtain ⟨hep, hpublic⟩ := List.forall_mem_cons.mp hpublic
    obtain ⟨kind, hkind⟩ := Option.isSome_iff_exists.mp hep
    have hprefix : "run:".toList.isPrefixOf e.streamId.toList := by
      rw [hes, runStream, String.toList_append, List.isPrefixOf_iff_prefix]
      exact List.prefix_append _ _
    rw [History.run_cons, ExecutionRuntime.apply_eq_ok.mpr (.unopened kind hkind hprefix)]
    exact ih hstream hpublic

end Loaded

/-! ### A run that has succeeded -/

section Succeeded

variable {H : Host} {D : Deployment} {L L' : Ledger} {runId : String} {old : StoredRun}
  {events : List EventEnvelope}

/-- What is appended to the stream of a run keeps it well formed. -/
theorem RunGrowth.grows (hI : RunInv (streamOf runId L)) (h : RunGrowth H D L runId events) :
    Grows (streamOf runId L) events := by
  cases h with
  | queued e hempty hkind => exact hempty ▸ .queued hkind
  | transitions seen stored events hseen hcurrent hload hpermits hpublic hclaim hfold hevidence =>
    obtain ⟨_, _, _, -, -, -, -, -, hdecode⟩ := loadStored_eq_ok.mp hload
    obtain ⟨-, hrun, -⟩ := decodeStored_eq_ok hdecode
    obtain ⟨-, hevents, -, hkernel, -⟩ := loadRun_eq_ok.mp hrun
    obtain ⟨state, hfold⟩ := hfold
    rw [hcurrent] at hevents hkernel
    exact .transitions hI hkernel hpublic hclaim (hevents ▸ hfold)
  | journal e type before after htype hpublic hbefore hafter =>
    exact .journal hI htype hpublic hbefore hafter

/-- The success of a declared run is an event of its stream. -/
theorem succeeded_of_terminal {plan : PlanRequest} {run : LoadedRun} {index : ℕ}
    (hrun : loadRun H D.fs D.repositoryRoot D.isolationRoot plan runId events = .ok run)
    (hkernel : run.kernelState = none) (hindex : reviewTerminalIndex run = some index) :
    Succeeded events := by
  obtain ⟨-, hevents, hfold, -⟩ := loadRun_eq_ok.mp hrun
  simp only [reviewTerminalIndex, hkernel, hevents] at hindex
  obtain ⟨-, e, he, htype⟩ := of_lastIndex? hindex
  have htype : e.eventType = StrEnum.value RunEventType.runSucceeded := by simpa using htype
  have hknown := (event_of_foldRunLifecycle hfold e he).2
  have hexecution : isExecution e = false := by
    rw [isExecution, htype, Bool.and_eq_false_iff]
    exact .inr (by decide)
  have hpublic : isPublic e = true := by simpa [isKnown, hexecution] using hknown
  obtain ⟨kind, hkind⟩ := Option.isSome_iff_exists.mp hpublic
  have hvalue := (eventType_of_kind hkind).symm.trans htype
  exact ⟨e, he, by rw [hkind, StrEnum.value_injective hvalue]⟩

/-- **Generated runs.** Nothing is appended to the stream of a generated run that has succeeded. -/
theorem RunGrowth.not_generated (hI : RunInv (streamOf runId L))
    (hload : loadStored H D L runId = .ok old) {kernel : ExecutionRuntime.ExecutionRunState}
    (hkernel : old.run.kernelState = some kernel) (hstatus : effectiveRunStatus old.run = .succeeded) :
    ¬RunGrowth H D L runId events := by
  obtain ⟨queued, _, _, hhead, -, -, -, -, hdecode⟩ := loadStored_eq_ok.mp hload
  obtain ⟨-, hrun, -⟩ := decodeStored_eq_ok hdecode
  obtain ⟨-, -, hstate, hproject, -⟩ := loadRun_eq_ok.mp hrun
  rw [hkernel] at hproject
  -- A run with a generated execution has no claims, so no lease and no node that succeeded.
  have hunclaimed : ¬Claimed (streamOf runId L) := fun hclaimed ↦ by
    obtain ⟨x, hx, hsome⟩ := execution_of_project hproject
    simp [hI.execution hclaimed x hx] at hsome
  obtain ⟨hactive, hpending⟩ := unclaimed_history hstate fun e he hkind ↦ hunclaimed ⟨e, he, hkind⟩
  have hfinal : kernel.status = .succeeded := by
    rw [effectiveRunStatus, hkernel] at hstatus
    cases hk : kernel.status <;> simp_all
  intro h
  cases h with
  | queued e hempty => simp [hempty] at hhead
  | transitions seen stored events hseen hcurrent hload' hpermits =>
    obtain rfl := loadStored_of_prefix hseen hcurrent hload' hload
    cases hpermits with
    | cancel hopen => simp [hstatus] at hopen
    | claim hnone => simp [hkernel] at hnone
    | leased hsome => simp [hactive] at hsome
    | maintenance node hnode hsucceeded => simp [hpending node hnode] at hsucceeded
  | journal e type before after htype hpublic hbefore hafter =>
    obtain rfl := Except.ok.inj (hproject.symm.trans hbefore)
    cases ExecutionRuntime.apply_eq_ok.mp hafter with
    | published t _ ht => simp [ExecutionRuntime.runEventType?_eq_none htype] at ht
    | changed t s s' ht fields run isRun stream sequence active =>
      rw [hfinal] at active
      exact active (by decide)

/-- **Declared runs.** What is appended to the stream of a declared run that has succeeded is about its
worktrees, and the run is loaded as before but for them. -/
theorem RunGrowth.declared (hI : RunInv (streamOf runId L)) (hload : loadStored H D L runId = .ok old)
    (hkernel : old.run.kernelState = none) {index : ℕ}
    (hindex : reviewTerminalIndex old.run = some index) (h : RunGrowth H D L runId events)
    (hstream : ∀ e ∈ events, e.streamId = runStream runId)
    (hL' : streamOf runId L' = streamOf runId L ++ events)
    (hadmission : admissionEvents L' old.request = admissionEvents L old.request) :
    ∃ new, loadStored H D L' runId = .ok new ∧ Cleaned old new events := by
  obtain ⟨queued, request, admission, hhead, htype, hrequest, hname, hreads, hdecode⟩ :=
    loadStored_eq_ok.mp hload
  obtain ⟨rfl, hrun, hextend⟩ := decodeStored_eq_ok hdecode
  have hsucceeded := succeeded_of_terminal hrun hkernel hindex
  obtain ⟨-, hevents, hstate, hproject, -⟩ := loadRun_eq_ok.mp hrun
  rw [hkernel] at hproject
  cases h with
  | queued e hempty => simp [hempty] at hhead
  | journal e type before after htype hpublic hbefore hafter =>
    have hidle := (Grows.journal hI htype hpublic hbefore hafter).idle hsucceeded e (by simp)
    exact absurd (.inr (by simp [htype])) hidle
  | transitions seen stored events hseen hcurrent hload' hpermits hpublic hclaim hfold hevidence =>
    obtain rfl := loadStored_of_prefix hseen hcurrent hload' hload
    obtain ⟨state', hfold⟩ := hfold
    obtain ⟨v, hevidence⟩ := hevidence
    rw [hevents] at hfold hevidence
    obtain ⟨t, ht, hkind⟩ := hsucceeded
    obtain ⟨hcleanup, hstatus, hnodes⟩ := settled_history hstate hfold ht hkind rfl
    -- the run as it is loaded now
    let run' : LoadedRun := ⟨streamOf runId L ++ events, state', none⟩
    have hrun' : loadRun H D.fs D.repositoryRoot D.isolationRoot stored.plan runId
        (streamOf runId L ++ events) = .ok run' := by
      refine loadRun_eq_ok.mpr ⟨⟨queued, ?_, htype⟩, rfl, hfold, ?_, v, hevidence⟩
      · rw [List.head?_append, hhead, Option.some_or]
      · exact project_append_of_public hproject hstream hpublic
    refine ⟨⟨stored.request, stored.intent, stored.plan, run'⟩, ?_, ?_⟩
    · refine loadStored_eq_ok.mpr ⟨queued, stored.request, admission, ?_, htype, hrequest, hname, ?_, ?_⟩
      · rw [hL', List.head?_append, hhead, Option.some_or]
      · rw [hadmission, hreads]
      · rw [hL']
        exact hextend _ _ hrun' rfl
    · refine ⟨rfl, rfl, rfl, ⟨hkernel, rfl⟩, by rw [hevents], fun e he ↦ ?_, ?_, hstatus, hnodes⟩
      · obtain ⟨kind, hkind⟩ := Option.isSome_iff_exists.mp (hpublic e he)
        exact ⟨kind, hkind, hcleanup e he kind hkind⟩
      · have hqueued := (events_of_loadRun hrun).2.1
        have hqueued' := (events_of_loadRun hrun').2.1
        rw [List.head?_append, hqueued, Option.some_or] at hqueued'
        exact (Option.some.inj hqueued').symm

/-- What a run refers to is in every later ledger. -/
theorem LedgerStep.admissionEvents (h : LedgerStep H D L L') {request : RunRequest}
    {admission : AdmissionEvents} (hreads : Bootstrap.admissionEvents L request = .ok admission) :
    Bootstrap.admissionEvents L' request = .ok admission := by
  obtain ⟨hproject, hintent, hplan⟩ := admissionEvents_eq_ok.mp hreads
  have hsame : ∀ {streamId eventType e}, IsAdmissionStream streamId →
      requiredFrom L streamId eventType = .ok e → requiredFrom L' streamId eventType = .ok e := by
    intro streamId eventType e hadmission hread
    exact requiredFrom_congr hread (h.admission hadmission (by simp [requiredFrom_eq_ok hread]))
  exact admissionEvents_eq_ok.mpr ⟨hsame ⟨_, .inl rfl⟩ hproject, hsame ⟨_, .inr (.inl rfl)⟩ hintent,
    hsame ⟨_, .inr (.inr rfl)⟩ hplan⟩

/-- **Steps.** A step leaves a run that has succeeded as it is, or records what happened to its
worktrees. -/
theorem LedgerStep.continues (h : LedgerStep H D L L') (hI : RunInv (streamOf runId L))
    (hload : loadStored H D L runId = .ok old) (hstatus : effectiveRunStatus old.run = .succeeded)
    {index : ℕ} (hindex : reviewTerminalIndex old.run = some index) :
    Bootstrap.admissionEvents L' old.request = Bootstrap.admissionEvents L old.request ∧
      ∃ new, loadStored H D L' runId = .ok new ∧ (new = old ∨ ∃ later, Cleaned old new later) := by
  obtain ⟨queued, request, admission, hhead, htype, hrequest, hname, hreads, hdecode⟩ :=
    loadStored_eq_ok.mp hload
  obtain ⟨rfl, -, -⟩ := decodeStored_eq_ok hdecode
  have hreads' := h.admissionEvents hreads
  refine ⟨hreads'.trans hreads.symm, ?_⟩
  rcases h.run_stream runId with hsame | ⟨events, hL', hstream, hgrowth⟩
  · refine ⟨old, loadStored_eq_ok.mpr ?_, .inl rfl⟩
    rw [hsame]
    exact ⟨queued, old.request, admission, hhead, htype, hrequest, hname, hreads', hdecode⟩
  · cases hkernel : old.run.kernelState with
    | some kernel => exact absurd hgrowth (RunGrowth.not_generated hI hload hkernel hstatus)
    | none =>
      obtain ⟨new, hnew, hcleaned⟩ := hgrowth.declared hI hload hkernel hindex hstream hL'
        (hreads'.trans hreads.symm)
      exact ⟨new, hnew, .inr ⟨events, hcleaned⟩⟩

end Succeeded

/-! ### Candidates in later ledgers -/

section Later

variable {H : Host} {D : Deployment} {Context Prepared : Type} {A : RunArtifacts Context Prepared}
  {L L' : Ledger} {runId : String} {c : ReviewCandidate H} {v : VerificationCandidate H}

/-- The streams of all runs are well formed. -/
theorem Later.runInv (h : Later H D [] L) (runId : String) : RunInv (streamOf runId L) := by
  induction h with
  | refl => exact .nil
  | tail _ hstep ih =>
    rcases hstep.run_stream runId with hsame | ⟨events, hL', -, hgrowth⟩
    · exact hsame ▸ ih
    · exact hL' ▸ (hgrowth.grows ih).inv

/-- A candidate is that of a run that has succeeded. -/
theorem reviewCandidate_eq_ok : reviewCandidate H D A L runId = .ok c ↔
    isWireIdentifier runId = true ∧ ∃ stored, loadStored H D L runId = .ok stored ∧
      effectiveRunStatus stored.run = .succeeded ∧ reviewCandidateOf H A L stored = .ok c := by
  simp only [reviewCandidate, Checked.bind_eq_ok, Checked.require_eq_ok, Checked.exists_unit,
    agree_eq_ok]

theorem loadStored_runId {stored : StoredRun} (h : loadStored H D L runId = .ok stored) :
    stored.request.runId = runId := by
  obtain ⟨_, _, _, -, -, -, hname, -, hdecode⟩ := loadStored_eq_ok.mp h
  rw [(decodeStored_eq_ok hdecode).1, hname]

/-- A candidate names its run, and its event is there. -/
theorem of_reviewCandidateOf {stored : StoredRun} (h : reviewCandidateOf H A L stored = .ok c) :
    c.evidence.runId = stored.request.runId ∧
      ∃ index, reviewTerminalIndex stored.run = some index := by
  simp only [reviewCandidateOf, candidateOf, Checked.bind_eq_ok, found_eq_ok] at h
  obtain ⟨index, hindex, _, -, _, -, _, -, _, -, _, -, _, -, _, -, hcreate⟩ := h
  refine ⟨?_, index, hindex⟩
  rw [createReviewCandidate] at hcreate
  split at hcreate
  · rw [← Except.ok.inj hcreate]
  · exact absurd hcreate (by simp)

/-- **One step.** The candidate is the same, and so is what the context of a review is built from. -/
theorem LedgerStep.reviewCandidate (h : LedgerStep H D L L') (hI : RunInv (streamOf runId L))
    (hc : Bootstrap.reviewCandidate H D A L runId = .ok c) :
    Bootstrap.reviewCandidate H D A L' runId = .ok c ∧
      ∀ review : ReviewCandidate H, review.evidence.runId = runId →
        reviewMaterial H D A L' review = reviewMaterial H D A L review := by
  obtain ⟨hid, old, hload, hstatus, hcandidate⟩ := reviewCandidate_eq_ok.mp hc
  obtain ⟨-, index, hindex⟩ := of_reviewCandidateOf hcandidate
  obtain ⟨hadmission, new, hnew, hcase⟩ := h.continues hI hload hstatus hindex
  have hsame : reviewCandidateOf H A L' new = reviewCandidateOf H A L old ∧
      effectiveRunStatus new.run = effectiveRunStatus old.run ∧
      ∀ review, reviewContextRequest H A review new = reviewContextRequest H A review old := by
    rcases hcase with rfl | ⟨later, hcleaned⟩
    · refine ⟨?_, rfl, fun _ ↦ rfl⟩
      simp only [reviewCandidateOf, hadmission]
    · exact ⟨hcleaned.reviewCandidateOf hadmission, hcleaned.effectiveRunStatus,
        hcleaned.reviewContextRequest⟩
  obtain ⟨hcandidate', hstatus', hrequest⟩ := hsame
  constructor
  · exact reviewCandidate_eq_ok.mpr ⟨hid, new, hnew, hstatus'.trans hstatus,
      hcandidate'.trans hcandidate⟩
  · intro review hname
    simp only [reviewMaterial, hname, hload, hnew, Checked.ok_bind, hstatus', hcandidate', hrequest]

/-- A review that has succeeded was ended by one of its events. -/
theorem ended_of_fold {es : List EventEnvelope} {state : ReviewLifecycle.ReviewLifecycleState}
    (h : foldReviewLifecycle H runId es = .ok state) (hended : state.fold.status = .succeeded) :
    ∃ x ∈ es, ReviewLifecycle.Ends x := by
  simp only [foldReviewLifecycle, Checked.bind_eq_ok, Checked.ofOption_eq_ok,
    Checked.pure_eq_ok] at h
  obtain ⟨_, -, _, -, _, -, _, -, s, hrun, f, rfl, rfl⟩ := h
  refine History.invariant (fun es s ↦ ∀ f ∈ s, f.status.isEnded = true →
    ∃ x ∈ es, ReviewLifecycle.Ends x) (by simp) ?_ hrun f rfl (by rw [hended]; rfl)
  intro pre x s s' _ hx f hf hend
  obtain ⟨f', rfl, htransition⟩ := ReviewLifecycle.transition_of_foldReviewEvent hx
  obtain rfl := Option.some.inj hf
  exact ⟨x, by simp, htransition.ended.2.mp hend⟩

/-- **One step.** The candidate of a verification is read from a review that has ended. -/
theorem LedgerStep.verificationCandidate (h : LedgerStep H D L L')
    (hv : Bootstrap.verificationCandidate H L runId = .ok v) :
    Bootstrap.verificationCandidate H L' runId = .ok v := by
  have hread : L'.readStream (reviewStream runId) = L.readStream (reviewStream runId) := by
    simp only [Bootstrap.verificationCandidate, Checked.bind_eq_ok, Checked.require_eq_ok,
      Checked.exists_unit, Checked.mapError_eq_ok] at hv
    obtain ⟨-, state, hfold, hstatus, -⟩ := hv
    exact h.review_stream (ended_of_fold hfold hstatus)
  rw [Bootstrap.verificationCandidate, hread]
  exact hv

/-- **Candidates of reviews.** -/
theorem Later.reviewCandidate (hreach : Later H D [] L) (h : Later H D L L')
    (hc : Bootstrap.reviewCandidate H D A L runId = .ok c) :
    Bootstrap.reviewCandidate H D A L' runId = .ok c ∧
      ∀ review : ReviewCandidate H, review.evidence.runId = runId →
        reviewMaterial H D A L' review = reviewMaterial H D A L review := by
  induction h with
  | refl => exact ⟨hc, fun _ _ ↦ rfl⟩
  | tail hpath hstep ih =>
    obtain ⟨hcandidate, hmaterial⟩ :=
      hstep.reviewCandidate (Later.runInv (hreach.trans hpath) runId) ih.1
    exact ⟨hcandidate, fun review hname ↦ (hmaterial review hname).trans (ih.2 review hname)⟩

/-- **Candidates of verifications.** -/
theorem Later.verificationCandidate (h : Later H D L L')
    (hv : Bootstrap.verificationCandidate H L runId = .ok v) :
    Bootstrap.verificationCandidate H L' runId = .ok v := by
  induction h with
  | refl => exact hv
  | tail _ hstep ih => exact hstep.verificationCandidate ih

/-- The candidate of a verification names its run. -/
theorem of_verificationCandidate (h : verificationCandidate H L runId = .ok v) :
    v.evidence.runId = runId := by
  simp only [Bootstrap.verificationCandidate, verificationCandidateOf, Checked.bind_eq_ok] at h
  obtain ⟨_, -, _, -, _, -, _, -, _, -, _, -, _, -, _, -, _, -, hcreate⟩ := h
  rw [createVerificationCandidate] at hcreate
  split at hcreate
  · rw [← Except.ok.inj hcreate]
  · exact absurd hcreate (by simp)

/-- A context is built for the current candidate of the run. -/
theorem of_prepareReviewContext {context : Context}
    (h : prepareReviewContext H D A L c = .ok context) :
    ∃ stored, loadStored H D L c.evidence.runId = .ok stored ∧
      effectiveRunStatus stored.run = .succeeded ∧ reviewCandidateOf H A L stored = .ok c := by
  simp only [prepareReviewContext, reviewMaterial, Checked.bind_eq_ok, agree_eq_ok,
    Checked.exists_unit] at h
  obtain ⟨_, ⟨stored, hload, hstatus, current, hcurrent, rfl, -⟩, -⟩ := h
  exact ⟨stored, hload, hstatus, hcurrent⟩

/-- The review of a verification candidate names its run. -/
theorem runId_of_reviewOf (h : reviewOf H v = .ok c) : c.evidence.runId = v.evidence.runId := by
  rw [reviewOf, createReviewCandidate] at h
  split at h
  · rw [← Except.ok.inj h]
  · exact absurd h (by simp)

/-- A prepared verification is about the candidate that the review was about. -/
theorem reviewOf_of_prepareVerification {p : Prepared} (hc : reviewCandidate H D A L runId = .ok c)
    (hname : v.evidence.runId = runId) (hp : prepareVerification H D A L v = .ok p) :
    reviewOf H v = .ok c := by
  simp only [prepareVerification, ofExecution, Checked.bind_eq_ok, Checked.mapError_eq_ok] at hp
  obtain ⟨_, -, _, -, review, hreview, context, hcontext, -⟩ := hp
  obtain ⟨stored, hload, -, hcurrent⟩ := of_prepareReviewContext hcontext
  obtain ⟨-, stored', hload', -, hcandidate⟩ := reviewCandidate_eq_ok.mp hc
  rw [runId_of_reviewOf hreview, hname] at hload
  obtain rfl := Except.ok.inj (hload.symm.trans hload')
  rw [hreview, Except.ok.inj (hcurrent.symm.trans hcandidate)]

/-- A verification is prepared as before when its review is. -/
theorem prepareVerification_congr (hv : verificationCandidate H L runId = .ok v)
    (hv' : verificationCandidate H L' runId = .ok v)
    (hcontext : ∀ review, reviewOf H v = .ok review →
      prepareReviewContext H D A L' review = prepareReviewContext H D A L review) :
    prepareVerification H D A L' v = prepareVerification H D A L v := by
  have hname := of_verificationCandidate hv
  simp only [prepareVerification, hname, hv, hv', Checked.ok_bind]
  cases hreview : reviewOf H v with
  | error error => rfl
  | ok review => simp only [Checked.ok_bind, hcontext review hreview]

/-- The candidate names the run it was asked for. -/
theorem runId_of_reviewCandidate (hc : Bootstrap.reviewCandidate H D A L runId = .ok c) :
    c.evidence.runId = runId := by
  obtain ⟨-, stored, hload, -, hcandidate⟩ := reviewCandidate_eq_ok.mp hc
  rw [(of_reviewCandidateOf hcandidate).1, loadStored_runId hload]

/-- **The stability of candidates.** A candidate of a reachable ledger is the candidate of the run in
every later ledger, and the context of its review is built from the same execution. The same holds of
the verification of its review, which is prepared, if it is, for this candidate. -/
theorem review_candidates_stable (hreach : Later H D [] L) (hlater : Later H D L L')
    (hc : Bootstrap.reviewCandidate H D A L runId = .ok c) :
    Bootstrap.reviewCandidate H D A L' runId = .ok c ∧
      reviewMaterial H D A L' c = reviewMaterial H D A L c ∧
      prepareReviewContext H D A L' c = prepareReviewContext H D A L c ∧
      ∀ v, Bootstrap.verificationCandidate H L' runId = .ok v → ∀ L'', Later H D L' L'' →
        Bootstrap.verificationCandidate H L'' runId = .ok v ∧
          prepareVerification H D A L'' v = prepareVerification H D A L' v ∧
          ∀ p, prepareVerification H D A L'' v = .ok p → reviewOf H v = .ok c := by
  obtain ⟨hc', hmaterial⟩ := Later.reviewCandidate hreach hlater hc
  have hname := runId_of_reviewCandidate hc
  refine ⟨hc', hmaterial c hname, by rw [prepareReviewContext, hmaterial c hname]; rfl, ?_⟩
  intro v hv L'' hlater'
  have hv'' := Later.verificationCandidate hlater' hv
  obtain ⟨hc'', hmaterial'⟩ := Later.reviewCandidate (hreach.trans hlater) hlater' hc'
  refine ⟨hv'', prepareVerification_congr hv hv'' fun review hreview ↦ ?_, fun p hp ↦ ?_⟩
  · have hreviewName := (runId_of_reviewOf hreview).trans (of_verificationCandidate hv)
    rw [prepareReviewContext, hmaterial' review hreviewName]
    rfl
  · exact reviewOf_of_prepareVerification hc'' (of_verificationCandidate hv) hp

end Later

/-! ### Recorded batches -/

section Batches

variable (H : Host) (D : Deployment) (runId : String)

/-- Record a batch of public events of a declared run. -/
def recordBatch (L : Ledger) (events : List EventEnvelope) : Candidacy Ledger := do
  let stored ← loadStored H D L runId
  agree (stored.run.kernelState.isNone ∧ ∀ e ∈ events, isPublic e ∧ e.streamId = runStream runId)
  let _ ← (foldRunLifecycle H runId (nodeDependencies stored.plan)
    (stored.run.events ++ events)).mapError fun _ ↦ CandidateError.lifecycle
  let _ ← (validateWorktreeEvidence H D.fs D.repositoryRoot D.isolationRoot stored.plan
    (stored.run.events ++ events)).mapError fun _ ↦ CandidateError.lifecycle
  return L ++ events

variable {H D runId} {L L' : Ledger} {events : List EventEnvelope} {batches : List (List EventEnvelope)}

/-- A recorded batch is a step of the system. -/
theorem step_of_recordBatch (h : recordBatch H D runId L events = .ok L') :
    LedgerStep H D L L' ∧ L' = L ++ events := by
  simp only [recordBatch, Checked.bind_eq_ok, agree_eq_ok, Checked.exists_unit,
    Checked.mapError_eq_ok, Checked.pure_eq_ok, Option.isNone_iff_eq_none] at h
  obtain ⟨stored, hload, ⟨hkernel, hevents⟩, state, hstate, v, hv, rfl⟩ := h
  refine ⟨.run runId events (fun e he ↦ (hevents e he).2) ?_, rfl⟩
  exact .transitions L stored events (List.prefix_refl _) rfl hload (.claim hkernel)
    (fun e he ↦ (hevents e he).1) (fun _ ↦ hkernel) ⟨state, hstate⟩ ⟨v, hv⟩

theorem later_of_recordBatches (h : History.run (recordBatch H D runId) L batches = .ok L') :
    Later H D L L' := by
  induction batches generalizing L with
  | nil =>
    obtain rfl : L = L' := by simpa using h
    exact .refl
  | cons events batches ih =>
    simp only [History.run_cons, Checked.bind_eq_ok] at h
    obtain ⟨L₁, hstep, hrest⟩ := h
    exact (ih hrest).head (step_of_recordBatch hstep).1

theorem eq_append_of_recordBatches (h : History.run (recordBatch H D runId) L batches = .ok L') :
    L' = L ++ batches.flatten := by
  induction batches generalizing L with
  | nil => simpa using h.symm
  | cons events batches ih =>
    simp only [History.run_cons, Checked.bind_eq_ok] at h
    obtain ⟨L₁, hstep, hrest⟩ := h
    rw [ih hrest, (step_of_recordBatch hstep).2, List.flatten_cons, List.append_assoc]

end Batches

/-! ### A run of one node

The run is recorded, it succeeds, and then the removal of its worktree is requested. -/

namespace OneNode

open RunLifecycle.Sample

/-- A digest of SHA-256. -/
abbrev Hex := { s : String // isHex 64 s = true }

/-- The text of a digest. -/
def text (hex : Hex) : JsonValue := .str (digestPrefix ++ hex.1)

/-! The requests, with their JSON values. -/

def projectRequest : ProjectRequest :=
  ⟨"project-1", "/srv/project-1", AdmissionCall.Sample.configurationDigest, "project-1"⟩

def intentRequest : IntentRequest :=
  ⟨"intent-1", "project-1", "build it", [], [], [], "intent-1"⟩

def intentValue : Mapping := [("schema_version", .str "intent-request/v1"),
  ("intent_id", .str "intent-1"), ("project_id", .str "project-1"), ("objective", .str "build it"),
  ("constraints", .list []), ("assumptions", .list []), ("unresolved_questions", .list []),
  ("idempotency_key", .str "intent-1")]

theorem isCommit_base : isCommit build.baseCommit := by decide +kernel

theorem effects_plan : ([.repositoryRead, .repositoryWrite, .process] : List PlanEffect).length ≤ 4 ∧
    ([.repositoryRead, .repositoryWrite, .process] : List PlanEffect).Nodup := by
  decide

def planRequest : PlanRequest where
  planId := "plan-1"
  projectId := "project-1"
  intentId := "intent-1"
  baseCommit := build.baseCommit
  allowedEffects := [.repositoryRead, .repositoryWrite, .process]
  nodes := [Sample.buildNode]
  idempotencyKey := "plan-1"
  generated := false
  identifiers := by decide +kernel
  isBase := isCommit_base
  effects := effects_plan
  validNodes := ⟨by decide, by decide, by decide +kernel, by decide +kernel, by rfl⟩

def effects : JsonValue :=
  .list [.str "repository-read", .str "repository-write", .str "process"]

def planValue : Mapping := [("schema_version", .str "plan-request/v1"), ("plan_id", .str "plan-1"),
  ("project_id", .str "project-1"), ("intent_id", .str "intent-1"),
  ("base_commit", .str build.baseCommit), ("allowed_effects", effects),
  ("nodes", .list [.object [("node_id", .str "build"), ("objective", .str "build it"),
    ("depends_on", .list []),
    ("budget", .object [("max_input_tokens", .int 1000), ("max_output_tokens", .int 1000),
      ("timeout_seconds", .int 60), ("max_cost_microusd", .int 0), ("max_changed_files", .int 2)]),
    ("effects", effects), ("allowed_paths", .list [.str "src"]),
    ("checks", .list [.object [("check_id", .str "unit"), ("argv", .list [.str "pytest"]),
      ("expected_exit_code", .int 0)]])]]),
  ("idempotency_key", .str "plan-1"), ("planning_mode", .str "declared")]

def runRequest : RunRequest := ⟨"run-1", "project-1", "intent-1", "plan-1", "start-1"⟩

/-- The conversion of one request. -/
def codec {α : Type} (request : α) (value : Mapping) : Codec α :=
  ⟨fun _ ↦ value, fun m ↦ if m = value then some request else none⟩

def deployment : Deployment where
  contracts :=
    { project := codec projectRequest (AdmissionCall.Sample.builtins projectRequest)
      intent := codec intentRequest intentValue
      plan := codec planRequest planValue
      run := codec runRequest request }
  fs := Sample.fileSystem
  repositoryRoot := "/repository"
  isolationRoot := "/isolation"

/-! The digests of the requests, of the payloads that record them, and of the terminal event. -/

def projectHex : Hex := hexText 0xff2ba7e43aa201d43d39adae53132a1b79d453ed8a3b2f53597f088b60f17f81
def intentHex : Hex := hexText 0x55e1ba727e07a858dd80f567fe7d5d574ee1be848d531564923fc5bb718df0a4
def planHex : Hex := hexText 0x24b2e06184d87433573187fedd9379918e0463d51cbf395ab10d82e31833b6dc
def runHex : Hex := hexText 0x5dd5246602eb102f0e77371cc698a4aa877b8899280616a58abba0c689958c70

/-- The payload of an admission event. -/
def admissionPayload (request : Mapping) (digest : Hex) (references : Mapping) : Mapping :=
  [("request", .object request), ("request_digest", text digest), ("principal_id", .str "user-1"),
    ("references", .object references)]

def reference (eventId : String) (digest : Hex) : JsonValue :=
  .object [("event_id", .str eventId), ("event_digest", text digest)]

def projectPayload : Mapping := [("request", .object (AdmissionCall.Sample.builtins projectRequest)),
  ("request_digest", text projectHex), ("principal_id", .str "user-1")]

def projectEventHex : Hex :=
  hexText 0x81fd8548ff213ad0b517bb069a1e01c9324ad6d17d4f021ffff73e3dbbebd976

def intentPayload : Mapping := admissionPayload intentValue intentHex
  [("project", reference "project-event" projectEventHex)]

def intentEventHex : Hex :=
  hexText 0x74d98401db7ec10c535ecb098d96f5ccf249c8bcb2649f6fa4de361a5cb5e385

def planPayload : Mapping := admissionPayload planValue planHex
  [("project", reference "project-event" projectEventHex),
    ("intent", reference "intent-event" intentEventHex)]

def planEventHex : Hex := hexText 0x1c0c50eca6660089951659dc9aedbfb6e7b704f39cb03fdf9bbf875069f0063d

def runPayload : Mapping := admissionPayload request runHex
  [("project", reference "project-event" projectEventHex),
    ("intent", reference "intent-event" intentEventHex),
    ("plan", reference "plan-event" planEventHex)] ++ [("status", .str "queued")]

def terminalHex : Hex := hexText 0xbec7f47fdfddfd40e8533b9df300d26fd32f92f46624fd5f23109209bba8b0b6

/-- The document of the identity of the review. -/
def reviewDocument : Mapping := [("run_event_digest", text terminalHex), ("run_id", .str "run-1"),
  ("stage", .str "review")]

def reviewHex : Hex := hexText 0xe211139e1710f8ebef60f8a2a594aa8510f0d61e7e4b232e896adfda989f31ed

/-- The state up to the terminal event. -/
def stateDocument : Mapping := [
  ("project", .object (AdmissionCall.Sample.builtins projectRequest)), ("intent", .object intentValue),
  ("plan", .object planValue), ("run", .object request),
  ("lifecycle", .object [("run_id", .str "run-1"), ("status", .str "succeeded"),
    ("cancellation_requested", .bool false), ("active_lease", .null),
    ("nodes", .list [.object [("node_id", .str "build"), ("status", .str "succeeded"),
      ("attempts", .int 1), ("fencing_token", .int 1), ("result_digest", build.specDigest),
      ("head_commit", .str build.headCommit), ("failure_code", .null),
      ("retained_worktree", .bool true), ("lease_digest", build.leaseDigest),
      ("worktree_spec_digest", build.specDigest), ("cleanup_status", .str "eligible"),
      ("cleanup_failure_code", .null)]]),
    ("stream_sequence", .int 6), ("latest_event_id", .str "closed"),
    ("latest_event_digest", text terminalHex)])]

def stateHex : Hex := hexText 0x93251fecb792e16383b4df11aaf57fc7c364b3f42a0a8ca4465f63ac3ca359b7

/-- SHA-256 on these documents. -/
def host : Host := .ofTables
  ([(AdmissionCall.Sample.builtins projectRequest, projectHex), (intentValue, intentHex),
    (planValue, planHex), (request, runHex), (projectPayload, projectEventHex),
    (intentPayload, intentEventHex), (planPayload, planEventHex),
    ((closed .runSucceeded "succeeded" true).payload, terminalHex), (reviewDocument, reviewHex),
    (stateDocument, stateHex), (build.document, build.leaseHex), (build.specHead, build.specHex),
    (build.fresh, hexText 0xc0b706ca40e6e52374fdafa717db055487d8eb12a5f57fca8c4b3a45f134314e),
    (build.finished,
      hexText 0x68bf0c53cb2f73ee4c9611a50cf760c592663204531d83233968406ee7ed9d94)].map
      fun (document, hex) ↦ ((JsonValue.object document).canonical, hex))
  [("2026-01-01T00:05:00+00:00", ⟨1767225900000000, true⟩)] []

/-- What the service reads of the artifacts. -/
def artifacts : RunArtifacts Unit Unit where
  available := true
  outcome _ := .error .evidence
  mapping _ := .error .evidence
  evidenceDigest _ _ := .ok (digestPrefix ++ build.leaseHex.1)
  reviewContext _ := .ok ()
  admittedReview _ _ := .ok ()

/-! The events. -/

def admission (eventId streamId eventType : String) (payload : Mapping) : EventEnvelope :=
  ⟨eventId, streamId, 1, eventType, 1, 1767225600000000, 1767225600000000, eventId, none, "user-1",
    runtimeEventSource, payload, none, none⟩

/-- The events that the run refers to, and the event by which it was queued. -/
def queuedLedger : Ledger := [
  admission "project-event" "project:project-1" projectRegistered projectPayload,
  admission "intent-event" "intent:intent-1" intentAccepted intentPayload,
  admission "plan-event" "plan:plan-1" planAccepted planPayload,
  admission "queued" "run:run-1" (StrEnum.value RunEventType.runQueued) runPayload]

/-- The batches up to the success of the run. -/
def batches : List (List EventEnvelope) := [
  stream 2 (some "queued") [claimed build],
  stream 3 (some "build-claimed") [prepared build],
  stream 4 (some "build-prepared") [dispatched build],
  stream 5 (some "build-dispatched") [succeeded build, closed .runSucceeded "succeeded" true]]

/-- The batch that requests the removal of the worktree. -/
def cleanup : List EventEnvelope := stream 7 (some "closed") [
  entry "cleanup" .nodeWorktreeCleanupRequested "worker-1"
    (leasePayload build "worktree-cleanup-requested" [("worktree_spec_digest", build.specDigest),
      ("head_commit", .str build.headCommit), ("retained_worktree", .bool true)])]

/-- The ledger of the run that has succeeded. -/
def finished : Ledger := queuedLedger ++ batches.flatten

theorem queued_reachable : Later host deployment [] queuedLedger := by
  have hadmission : ∀ eventId id eventType payload, IsAdmissionStream
      (admission eventId (projectStream id) eventType payload).streamId ∧
      IsAdmissionStream (admission eventId (intentStream id) eventType payload).streamId ∧
      IsAdmissionStream (admission eventId (planStream id) eventType payload).streamId :=
    fun _ id _ _ ↦ ⟨⟨id, .inl rfl⟩, ⟨id, .inr (.inl rfl)⟩, ⟨id, .inr (.inr rfl)⟩⟩
  have hproject : Later host deployment [] (queuedLedger.take 1) :=
    .single (.admitted _ (hadmission _ "project-1" _ _).1 rfl)
  have hintent : Later host deployment [] (queuedLedger.take 2) :=
    hproject.tail (.admitted _ (hadmission _ "intent-1" _ _).2.1 (by decide +kernel))
  have hplan : Later host deployment [] (queuedLedger.take 3) :=
    hintent.tail (.admitted _ (hadmission _ "plan-1" _ _).2.2 (by decide +kernel))
  exact hplan.tail (.run "run-1" _ (by decide +kernel) (.queued _ (by decide +kernel) (by decide +kernel)))

theorem recorded : (History.run (recordBatch host deployment "run-1") queuedLedger
    (batches ++ [cleanup])).isOk = true := by
  decide +kernel

example : cleanup.length = 1 := by decide +kernel

theorem candidate_isOk :
    (reviewCandidate host deployment artifacts finished "run-1").isOk = true := by
  decide +kernel

example : finished.length = 9 := by decide +kernel

end OneNode

/-- The candidate of a run stays the same when the removal of a worktree is requested. -/
theorem review_candidates_stable_sample : ∃ c,
    reviewCandidate OneNode.host OneNode.deployment OneNode.artifacts OneNode.finished "run-1" = .ok c ∧
      reviewCandidate OneNode.host OneNode.deployment OneNode.artifacts
        (OneNode.finished ++ OneNode.cleanup) "run-1" = .ok c := by
  obtain ⟨c, hc⟩ := Checked.exists_of_isOk OneNode.candidate_isOk
  obtain ⟨L', hL'⟩ := Checked.exists_of_isOk OneNode.recorded
  obtain ⟨L, hrun, hlast⟩ := History.run_append_eq_ok.mp hL'
  have hcleanup := later_of_recordBatches hlast
  have hfinished := later_of_recordBatches hrun
  obtain rfl := eq_append_of_recordBatches hrun
  obtain rfl := eq_append_of_recordBatches hlast
  refine ⟨c, hc, ?_⟩
  have hstable := review_candidates_stable (OneNode.queued_reachable.trans hfinished) hcleanup hc
  rw [List.flatten_singleton] at hstable
  exact hstable.1

end Blackcell.Bootstrap
