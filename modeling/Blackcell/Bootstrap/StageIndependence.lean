import Blackcell.Bootstrap.VerificationRuntime
import Blackcell.Bootstrap.WriteLineage
import Blackcell.Kernel.Consistency
import Blackcell.Orchestration.ExecutionRuntime.Journal
import Blackcell.Orchestration.RunLifecycle.Progress
import Mathlib.Data.Set.Lattice
import Mathlib.Order.CompletePartialOrder

/-!
# The independence of stages

A run is executed, reviewed and verified, and each stage claims its work under a principal. Both
schedulers refuse the principal that recorded the success of the run, and the scheduler of
verifications refuses the actors of the review. A run can be executed by several workers, of which one
records its success.

## Main definitions

* `executors`, `reviewers`, `verifiers` : who claimed or executed a node of a run, and who claimed its
  review and its verification.
* `Moves` : what may happen to the ledger next.
* `Reachable` : the ledgers of the runs of the system whose steps meet a condition.
* `Impartial` : no stage is claimed by a worker of a run whose success another principal recorded.

## Main results

* `stages_disjoint` : in a run of impartial steps the stages are independent.
* `not_stages_disjoint` : they are not in every run.
-/

namespace Blackcell.Bootstrap

open Blackcell.Kernel Blackcell.Orchestration Blackcell.Orchestration.RunLifecycle
open Blackcell.Orchestration.ExecutionRuntime (streamOf executionEventType? project)
open Blackcell.Orchestration.ReviewLifecycle (reviewStream)
open Blackcell.Orchestration.VerificationLifecycle (verificationStream)

/-! ### Principals -/

/-- The event claims a node, is recorded by the worker of a claimed node, or belongs to a generated
execution. -/
def IsWork (e : EventEnvelope) : Prop :=
  (∃ kind, runEventType? e = some kind ∧ (kind = .nodeClaimed ∨ kind.byWorker = true)) ∨
    (executionEventType? e).isSome

/-- The principals that claimed or executed a node of a run. -/
def executors (L : Ledger) (runId : String) : Set String :=
  {p | ∃ e ∈ streamOf runId L, IsWork e ∧ e.actor = p}

/-- The principals that claimed the review of a run. -/
def reviewers (L : Ledger) (runId : String) : Set String :=
  {p | ∃ e ∈ L.readStream (reviewStream runId),
    e.eventType = StrEnum.value ReviewLifecycle.ReviewEventType.claimed ∧ e.actor = p}

/-- The principals that claimed the verification of a run. -/
def verifiers (L : Ledger) (runId : String) : Set String :=
  {p | ∃ e ∈ L.readStream (verificationStream runId),
    e.eventType = StrEnum.value VerificationLifecycle.VerificationEventType.claimed ∧ e.actor = p}

/-! ### Steps of the system -/

section Moves

variable (H : Host) (fs : Adapters.Worktree.FileSystem) (repositoryRoot isolationRoot : String)

/-- What a step does: a call of a scheduler, or anything else. -/
inductive Action where
  | other
  | review (request : ReviewRuntime.Request H)
  | verification (request : VerificationRuntime.Request H)

/-- The steps of the system. A call has seen an earlier ledger when it appends. -/
inductive Moves (L : Ledger) : Action H → Ledger → Prop
  /-- An event of no run. -/
  | other (e : EventEnvelope)
      (hstream : ∀ runId, e.streamId ≠ "run:" ++ runId ∧ e.streamId ≠ reviewStream runId ∧
        e.streamId ≠ verificationStream runId) : Moves L .other (L ++ [e])
  /-- `_record_run_queued`. -/
  | queued (runId : String) (e : EventEnvelope) (hempty : streamOf runId L = [])
      (hstream : e.streamId = "run:" ++ runId) (hkind : runEventType? e = some .runQueued) :
      Moves L .other (L ++ [e])
  /-- `_append_run_transitions`; nodes are claimed by `prepare_node`. -/
  | transitions (runId : String) (plan : Interfaces.Http.PlanRequest) (loaded : LoadedRun)
      (events : List EventEnvelope)
      (hload : loadRun H fs repositoryRoot isolationRoot plan runId (streamOf runId L) = .ok loaded)
      (hpublic : ∀ e ∈ events, isPublic e = true)
      (hclaim : (∃ e ∈ events, runEventType? e = some .nodeClaimed) → loaded.kernelState = none)
      (hfold : ∃ state, foldRunLifecycle H runId (nodeDependencies plan)
        (loaded.events ++ events) = .ok state)
      (hevidence : ∃ v, validateWorktreeEvidence H fs repositoryRoot isolationRoot plan
        (loaded.events ++ events) = .ok v) : Moves L .other (L ++ events)
  /-- `EventBackedExecutionRunJournal.append`. -/
  | journal (runId : String) (e : EventEnvelope) (type : ExecutionEventType)
      (before after : Option ExecutionRuntime.ExecutionRunState)
      (hstream : e.streamId = "run:" ++ runId) (htype : executionEventType? e = some type)
      (hpublic : type = .goalAdmitted → ((streamOf runId L).filter isPublic).length ≤ 1)
      (hbefore : project H (streamOf runId L) = .ok before)
      (hafter : ExecutionRuntime.apply H before e = .ok after) : Moves L .other (L ++ [e])
  /-- A call of `ReviewRuntimeService`. -/
  | review (seen : Ledger) (request : ReviewRuntime.Request H) (new : NewEvent) (x : Submission)
      (stored : EventEnvelope) (L' : Ledger) (hseen : seen <+: L)
      (hperform : request.perform H seen new = .ok (some x))
      (happend : x.append H L = .ok (stored, L')) : Moves L (.review request) L'
  /-- A call of `VerificationRuntimeService`. -/
  | verification (sources seen : Ledger) (request : VerificationRuntime.Request H) (new : NewEvent)
      (x : Submission) (stored : EventEnvelope) (L' : Ledger) (hsources : sources <+: L)
      (hseen : seen <+: L) (hperform : request.perform H sources seen new = .ok (some x))
      (happend : x.append H L = .ok (stored, L')) : Moves L (.verification request) L'

/-- The ledgers that runs of the system reach whose steps meet a condition. -/
inductive Reachable (condition : Ledger → Action H → Prop) : Ledger → Prop
  | start : Reachable condition []
  | next {L L' : Ledger} {action : Action H} (hreach : Reachable condition L)
      (hmoves : Moves H fs repositoryRoot isolationRoot L action L') (hmeets : condition L action) :
      Reachable condition L'

variable {H}

/-- The principal did not claim or execute a node of the run, or recorded its success itself. -/
def ImpartialTo (L : Ledger) (runId workerId : String) : Prop :=
  workerId ∈ executors L runId →
    ∀ success ∈ streamOf runId L, runEventType? success = some .runSucceeded →
      success.actor = workerId

/-- No stage is claimed by a worker of a run whose success another principal recorded. -/
def Impartial (L : Ledger) : Action H → Prop
  | .review (.claim candidate workerId _) => ImpartialTo L candidate.evidence.runId workerId
  | .verification (.claim candidate workerId _) => ImpartialTo L candidate.evidence.runId workerId
  | _ => True

end Moves

/-! ### The stream of a run -/

section Runs

variable {H : Host} {runId : String} {S events : List EventEnvelope} {e : EventEnvelope}

/-- The stream holds an event by which the run succeeded. -/
def Succeeded (S : List EventEnvelope) : Prop := ∃ e ∈ S, runEventType? e = some .runSucceeded

/-- The stream holds a claim of a node. -/
def Claimed (S : List EventEnvelope) : Prop := ∃ e ∈ S, runEventType? e = some .nodeClaimed

/-- What the two ways to execute a run say about its stream: a run with claimed nodes has no generated
execution, and a run that succeeded has claimed nodes. -/
structure RunInv (S : List EventEnvelope) : Prop where
  execution : Claimed S → ∀ e ∈ S, executionEventType? e = none
  isPublic : Claimed S → 2 ≤ (S.filter isPublic).length
  claimed : Succeeded S → Claimed S

/-- The stream grows to one that is well formed, and no work is added to a run that succeeded. -/
structure Grows (S events : List EventEnvelope) : Prop where
  inv : RunInv (S ++ events)
  idle : Succeeded S → ∀ e ∈ events, ¬IsWork e

theorem runEventType?_of_execution (h : (executionEventType? e).isSome) : runEventType? e = none := by
  cases hrun : runEventType? e with
  | none => rfl
  | some kind => simp [ExecutionRuntime.executionEventType?_eq_none hrun] at h

theorem RunInv.nil : RunInv [] := ⟨by simp, by simp [Claimed], by simp [Succeeded]⟩

/-- A projected run has events of its execution. -/
theorem execution_of_project {state : ExecutionRuntime.ExecutionRunState}
    (h : project H S = .ok (some state)) : ∃ e ∈ S, (executionEventType? e).isSome := by
  by_contra hnone
  push Not at hnone
  have hstate : (some state : Option ExecutionRuntime.ExecutionRunState) = none := by
    refine History.invariant
      (fun pre s ↦ (∀ e ∈ pre, ¬(executionEventType? e).isSome) → s = none) (by simp) ?_ h hnone
    intro pre e s s' hpre hstep hall
    obtain rfl := hpre fun e he ↦ hall e (List.mem_append_left _ he)
    cases ExecutionRuntime.apply_eq_ok.mp hstep with
    | unopened t type => rfl
    | opened _ _ _ _ _ type => exact absurd (by simp [type]) (hall e (by simp))
  exact absurd hstate (by simp)

theorem Grows.queued (hkind : runEventType? e = some .runQueued) : Grows [] [e] where
  inv := ⟨by simp [Claimed, hkind], by simp [Claimed, hkind], by simp [Succeeded, hkind]⟩
  idle := by simp [Succeeded]

/-- **Transitions.** A batch that the fold of the run accepts, with claims only where there is no
generated execution. -/
theorem Grows.transitions (hI : RunInv S) {deps : NodeDependencies} {state : RunLifecycleState}
    {kernel : Option ExecutionRuntime.ExecutionRunState} (hkernel : project H S = .ok kernel)
    (hpublic : ∀ e ∈ events, RunLifecycle.isPublic e = true)
    (hclaim : Claimed events → kernel = none)
    (hfold : foldRunLifecycle H runId deps (S ++ events) = .ok state) : Grows S events where
  inv := by
    refine ⟨?_, ?_, fun ⟨t, ht, hkind⟩ ↦ claimed_of_succeeded hfold ht hkind⟩
    · rintro ⟨c, hc, hkind⟩ e he
      have hS : ∀ e ∈ S, executionEventType? e = none := by
        rcases List.mem_append.mp hc with hc | hc
        · exact hI.execution ⟨c, hc, hkind⟩
        · have hnone := hclaim ⟨c, hc, hkind⟩
          exact ExecutionRuntime.public_of_project_none (hnone ▸ hkernel)
      rcases List.mem_append.mp he with he | he
      · exact hS e he
      · obtain ⟨kind, hkind⟩ := Option.isSome_iff_exists.mp (hpublic e he)
        exact ExecutionRuntime.executionEventType?_eq_none hkind
    · rintro ⟨c, hc, hkind⟩
      -- The first public event is `run.queued`, which is no claim.
      obtain ⟨queued, rest, -, -, hfilter, hqueued, -⟩ :=
        foldRunLifecycle_append (q := []) (by simpa using hfold)
          (List.ne_nil_of_mem (List.mem_filter.mpr ⟨hc, by simp [RunLifecycle.isPublic, hkind]⟩))
      have hmem : c ∈ queued :: rest := by
        rw [← hfilter]
        exact List.mem_filter.mpr ⟨hc, by simp [RunLifecycle.isPublic, hkind]⟩
      rcases List.mem_cons.mp hmem with rfl | hmem
      · simp [hkind] at hqueued
      · have := List.length_pos_of_mem hmem
        rw [hfilter, List.length_cons]
        omega
  idle := by
    rintro ⟨t, ht, hkind⟩ e he hwork
    have hcleanup := (closed_history hfold rfl ht hkind rfl).1 e he
    rcases hwork with ⟨kind, hkind, hwork⟩ | hwork
    · have := hcleanup kind hkind
      rcases hwork with rfl | hwork
      · simp [RunEventType.isCleanup] at this
      · cases kind <;> simp [RunEventType.isCleanup, RunEventType.byWorker] at this hwork
    · have := hpublic e he
      simp [RunLifecycle.isPublic, runEventType?_of_execution hwork] at this

/-- **The journal.** An event of a generated execution, which a run with claimed nodes has not. -/
theorem Grows.journal (hI : RunInv S) {type : ExecutionEventType}
    {before after : Option ExecutionRuntime.ExecutionRunState}
    (htype : executionEventType? e = some type)
    (hpublic : type = .goalAdmitted → (S.filter RunLifecycle.isPublic).length ≤ 1)
    (hbefore : project H S = .ok before) (hafter : ExecutionRuntime.apply H before e = .ok after) :
    Grows S [e] := by
  have hexecution : (executionEventType? e).isSome := by simp [htype]
  have hnone := runEventType?_of_execution hexecution
  have hunclaimed : ¬Claimed S := by
    intro hclaimed
    cases before with
    | some s =>
      obtain ⟨x, hx, hsome⟩ := execution_of_project hbefore
      simp [hI.execution hclaimed x hx] at hsome
    | none =>
      cases ExecutionRuntime.apply_eq_ok.mp hafter with
      | unopened t type => simp [hnone] at type
      | opened _ _ _ _ _ hopened =>
        have htwo := hI.isPublic hclaimed
        have hone := hpublic (Option.some.inj (htype.symm.trans hopened))
        omega
  have hclaims : ¬Claimed (S ++ [e]) := by
    rintro ⟨c, hc, hkind⟩
    rcases List.mem_append.mp hc with hc | hc
    · exact hunclaimed ⟨c, hc, hkind⟩
    · simp [List.mem_singleton.mp hc, hnone] at hkind
  refine ⟨⟨fun h ↦ absurd h hclaims, fun h ↦ absurd h hclaims, ?_⟩,
    fun h ↦ absurd (hI.claimed h) hunclaimed⟩
  rintro ⟨t, ht, hkind⟩
  rcases List.mem_append.mp ht with ht | ht
  · exact absurd (hI.claimed ⟨t, ht, hkind⟩) hunclaimed
  · simp [List.mem_singleton.mp ht, hnone] at hkind

end Runs

/-! ### What a step changes -/

section Change

variable {H : Host} {fs : Adapters.Worktree.FileSystem} {repositoryRoot isolationRoot : String}
  {L L' : Ledger} {action : Action H} {runId : String}

theorem review_ne_run (runId runId' : String) : reviewStream runId ≠ "run:" ++ runId' := by
  intro h
  have := congrArg (fun s ↦ s.toList[1]?) h
  simp [reviewStream, String.toList_append] at this

theorem verification_ne_run (runId runId' : String) : verificationStream runId ≠ "run:" ++ runId' := by
  intro h
  have := congrArg (fun s ↦ s.toList[0]?) h
  simp [verificationStream, String.toList_append] at this

theorem verification_ne_review (runId runId' : String) :
    verificationStream runId ≠ reviewStream runId' := by
  intro h
  have := congrArg (fun s ↦ s.toList[0]?) h
  simp [verificationStream, reviewStream, String.toList_append] at this

theorem reviewStream_injective : Function.Injective reviewStream := by
  intro runId runId' h
  have := congrArg String.toList h
  rw [reviewStream, reviewStream, String.toList_append, String.toList_append] at this
  exact String.toList_injective (List.append_cancel_left this)

theorem verificationStream_injective : Function.Injective verificationStream := by
  intro runId runId' h
  have := congrArg String.toList h
  rw [verificationStream, verificationStream, String.toList_append, String.toList_append] at this
  exact String.toList_injective (List.append_cancel_left this)

/-- The claim of a stage by another principal than the workers of the run. -/
def OfStage (L : Ledger) (runId : String) (e : EventEnvelope) : Prop :=
  Succeeded (streamOf runId L) ∧ e.actor ∉ executors L runId

/-- The changes of a step to the three streams of a run. -/
inductive Change (L L' : Ledger) (runId : String) : Prop
  | run (events : List EventEnvelope) (hrun : streamOf runId L' = streamOf runId L ++ events)
      (hgrows : Grows (streamOf runId L) events)
      (hreview : L'.readStream (reviewStream runId) = L.readStream (reviewStream runId))
      (hverification : L'.readStream (verificationStream runId) =
        L.readStream (verificationStream runId))
  | same (hrun : streamOf runId L' = streamOf runId L)
      (hreview : L'.readStream (reviewStream runId) = L.readStream (reviewStream runId))
      (hverification : L'.readStream (verificationStream runId) =
        L.readStream (verificationStream runId))
  | review (e : EventEnvelope) (hrun : streamOf runId L' = streamOf runId L)
      (hreview : L'.readStream (reviewStream runId) = L.readStream (reviewStream runId) ++ [e])
      (hopen : ∀ x ∈ L.readStream (reviewStream runId), ¬ReviewLifecycle.Ends x)
      (hclaim : e.eventType = StrEnum.value ReviewLifecycle.ReviewEventType.claimed →
        OfStage L runId e)
      (hverification : L'.readStream (verificationStream runId) =
        L.readStream (verificationStream runId))
  | verification (e : EventEnvelope) (hrun : streamOf runId L' = streamOf runId L)
      (hreview : L'.readStream (reviewStream runId) = L.readStream (reviewStream runId))
      (hverification : L'.readStream (verificationStream runId) =
        L.readStream (verificationStream runId) ++ [e])
      (hclaim : e.eventType = StrEnum.value VerificationLifecycle.VerificationEventType.claimed →
        OfStage L runId e ∧ ∃ seen, seen <+: L.readStream (reviewStream runId) ∧
          (∃ x ∈ seen, ReviewLifecycle.Ends x) ∧ ∀ x ∈ seen, x.actor ≠ e.actor)

/-- Events on other streams change nothing of a run. -/
theorem Change.of_other {events : List EventEnvelope}
    (h : ∀ e ∈ events, e.streamId ≠ "run:" ++ runId ∧ e.streamId ≠ reviewStream runId ∧
      e.streamId ≠ verificationStream runId) : Change L (L ++ events) runId := by
  have hnil : ∀ streamId, (∀ e ∈ events, e.streamId ≠ streamId) →
      Ledger.readStream (L ++ events) streamId = L.readStream streamId := by
    intro streamId hne
    have hother : Ledger.readStream events streamId = [] :=
      List.filter_eq_nil_iff.mpr fun e he ↦ by simpa using hne e he
    rw [Ledger.readStream_append, hother, List.append_nil]
  exact .same (hnil _ fun e he ↦ (h e he).1) (hnil _ fun e he ↦ (h e he).2.1)
    (hnil _ fun e he ↦ (h e he).2.2)

/-- Events on the stream of a run. -/
theorem Change.of_run {events : List EventEnvelope} (runId' : String)
    (hstream : ∀ e ∈ events, e.streamId = "run:" ++ runId')
    (hgrows : Grows (streamOf runId' L) events) : Change L (L ++ events) runId := by
  by_cases hrun : runId' = runId
  · subst hrun
    have hown : Ledger.readStream events ("run:" ++ runId') = events :=
      List.filter_eq_self.mpr fun e he ↦ by simpa using hstream e he
    have hother : ∀ streamId, streamId ≠ "run:" ++ runId' →
        Ledger.readStream events streamId = [] :=
      fun streamId hne ↦ List.filter_eq_nil_iff.mpr fun e he ↦ by
        simpa [hstream e he] using hne.symm
    refine .run events ?_ hgrows ?_ ?_
    · rw [streamOf, Ledger.readStream_append, hown]
      rfl
    · rw [Ledger.readStream_append, hother _ (review_ne_run _ _), List.append_nil]
    · rw [Ledger.readStream_append, hother _ (verification_ne_run _ _), List.append_nil]
  · refine .of_other fun e he ↦ ?_
    rw [hstream e he]
    exact ⟨fun h ↦ hrun (ExecutionRuntime.streamId_injective h), (review_ne_run _ _).symm,
      (verification_ne_run _ _).symm⟩

/-- An impartial principal is no worker of a run whose success another one recorded. -/
theorem ofStage_of_success {seen : Ledger} {runId correlationId digest : String}
    {e success : EventEnvelope} (hseen : seen <+: L) (hmem : success ∈ seen)
    (hsuccess : isSuccessOf H runId correlationId digest success) (hactor : success.actor ≠ e.actor)
    (hfair : ImpartialTo L runId e.actor) : OfStage L runId e := by
  have hkind : runEventType? success = some .runSucceeded := by
    rw [runEventType?, if_pos hsuccess.2.2.1, hsuccess.2.1, StrEnum.ofValue?_value]
  have hstream : success ∈ streamOf runId L :=
    Ledger.mem_readStream.mpr ⟨hseen.subset hmem, hsuccess.1⟩
  exact ⟨⟨success, hstream, hkind⟩, fun hworker ↦ hactor (hfair hworker success hstream hkind)⟩

/-- A call of the scheduler of reviews. -/
theorem Change.of_review {seen : Ledger} {request : ReviewRuntime.Request H} {new : NewEvent}
    {x : Submission} {stored : EventEnvelope} (hseen : seen <+: L)
    (hperform : request.perform H seen new = .ok (some x)) (happend : x.append H L = .ok (stored, L'))
    (hfair : Impartial L (.review request)) : Change L L' runId := by
  obtain ⟨⟨hexpected, state, hfolds⟩, hclaims⟩ := ReviewRuntime.submitted_of_perform hperform
  have hstream := ReviewLifecycle.stream_of_fold hfolds x.event (by simp)
  obtain rfl | ⟨rfl, hsequence⟩ := Submission.append_eq_ok happend
  · exact .same rfl rfl rfl
  have hread := readStream_of_seen hseen (hexpected ▸ hstream ▸ hsequence)
  by_cases hrun : request.runId = runId
  · subst hrun
    refine .review (L.stored x.event) ?_ ?_ ?_ ?_ ?_
    · exact Ledger.readStream_append_of_ne (hstream ▸ review_ne_run _ _)
    · exact Ledger.readStream_append_singleton hstream
    · exact hread ▸ ReviewLifecycle.open_of_fold hfolds
    · intro htype
      obtain ⟨candidate, workerId, leaseExpiresAt, rfl⟩ := hclaims htype
      simp only [ReviewRuntime.Request.perform, Checked.bind_eq_ok, Checked.pure_eq_ok,
        Option.some.injEq] at hperform
      obtain ⟨⟨lease, x⟩, hclaim, rfl⟩ := hperform
      obtain ⟨-, hactor, -, success, hmem, hsuccess, hne⟩ := ReviewRuntime.of_claim hclaim
      subst hactor
      exact ofStage_of_success hseen hmem hsuccess hne hfair
    · exact Ledger.readStream_append_of_ne (hstream ▸ (verification_ne_review _ _).symm)
  · refine .of_other fun e he ↦ ?_
    rw [List.mem_singleton.mp he, Ledger.stored_streamId, hstream]
    exact ⟨review_ne_run _ _, fun h ↦ hrun (reviewStream_injective h),
      (verification_ne_review _ _).symm⟩

/-- A call of the scheduler of verifications. -/
theorem Change.of_verification {sources seen : Ledger} {request : VerificationRuntime.Request H}
    {new : NewEvent} {x : Submission} {stored : EventEnvelope} (hsources : sources <+: L)
    (hseen : seen <+: L) (hperform : request.perform H sources seen new = .ok (some x))
    (happend : x.append H L = .ok (stored, L')) (hfair : Impartial L (.verification request)) :
    Change L L' runId := by
  obtain ⟨⟨hexpected, state, hfolds⟩, hclaims⟩ := VerificationRuntime.submitted_of_perform hperform
  have hstream := VerificationLifecycle.stream_of_fold hfolds x.event (by simp)
  obtain rfl | ⟨rfl, hsequence⟩ := Submission.append_eq_ok happend
  · exact .same rfl rfl rfl
  by_cases hrun : request.runId = runId
  · subst hrun
    refine .verification (L.stored x.event) ?_ ?_ ?_ ?_
    · exact Ledger.readStream_append_of_ne (hstream ▸ verification_ne_run _ _)
    · exact Ledger.readStream_append_of_ne (hstream ▸ verification_ne_review _ _)
    · exact Ledger.readStream_append_singleton hstream
    · intro htype
      obtain ⟨candidate, workerId, leaseExpiresAt, rfl⟩ := hclaims htype
      simp only [VerificationRuntime.Request.perform, Checked.bind_eq_ok, Checked.pure_eq_ok,
        Option.some.injEq] at hperform
      obtain ⟨⟨lease, x⟩, hclaim, rfl⟩ := hperform
      obtain ⟨-, hactor, -, ⟨success, hmem, hsuccess, hne⟩, hreview, hactors⟩ :=
        VerificationRuntime.of_claim hclaim
      subst hactor
      exact ⟨ofStage_of_success hsources hmem hsuccess hne hfair, _, hsources.filter _, hreview,
        hactors⟩
  · refine .of_other fun e he ↦ ?_
    rw [List.mem_singleton.mp he, Ledger.stored_streamId, hstream]
    exact ⟨verification_ne_run _ _, verification_ne_review _ _,
      fun h ↦ hrun (verificationStream_injective h)⟩

/-- **Steps.** An impartial step changes the streams of a run in one of these ways. -/
theorem change_of_moves (hI : ∀ runId, RunInv (streamOf runId L))
    (h : Moves H fs repositoryRoot isolationRoot L action L') (hfair : Impartial L action) :
    Change L L' runId := by
  cases h with
  | other e hstream =>
    exact .of_other fun e' he' ↦ List.mem_singleton.mp he' ▸ hstream runId
  | queued runId' e hempty hstream hkind =>
    exact .of_run runId' (by simpa using hstream) (hempty ▸ .queued hkind)
  | transitions runId' plan loaded events hload hpublic hclaim hfold hevidence =>
    simp only [loadRun, Checked.bind_eq_ok, Checked.mapError_eq_ok, Checked.pure_eq_ok] at hload
    obtain ⟨_, -, _, -, state, -, kernel, hkernel, v, -, rfl⟩ := hload
    obtain ⟨state', hfold⟩ := hfold
    refine .of_run runId' (fun e he ↦ ?_)
      (.transitions (hI runId') hkernel hpublic hclaim hfold)
    exact (event_of_foldRunLifecycle hfold e (List.mem_append_right _ he)).1
  | journal runId' e type before after hstream htype hpublic hbefore hafter =>
    exact .of_run runId' (by simpa using hstream)
      (.journal (hI runId') htype hpublic hbefore hafter)
  | review seen request new x stored L' hseen hperform happend =>
    exact .of_review hseen hperform happend hfair
  | verification sources seen request new x stored L' hsources hseen hperform happend =>
    exact .of_verification hsources hseen hperform happend hfair

end Change

/-! ### The invariant -/

section Invariant

variable {H : Host} {fs : Adapters.Worktree.FileSystem} {repositoryRoot isolationRoot : String}
  {L L' : Ledger} {action : Action H} {runId p : String}

/-- A review is claimed after the run succeeded, a verification after the review ended, and only the
last event of a review ends it. -/
structure StageInv (L : Ledger) (runId : String) : Prop where
  run : RunInv (streamOf runId L)
  reviewed : (reviewers L runId).Nonempty → Succeeded (streamOf runId L)
  verified : (verifiers L runId).Nonempty → Succeeded (streamOf runId L) ∧
    ∃ x ∈ L.readStream (reviewStream runId), ReviewLifecycle.Ends x
  ended : ∀ x ∈ (L.readStream (reviewStream runId)).dropLast, ¬ReviewLifecycle.Ends x
  executors_reviewers : Disjoint (executors L runId) (reviewers L runId)
  executors_verifiers : Disjoint (executors L runId) (verifiers L runId)
  reviewers_verifiers : Disjoint (reviewers L runId) (verifiers L runId)

theorem StageInv.nil : StageInv [] runId where
  run := .nil
  reviewed := by simp [reviewers, Ledger.readStream]
  verified := by simp [verifiers, Ledger.readStream]
  ended := by simp [Ledger.readStream]
  executors_reviewers := by simp [reviewers, Ledger.readStream]
  executors_verifiers := by simp [verifiers, Ledger.readStream]
  reviewers_verifiers := by simp [verifiers, Ledger.readStream]

theorem executors_congr (h : streamOf runId L' = streamOf runId L) :
    executors L' runId = executors L runId := by
  rw [executors, executors, h]

theorem reviewers_congr
    (h : L'.readStream (reviewStream runId) = L.readStream (reviewStream runId)) :
    reviewers L' runId = reviewers L runId := by
  rw [reviewers, reviewers, h]

theorem verifiers_congr
    (h : L'.readStream (verificationStream runId) = L.readStream (verificationStream runId)) :
    verifiers L' runId = verifiers L runId := by
  rw [verifiers, verifiers, h]

theorem Succeeded.append {S : List EventEnvelope} (h : Succeeded S) (events : List EventEnvelope) :
    Succeeded (S ++ events) :=
  let ⟨e, he, hkind⟩ := h
  ⟨e, List.mem_append_left _ he, hkind⟩

/-- A run that succeeded gets no further workers. -/
theorem executors_of_grows {events : List EventEnvelope}
    (hrun : streamOf runId L' = streamOf runId L ++ events)
    (hgrows : Grows (streamOf runId L) events) (hsucceeded : Succeeded (streamOf runId L)) :
    executors L' runId = executors L runId := by
  ext p
  simp only [executors, hrun, Set.mem_ofPred_eq]
  constructor
  · rintro ⟨e, he, hwork, hactor⟩
    rcases List.mem_append.mp he with he | he
    · exact ⟨e, he, hwork, hactor⟩
    · exact absurd hwork (hgrows.idle hsucceeded e he)
  · rintro ⟨e, he, hwork, hactor⟩
    exact ⟨e, List.mem_append_left _ he, hwork, hactor⟩

/-- The stream of the run grows. -/
theorem StageInv.run_step (hI : StageInv L runId) {events : List EventEnvelope}
    (hrun : streamOf runId L' = streamOf runId L ++ events)
    (hgrows : Grows (streamOf runId L) events)
    (hreview : L'.readStream (reviewStream runId) = L.readStream (reviewStream runId))
    (hverification : L'.readStream (verificationStream runId) =
      L.readStream (verificationStream runId)) : StageInv L' runId := by
  have hdisjoint : Disjoint (executors L' runId) (reviewers L runId) ∧
      Disjoint (executors L' runId) (verifiers L runId) := by
    by_cases hsucceeded : Succeeded (streamOf runId L)
    · rw [executors_of_grows hrun hgrows hsucceeded]
      exact ⟨hI.executors_reviewers, hI.executors_verifiers⟩
    · -- Before the success of the run no stage is claimed.
      rw [Set.not_nonempty_iff_eq_empty.mp fun h ↦ hsucceeded (hI.reviewed h),
        Set.not_nonempty_iff_eq_empty.mp fun h ↦ hsucceeded (hI.verified h).1]
      exact ⟨Set.disjoint_empty _, Set.disjoint_empty _⟩
  constructor
  · exact hrun ▸ hgrows.inv
  · rw [reviewers_congr hreview, hrun]
    exact fun h ↦ (hI.reviewed h).append events
  · rw [verifiers_congr hverification, hrun, hreview]
    exact fun h ↦ ⟨(hI.verified h).1.append events, (hI.verified h).2⟩
  · rw [hreview]
    exact hI.ended
  · rw [reviewers_congr hreview]
    exact hdisjoint.1
  · rw [verifiers_congr hverification]
    exact hdisjoint.2
  · rw [reviewers_congr hreview, verifiers_congr hverification]
    exact hI.reviewers_verifiers

/-- The stream of the review grows: nobody has claimed the verification, and a new claim is that of a
principal that is no worker of the run. -/
theorem StageInv.review_step (hI : StageInv L runId) {e : EventEnvelope}
    (hrun : streamOf runId L' = streamOf runId L)
    (hreview : L'.readStream (reviewStream runId) = L.readStream (reviewStream runId) ++ [e])
    (hopen : ∀ x ∈ L.readStream (reviewStream runId), ¬ReviewLifecycle.Ends x)
    (hclaim : e.eventType = StrEnum.value ReviewLifecycle.ReviewEventType.claimed →
      OfStage L runId e)
    (hverification : L'.readStream (verificationStream runId) =
      L.readStream (verificationStream runId)) : StageInv L' runId := by
  have hunverified : verifiers L' runId = ∅ := by
    rw [verifiers_congr hverification]
    refine Set.not_nonempty_iff_eq_empty.mp fun h ↦ ?_
    obtain ⟨-, x, hx, hends⟩ := hI.verified h
    exact hopen x hx hends
  have hnew : ∀ p ∈ reviewers L' runId, p ∈ reviewers L runId ∨ OfStage L runId e ∧ e.actor = p := by
    rintro p ⟨x, hx, htype, hactor⟩
    rw [hreview] at hx
    rcases List.mem_append.mp hx with hx | hx
    · exact .inl ⟨x, hx, htype, hactor⟩
    · obtain rfl := List.mem_singleton.mp hx
      exact .inr ⟨hclaim htype, hactor⟩
  constructor
  · exact hrun ▸ hI.run
  · rintro ⟨p, hp⟩
    rw [hrun]
    exact (hnew p hp).elim (fun h ↦ hI.reviewed ⟨p, h⟩) fun h ↦ h.1.1
  · simp [hunverified]
  · rw [hreview, List.dropLast_concat]
    exact hopen
  · rw [executors_congr hrun]
    refine Set.disjoint_left.mpr fun p hexecutor hreviewer ↦ ?_
    rcases hnew p hreviewer with h | ⟨⟨-, hworker⟩, rfl⟩
    · exact Set.disjoint_left.mp hI.executors_reviewers hexecutor h
    · exact hworker hexecutor
  · simp [hunverified]
  · simp [hunverified]

/-- The stream of the verification grows: a new claim is that of a principal that is neither a worker
of the run nor an actor of its review, which has ended. -/
theorem StageInv.verification_step (hI : StageInv L runId) {e : EventEnvelope}
    (hrun : streamOf runId L' = streamOf runId L)
    (hreview : L'.readStream (reviewStream runId) = L.readStream (reviewStream runId))
    (hverification : L'.readStream (verificationStream runId) =
      L.readStream (verificationStream runId) ++ [e])
    (hclaim : e.eventType = StrEnum.value VerificationLifecycle.VerificationEventType.claimed →
      OfStage L runId e ∧ ∃ seen, seen <+: L.readStream (reviewStream runId) ∧
        (∃ x ∈ seen, ReviewLifecycle.Ends x) ∧ ∀ x ∈ seen, x.actor ≠ e.actor) :
    StageInv L' runId := by
  have hnew : ∀ p ∈ verifiers L' runId, p ∈ verifiers L runId ∨
      (OfStage L runId e ∧ ∃ seen, seen <+: L.readStream (reviewStream runId) ∧
        (∃ x ∈ seen, ReviewLifecycle.Ends x) ∧ ∀ x ∈ seen, x.actor ≠ e.actor) ∧ e.actor = p := by
    rintro p ⟨x, hx, htype, hactor⟩
    rw [hverification] at hx
    rcases List.mem_append.mp hx with hx | hx
    · exact .inl ⟨x, hx, htype, hactor⟩
    · obtain rfl := List.mem_singleton.mp hx
      exact .inr ⟨hclaim htype, hactor⟩
  constructor
  · exact hrun ▸ hI.run
  · rw [reviewers_congr hreview, hrun]
    exact hI.reviewed
  · rintro ⟨p, hp⟩
    rw [hrun, hreview]
    rcases hnew p hp with h | ⟨⟨hstage, seen, hseen, ⟨x, hx, hends⟩, -⟩, -⟩
    · exact hI.verified ⟨p, h⟩
    · exact ⟨hstage.1, x, hseen.subset hx, hends⟩
  · rw [hreview]
    exact hI.ended
  · rw [executors_congr hrun, reviewers_congr hreview]
    exact hI.executors_reviewers
  · rw [executors_congr hrun]
    refine Set.disjoint_left.mpr fun p hexecutor hverifier ↦ ?_
    rcases hnew p hverifier with h | ⟨⟨⟨-, hworker⟩, -⟩, rfl⟩
    · exact Set.disjoint_left.mp hI.executors_verifiers hexecutor h
    · exact hworker hexecutor
  · rw [reviewers_congr hreview]
    refine Set.disjoint_left.mpr fun p hreviewer hverifier ↦ ?_
    rcases hnew p hverifier with h | ⟨⟨-, seen, ⟨later, hlater⟩, ⟨x, hx, hends⟩, hactors⟩, rfl⟩
    · exact Set.disjoint_left.mp hI.reviewers_verifiers hreviewer h
    · -- The review had ended, so that its stream is still the one whose actors were compared.
      obtain rfl : later = [] := by
        by_contra hne
        refine hI.ended x ?_ hends
        rw [← hlater, List.dropLast_append_of_ne_nil hne]
        exact List.mem_append_left _ hx
      obtain ⟨y, hy, -, hactor⟩ := hreviewer
      rw [← hlater, List.append_nil] at hy
      exact hactors y hy hactor

/-- **One step.** Every impartial step keeps the invariant. -/
theorem StageInv.step (hI : ∀ runId, StageInv L runId)
    (h : Moves H fs repositoryRoot isolationRoot L action L') (hfair : Impartial L action) :
    StageInv L' runId := by
  have hchange : Change L L' runId := change_of_moves (fun runId ↦ (hI runId).run) h hfair
  cases hchange with
  | run events hrun hgrows hreview hverification =>
    exact (hI runId).run_step hrun hgrows hreview hverification
  | same hrun hreview hverification =>
    have hrun' : streamOf runId L' = streamOf runId L ++ [] := by simpa using hrun
    exact (hI runId).run_step hrun'
      ⟨by simpa using (hI runId).run, by simp⟩ hreview hverification
  | review e hrun hreview hopen hclaim hverification =>
    exact (hI runId).review_step hrun hreview hopen hclaim hverification
  | verification e hrun hreview hverification hclaim =>
    exact (hI runId).verification_step hrun hreview hverification hclaim

theorem StageInv.of_reachable
    (h : Reachable H fs repositoryRoot isolationRoot Impartial L) : ∀ runId, StageInv L runId := by
  induction h with
  | start => exact fun _ ↦ .nil
  | next hreach hmoves hmeets ih => exact fun _ ↦ .step ih hmoves hmeets

end Invariant

/-! ### Histories of transitions -/

section Batches

variable (H : Host) (runId : String) (deps : NodeDependencies) (queued : EventEnvelope)

/-- A batch of transitions, after which the stream of the run can end. -/
def foldBatch (s : FoldState) (events : List EventEnvelope) : Except LifecycleError FoldState := do
  let s' ← History.run (foldEvent H runId deps) s events
  RunLifecycle.check (acceptsEnd deps s')
  pure s'

/-- The fold of a run that was recorded in batches of public events. -/
def foldBatches (batches : List (List EventEnvelope)) : Except LifecycleError FoldState := do
  let events := queued :: batches.flatten
  RunLifecycle.check (runId ≠ "" ∧ deps.entries ≠ [] ∧ acceptsEnd deps .initial)
  checkDependencies deps
  checkStream runId 1 events
  RunLifecycle.check (∀ e ∈ batches.flatten, isPublic e)
  RunLifecycle.check (runEventType? queued = some .runQueued)
  validateQueued H runId queued
  RunLifecycle.check (∀ e ∈ events, e.correlationId = queued.correlationId)
  checkCausation events
  History.run (foldBatch H runId deps) .initial batches

variable {H runId deps queued} {batches : List (List EventEnvelope)} {s : FoldState}

/-- What is folded up to a batch was folded before it. -/
theorem foldBatches_concat {events : List EventEnvelope}
    (h : foldBatches H runId deps queued (batches ++ [events]) = .ok s) :
    ∃ s', foldBatches H runId deps queued batches = .ok s' := by
  simp only [foldBatches, List.flatten_concat, Checked.bind_eq_ok, RunLifecycle.check_eq_ok,
    Checked.exists_unit, ← List.cons_append] at h ⊢
  obtain ⟨hrun, hdeps, hstream, hpublic, hqueued, hvalid, hcorrelation, hcausation, hfold⟩ := h
  obtain ⟨s', hfold', -⟩ := History.run_append_eq_ok.mp hfold
  exact ⟨s', hrun, hdeps, checkStream_append hstream,
    fun e he ↦ hpublic e (List.mem_append_left _ he), hqueued, hvalid,
    fun e he ↦ hcorrelation e (List.mem_append_left _ he), checkCausation_append hcausation, hfold'⟩

/-- A run that was recorded in batches is folded as a whole. -/
theorem fold_of_foldBatches (h : foldBatches H runId deps queued batches = .ok s) :
    ∃ state, foldRunLifecycle H runId deps (queued :: batches.flatten) = .ok state := by
  simp only [foldBatches, Checked.bind_eq_ok, RunLifecycle.check_eq_ok, Checked.exists_unit] at h
  obtain ⟨⟨hrun, hentries, hinitial⟩, hdeps, hstream, hpublic, hqueued, hvalid, hcorrelation,
    hcausation, hfold⟩ := h
  have hfilter : (queued :: batches.flatten).filter isPublic = queued :: batches.flatten := by
    refine List.filter_eq_self.mpr fun e he ↦ ?_
    rcases List.mem_cons.mp he with rfl | he
    · simp [isPublic, hqueued]
    · exact hpublic e he
  have hrunFold : History.run (foldEvent H runId deps) .initial batches.flatten = .ok s ∧
      acceptsEnd deps s := by
    refine History.invariant (fun batches s ↦
      History.run (foldEvent H runId deps) .initial batches.flatten = .ok s ∧ acceptsEnd deps s)
      ⟨rfl, hinitial⟩ ?_ hfold
    rintro pre events s s' ⟨hpre, -⟩ hstep
    simp only [foldBatch, Checked.bind_eq_ok, RunLifecycle.check_eq_ok, Checked.exists_unit,
      Checked.pure_eq_ok] at hstep
    obtain ⟨_, hevents, hend, rfl⟩ := hstep
    rw [List.flatten_concat]
    exact ⟨History.run_append_eq_ok.mpr ⟨s, hpre, hevents⟩, hend⟩
  have hlast := List.getLast?_eq_some_getLast (List.cons_ne_nil queued batches.flatten)
  rw [foldRunLifecycle]
  simp only [hfilter, Checked.bind_eq_ok, RunLifecycle.check_eq_ok, Checked.exists_unit,
    present_eq_ok, Checked.pure_eq_ok]
  exact ⟨_, ⟨hrun, hentries⟩, _, hlast, hdeps, hstream, hqueued, hvalid, hcorrelation, hcausation,
    s, hrunFold.1, hrunFold.2, rfl⟩

/-- **Recorded runs.** A run whose public events were recorded in batches, each of which leaves a
stream that can be loaded, is reachable. -/
theorem reachable_of_batches {fs : Adapters.Worktree.FileSystem}
    {repositoryRoot isolationRoot : String} {plan : Interfaces.Http.PlanRequest}
    {condition : Ledger → Action H → Prop} (hcondition : ∀ L, condition L .other)
    (hfold : foldBatches H runId (nodeDependencies plan) queued batches = .ok s)
    (hevidence : ∃ v, validateWorktreeEvidence H fs repositoryRoot isolationRoot plan
      (queued :: batches.flatten) = .ok v)
    (hproject : ∃ kernel, project H (queued :: batches.flatten) = .ok kernel) :
    Reachable H fs repositoryRoot isolationRoot condition (queued :: batches.flatten) := by
  induction batches using List.reverseRecOn generalizing s with
  | nil =>
    obtain ⟨state, h⟩ := fold_of_foldBatches hfold
    have hstream := (event_of_foldRunLifecycle h queued (by simp)).1
    simp only [foldBatches, Checked.bind_eq_ok, RunLifecycle.check_eq_ok, Checked.exists_unit] at hfold
    exact .next .start (.queued runId queued rfl hstream hfold.2.2.2.2.1) (hcondition _)
  | append_singleton batches events ih =>
    obtain ⟨s', hbefore⟩ := foldBatches_concat hfold
    obtain ⟨state, hstate⟩ := fold_of_foldBatches hbefore
    obtain ⟨state', hstate'⟩ := fold_of_foldBatches hfold
    rw [List.flatten_concat, ← List.cons_append] at hevidence hproject hstate' ⊢
    obtain ⟨v, hv⟩ := hevidence
    obtain ⟨kernel, hkernel⟩ := hproject
    obtain ⟨v', hv', -⟩ := History.run_append_eq_ok.mp hv
    obtain ⟨kernel', hkernel', -⟩ := History.run_append_eq_ok.mp hkernel
    have hown : streamOf runId (queued :: batches.flatten) = queued :: batches.flatten :=
      List.filter_eq_self.mpr fun e he ↦ by simpa using (event_of_foldRunLifecycle hstate e he).1
    simp only [foldBatches, Checked.bind_eq_ok, RunLifecycle.check_eq_ok, Checked.exists_unit,
      List.flatten_concat] at hfold
    obtain ⟨-, -, -, hpublic, hqueued, -⟩ := hfold
    have hnone : kernel' = none := by
      -- A run of public events has no generated execution.
      by_contra hsome
      obtain ⟨kernel', rfl⟩ := Option.ne_none_iff_exists'.mp hsome
      obtain ⟨e, he, hexecution⟩ := execution_of_project hkernel'
      have hprivate := runEventType?_of_execution hexecution
      rcases List.mem_cons.mp he with rfl | he
      · simp [hqueued] at hprivate
      · have := hpublic e (List.mem_append_left _ he)
        simp [isPublic, hprivate] at this
    refine .next (ih hbefore ⟨v', hv'⟩ ⟨kernel', hkernel'⟩) (.transitions runId plan
      ⟨queued :: batches.flatten, state, kernel'⟩ events ?_
      (fun e he ↦ hpublic e (List.mem_append_right _ he)) (fun _ ↦ hnone) ⟨state', hstate'⟩ ⟨v, hv⟩)
      (hcondition _)
    have hhead : queued.eventType = StrEnum.value RunEventType.runQueued :=
      eventType_of_kind hqueued
    simp only [hown, loadRun, List.head?_cons, Checked.bind_eq_ok, Checked.ofOption_eq_ok,
      Checked.require_eq_ok, Checked.exists_unit, Checked.mapError_eq_ok, Checked.pure_eq_ok]
    exact ⟨queued, rfl, hhead, state, hstate, kernel', hkernel', v', hv', rfl⟩

end Batches

/-! ### A run of two workers

The first node is executed by one worker, the second one by another, who records the success of the
run. -/

namespace TwoWorkers

open RunLifecycle.Sample

/-- The lease of the other worker on the second node. -/
def other : Lease := { RunLifecycle.Sample.check with
  leaseHex := hexText 0x52a7e72661f7e7fe50ee06ed494a3b69acd4f7676fafae9cc469821ea950e113
  specHex := hexText 0xdb948ab74db0b5d9e6a2c731dcc72c57ad1fca73657223b6cfba5e8406ca99f2 }

/-- The document of this lease. -/
def otherDocument : Mapping := [("attempt", .int 1), ("fencing_token", .int 2),
  ("node_id", .str "check"), ("run_id", .str "run-1"),
  ("schema_version", .str "blackcell.worktree-lease/v1"), ("worker_id", .str "worker-2")]

/-- The payload of `run.succeeded`, with sorted keys. -/
def successPayload : Mapping := [("principal_id", .str "worker-2"), ("retained_worktree", .bool true),
  ("run_id", .str "run-1"), ("status", .str "succeeded")]

/-- The digest of this payload. -/
def successHex : { s : String // isHex 64 s = true } :=
  hexText 0x41005e12c797f203fc28a19ab1a28c0ea5fc2a7baa35dcea48bcad6187c9506d

/-- The evidence that a review of the run is about. -/
def reviewed : ReviewLifecycle.ReviewEvidence where
  runId := "run-1"
  reviewId := "review-8c19fbaab6a8a78d222b1b55e66388096eefdfc67cdc38b4"
  runEventId := "closed"
  runEventDigest := digestPrefix ++ successHex.1
  stateDigest := digestPrefix ++ build.specHex.1
  artifactEvidenceDigest := digestPrefix ++ build.leaseHex.1

/-- The document of a review lease, with sorted keys. -/
def reviewLease (workerId : String) : Mapping := [
  ("artifact_evidence_digest", .str reviewed.artifactEvidenceDigest), ("attempt", .int 1),
  ("expires_at", .str "2026-01-01T00:05:00+00:00"), ("fencing_token", .int 1),
  ("review_id", .str reviewed.reviewId), ("run_event_digest", .str reviewed.runEventDigest),
  ("run_event_id", .str "closed"), ("run_id", .str "run-1"),
  ("schema_version", .str ReviewLifecycle.reviewLeaseSchema),
  ("state_digest", .str reviewed.stateDigest), ("worker_id", .str workerId)]

/-- SHA-256 on the documents of the run and of its review, which are written with sorted keys. -/
def host : Host := .ofTables
  [(.object request,
      hexText 0x5dd5246602eb102f0e77371cc698a4aa877b8899280616a58abba0c689958c70),
    (.object build.document, build.leaseHex),
    (.object otherDocument, other.leaseHex),
    (.object build.specHead, build.specHex),
    (.object other.specHead, other.specHex),
    (.object build.fresh,
      hexText 0xc0b706ca40e6e52374fdafa717db055487d8eb12a5f57fca8c4b3a45f134314e),
    (.object build.finished,
      hexText 0x68bf0c53cb2f73ee4c9611a50cf760c592663204531d83233968406ee7ed9d94),
    (.object other.fresh,
      hexText 0x0a75c79ad20c0fdfd7ee2835132c0c6f65b8711e5c82511af4ebbb0464bb002b),
    (.object other.finished,
      hexText 0xd2eb1e1573e8eead1afb95dffde80132bf3e881ff9fb218197aa25af3696e36b),
    (.object successPayload, successHex),
    (.object [("run_event_digest", .str reviewed.runEventDigest), ("run_id", .str "run-1"),
        ("stage", .str "review")],
      hexText 0x8c19fbaab6a8a78d222b1b55e66388096eefdfc67cdc38b47c1e08573e895bcd),
    (.object (reviewLease "worker-1"),
      hexText 0x3cc920947683492c79bef0d1291066c3d54ecb5db607c64afcdaf78d8f4b5026),
    (.object (reviewLease "worker-3"),
      hexText 0x850e48664ebb4f2a54ae20fed20a9872362d7eef0aced5755038873775652705)]
  [("2026-01-01T00:05:00+00:00", ⟨1767225900000000, true⟩)]
  [(1767225900000000, "2026-01-01T00:05:00+00:00")]

/-- The digest of an inspection, and the inspection. -/
def evidence (inspection : Mapping) : Mapping :=
  [("inspection_digest", .str (host.jsonDigest (.object inspection))),
    ("inspection", .object inspection)]

/-- `node.claimed`, by the other worker. -/
def otherClaimed : Entry := entry "check-claimed" .nodeClaimed "worker-2"
  (leasePayload other "claimed" [("attempt", .int 1), ("fencing_token", .int 2),
    ("worker_id", .str "worker-2"), ("expires_at", .str "2026-01-01T00:05:00+00:00"),
    ("worktree_spec_digest", other.specDigest),
    ("worktree_spec", .object (("lease", .object otherDocument) :: other.specHead))])

/-- `node.worktree-prepared`, by the other worker. -/
def otherPrepared : Entry := entry "check-prepared" .nodeWorktreePrepared "worker-2"
  (leasePayload other "worktree-prepared" (evidence other.fresh))

/-- `node.provider-dispatch-started`, by the other worker. -/
def otherDispatched : Entry :=
  entry "check-dispatched" .nodeProviderDispatchStarted "worker-2"
    (leasePayload other "provider-dispatch-started"
      [("provider_request_id", .str ("change-" ++ other.leaseHex.1)),
        ("context_digest", other.specDigest), ("context_artifact_digest", other.specDigest)])

/-- `node.succeeded`, by the other worker. -/
def otherSucceeded : Entry :=
  entry "check-succeeded" .nodeSucceeded "worker-2"
    (leasePayload other "succeeded" ([("result_digest", other.specDigest),
      ("head_commit", .str other.headCommit), ("retained_worktree", .bool true)] ++
      evidence other.finished))

/-- `run.succeeded`, by the other worker. -/
def runSucceeded : Entry :=
  ⟨"closed", runtimeEventSource, StrEnum.value RunEventType.runSucceeded, "worker-2", successPayload⟩

/-- The event by which the run was queued. -/
def first : EventEnvelope :=
  ⟨"queued", "run:run-1", 1, queued.eventType, 1, 1767225600000000, 1767225600000000, "queued", none,
    queued.actor, queued.source, queued.payload, none, none⟩

/-- The batches in which the run was recorded. -/
def batches : List (List EventEnvelope) := [
  stream 2 (some "queued") [claimed build],
  stream 3 (some "build-claimed") [prepared build],
  stream 4 (some "build-prepared") [dispatched build],
  stream 5 (some "build-dispatched") [succeeded build],
  stream 6 (some "build-succeeded") [otherClaimed],
  stream 7 (some "check-claimed") [otherPrepared],
  stream 8 (some "check-prepared") [otherDispatched],
  stream 9 (some "check-dispatched") [otherSucceeded, runSucceeded]]

/-- The ledger of the finished run. -/
def finished : Ledger := first :: batches.flatten

/-- The ledger of the finished run is reachable. -/
theorem finished_reachable {condition : Ledger → Action host → Prop}
    (hcondition : ∀ L, condition L .other) :
    Reachable host Sample.fileSystem "/repository" "/isolation" condition finished := by
  have hfold : (foldBatches host "run-1" (nodeDependencies Sample.plan) first batches).isOk = true := by
    decide +kernel
  have hevidence : (validateWorktreeEvidence host Sample.fileSystem "/repository" "/isolation"
      Sample.plan finished).isOk = true := by decide +kernel
  have hproject : (project host finished).isOk = true := by decide +kernel
  obtain ⟨s, hs⟩ := Checked.exists_of_isOk hfold
  exact reachable_of_batches hcondition hs (Checked.exists_of_isOk hevidence)
    (Checked.exists_of_isOk hproject)

/-- The candidate of the review. -/
def candidate : ReviewLifecycle.ReviewCandidate host where
  evidence := reviewed
  correlationId := "queued"
  valid := by decide +kernel
  isCorrelation := by decide +kernel
  isReviewId := by decide +kernel

/-- The claim of the review by a principal. -/
def request (workerId : String) : ReviewRuntime.Request host :=
  .claim candidate workerId ⟨1767225900000000, true⟩

/-- The ledger after the claim of the review. -/
def claimedBy (workerId : String) : Option Ledger :=
  match (request workerId).perform host finished ⟨"review-claimed", ⟨1767225600000000, true⟩⟩ with
  | .ok (some x) => (x.append host finished).toOption.map Prod.snd
  | _ => none

/-- A claim that is appended is a step of the system. -/
theorem moves_of_claimedBy {workerId : String} {L : Ledger} (h : claimedBy workerId = some L) :
    Moves host Sample.fileSystem "/repository" "/isolation" finished (.review (request workerId)) L := by
  rw [claimedBy] at h
  split at h
  · rename_i x hperform
    obtain ⟨⟨stored, L'⟩, happend, rfl⟩ := Option.map_eq_some_iff.mp h
    have happend : x.append host finished = .ok (stored, L') := by
      cases hx : x.append host finished <;> simp_all [Except.toOption]
    exact .review finished _ _ x stored L' (List.prefix_refl _) hperform happend
  · exact absurd h (by simp)

example : finished.length = 10 := by decide +kernel

end TwoWorkers

end Blackcell.Bootstrap
