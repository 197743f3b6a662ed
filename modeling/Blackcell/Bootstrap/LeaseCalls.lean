import Blackcell.Bootstrap.Reconciliation

/-!
# The calls of a worker about its lease

The two calls of `bootstrap/runtime_service.py` by which the worker of the active lease ends the
work on a node without a success: it reports that the node has failed, or it acknowledges a
cancellation. Both ask for the checkout of the lease first. The theorems say exactly when such a
call appends something to the stream of the run, and that the lease is released then.

## Main definitions

* `FailureRecorded`, `failureStatus` : when a failure is recorded, and the status of the run after
  it.

## Main results

* `recordNodeFailure_records` : the failure of a node.
* `acknowledgeCancellation_cancels` : the acknowledgement of a cancellation.
-/

namespace Blackcell.Bootstrap

open Blackcell.Kernel Blackcell.Adapters.Worktree
open Blackcell.Orchestration Blackcell.Orchestration.RunLifecycle

section Calls

variable {H : Host} {D : Deployment} {stored : StoredRun} {principalId : String} {o : Occurrence}
  {s : FoldState} {v : Evidence} {lease : ActiveLease} {spec : WorktreeExecutionSpec}
  {r : Option String} {recordedAt : Option Datetime}

/-- Whether the failure of a node is recorded, given what became of its checkout. -/
def FailureRecorded (o : Occurrence) (state : RunLifecycleState) (lease : ActiveLease)
    (failedAt : Option Datetime) :
    Except LifecycleFailureCode (Option WorktreeInspection) → Prop
  | .error _ => state.cancellationRequested = false
  | .ok _ => ∃ at', recordedAtOr o failedAt = .ok at' ∧ at' ≤ lease.expiresAt

/-- The status of the run after the failure of a node. -/
def failureStatus : Except LifecycleFailureCode (Option WorktreeInspection) → RunStatus
  | .error _ => .reconciliationRequired
  | .ok _ => .failed

/-- A call that ends with a status under a condition appends events exactly if it holds. -/
theorem Ends.iff {call : Except RuntimeApiFailureCode (List EventEnvelope)} {p : Prop} [Decidable p]
    {status : RunStatus} (h : Ends H D stored call (if p then some status else none)) :
    ((∃ fs, call = .ok fs) ↔ p) ∧ ∀ fs, call = .ok fs → Releases H D stored fs status := by
  by_cases hp : p
  · rw [if_pos hp] at h
    obtain ⟨fs, rfl, hreleases⟩ := h
    refine ⟨⟨fun _ ↦ hp, fun _ ↦ ⟨fs, rfl⟩⟩, ?_⟩
    rintro fs' ⟨⟩
    exact hreleases
  · rw [if_neg hp] at h
    obtain rfl := h
    refine ⟨⟨?_, fun h ↦ absurd h hp⟩, fun _ hok ↦ by cases hok⟩
    rintro ⟨_, ⟨⟩⟩

/-- The check of the active lease. -/
theorem Holds.requireActiveSpec_iff (h : Holds H D stored s v lease spec) {prepared : Bool}
    {active : ActiveLease} : requireActiveSpec H stored spec prepared = .ok active ↔
      active = lease ∧ (prepared = true → lease.prepared = true) := by
  simp only [requireActiveSpec, h.active, Checked.bind_eq_ok, Checked.ofOption_eq_ok,
    Checked.exists_unit, Checked.require_eq_ok, Checked.pure_eq_ok, Option.some.injEq,
    exists_eq_left', h.isSpecified.nodeId, h.isSpecified.leaseDigest, h.isSpecified.specDigest,
    true_and]
  exact ⟨fun h ↦ ⟨h.2.symm, h.1⟩, fun h ↦ ⟨h.2, h.1.symm⟩⟩

theorem Holds.requireActiveWorker_iff (h : Holds H D stored s v lease spec) {u : PUnit} :
    requireActiveWorker stored principalId = .ok u ↔ lease.workerId = principalId := by
  simp only [requireActiveWorker, h.active, Checked.bind_eq_ok, Checked.ofOption_eq_ok,
    Checked.require_eq_ok, Option.some.injEq, exists_eq_left']

theorem Holds.failureEvents_iff (h : Holds H D stored s v lease spec)
    {found : Except LifecycleFailureCode (Option WorktreeInspection)}
    (hfound : ∀ inspection, found = .ok inspection → ∀ i ∈ inspection, Observes H spec i)
    {code : String} (hcode : isFailureCode code = true) (hr : ∀ d ∈ r, isContentDigest H d = true)
    (hworker : lease.workerId = principalId) :
    ((∃ fs, failureEvents H D stored spec principalId o code r recordedAt found = .ok fs) ↔
      FailureRecorded o stored.run.state lease recordedAt found) ∧
      ∀ fs, failureEvents H D stored spec principalId o code r recordedAt found = .ok fs →
        Releases H D stored fs (failureStatus found) := by
  cases found with
  | error failure =>
    exact (ends_reconciliation h (by simp) (by
      rintro c ⟨⟩
      exact isFailureCode_lifecycleFailureText failure) (by simp)).iff
  | ok inspection =>
    cases hat : recordedAtOr o recordedAt with
    | error failure =>
      have hne : ∀ fs, failureEvents H D stored spec principalId o code r recordedAt
          (.ok inspection) ≠ .ok fs := by
        intro fs hok
        simp only [failureEvents, submitTransitions, hat, Checked.bind_eq_ok] at hok
        obtain ⟨_, -, _, hok, -⟩ := hok
        cases hok
      simp only [FailureRecorded, hat]
      refine ⟨⟨?_, ?_⟩, fun fs hok ↦ absurd hok (hne fs)⟩
      · rintro ⟨fs, hok⟩
        exact absurd hok (hne fs)
      · rintro ⟨_, hok, -⟩
        cases hok
    | ok at' =>
      obtain ⟨hiff, hreleases⟩ :=
        (ends_failed h (hfound inspection rfl) hr hcode hworker.symm hat).iff
      refine ⟨hiff.trans ?_, hreleases⟩
      simp only [FailureRecorded, hat, Except.ok.injEq, exists_eq_left']

/-- **Failure.** The failure of the node of the active lease is recorded exactly if the worker of
the lease asks for it with a code and a digest that the service accepts, for a node that was
prepared or need not be, and before the lease expires; if the checkout cannot be inspected, no
cancellation may be requested, and the run waits for reconciliation. -/
theorem recordNodeFailure_records {env : GitEnvironment} (h : Loads env.host D stored)
    (hactive : stored.run.state.activeLease = some lease)
    (hspec : specFromMapping env.host D.fs lease.worktreeSpec = .ok spec) {failureCode : String}
    {failedAt : Option Datetime} {allowUnprepared absent : Bool} {n : ℕ}
    {found : Except LifecycleFailureCode (Option WorktreeInspection)}
    (hfound : failureInspection (retainAt env n spec) (allowUnprepared && absent) = found) :
    ((∃ fs, recordNodeFailure env.host D stored spec principalId o failureCode r failedAt
        allowUnprepared absent (retainAt env n spec) = .ok fs) ↔
      isPrincipal principalId ∧ isFailureCode failureCode ∧ (∀ d ∈ r, isContentDigest env.host d) ∧
        (allowUnprepared = false → lease.prepared) ∧ lease.workerId = principalId ∧
        FailureRecorded o stored.run.state lease failedAt found) ∧
      ∀ fs, recordNodeFailure env.host D stored spec principalId o failureCode r failedAt
          allowUnprepared absent (retainAt env n spec) = .ok fs →
        Releases env.host D stored fs (failureStatus found) := by
  obtain ⟨s, v, spec', hholds⟩ := h.holds hactive
  obtain rfl : spec' = spec := Except.ok.inj (hholds.isSpecified.parsed.symm.trans hspec)
  have hobserves : ∀ inspection, found = .ok inspection → ∀ i ∈ inspection,
      Observes env.host spec' i := by
    rintro inspection rfl i hi
    unfold failureInspection at hfound
    split at hfound
    · cases hfound
      cases hi
    · obtain ⟨i', hretain, rfl⟩ := Checked.map_eq_ok.mp hfound
      cases hi
      exact observes_of_retainAt hretain
  have hcall : ∀ fs, recordNodeFailure env.host D stored spec' principalId o failureCode r failedAt
      allowUnprepared absent (retainAt env n spec') = .ok fs ↔
      (isPrincipal principalId ∧ isFailureCode failureCode ∧ (∀ d ∈ r, isContentDigest env.host d) ∧
        (allowUnprepared = false → lease.prepared) ∧ lease.workerId = principalId) ∧
      failureEvents env.host D stored spec' principalId o failureCode r failedAt found =
        .ok fs := by
    intro fs
    simp only [recordNodeFailure, hfound, Checked.bind_eq_ok, Checked.exists_unit,
      Checked.require_eq_ok, hholds.requireActiveSpec_iff, hholds.requireActiveWorker_iff,
      Bool.not_eq_true', and_assoc, exists_eq_left]
  have hinner (hcode : isFailureCode failureCode = true)
      (hr : ∀ d ∈ r, isContentDigest env.host d) (hworker : lease.workerId = principalId) :
      ((∃ fs, failureEvents env.host D stored spec' principalId o failureCode r failedAt found =
          .ok fs) ↔ FailureRecorded o stored.run.state lease failedAt found) ∧ _ :=
    hholds.failureEvents_iff hobserves hcode hr hworker
  simp only [hcall, exists_and_left]
  constructor
  · constructor
    · rintro ⟨hvalid, hevents⟩
      obtain ⟨hprincipal, hcode, hr, hprepared, hworker⟩ := hvalid
      exact ⟨hprincipal, hcode, hr, hprepared, hworker, (hinner hcode hr hworker).1.mp hevents⟩
    · rintro ⟨hprincipal, hcode, hr, hprepared, hworker, hrecorded⟩
      exact ⟨⟨hprincipal, hcode, hr, hprepared, hworker⟩,
        (hinner hcode hr hworker).1.mpr hrecorded⟩
  · rintro fs ⟨⟨-, hcode, hr, -, hworker⟩, hevents⟩
    exact (hinner hcode hr hworker).2 fs hevents

end Calls

/-- A worker reports the failure of a node that it need not have prepared. -/
theorem recordNodeFailure_records_claimed : ∃ stored lease spec,
    loadStored LeasedNode.environment.host OneNode.deployment LeasedNode.claimed "run-1" =
        .ok stored ∧
      stored.run.state.activeLease = some lease ∧
      ((∃ fs, recordNodeFailure LeasedNode.environment.host OneNode.deployment stored spec
        "worker-1" (LeasedNode.occurrence "run-1") "provider-failed" none none true true
        (retainAt LeasedNode.environment 0 spec) = .ok fs) ↔
        isPrincipal "worker-1" ∧ isFailureCode "provider-failed" ∧
          (∀ d ∈ (none : Option String), isContentDigest LeasedNode.environment.host d) ∧
          (true = false → lease.prepared) ∧ lease.workerId = "worker-1" ∧
          FailureRecorded (LeasedNode.occurrence "run-1") stored.run.state lease none
            (.ok none)) := by
  obtain ⟨stored, lease, hload, hactive⟩ := LeasedNode.loaded
  have hloads := (loads_of_loadStored hload).1
  obtain ⟨s, v, spec, hholds⟩ := hloads.holds hactive
  exact ⟨stored, lease, spec, hload, hactive,
    (recordNodeFailure_records hloads hactive hholds.isSpecified.parsed rfl).1⟩

section Cancellation

variable {D : Deployment} {stored : StoredRun} {principalId : String} {o : Occurrence}
  {lease : ActiveLease} {spec : WorktreeExecutionSpec} {r : Option String}

/-- **Cancellation.** The cancellation of the node of the active lease is acknowledged exactly if it
was requested, the worker of the lease acknowledges it with a digest that the service accepts, and
the checkout is inspected. A checkout that cannot be inspected is not reported: the fold accepts no
other end of a node while a cancellation is requested. -/
theorem acknowledgeCancellation_cancels {env : GitEnvironment} (h : Loads env.host D stored)
    (hactive : stored.run.state.activeLease = some lease)
    (hspec : specFromMapping env.host D.fs lease.worktreeSpec = .ok spec) {n : ℕ} :
    ((∃ fs, acknowledgeCancellation env.host D stored spec principalId o r (retainAt env n spec) =
        .ok fs) ↔
      isPrincipal principalId ∧ (∀ d ∈ r, isContentDigest env.host d) ∧
        lease.workerId = principalId ∧ stored.run.state.cancellationRequested ∧
        ∃ i, retainAt env n spec = .ok i) ∧
      ∀ fs, acknowledgeCancellation env.host D stored spec principalId o r (retainAt env n spec) =
          .ok fs → Releases env.host D stored fs .canceled := by
  obtain ⟨s, v, spec', hholds⟩ := h.holds hactive
  obtain rfl : spec' = spec := Except.ok.inj (hholds.isSpecified.parsed.symm.trans hspec)
  have hcall : ∀ fs, acknowledgeCancellation env.host D stored spec' principalId o r
      (retainAt env n spec') = .ok fs ↔
      (isPrincipal principalId ∧ (∀ d ∈ r, isContentDigest env.host d) ∧
        lease.workerId = principalId ∧ stored.run.state.cancellationRequested) ∧
      acknowledged env.host D stored spec' principalId o r (retainAt env n spec') = .ok fs := by
    intro fs
    simp only [acknowledgeCancellation, Checked.bind_eq_ok, Checked.exists_unit,
      Checked.require_eq_ok, hholds.requireActiveSpec_iff, hholds.requireActiveWorker_iff,
      Bool.false_eq_true, false_imp_iff, and_true, and_assoc, exists_eq_left]
  simp only [hcall, exists_and_left, and_assoc]
  cases hretain : retainAt env n spec' with
  | error failure =>
    -- The failure would be recorded as one that needs reconciliation.
    have hends : Ends env.host D stored (recordReconciliationRequired env.host D stored spec'
        principalId o none (some (lifecycleFailureText failure))) _ :=
      ends_reconciliation hholds (by simp) (by
        rintro c ⟨⟩
        exact isFailureCode_lifecycleFailureText failure) (by simp)
    obtain ⟨hiff, -⟩ := hends.iff
    have hne (hcancel : stored.run.state.cancellationRequested = true) (fs : List EventEnvelope) :
        acknowledged env.host D stored spec' principalId o r (.error failure) ≠ .ok fs := by
      intro hok
      have hopen := hiff.mp ⟨fs, hok⟩
      rw [hcancel] at hopen
      cases hopen
    refine ⟨⟨?_, ?_⟩, ?_⟩
    · rintro ⟨-, -, -, hcancel, fs, hok⟩
      exact absurd hok (hne hcancel fs)
    · rintro ⟨-, -, -, -, i, hok⟩
      cases hok
    · rintro fs ⟨-, -, -, hcancel, hok⟩
      exact absurd hok (hne hcancel fs)
  | ok i =>
    have hobserves : ∀ i' ∈ some i, Observes env.host spec' i' := by
      rintro i' ⟨⟩
      exact observes_of_retainAt hretain
    have hinner (hr : ∀ d ∈ r, isContentDigest env.host d) :
        ((∃ fs, acknowledged env.host D stored spec' principalId o r (.ok i) = .ok fs) ↔ _) ∧ _ :=
      (ends_canceled hholds hobserves hr).iff
    refine ⟨⟨?_, ?_⟩, ?_⟩
    · rintro ⟨hprincipal, hr, hworker, hcancel, -⟩
      exact ⟨hprincipal, hr, hworker, hcancel, i, rfl⟩
    · rintro ⟨hprincipal, hr, hworker, hcancel, -⟩
      exact ⟨hprincipal, hr, hworker, hcancel, (hinner hr).1.mpr ⟨hcancel, by simp⟩⟩
    · rintro fs ⟨-, hr, -, -, hok⟩
      exact (hinner hr).2 fs hok

end Cancellation

/-- A worker acknowledges a cancellation whose checkout cannot be inspected. -/
theorem acknowledgeCancellation_cancels_claimed : ∃ stored lease spec,
    loadStored LeasedNode.environment.host OneNode.deployment LeasedNode.claimed "run-1" =
        .ok stored ∧
      stored.run.state.activeLease = some lease ∧
      ((∃ fs, acknowledgeCancellation LeasedNode.environment.host OneNode.deployment stored spec
        "worker-1" (LeasedNode.occurrence "run-1") none (retainAt LeasedNode.environment 0 spec) =
          .ok fs) ↔
        isPrincipal "worker-1" ∧
          (∀ d ∈ (none : Option String), isContentDigest LeasedNode.environment.host d) ∧
          lease.workerId = "worker-1" ∧ stored.run.state.cancellationRequested ∧
          ∃ i, retainAt LeasedNode.environment 0 spec = .ok i) := by
  obtain ⟨stored, lease, hload, hactive⟩ := LeasedNode.loaded
  have hloads := (loads_of_loadStored hload).1
  obtain ⟨s, v, spec, hholds⟩ := hloads.holds hactive
  exact ⟨stored, lease, spec, hload, hactive,
    (acknowledgeCancellation_cancels hloads hactive hholds.isSpecified.parsed).1⟩

end Blackcell.Bootstrap
