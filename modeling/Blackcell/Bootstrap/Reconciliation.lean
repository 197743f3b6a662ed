import Blackcell.Bootstrap.CandidateStability
import Blackcell.Bootstrap.LeaseClosing
import Blackcell.Bootstrap.RunPagination
import Blackcell.Kernel.Retry

/-!
# The reconciliation of runs after a restart

`reconcile_startup` of `bootstrap/runtime_service.py`. After a restart no worker holds a lease any
more, so each run with an active lease is given another end: canceled if that was requested, queued
again if the checkout shows that nothing has happened, else left to a person. The loop is modelled
on the ledger, with the appends of its batches. Nothing is said of what the checkouts are found to
be, which the parameters of the worktree lifecycle decide.

## Main definitions

* `reconciledStatus` : the status that a run is reconciled to, if that is decided.
* `appendTransitions`, `reconcileStartup` : the append of a batch, and the call.
* `RunReconciled`, `Stopped` : what becomes of a run, and why the call stops.

## Main results

* `ends_reconcileRun` : the reconciliation of one run.
* `appendMany_of_current` : a batch that expects the current number of its stream.
* `reconcileStartup_releases` : after a reconciliation no run has a lease.
-/

namespace Blackcell.Bootstrap

open Blackcell.Kernel Blackcell.Adapters.Worktree
open Blackcell.Interfaces.Http hiding check check_eq_ok
open Blackcell.Orchestration Blackcell.Orchestration.RunLifecycle
open Blackcell.Orchestration.ExecutionRuntime (streamOf)

/-! ### One run -/

/-- The status that a run is reconciled to: what became of the checkout of its lease is not decided
while a cancellation is requested, and nothing is repeated that may have been dispatched. -/
def reconciledStatus (state : RunLifecycleState) (lease : ActiveLease) :
    Retention → Option RunStatus
  | .error .worktreeNotFound =>
    if state.cancellationRequested then
      if state.nodes.any (·.retainedWorktree) then none else some .canceled
    else if lease.providerDispatchEventId.isSome then some .reconciliationRequired
    else some .queued
  | .error _ => if state.cancellationRequested then none else some .reconciliationRequired
  | .ok inspection =>
    if state.cancellationRequested then some .canceled
    else if lease.providerDispatchEventId.isSome ∨ ¬inspectionIsUnchanged inspection then
      some .reconciliationRequired
    else some .queued

section Single

variable {H : Host} {D : Deployment} {stored : StoredRun} {principalId : String} {o : Occurrence}
  {s : FoldState} {v : Evidence} {lease : ActiveLease} {spec : WorktreeExecutionSpec}

theorem isFailureCode_providerDispatchAmbiguous :
    ∀ c ∈ some providerDispatchAmbiguous, isFailureCode c = true := by
  decide

/-- **The branches.** Each of them ends with the status that a run is reconciled to. -/
theorem ends_reconcileLease (h : Holds H D stored s v lease spec) {retention : Retention}
    (hretention : ∀ i, retention = .ok i → Observes H spec i) :
    Ends H D stored (reconcileLease H D stored spec principalId o lease retention)
      (reconciledStatus stored.run.state lease retention) := by
  have hnone : ∀ i ∈ (none : Option WorktreeInspection), Observes H spec i := by simp
  have hundigested : ∀ d ∈ (none : Option String), isContentDigest H d = true := by simp
  have hlifecycle : ∀ code, ∀ c ∈ some (lifecycleFailureText code), isFailureCode c = true := by
    rintro code c ⟨⟩
    exact isFailureCode_lifecycleFailureText code
  unfold reconcileLease reconciledStatus
  split
  · -- The checkout is gone.
    split
    · rename_i hcancel
      have hends : Ends H D stored
          (recordBatchOf H D stored spec principalId o (missingCanceledNode H spec)) _ :=
        ends_canceled h hnone hundigested
      by_cases hany : stored.run.state.nodes.any (·.retainedWorktree) = true <;>
        simpa [hcancel, hany] using hends
    · rename_i hcancel
      split
      · have hends : Ends H D stored (recordReconciliationRequired H D stored spec principalId o
            none (some providerDispatchAmbiguous)) _ :=
          ends_reconciliation h hnone isFailureCode_providerDispatchAmbiguous (by simp)
        simpa [hcancel] using hends
      · rename_i hdispatch
        have hends : Ends H D stored
            (recordBatchOf H D stored spec principalId o (requeuedNode H spec none)) _ :=
          ends_requeued h hnone
        simpa [hcancel, Option.not_isSome_iff_eq_none.mp hdispatch] using hends
  · -- The checkout could not be inspected.
    rename_i code hne
    have hends : Ends H D stored (recordReconciliationRequired H D stored spec principalId o none
        (some (lifecycleFailureText code))) _ :=
      ends_reconciliation h hnone (hlifecycle code) (by simp)
    cases hcancel : stored.run.state.cancellationRequested <;> simpa [hcancel] using hends
  · -- The checkout was inspected.
    rename_i inspection
    have hinspection : ∀ i ∈ some inspection, Observes H spec i := by
      rintro i ⟨⟩
      exact hretention inspection rfl
    split
    · rename_i hcancel
      have hends : Ends H D stored
          (recordBatchOf H D stored spec principalId o (canceledNode H spec inspection none)) _ :=
        ends_canceled h hinspection hundigested
      simpa [hcancel] using hends
    · rename_i hcancel
      split
      · rename_i hdispatch
        have hends : Ends H D stored (recordReconciliationRequired H D stored spec principalId o
            (some inspection) (some providerDispatchAmbiguous)) _ :=
          ends_reconciliation h hinspection isFailureCode_providerDispatchAmbiguous (by simp)
        simpa [hcancel, hdispatch] using hends
      · rename_i hdispatch
        split
        · rename_i hunchanged
          have hends : Ends H D stored (recordBatchOf H D stored spec principalId o
              (requeuedNode H spec (some inspection))) _ :=
            ends_requeued h hinspection
          have hundispatched := Option.not_isSome_iff_eq_none.mp hdispatch
          simpa [hcancel, hdispatch, hunchanged, hundispatched] using hends
        · rename_i hchanged
          have hends : Ends H D stored (recordReconciliationRequired H D stored spec principalId o
              (some inspection) none) _ :=
            ends_reconciliation h hinspection (by simp) (by simp)
          simpa [hcancel, hchanged] using hends

/-- **One run.** The reconciliation of a run with an active lease ends with the status that it is
reconciled to, or in a conflict. -/
theorem ends_reconcileRun {env : GitEnvironment} (h : Loads env.host D stored)
    (hactive : stored.run.state.activeLease = some lease) (principalId : String) (o : Occurrence)
    (n : ℕ) :
    ∃ spec, specFromMapping env.host D.fs lease.worktreeSpec = .ok spec ∧
      Ends env.host D stored (reconcileRun env.host D stored principalId o (retainAt env n))
        (reconciledStatus stored.run.state lease (retainAt env n spec)) := by
  obtain ⟨s, v, spec, hholds⟩ := h.holds hactive
  have hspec := hholds.isSpecified
  have hcall : reconcileRun env.host D stored principalId o (retainAt env n) =
      reconcileLease env.host D stored spec principalId o lease (retainAt env n spec) := by
    rw [reconcileRun, hactive]
    simp [hspec.parsed, Except.mapError, Checked.require, hspec.roots, hspec.specDigest,
      hspec.leaseDigest]
  refine ⟨spec, hspec.parsed, ?_⟩
  rw [hcall]
  exact ends_reconcileLease hholds fun i ↦ observes_of_retainAt

end Single

/-! ### The append -/

section Append

variable {H : Host} {L L' : Ledger} {batch r : List EventEnvelope} {streamId : String} {n : ℤ}

/-- **A batch of one stream.** An accepted batch that expects the current number of its stream
repeats what is stored there, or it is stored. -/
theorem appendMany_of_current (hne : batch ≠ []) (hstream : ∀ e ∈ batch, e.streamId = streamId)
    (hcurrent : L.currentSequence streamId = n)
    (h : L.appendMany H batch [(streamId, n)] = .ok (r, L')) :
    (L' = L ∧ r ≠ [] ∧ ∀ x ∈ r, x ∈ L.readStream streamId) ∨
      (L' = L ++ r ∧ List.Forall₂ Ledger.StoredAs batch r) := by
  rw [Ledger.appendMany, if_neg hne] at h
  simp only [Checked.bind_eq_ok, Checked.exists_unit, Checked.mapM_eq_ok] at h
  obtain ⟨-, existing, hexisting, h⟩ := h
  split at h
  · rename_i hall
    simp only [Checked.bind_eq_ok, Checked.exists_unit, Checked.pure_eq_ok, Prod.mk.injEq] at h
    obtain ⟨-, rfl, rfl⟩ := h
    rw [Ledger.eq_map_some_reduceOption hall, List.forall₂_map_right_iff] at hexisting
    refine .inl ⟨rfl, fun hnil ↦ ?_, fun x hx ↦ ?_⟩
    · rw [hnil] at hexisting
      exact hne (List.forall₂_nil_right_iff.mp hexisting)
    · obtain ⟨i, hi, rfl⟩ := List.getElem_of_mem hx
      have hanswers := Ledger.idempotentEvent_eq_some
        (hexisting.get (hexisting.length_eq ▸ hi) hi)
      exact Ledger.mem_readStream.mpr ⟨hanswers.mem, hanswers.stream.trans
        (hstream _ (List.getElem_mem _))⟩
  · simp only [Checked.bind_eq_ok, Checked.exists_unit, Checked.forEach_eq_ok] at h
    obtain ⟨hvalid, hinsert⟩ := h
    have hmem : streamId ∈ (batch.map (·.streamId)).dedup := by
      obtain ⟨e, he⟩ := List.exists_mem_of_ne_nil batch hne
      exact List.mem_dedup.mpr (hstream e he ▸ List.mem_map_of_mem he)
    have hall : (batch.zip existing).filter (fun p ↦ decide (p.1.streamId = streamId)) =
        batch.zip existing :=
      List.filter_eq_self.mpr fun p hp ↦ decide_eq_true (hstream p.1 (List.of_mem_zip hp).1)
    obtain ⟨-, hactual, hnew⟩ := Ledger.validateBatchStream_eq_ok (hvalid streamId hmem)
    rw [hall] at hactual hnew
    -- Nothing of the batch is stored yet, since the stream ends where the caller has seen it end.
    have hnone : Ledger.committedPrefix (batch.zip existing) = 0 := by
      simp only [List.lookup_cons, beq_self_eq_true, Option.getD_some] at hactual
      omega
    rw [hnone, List.drop_zero, List.filter_eq_self] at hnew
    have hzip : batch.zip existing = batch.map fun e ↦ (e, none) := by
      have hfst : (batch.zip existing).map Prod.fst = batch :=
        List.map_fst_zip hexisting.length_eq.le
      conv_rhs => rw [← hfst]
      rw [List.map_map]
      refine (List.map_id _).symm.trans (List.map_congr_left fun p hp ↦ ?_)
      exact Prod.ext rfl (Option.isNone_iff_eq_none.mp (hnew p hp))
    rw [hzip] at hinsert
    obtain ⟨hstored, rfl⟩ := Ledger.insertBatch_new hinsert
    exact .inr ⟨rfl, hstored⟩

end Append

section Stored

variable {H : Host} {D : Deployment} {stored : StoredRun} {runId correlationId : String}
  {batch r : List EventEnvelope} {e x last last' : EventEnvelope} {status : RunStatus}

/-- A fold that does not look at positions has the same result on the events as they are stored. -/
theorem run_of_storedAs {σ ε : Type*} {f : σ → EventEnvelope → Except ε σ}
    (hf : ∀ s e x, Ledger.StoredAs e x → f s x = f s e) (h : List.Forall₂ Ledger.StoredAs batch r)
    (s : σ) : History.run f s r = History.run f s batch := by
  induction h generalizing s with
  | nil => rfl
  | cons hx _ ih =>
    rw [History.run_cons, History.run_cons, hf s _ _ hx]
    exact congrArg _ (funext ih)

theorem foldEvent_of_storedAs {deps : NodeDependencies} {s : FoldState} (h : Ledger.StoredAs e x) :
    foldEvent H runId deps s x = foldEvent H runId deps s e := by
  rw [h]
  rfl

theorem evidenceOf_of_storedAs {fs : FileSystem} {repositoryRoot isolationRoot : String}
    {plan : PlanRequest} {v : Evidence} (h : Ledger.StoredAs e x) :
    evidenceOf H fs repositoryRoot isolationRoot plan v x =
      evidenceOf H fs repositoryRoot isolationRoot plan v e := by
  rw [h]
  rfl

theorem continues_of_storedAs (h : List.Forall₂ Ledger.StoredAs batch r)
    (hid : last'.eventId = last.eventId) (hsequence : last'.streamSequence = last.streamSequence)
    (hcontinues : Continues runId correlationId last batch) :
    Continues runId correlationId last' r := by
  induction h generalizing last last' with
  | nil => trivial
  | @cons e x batch r hx _ ih =>
    obtain ⟨⟨hstream, hnext, hversion, hpublic, hcorrelation, hcause⟩, hrest⟩ := hcontinues
    rw [Ledger.StoredAs] at hx
    refine ⟨?_, ih (by rw [hx]) (by rw [hx]) hrest⟩
    rw [hx]
    exact ⟨hstream, hsequence ▸ hnext, hversion, hpublic, hcorrelation, hid ▸ hcause⟩

/-- Events release the lease as they are stored. -/
theorem Releases.storedAs (hloads : Loads H D stored) (h : Releases H D stored batch status)
    (hr : List.Forall₂ Ledger.StoredAs batch r) : Releases H D stored r status := by
  obtain ⟨s, v, hfolded⟩ := hloads.folded
  obtain ⟨last, hlast, -⟩ := hfolded.folds.last
  have hcontinues := continues_of_storedAs hr rfl rfl (h.continues last hlast)
  obtain ⟨state, hfold, hactive, hstatus⟩ := h.folds
  obtain ⟨w, hevidence⟩ := h.evidence
  obtain ⟨s', hs', hend, rfl⟩ := (hfolded.extend last hlast _ (h.continues last hlast) _).mp hfold
  rw [← run_of_storedAs (f := foldEvent H _ _) (fun _ _ _ ↦ foldEvent_of_storedAs) hr] at hs'
  refine ⟨?_, fun last' hlast' ↦ ?_, ⟨_, (hfolded.extend last hlast _ hcontinues _).mpr
    ⟨s', hs', hend, rfl⟩, hactive, hstatus⟩, w, ?_⟩
  · rintro rfl
    exact h.nonempty (List.forall₂_nil_right_iff.mp hr)
  · obtain rfl : last = last' := Option.some.inj (hlast.symm.trans hlast')
    exact hcontinues
  · obtain ⟨u, hu, hrest⟩ := History.run_append_eq_ok.mp hevidence
    rw [← run_of_storedAs (f := evidenceOf H D.fs D.repositoryRoot D.isolationRoot stored.plan)
      (fun _ _ _ ↦ evidenceOf_of_storedAs) hr] at hrest
    exact History.run_append_eq_ok.mpr ⟨u, hu, hrest⟩

end Stored

/-! ### The loop -/

/-- The exceptions of a reconciliation: those of the loading of a run and of the service, and those
of the store that the service does not translate. -/
inductive StartupError where
  | candidate (error : CandidateError)
  | store (error : StoreError)
  deriving DecidableEq

/-- `RuntimeApiError(RuntimeApiFailureCode.CONFLICT)`. -/
abbrev startupConflict : StartupError := .candidate (.api .conflict)

/-- The exceptions of the store that `_append_run_transitions` catches. -/
def appendFailure : StoreError → StartupError
  | .concurrency | .conflict | .idempotency => startupConflict
  | error => .store error

section Loop

variable (H : Host) (D : Deployment) (principalId : String) (o : String → Occurrence)
  (retain : String → WorktreeExecutionSpec → Retention)

/-- The append of `_append_run_transitions`, with the fold of what is stored: the ledger afterwards,
and how it ended. -/
def appendTransitions (L : Ledger) (stored : StoredRun) (events : List EventEnvelope) :
    Ledger × Except StartupError Unit :=
  match L.appendMany H events
      [(runStream stored.request.runId, stored.run.state.lastStreamSequence)] with
  | .error error => (L, .error (appendFailure error))
  | .ok (appended, L') =>
    match foldRunLifecycle H stored.request.runId (nodeDependencies stored.plan)
        (stored.run.events ++ appended) with
    | .error _ => (L', .error startupConflict)
    | .ok _ => (L', .ok ())

/-- The body of the loop of `reconcile_startup`. -/
def reconcileStored (L : Ledger) (runId : String) : Ledger × Except StartupError Unit :=
  match loadStored H D L runId with
  | .error error => (L, .error (.candidate error))
  | .ok stored =>
    if stored.run.state.activeLease = none then (L, .ok ())
    else
      match reconcileRun H D stored principalId (o runId) (retain runId) with
      | .error code => (L, .error (.candidate (.api code)))
      | .ok events =>
        match appendTransitions H L stored events with
        | (L', .error error) => (L', .error error)
        | (L', .ok _) =>
          match loadStored H D L' runId with
          | .error error => (L', .error (.candidate error))
          | .ok _ => (L', .ok ())

/-- The loop of `reconcile_startup`. -/
def reconcileRuns : List String → Ledger → Ledger × Except StartupError Unit
  | [], L => (L, .ok ())
  | runId :: runIds, L =>
    match reconcileStored H D principalId o retain L runId with
    | (L', .error error) => (L', .error error)
    | (L', .ok _) => reconcileRuns runIds L'

/-- `_run_ids`: the runs that were queued, in the order of their events. -/
def runIds (L : Ledger) : List String :=
  ((L.filter fun e ↦ e.eventType = StrEnum.value RunEventType.runQueued ∧
    "run:".toList.isPrefixOf e.streamId.toList).map queuedRunId).eraseDups

/-- `reconcile_startup`: the ledger afterwards, and how the call ended. -/
def reconcileStartup (L : Ledger) : Ledger × Except StartupError Unit :=
  if isPrincipal principalId then reconcileRuns H D principalId o retain (runIds L) L
  else (L, .error (.candidate (.api .invalidRequest)))

end Loop

section Steps

variable {env : GitEnvironment} {D : Deployment} {L L' : Ledger} {runId principalId : String}
  {o : String → Occurrence} {n : String → ℕ} {stored : StoredRun} {lease : ActiveLease}
  {batch r : List EventEnvelope} {status : RunStatus} {ended : Except StartupError Unit}

/-- A loaded run is loaded from its stream. -/
theorem loads_of_loadStored {H : Host} (h : loadStored H D L runId = .ok stored) :
    Loads H D stored ∧ stored.run.events = streamOf runId L ∧ stored.request.runId = runId := by
  obtain ⟨_, _, _, -, -, -, -, -, hdecode⟩ := loadStored_eq_ok.mp h
  obtain ⟨-, hrun, -⟩ := decodeStored_eq_ok hdecode
  have hevents := (loadRun_eq_ok.mp hrun).2.1
  have hname := loadStored_runId h
  refine ⟨?_, hevents, hname⟩
  rw [Loads, hname, hevents]
  exact hrun

/-- A run with an active lease has no generated execution. -/
theorem kernelState_of_leased {H : Host} (hI : RunInv (streamOf runId L))
    (h : loadStored H D L runId = .ok stored)
    (hactive : stored.run.state.activeLease = some lease) : stored.run.kernelState = none := by
  obtain ⟨_, _, _, -, -, -, -, -, hdecode⟩ := loadStored_eq_ok.mp h
  obtain ⟨-, hrun, -⟩ := decodeStored_eq_ok hdecode
  obtain ⟨-, -, hfold, hproject, -⟩ := loadRun_eq_ok.mp hrun
  have hclaimed : Claimed (streamOf runId L) := by
    by_contra hunclaimed
    have hnone := (unclaimed_history hfold fun e he hkind ↦ hunclaimed ⟨e, he, hkind⟩).1
    rw [hnone] at hactive
    cases hactive
  rw [← Option.not_isSome_iff_eq_none]
  intro hkernel
  obtain ⟨kernel, hkernel⟩ := Option.isSome_iff_exists.mp hkernel
  rw [hkernel] at hproject
  obtain ⟨x, hx, hsome⟩ := execution_of_project hproject
  rw [hI.execution hclaimed x hx] at hsome
  cases hsome

/-- The number of the last event of a loaded run is that of its stream. -/
theorem currentSequence_of_loadStored {H : Host} (h : loadStored H D L runId = .ok stored) :
    L.currentSequence (runStream runId) = stored.run.state.lastStreamSequence := by
  obtain ⟨_, _, _, -, -, -, -, -, hdecode⟩ := loadStored_eq_ok.mp h
  obtain ⟨-, -, hfold, -⟩ := loadRun_eq_ok.mp (decodeStored_eq_ok hdecode).2.1
  rw [lastStreamSequence_of_foldRunLifecycle hfold]
  rfl

/-- **The append.** Events that release the lease are refused, and the ledger stays as it is, or
they are stored as they are. -/
theorem appendTransitions_cases (hload : loadStored env.host D L runId = .ok stored)
    (h : Releases env.host D stored batch status) :
    (∃ error, appendTransitions env.host L stored batch = (L, .error error)) ∨
      ∃ r, appendTransitions env.host L stored batch = (L ++ r, .ok ()) ∧
        Releases env.host D stored r status := by
  obtain ⟨hloads, hevents, hname⟩ := loads_of_loadStored hload
  unfold appendTransitions
  split
  · exact .inl ⟨_, rfl⟩
  · rename_i appended L' happend
    obtain ⟨s, v, hfolded⟩ := hloads.folded
    obtain ⟨last, hlast, -⟩ := hfolded.folds.last
    have hstream := (h.continues last hlast).streamId
    have hcurrent := hname ▸ currentSequence_of_loadStored hload
    rcases appendMany_of_current h.nonempty hstream hcurrent happend with
      ⟨rfl, hne, hold⟩ | ⟨rfl, hstored⟩
    · split
      · exact .inl ⟨_, rfl⟩
      · rename_i state hfold
        obtain ⟨x, hx⟩ := List.exists_mem_of_ne_nil appended hne
        have hmem : x ∈ stored.run.events := by
          rw [hevents, ← hname]
          exact hold x hx
        exact absurd hmem (not_mem_of_foldRunLifecycle hfold hx)
    · have hreleases := h.storedAs hloads hstored
      obtain ⟨state, hfold, -⟩ := hreleases.folds
      rw [hfold]
      exact .inr ⟨appended, rfl, hreleases⟩

/-- **The next load.** A run whose lease was released is loaded without a lease. -/
theorem loadStored_of_releases {H : Host} (hI : RunInv (streamOf runId L))
    (hload : loadStored H D L runId = .ok stored)
    (hactive : stored.run.state.activeLease = some lease) (h : Releases H D stored r status) :
    LedgerStep H D L (L ++ r) ∧ (∀ e ∈ r, e.streamId = runStream runId) ∧
      ∃ stored', loadStored H D (L ++ r) runId = .ok stored' ∧
        stored'.run.events = stored.run.events ++ r ∧ stored'.run.state.activeLease = none ∧
        stored'.run.state.status = status := by
  obtain ⟨hloads, hevents, hname⟩ := loads_of_loadStored hload
  obtain ⟨queued, request, admission, hhead, htype, hrequest, hrunId, hreads, hdecode⟩ :=
    loadStored_eq_ok.mp hload
  obtain ⟨-, hrun, hextend⟩ := decodeStored_eq_ok hdecode
  obtain ⟨-, -, -, hproject, -⟩ := loadRun_eq_ok.mp hrun
  have hkernel := kernelState_of_leased hI hload hactive
  rw [hkernel] at hproject
  obtain ⟨s, v, hfolded⟩ := hloads.folded
  obtain ⟨last, hlast, -⟩ := hfolded.folds.last
  have hcontinues := h.continues last hlast
  have hstream : ∀ e ∈ r, e.streamId = runStream runId := hname ▸ hcontinues.streamId
  have hpublic : ∀ e ∈ r, isPublic e = true := List.filter_eq_self.mp hcontinues.all_public.1
  obtain ⟨state, hfold, hreleased, hstatus⟩ := h.folds
  have hstep : LedgerStep H D L (L ++ r) := by
    refine .run runId r hstream (.transitions L stored r (List.prefix_refl _) rfl hload
      (.leased (by rw [hactive]; rfl)) hpublic (fun _ ↦ hkernel) ⟨state, ?_⟩ h.evidence)
    rw [← hname]
    exact hfold
  have hL' : streamOf runId (L ++ r) = streamOf runId L ++ r := readStream_append_of_forall hstream
  -- the run as it is loaded now
  let run : LoadedRun := ⟨streamOf runId L ++ r, state, none⟩
  rw [hname, hevents] at hfold
  have hrun' : loadRun H D.fs D.repositoryRoot D.isolationRoot stored.plan runId
      (streamOf runId L ++ r) = .ok run := by
    refine loadRun_eq_ok.mpr ⟨⟨queued, ?_, htype⟩, rfl, hfold, ?_, hevents ▸ h.evidence⟩
    · rw [List.head?_append, hhead, Option.some_or]
    · exact project_append_of_public hproject hstream hpublic
  refine ⟨hstep, hstream, ⟨request, stored.intent, stored.plan, run⟩, ?_, by rw [hevents],
    hreleased, hstatus⟩
  refine loadStored_eq_ok.mpr ⟨queued, request, admission, ?_, htype, hrequest, hrunId,
    hstep.admissionEvents hreads, ?_⟩
  · rw [hL', List.head?_append, hhead, Option.some_or]
  · rw [hL']
    exact hextend _ _ hrun' rfl

/-- A run is loaded as before, or its lease was released, and its status is the one that it is
reconciled to. -/
inductive RunReconciled (env : GitEnvironment) (D : Deployment) (n : ℕ) (L L' : Ledger)
    (runId : String) : Prop
  | same (h : loadStored env.host D L' runId = loadStored env.host D L runId)
  | released (stored stored' : StoredRun) (lease : ActiveLease) (spec : WorktreeExecutionSpec)
      (hload : loadStored env.host D L runId = .ok stored)
      (hactive : stored.run.state.activeLease = some lease)
      (hspec : specFromMapping env.host D.fs lease.worktreeSpec = .ok spec)
      (hload' : loadStored env.host D L' runId = .ok stored')
      (hreleased : stored'.run.state.activeLease = none)
      (hstatus : reconciledStatus stored.run.state lease (retainAt env n spec) =
        some stored'.run.state.status)

/-- A run is loaded as before if what is appended is of another run. -/
theorem loadStored_append_of_ne {H : Host} {runId' : String} (hne : runId ≠ runId')
    (hr : ∀ e ∈ r, e.streamId = runStream runId) :
    loadStored H D (L ++ r) runId' = loadStored H D L runId' := by
  have hstream : streamOf runId' (L ++ r) = streamOf runId' L :=
    readStream_append_of_forall_ne hr fun heq ↦ hne (ExecutionRuntime.streamId_injective heq)
  have hadmission : ∀ request : RunRequest, admissionEvents (L ++ r) request =
      admissionEvents L request := by
    intro request
    have hread : ∀ streamId, IsAdmissionStream streamId →
        Ledger.readStream (L ++ r) streamId = L.readStream streamId := fun streamId h ↦
      readStream_append_of_forall_ne hr (h.ne runId).1.symm
    simp only [admissionEvents, requiredFrom, hread _ ⟨_, .inl rfl⟩, hread _ ⟨_, .inr (.inl rfl)⟩,
      hread _ ⟨_, .inr (.inr rfl)⟩]
  have hread : Ledger.readStream (L ++ r) (runStream runId') = L.readStream (runStream runId') :=
    hstream
  simp only [loadStored, hread, hadmission]

/-- Why a reconciliation stops at a run: it cannot be loaded, it is not decided what its status
should be, or the store refuses the events. -/
inductive Stopped (env : GitEnvironment) (D : Deployment) (n : ℕ) (L : Ledger) (runId : String) :
    StartupError → Prop
  | unloaded (error : CandidateError) (h : loadStored env.host D L runId = .error error) :
    Stopped env D n L runId (.candidate error)
  | undecided (stored : StoredRun) (lease : ActiveLease) (spec : WorktreeExecutionSpec)
      (hload : loadStored env.host D L runId = .ok stored)
      (hactive : stored.run.state.activeLease = some lease)
      (hspec : specFromMapping env.host D.fs lease.worktreeSpec = .ok spec)
      (hstatus : reconciledStatus stored.run.state lease (retainAt env n spec) = none) :
    Stopped env D n L runId startupConflict
  | refused (stored : StoredRun) (events : List EventEnvelope) (status : RunStatus)
      (error : StartupError) (hload : loadStored env.host D L runId = .ok stored)
      (hreleases : Releases env.host D stored events status)
      (h : appendTransitions env.host L stored events = (L, .error error)) :
    Stopped env D n L runId error

/-- What the loop did. -/
structure Reconciles (env : GitEnvironment) (D : Deployment) (n : String → ℕ) (runIds : List String)
    (L L' : Ledger) (ended : Except StartupError Unit) : Prop where
  later : Later env.host D L L'
  runs : ∀ runId, RunReconciled env D (n runId) L L' runId
  appended : ∀ e ∈ L', e ∈ L ∨ ∃ runId ∈ runIds, e.streamId = runStream runId
  loaded : ended = .ok () → ∀ runId ∈ runIds, ∃ stored,
    loadStored env.host D L' runId = .ok stored ∧ stored.run.state.activeLease = none
  stopped : ∀ error, ended = .error error → ∃ runId ∈ runIds, Stopped env D (n runId) L' runId error

theorem Reconciles.of_stopped {error : StartupError} (h : Stopped env D (n runId) L runId error) :
    Reconciles env D n [runId] L L (.error error) where
  later := .refl
  runs _ := .same rfl
  appended e he := .inl he
  loaded h := by cases h
  stopped error' herror := by
    obtain rfl := Except.error.inj herror
    exact ⟨runId, List.mem_singleton_self runId, h⟩

/-- **The body of the loop.** -/
theorem reconciles_stored (hreach : Later env.host D [] L)
    (h : reconcileStored env.host D principalId o (fun runId ↦ retainAt env (n runId)) L runId =
      (L', ended)) : Reconciles env D n [runId] L L' ended := by
  unfold reconcileStored at h
  split at h
  · rename_i error hload
    obtain ⟨rfl, rfl⟩ := Prod.mk.inj h
    exact .of_stopped (.unloaded error hload)
  · rename_i stored hload
    split at h
    · rename_i hnone
      obtain ⟨rfl, rfl⟩ := Prod.mk.inj h
      exact ⟨.refl, fun _ ↦ .same rfl, fun _ ↦ .inl, fun _ ↦ by simpa using ⟨stored, hload, hnone⟩,
        fun _ herror ↦ by cases herror⟩
    · rename_i hsome
      obtain ⟨lease, hactive⟩ := Option.ne_none_iff_exists'.mp hsome
      obtain ⟨spec, hspec, hends⟩ := ends_reconcileRun (loads_of_loadStored hload).1 hactive
        principalId (o runId) (n runId)
      cases hstatus : reconciledStatus stored.run.state lease (retainAt env (n runId) spec) with
      | none =>
        rw [hstatus, Ends] at hends
        rw [hends] at h
        obtain ⟨rfl, rfl⟩ := Prod.mk.inj h
        exact .of_stopped (.undecided stored lease spec hload hactive hspec hstatus)
      | some status =>
        rw [hstatus, Ends] at hends
        obtain ⟨events, hevents, hreleases⟩ := hends
        rw [hevents] at h
        rcases appendTransitions_cases hload hreleases with ⟨error, happend⟩ | ⟨r, happend, hr⟩
        · simp only [happend] at h
          obtain ⟨rfl, rfl⟩ := Prod.mk.inj h
          exact .of_stopped (.refused stored events status error hload hreleases happend)
        · obtain ⟨hstep, hstream, stored', hload', -, hreleased, rfl⟩ :=
            loadStored_of_releases (hreach.runInv runId) hload hactive hr
          simp only [happend, hload'] at h
          obtain ⟨rfl, rfl⟩ := Prod.mk.inj h
          refine ⟨.single hstep, fun runId' ↦ ?_, fun e he ↦ ?_, fun _ ↦ by
            simpa using ⟨stored', hload', hreleased⟩, fun _ herror ↦ by cases herror⟩
          · by_cases hne : runId = runId'
            · subst hne
              exact .released stored stored' lease spec hload hactive hspec hload' hreleased hstatus
            · exact .same (loadStored_append_of_ne hne hstream)
          · exact (List.mem_append.mp he).imp_right fun he ↦ ⟨runId, by simp, hstream e he⟩

/-- What is done to a run is done once. -/
theorem RunReconciled.trans {m : ℕ} {L₁ : Ledger} (h : RunReconciled env D m L L₁ runId)
    (h' : RunReconciled env D m L₁ L' runId) : RunReconciled env D m L L' runId := by
  cases h with
  | same heq =>
    cases h' with
    | same heq' => exact .same (heq'.trans heq)
    | released stored stored' lease spec hload hactive hspec hload' hreleased hstatus =>
      exact .released stored stored' lease spec (heq ▸ hload) hactive hspec hload' hreleased hstatus
  | released stored stored₁ lease spec hload hactive hspec hload₁ hreleased hstatus =>
    cases h' with
    | same heq' =>
      exact .released stored stored₁ lease spec hload hactive hspec (heq' ▸ hload₁) hreleased
        hstatus
    | released stored₂ _ lease' _ hload₂ hactive' =>
      obtain rfl := Except.ok.inj (hload₁.symm.trans hload₂)
      rw [hreleased] at hactive'
      cases hactive'

/-- A run that is loaded without a lease is loaded so afterwards. -/
theorem RunReconciled.loaded {m : ℕ} (h : RunReconciled env D m L L' runId)
    (hload : loadStored env.host D L runId = .ok stored)
    (hnone : stored.run.state.activeLease = none) :
    loadStored env.host D L' runId = .ok stored := by
  cases h with
  | same heq => rw [heq, hload]
  | released stored₁ _ lease _ hload₁ hactive =>
    obtain rfl := Except.ok.inj (hload.symm.trans hload₁)
    rw [hnone] at hactive
    cases hactive

/-- **The loop.** -/
theorem reconciles_runs {runIds : List String} (hreach : Later env.host D [] L)
    (h : reconcileRuns env.host D principalId o (fun runId ↦ retainAt env (n runId)) runIds L =
      (L', ended)) : Reconciles env D n runIds L L' ended := by
  induction runIds generalizing L with
  | nil =>
    obtain ⟨rfl, rfl⟩ := Prod.mk.inj h
    exact ⟨.refl, fun _ ↦ .same rfl, fun _ ↦ .inl, by simp, fun _ herror ↦ by cases herror⟩
  | cons runId runIds ih =>
    rw [reconcileRuns] at h
    split at h
    · rename_i L₁ error hbody
      obtain ⟨rfl, rfl⟩ := Prod.mk.inj h
      have hstep := reconciles_stored hreach hbody
      refine ⟨hstep.later, hstep.runs, fun e he ↦ ?_, fun hended ↦ ?_, fun error' herror ↦ ?_⟩
      · rcases hstep.appended e he with he | ⟨id, hid, hstream⟩
        · exact .inl he
        · exact .inr ⟨id, List.mem_cons.mpr (.inl (List.mem_singleton.mp hid)), hstream⟩
      · cases hended
      · obtain ⟨id, hid, hstopped⟩ := hstep.stopped error' herror
        exact ⟨id, List.mem_cons.mpr (.inl (List.mem_singleton.mp hid)), hstopped⟩
    · rename_i L₁ u hbody
      have hstep := reconciles_stored hreach hbody
      have hrest := ih (hreach.trans hstep.later) h
      refine ⟨hstep.later.trans hrest.later, fun id ↦ (hstep.runs id).trans (hrest.runs id),
        fun e he ↦ ?_, fun hended id hid ↦ ?_, fun error herror ↦ ?_⟩
      · rcases hrest.appended e he with he | ⟨id, hid, hstream⟩
        · rcases hstep.appended e he with he | ⟨id, hid, hstream⟩
          · exact .inl he
          · exact .inr ⟨id, List.mem_cons.mpr (.inl (List.mem_singleton.mp hid)), hstream⟩
        · exact .inr ⟨id, List.mem_cons_of_mem _ hid, hstream⟩
      · rcases List.mem_cons.mp hid with rfl | hid
        · obtain ⟨stored, hload, hnone⟩ := hstep.loaded rfl id (by simp)
          exact ⟨stored, (hrest.runs id).loaded hload hnone, hnone⟩
        · exact hrest.loaded hended id hid
      · obtain ⟨id, hid, hstopped⟩ := hrest.stopped error herror
        exact ⟨id, List.mem_cons_of_mem _ hid, hstopped⟩

/-- A ledger in which no run has a lease stays as it is. -/
theorem reconcileRuns_of_released {H : Host} {retain : String → WorktreeExecutionSpec → Retention}
    {runIds : List String} (h : ∀ runId ∈ runIds, ∃ stored, loadStored H D L runId = .ok stored ∧
      stored.run.state.activeLease = none) :
    reconcileRuns H D principalId o retain runIds L = (L, .ok ()) := by
  induction runIds with
  | nil => rfl
  | cons runId runIds ih =>
    obtain ⟨⟨stored, hload, hnone⟩, hrest⟩ := List.forall_mem_cons.mp h
    have hbody : reconcileStored H D principalId o retain L runId = (L, .ok ()) := by
      simp only [reconcileStored, hload, hnone, if_pos]
    rw [reconcileRuns, hbody]
    exact ih hrest

/-- The runs of a ledger are those that an event of theirs queued. -/
theorem mem_runIds : runId ∈ runIds L ↔ ∃ e ∈ L,
    e.eventType = StrEnum.value RunEventType.runQueued ∧ e.streamId = runStream runId := by
  have hdrop : ∀ id : String, String.ofList ((runStream id).toList.drop 4) = id := by
    intro id
    have hlist : (runStream id).toList.drop 4 = id.toList := by
      rw [runStream, String.toList_append]
      rfl
    rw [hlist, String.ofList_toList]
  simp only [runIds, List.mem_eraseDups, List.mem_map, List.mem_filter, decide_eq_true_eq]
  constructor
  · rintro ⟨e, ⟨he, htype, hprefix⟩, rfl⟩
    obtain ⟨rest, hrest⟩ := List.isPrefixOf_iff_prefix.mp hprefix
    have hstream : e.streamId = runStream (String.ofList rest) := by
      refine String.toList_injective ?_
      rw [runStream, String.toList_append, ← hrest]
      exact congrArg _ String.toList_ofList.symm
    refine ⟨e, he, htype, ?_⟩
    rw [queuedRunId, hstream, hdrop]
  · rintro ⟨e, he, htype, hstream⟩
    refine ⟨e, ⟨he, htype, ?_⟩, ?_⟩
    · rw [hstream, runStream, String.toList_append, List.isPrefixOf_iff_prefix]
      exact List.prefix_append _ _
    · rw [queuedRunId, hstream, hdrop]

/-- A run that is loaded is one of the runs of the ledger. -/
theorem mem_runIds_of_loadStored {H : Host} (h : loadStored H D L runId = .ok stored) :
    runId ∈ runIds L := by
  obtain ⟨queued, _, _, hhead, htype, -⟩ := loadStored_eq_ok.mp h
  have hmem := Ledger.mem_readStream.mp (List.mem_of_head? hhead)
  exact mem_runIds.mpr ⟨queued, hmem.1, htype, hmem.2⟩

/-- **Startup.** Whatever the checkouts are found to be, a reconciliation of a reachable ledger
appends what the system may append, and each run is loaded as before, or its lease was released and
it has the status that it is reconciled to. If the reconciliation completes, no run has a lease, and
another one changes nothing; else it stopped at a run that cannot be loaded, whose status is not
decided, or whose events the store refuses. -/
theorem reconcileStartup_releases (hreach : Later env.host D [] L)
    (hprincipal : isPrincipal principalId)
    (h : reconcileStartup env.host D principalId o (fun runId ↦ retainAt env (n runId)) L =
      (L', ended)) :
    Later env.host D L L' ∧ (∀ runId, RunReconciled env D (n runId) L L' runId) ∧
      (ended = .ok () →
        (∀ runId stored, loadStored env.host D L' runId = .ok stored →
          stored.run.state.activeLease = none) ∧
        ∀ o' retain', reconcileStartup env.host D principalId o' retain' L' = (L', .ok ())) ∧
      ∀ error, ended = .error error → ∃ runId, Stopped env D (n runId) L' runId error := by
  rw [reconcileStartup, if_pos hprincipal] at h
  have hstep := reconciles_runs hreach h
  refine ⟨hstep.later, hstep.runs, fun hended ↦ ?_, fun error herror ↦ ?_⟩
  · have hruns : ∀ runId ∈ runIds L', runId ∈ runIds L := by
      intro runId hrunId
      obtain ⟨e, he, htype, hstream⟩ := mem_runIds.mp hrunId
      rcases hstep.appended e he with he | ⟨id, hid, hstream'⟩
      · exact mem_runIds.mpr ⟨e, he, htype, hstream⟩
      · rwa [ExecutionRuntime.streamId_injective (hstream.symm.trans hstream')]
    have hreleased : ∀ runId ∈ runIds L', ∃ stored, loadStored env.host D L' runId = .ok stored ∧
        stored.run.state.activeLease = none := fun runId hrunId ↦
      hstep.loaded hended runId (hruns runId hrunId)
    refine ⟨fun runId stored hload ↦ ?_, fun o' retain' ↦ ?_⟩
    · obtain ⟨stored', hload', hnone⟩ := hreleased runId (mem_runIds_of_loadStored hload)
      obtain rfl := Except.ok.inj (hload.symm.trans hload')
      exact hnone
    · rw [reconcileStartup, if_pos hprincipal]
      exact reconcileRuns_of_released hreleased
  · obtain ⟨runId, -, hstopped⟩ := hstep.stopped error herror
    exact ⟨runId, hstopped⟩

end Steps

/-! ### A run with a lease -/

namespace LeasedNode

/-- The ledger of a run whose node is claimed. -/
def claimed : Ledger := OneNode.queuedLedger ++ (OneNode.batches.take 1).flatten

theorem ne_canceled (n : ℕ) (invocation : GitInvocation) :
    (fun _ _ ↦ .error .spawnFailed : ℕ → GitInvocation →
      Except BoundedProcessFailureCode BoundedProcessResult) n invocation ≠ .error .canceled := by
  rintro ⟨⟩

/-- The surroundings after a restart in which no command can be run. -/
def environment : GitEnvironment where
  host := OneNode.host
  digest := ⟨fun _ ↦ OneNode.runHex.1, fun _ ↦ OneNode.runHex.2⟩
  sha1 _ := "0000000000000000000000000000000000000000"
  gitExecutable := "/usr/bin/git"
  transport := ⟨fun _ _ ↦ .error .spawnFailed, ne_canceled⟩
  files _ := OneNode.deployment.fs
  tree _ _ := ⟨fun _ ↦ true, fun _ ↦ none, fun _ ↦ true⟩

/-- The time and the identifiers of the events of the reconciliation. -/
def occurrence (_ : String) : Occurrence :=
  ⟨1767226000000000, fun i ↦ "reconciled-" ++ toString i⟩

/-- The commands before the inspection of a run. -/
def commands (_ : String) : ℕ := 0

theorem isPrincipal_daemon : isPrincipal "daemon-1" = true := by decide

theorem claimed_reachable : Later environment.host OneNode.deployment [] claimed := by
  obtain ⟨L', hL'⟩ := Checked.exists_of_isOk OneNode.recorded
  have hbatches : OneNode.batches ++ [OneNode.cleanup] =
      OneNode.batches.take 1 ++ (OneNode.batches.drop 1 ++ [OneNode.cleanup]) := by
    rw [← List.append_assoc, List.take_append_drop]
  rw [hbatches] at hL'
  obtain ⟨L, hL, -⟩ := History.run_append_eq_ok.mp hL'
  rw [claimed, ← eq_append_of_recordBatches hL]
  exact OneNode.queued_reachable.trans (later_of_recordBatches hL)

/-- The run of the ledger is loaded with a lease, and the reconciliation completes. -/
theorem isOk_reconciled :
    ((loadStored environment.host OneNode.deployment claimed "run-1").toOption.bind
        (·.run.state.activeLease)).isSome = true ∧
      (reconcileStartup environment.host OneNode.deployment "daemon-1" occurrence
        (fun runId ↦ retainAt environment (commands runId)) claimed).2 = .ok () := by
  decide +kernel

example : (reconcileStartup environment.host OneNode.deployment "daemon-1" occurrence
    (fun runId ↦ retainAt environment (commands runId)) []).2 = .ok () := by decide +kernel

theorem exists_of_snd {α β : Type*} {p : α × β} {b : β} (h : p.2 = b) : ∃ a, p = (a, b) :=
  ⟨p.1, Prod.ext rfl h⟩

theorem loaded : ∃ stored lease,
    loadStored environment.host OneNode.deployment claimed "run-1" = .ok stored ∧
      stored.run.state.activeLease = some lease := by
  have hsome := isOk_reconciled.1
  generalize loadStored environment.host OneNode.deployment claimed "run-1" = x at hsome ⊢
  cases x with
  | error error => cases hsome
  | ok stored =>
    obtain ⟨lease, hactive⟩ := Option.isSome_iff_exists.mp hsome
    exact ⟨stored, lease, rfl, hactive⟩

theorem completes : ∃ L', reconcileStartup environment.host OneNode.deployment "daemon-1" occurrence
    (fun runId ↦ retainAt environment (commands runId)) claimed = (L', .ok ()) :=
  exists_of_snd isOk_reconciled.2

end LeasedNode

/-- After the reconciliation no run has a lease. -/
theorem reconcileStartup_releases_claimed : ∃ L', reconcileStartup LeasedNode.environment.host
      OneNode.deployment "daemon-1" LeasedNode.occurrence
      (fun runId ↦ retainAt LeasedNode.environment (LeasedNode.commands runId)) LeasedNode.claimed =
        (L', .ok ()) ∧
    ∀ runId stored,
      loadStored LeasedNode.environment.host OneNode.deployment L' runId = .ok stored →
        stored.run.state.activeLease = none := by
  obtain ⟨L', hstartup⟩ := LeasedNode.completes
  obtain ⟨-, -, hcompletes, -⟩ := reconcileStartup_releases LeasedNode.claimed_reachable
    LeasedNode.isPrincipal_daemon hstartup
  exact ⟨L', hstartup, (hcompletes rfl).1⟩

end Blackcell.Bootstrap
