import Blackcell.Adapters.GitEvidence
import Blackcell.Bootstrap.TransitionBatches
import Blackcell.Bootstrap.WriteLineage

/-!
# Closing a lease

The batches that close the active lease of a run are validated twice before they are appended: the
longer stream is folded, and its worktree evidence is checked. The evidence of a loaded run has the
specification of the active lease, so that the evidence of a batch is accepted whenever its
inspection is about the checkout of the lease. What remains is what the fold asks, and a call ends
in a conflict if it asks too much.

## Main definitions

* `Specified`, `SpecifiedInv` : the evidence of a run has the specification of its lease.
* `Releases`, `Ends` : events that release the lease of a loaded run, and how a call ends.

## Main results

* `specified_of_run` : the invariant holds of every loaded run.
* `ends_submitTransitions` : the validation of a batch.
* `ends_reconciliation`, `ends_canceled`, `ends_requeued`, `ends_failed` : the batches.
-/

namespace Blackcell.Bootstrap

open Blackcell.Kernel Blackcell.Adapters.Worktree
open Blackcell.Orchestration Blackcell.Orchestration.RunLifecycle
open Blackcell.Interfaces.Http (PlanRequest)

/-! ### The specification of a lease -/

section Specified

variable {H : Host} {fs : FileSystem} {repositoryRoot isolationRoot runId : String}
  {plan : PlanRequest} {deps : NodeDependencies} {s s' : FoldState} {v w : Evidence}
  {e : EventEnvelope} {lease : ActiveLease} {spec : WorktreeExecutionSpec}

/-- The evidence of a run has the specification of a lease. -/
structure Specified (H : Host) (fs : FileSystem) (repositoryRoot isolationRoot runId : String)
    (v : Evidence) (lease : ActiveLease) (spec : WorktreeExecutionSpec) : Prop
    extends Specifies H runId spec lease where
  parsed : specFromMapping H fs lease.worktreeSpec = .ok spec
  recorded : v.specifications.lookup lease.leaseDigest = some spec
  roots : spec.repositoryRoot = repositoryRoot ∧ spec.isolationRoot = isolationRoot

/-- The evidence of a run has the specification of its active lease. -/
def SpecifiedInv (H : Host) (fs : FileSystem) (repositoryRoot isolationRoot runId : String)
    (s : FoldState) (v : Evidence) : Prop :=
  ∀ lease, s.active = some lease →
    ∃ spec, Specified H fs repositoryRoot isolationRoot runId v lease spec

/-- The lease of a specification is that of its document. -/
theorem lease_of_specFromMapping {value : Mapping} (h : specFromMapping H fs value = .ok spec) :
    ∃ document : Mapping, value.get "lease" = .object document ∧
      document.get "run_id" = .str spec.lease.runId ∧
      document.get "node_id" = .str spec.lease.nodeId := by
  simp only [specFromMapping, leaseFromMapping, Checked.bind_eq_ok, Checked.ofOption_eq_ok,
    JsonValue.fields?_eq_some, payloadText_eq_ok] at h
  obtain ⟨_, -, document, hlease, _, -, _, -, _, -, _, -, lease, ⟨runId, hrun, nodeId, hnode, _, -,
    _, -, _, -, hcreate⟩, _, -, _, -, _, -, _, -, _, -, h⟩ := h
  obtain ⟨rfl, -⟩ := WorktreeExecutionSpec.of_create h
  obtain ⟨rfl, rfl, -⟩ := WorktreeLeaseIdentity.create_eq_ok.mp hcreate
  exact ⟨document, hlease, hrun, hnode⟩

/-- An event that is no claim leaves at most the active lease, and its specification. -/
theorem lease_of_transition (h : Transition H deps s e s')
    (hclaim : runEventType? e ≠ some .nodeClaimed) {lease' : ActiveLease}
    (hlease' : s'.active = some lease') : ∃ lease, s.active = some lease ∧
      lease'.nodeId = lease.nodeId ∧ lease'.leaseDigest = lease.leaseDigest ∧
      lease'.worktreeSpecDigest = lease.worktreeSpecDigest ∧
      lease'.worktreeSpec = lease.worktreeSpec := by
  cases h with
  | claim lease hkind => exact absurd hkind hclaim
  | prepare lease _ _ hlease =>
    obtain rfl := Option.some.inj hlease'
    exact ⟨lease, hlease, rfl, rfl, rfl, rfl⟩
  | dispatch lease _ _ _ _ hlease =>
    obtain rfl := Option.some.inj hlease'
    exact ⟨lease, hlease, rfl, rfl, rfl, rfl⟩
  | release => cases hlease'
  | pass => exact ⟨lease', hlease', rfl, rfl, rfl, rfl⟩
  | requestCancel => exact ⟨lease', hlease', rfl, rfl, rfl, rfl⟩
  | cleanup => exact ⟨lease', hlease', rfl, rfl, rfl, rfl⟩
  | close => exact ⟨lease', hlease', rfl, rfl, rfl, rfl⟩

/-- What a claim says about its lease. -/
theorem fields_of_claim (hkind : runEventType? e = some .nodeClaimed)
    (h : observe H runId deps s e = .ok s') : ∃ (lease : ActiveLease) (document : Mapping),
      s'.active = some lease ∧ e.payload.get "worktree_spec" = .object lease.worktreeSpec ∧
      e.payload.get "worktree_spec_digest" = .str lease.worktreeSpecDigest ∧
      e.payload.get "lease_digest" = .str lease.leaseDigest ∧
      lease.worktreeSpec.get "lease" = .object document ∧ document.get "run_id" = .str runId ∧
      document.get "node_id" = .str lease.nodeId := by
  have hbranch := branch_of_observe hkind h
  simp only [foldBranch, foldNodeClaimed, checkLeaseDocument, mapping, Checked.bind_eq_ok,
    check_eq_ok, Checked.exists_unit, Checked.pure_eq_ok, present_eq_ok,
    JsonValue.fields?_eq_some] at hbranch
  obtain ⟨-, -, -, lease, hlease, -, -, -, -, -, ⟨-, document, hdocument, hrun, hnode, -⟩, rfl⟩ :=
    hbranch
  simp only [claimedLease, mapping, Checked.bind_eq_ok, present_eq_ok, JsonValue.fields?_eq_some,
    Checked.pure_eq_ok] at hlease
  obtain ⟨_, -, _, -, _, -, _, -, _, hdigest, _, hspecDigest, _, -, spec, hspec, _, -, rfl⟩ :=
    hlease
  exact ⟨_, document, rfl, hspec, digest_eq_ok hspecDigest, digest_eq_ok hdigest, hdocument, hrun,
    hnode⟩

/-- The roots and the digest that the evidence of a claim is checked against. -/
theorem evidence_of_claimed (hkind : e.eventType = StrEnum.value RunEventType.nodeClaimed)
    (h : evidenceOf H fs repositoryRoot isolationRoot plan v e = .ok w) :
    ∃ (raw : Mapping) (spec : WorktreeExecutionSpec),
      e.payload.get "worktree_spec" = .object raw ∧ specFromMapping H fs raw = .ok spec ∧
      (spec.repositoryRoot = repositoryRoot ∧ spec.isolationRoot = isolationRoot) ∧
      e.payload.get "worktree_spec_digest" = .str (spec.digest H) ∧
      e.payload.get "lease_digest" = .str (spec.lease.digest H) := by
  simp only [evidenceOf, leaseEvidence, if_pos hkind, Checked.bind_eq_ok] at h
  obtain ⟨u, hu, -⟩ := h
  simp only [claimEvidence, mapping, Checked.bind_eq_ok, present_eq_ok, JsonValue.fields?_eq_some,
    ofWorktree_eq_ok, check_eq_ok, Checked.exists_unit, Checked.pure_eq_ok] at hu
  obtain ⟨raw, hraw, spec, hspec, _, -, _, -, hroots, -, -, hspecDigest, hdigest, -⟩ := hu
  exact ⟨raw, spec, hraw, hspec, hroots, hspecDigest, hdigest⟩

/-- **Step.** Every accepted event keeps the specification of the active lease. -/
theorem SpecifiedInv.step (hI : SpecifiedInv H fs repositoryRoot isolationRoot runId s v)
    (hknown : isKnown e = true) (hs : observe H runId deps s e = .ok s')
    (hv : evidenceOf H fs repositoryRoot isolationRoot plan v e = .ok w) :
    SpecifiedInv H fs repositoryRoot isolationRoot runId s' w := by
  intro lease' hlease'
  by_cases hclaim : runEventType? e = some .nodeClaimed
  · obtain ⟨lease, document, hactive, hraw, hspecDigest, hdigest, hdocument, hrun, hnode⟩ :=
      fields_of_claim hclaim hs
    obtain rfl : lease = lease' := Option.some.inj (hactive.symm.trans hlease')
    have htype := eventType_of_kind hclaim
    obtain ⟨raw, spec, hraw', hspec, -, -, rfl⟩ := evidence_of_claim htype hv
    obtain ⟨raw₁, spec₁, hraw₁, hspec₁, hroots, hspecDigest', hdigest'⟩ :=
      evidence_of_claimed htype hv
    obtain rfl : raw₁ = raw := JsonValue.object.inj (hraw₁.symm.trans hraw')
    obtain rfl : spec₁ = spec := Except.ok.inj (hspec₁.symm.trans hspec)
    obtain rfl : lease.worktreeSpec = raw₁ := JsonValue.object.inj (hraw.symm.trans hraw₁)
    obtain ⟨document', hdocument', hrun', hnode'⟩ := lease_of_specFromMapping hspec
    obtain rfl : document = document' := JsonValue.object.inj (hdocument.symm.trans hdocument')
    have hleaseDigest : spec₁.lease.digest H = lease.leaseDigest :=
      JsonValue.str.inj (hdigest'.symm.trans hdigest)
    exact ⟨spec₁, {
      runId := JsonValue.str.inj (hrun'.symm.trans hrun)
      nodeId := JsonValue.str.inj (hnode'.symm.trans hnode)
      leaseDigest := hleaseDigest
      specDigest := JsonValue.str.inj (hspecDigest'.symm.trans hspecDigest)
      parsed := hspec
      recorded := by simp [hleaseDigest]
      roots := hroots }⟩
  · obtain ⟨lease, hlease, hnode, hdigest, hspecDigest, hspec⟩ :=
      lease_of_transition (transition_of_observe hs) hclaim hlease'
    obtain ⟨spec, h⟩ := hI lease hlease
    have hspecifications : w.specifications = v.specifications := by
      by_cases hsuccess : runEventType? e = some .nodeSucceeded
      · obtain ⟨_, _, _, -, -, -, -, hnone, -⟩ := head_of_success hsuccess hs
        rw [hnone] at hlease'
        cases hlease'
      · rw [evidence_of_other (fun htype ↦ hclaim (kind_of_eventType hknown htype))
          (fun htype ↦ hsuccess (kind_of_eventType hknown htype)) hv]
    exact ⟨spec, {
      runId := h.runId
      nodeId := hnode ▸ h.nodeId
      leaseDigest := hdigest ▸ h.leaseDigest
      specDigest := hspecDigest ▸ h.specDigest
      parsed := hspec ▸ h.parsed
      recorded := by rw [hspecifications, hdigest, h.recorded]
      roots := h.roots }⟩

/-- **Run.** The evidence of a run has the specification of its active lease. -/
theorem specified_of_run {events : List EventEnvelope} {state : RunLifecycleState}
    (h : foldRunLifecycle H runId (nodeDependencies plan) events = .ok state)
    (hfolds : FoldsTo H runId (nodeDependencies plan) events state s)
    (hv : validateWorktreeEvidence H fs repositoryRoot isolationRoot plan events = .ok v) :
    SpecifiedInv H fs repositoryRoot isolationRoot runId s v := by
  obtain ⟨queued, rest, hfilter, -, hqueued, hfold⟩ := hfolds.queued
  refine invariant_of_observed
    (fun es s ↦ (∀ e ∈ es, isKnown e = true) → ∀ v,
      validateWorktreeEvidence H fs repositoryRoot isolationRoot plan es = .ok v →
        SpecifiedInv H fs repositoryRoot isolationRoot runId s v)
    (fun _ _ _ _ _ lease hlease ↦ by cases hlease) (fun es e s s' hI hs hknown w hw ↦ ?_)
    hfilter hqueued hfold (fun e he ↦ (event_of_foldRunLifecycle h e he).2) v hv
  obtain ⟨v, hv, hstep⟩ := History.run_append_eq_ok.mp hw
  simp only [History.run_cons, History.run_nil, Checked.bind_eq_ok, Except.ok.injEq,
    exists_eq_right] at hstep
  have hold := hI (fun a ha ↦ hknown a (List.mem_append_left _ ha)) v hv
  exact hold.step (hknown e (by simp)) hs hstep

/-- **Evidence of a batch.** The evidence of a run accepts the events of a batch, and learns
nothing. -/
theorem evidenceOf_of_carries (h : Specified H fs repositoryRoot isolationRoot runId v lease spec)
    {inspection : Option WorktreeInspection} (hi : ∀ i ∈ inspection, Observes H spec i)
    (hcarries : e.payload.get "inspection" =
      (inspection.map fun i ↦ JsonValue.object i.payload).getD .null)
    {kind : RunEventType} (hkind : runEventType? e = some kind)
    (hrelease : kind ≠ .nodeClaimed ∧ kind ≠ .nodeProviderDispatchStarted ∧
      kind ≠ .nodeWorktreeCleaned ∧ kind ≠ .nodeSucceeded) :
    evidenceOf H fs repositoryRoot isolationRoot plan v e = .ok v := by
  have htype := eventType_of_kind hkind
  have hne : ∀ kind', kind ≠ kind' → e.eventType ≠ StrEnum.value kind' := fun kind' hne heq ↦
    hne (StrEnum.value_injective (htype.symm.trans heq))
  have hlease : leaseEvidence H fs repositoryRoot isolationRoot plan v e = .ok v := by
    rw [leaseEvidence, if_neg (hne _ hrelease.1), if_neg (hne _ hrelease.2.1),
      if_neg (hne _ hrelease.2.2.1)]
    rfl
  rw [evidenceOf, hlease, Checked.ok_bind]
  cases inspection with
  | none =>
    rw [hcarries]
    exact if_pos rfl
  | some i =>
    have hobserves := hi i rfl
    have hpath : asPosix i.worktreePath = i.worktreePath := by
      rw [hobserves.worktreePath]
      exact WorktreeExecutionSpec.asPosix_worktreePath ..
    rw [hcarries, if_neg (by simp)]
    simp only [inspectionEvidence, mapping, Checked.bind_eq_ok, present_eq_ok, ofWorktree_eq_ok,
      checkInspection, check_eq_ok, Checked.exists_unit, if_neg (hne _ hrelease.2.2.2),
      Checked.pure_eq_ok, and_true]
    refine ⟨i.payload, rfl, i, i.inspectionFromMapping_payload hpath, spec, ?_,
      hobserves.specDigest, hobserves.worktreePath, hobserves.branchName, hobserves.baseCommit,
      hobserves.allowedPaths, hobserves.maxChangedPaths⟩
    rw [hobserves.leaseDigest, h.leaseDigest, h.recorded]

end Specified

/-! ### The submission of a batch -/

/-- The run is loaded from its stream. -/
def Loads (H : Host) (D : Deployment) (stored : StoredRun) : Prop :=
  loadRun H D.fs D.repositoryRoot D.isolationRoot stored.plan stored.request.runId
    stored.run.events = .ok stored.run

section Submission

variable {H : Host} {D : Deployment} {stored : StoredRun} {principalId : String} {o : Occurrence}
  {at' : Timestamp} {s : FoldState} {v : Evidence} {lease : ActiveLease}
  {spec : WorktreeExecutionSpec} {ts : List RunTransition} {t : RunTransition}

theorem reports_transitionEvent {eventId causationId : String} {sequence : ℤ} :
    Reports (transitionEvent stored principalId at' t eventId causationId sequence) t where
  kind := by simp [runEventType?, transitionEvent]
  payload := rfl

/-- The events of a batch continue the stream of the run. -/
theorem continues_transitionEvents (i : ℕ) (last : EventEnvelope) :
    Continues stored.request.runId stored.run.state.queuedEvent.correlationId last
      (transitionEvents stored principalId o at' ts i last.eventId last.streamSequence) := by
  induction ts generalizing i last with
  | nil => trivial
  | cons t ts ih =>
    have hkind : isPublic (transitionEvent stored principalId at' t (o.eventIds i) last.eventId
        (last.streamSequence + 1)) = true := by
      rw [isPublic, reports_transitionEvent.kind]
      rfl
    exact ⟨⟨rfl, rfl, rfl, hkind, rfl, rfl⟩, ih (i + 1) (transitionEvent stored principalId at' t
      (o.eventIds i) last.eventId (last.streamSequence + 1))⟩

/-- What a loaded run was folded to, and what the fold asks of events that continue its stream. -/
structure Folded (H : Host) (D : Deployment) (stored : StoredRun) (s : FoldState) (v : Evidence) :
    Prop where
  folds : FoldsTo H stored.request.runId (nodeDependencies stored.plan) stored.run.events
    stored.run.state s
  evidence : validateWorktreeEvidence H D.fs D.repositoryRoot D.isolationRoot stored.plan
    stored.run.events = .ok v
  specified : SpecifiedInv H D.fs D.repositoryRoot D.isolationRoot stored.request.runId s v
  extend : ∀ last, stored.run.events.getLast? = some last → ∀ fs,
    Continues stored.request.runId stored.run.state.queuedEvent.correlationId last fs → ∀ state,
      foldRunLifecycle H stored.request.runId (nodeDependencies stored.plan)
          (stored.run.events ++ fs) = .ok state ↔
        ∃ s', History.run (foldEvent H stored.request.runId (nodeDependencies stored.plan)) s fs =
            .ok s' ∧ acceptsEnd (nodeDependencies stored.plan) s' ∧
          state = s'.toState stored.request.runId (nodeDependencies stored.plan)
            stored.run.state.queuedEvent (fs.getLast?.getD stored.run.state.latestEvent)
            ((fs.getLast?.getD last).streamSequence)

theorem Loads.folded (h : Loads H D stored) : ∃ s v, Folded H D stored s v := by
  simp only [Loads, loadRun, Checked.bind_eq_ok, Checked.mapError_eq_ok, Checked.pure_eq_ok] at h
  obtain ⟨_, -, _, -, state, hfold, _, -, v, hv, hrun⟩ := h
  obtain rfl : state = stored.run.state := by rw [← hrun]
  obtain ⟨s, hfolds, -, hextend⟩ := foldRunLifecycle_extend hfold
  exact ⟨s, v, hfolds, hv, specified_of_run hfold hfolds hv, hextend⟩

/-- Events that the evidence accepts without learning anything. -/
theorem run_evidenceOf {fs : List EventEnvelope}
    (h : ∀ e ∈ fs, evidenceOf H D.fs D.repositoryRoot D.isolationRoot stored.plan v e = .ok v) :
    History.run (evidenceOf H D.fs D.repositoryRoot D.isolationRoot stored.plan) v fs = .ok v := by
  induction fs with
  | nil => rfl
  | cons e fs ih =>
    rw [History.run_cons, h e (by simp), Checked.ok_bind]
    exact ih fun e' he' ↦ h e' (List.mem_cons_of_mem _ he')

/-- Events that continue the stream of a loaded run, so that it is accepted, no lease is active, and
the run has a status. -/
structure Releases (H : Host) (D : Deployment) (stored : StoredRun) (fs : List EventEnvelope)
    (status : RunStatus) : Prop where
  nonempty : fs ≠ []
  continues : ∀ last, stored.run.events.getLast? = some last →
    Continues stored.request.runId stored.run.state.queuedEvent.correlationId last fs
  folds : ∃ state, foldRunLifecycle H stored.request.runId (nodeDependencies stored.plan)
      (stored.run.events ++ fs) = .ok state ∧ state.activeLease = none ∧ state.status = status
  evidence : ∃ v, validateWorktreeEvidence H D.fs D.repositoryRoot D.isolationRoot stored.plan
    (stored.run.events ++ fs) = .ok v

/-- How a call ends: it raises a conflict, or it appends events that release the lease. -/
def Ends (H : Host) (D : Deployment) (stored : StoredRun)
    (call : Except RuntimeApiFailureCode (List EventEnvelope)) : Option RunStatus → Prop
  | none => call = .error .conflict
  | some status => ∃ fs, call = .ok fs ∧ Releases H D stored fs status

/-- **Submission.** A batch that closes the lease under a condition is submitted if it holds. -/
theorem ends_submitTransitions (h : Folded H D stored s v) {recordedAt : Option Datetime}
    (hat : recordedAtOr o recordedAt = .ok at') (hne : ts ≠ []) {p : Prop} [Decidable p]
    {status : RunStatus}
    (hcloses : Closes H stored.request.runId (nodeDependencies stored.plan) s
      (batchEvents stored principalId o at' ts) p status)
    (hevidence : ∀ e ∈ batchEvents stored principalId o at' ts,
      evidenceOf H D.fs D.repositoryRoot D.isolationRoot stored.plan v e = .ok v) :
    Ends H D stored (submitTransitions H D stored principalId o ts recordedAt)
      (if p then some status else none) := by
  obtain ⟨last, hlast, hsequence⟩ := h.folds.last
  have hcontinues : Continues stored.request.runId stored.run.state.queuedEvent.correlationId last
      (batchEvents stored principalId o at' ts) := by
    rw [batchEvents, hlast, hsequence]
    exact continues_transitionEvents 0 last
  have hnonempty : batchEvents stored principalId o at' ts ≠ [] := by
    cases ts with
    | nil => exact absurd rfl hne
    | cons => exact List.cons_ne_nil _ _
  have hextend := h.extend last hlast _ hcontinues
  have hvalid : validateWorktreeEvidence H D.fs D.repositoryRoot D.isolationRoot stored.plan
      (stored.run.events ++ batchEvents stored principalId o at' ts) = .ok v :=
    History.run_append_eq_ok.mpr ⟨v, h.evidence, run_evidenceOf hevidence⟩
  have hrequire : Checked.require (ts ≠ []) RuntimeApiFailureCode.invalidRequest = .ok ⟨⟩ :=
    Checked.require_eq_ok.mpr hne
  rw [submitTransitions, hrequire, hat]
  simp only [Checked.ok_bind, hvalid]
  by_cases hp : p
  · obtain ⟨s', hs', hend⟩ := hcloses.1.mpr hp
    obtain ⟨hactive, hstatus⟩ := hcloses.2 s' hs'
    have hfold := (hextend _).mpr ⟨s', hs', hend, rfl⟩
    rw [if_pos hp, hfold]
    refine ⟨_, rfl, hnonempty, fun last' hlast' ↦ ?_, ⟨_, hfold, hactive, hstatus⟩, v, hvalid⟩
    obtain rfl : last = last' := Option.some.inj (hlast.symm.trans hlast')
    exact hcontinues
  · rw [if_neg hp]
    cases hfold : foldRunLifecycle H stored.request.runId (nodeDependencies stored.plan)
        (stored.run.events ++ batchEvents stored principalId o at' ts) with
    | ok state =>
      obtain ⟨s', hs', hend, -⟩ := (hextend state).mp hfold
      exact absurd (hcloses.1.mp ⟨s', hs', hend⟩) hp
    | error => rfl

end Submission

/-! ### The calls -/

section Calls

variable {H : Host} {D : Deployment} {stored : StoredRun} {principalId : String} {o : Occurrence}
  {at' : Timestamp} {s : FoldState} {v : Evidence} {lease : ActiveLease}
  {spec : WorktreeExecutionSpec} {inspection : Option WorktreeInspection} {r : Option String}
  {recordedAt : Option Datetime}

/-- A loaded run with an active lease. -/
structure Holds (H : Host) (D : Deployment) (stored : StoredRun) (s : FoldState) (v : Evidence)
    (lease : ActiveLease) (spec : WorktreeExecutionSpec) : Prop extends Folded H D stored s v where
  active : stored.run.state.activeLease = some lease
  isSpecified : Specified H D.fs D.repositoryRoot D.isolationRoot stored.request.runId v lease spec

theorem Loads.holds (h : Loads H D stored) (hactive : stored.run.state.activeLease = some lease) :
    ∃ s v spec, Holds H D stored s v lease spec := by
  obtain ⟨s, v, hfolded⟩ := h.folded
  have hlease : s.active = some lease := by rw [← hfolded.folds.folds.lease, hactive]
  obtain ⟨spec, hspec⟩ := hfolded.specified lease hlease
  exact ⟨s, v, spec, hfolded, hactive, hspec⟩

theorem Holds.leased (h : Holds H D stored s v lease spec) :
    Leased H stored.request.runId (nodeDependencies stored.plan) s spec lease where
  orderly := h.folds.orderly
  active := by rw [← h.folds.folds.lease, h.active]
  specifies := h.isSpecified.toSpecifies

/-- The specification of the active lease passes the check of the calls. -/
theorem Holds.requireActiveSpec_eq_ok (h : Holds H D stored s v lease spec) {prepared : Bool}
    (hprepared : prepared = true → lease.prepared = true) :
    requireActiveSpec H stored spec prepared = .ok lease := by
  simp only [requireActiveSpec, Checked.bind_eq_ok, Checked.ofOption_eq_ok, Checked.exists_unit,
    Checked.require_eq_ok, Checked.pure_eq_ok]
  exact ⟨lease, h.active, ⟨h.isSpecified.nodeId.symm, h.isSpecified.leaseDigest.symm,
    h.isSpecified.specDigest.symm, hprepared⟩, rfl⟩

/-- The evidence of a transition on the leased node is accepted. -/
theorem Holds.evidenceOf (h : Holds H D stored s v lease spec)
    (hi : ∀ i ∈ inspection, Observes H spec i) {e : EventEnvelope} {t : RunTransition}
    (he : Reports e t) (hcarries : Mapping.get (("principal_id", .str e.actor) :: t.payload)
      "inspection" = (inspection.map fun i ↦ JsonValue.object i.payload).getD .null)
    (hkind : t.kind ≠ .nodeClaimed ∧ t.kind ≠ .nodeProviderDispatchStarted ∧
      t.kind ≠ .nodeWorktreeCleaned ∧ t.kind ≠ .nodeSucceeded) :
    Bootstrap.evidenceOf H D.fs D.repositoryRoot D.isolationRoot stored.plan v e = .ok v :=
  evidenceOf_of_carries h.isSpecified hi (by rw [he.payload, hcarries]) he.kind hkind

/-- The evidence of the events of a batch of two is accepted. -/
theorem Holds.evidence_batch (h : Holds H D stored s v lease spec)
    (hi : ∀ i ∈ inspection, Observes H spec i) {t : RunTransition} {kind : RunEventType}
    {name status : String} {retained : Bool}
    (hcarries : ∀ actor, Mapping.get (("principal_id", .str actor) :: t.payload) "inspection" =
      (inspection.map fun i ↦ JsonValue.object i.payload).getD .null)
    (hkind : ∀ kind' ∈ [RunEventType.nodeClaimed, .nodeProviderDispatchStarted,
      .nodeWorktreeCleaned, .nodeSucceeded], t.kind ≠ kind' ∧ kind ≠ kind') :
    ∀ e ∈ batchEvents stored principalId o at'
        [t, closingTransition H spec kind name status retained],
      Bootstrap.evidenceOf H D.fs D.repositoryRoot D.isolationRoot stored.plan v e = .ok v := by
  have hnode := fun kind' hmem ↦ (hkind kind' hmem).1
  have hrun := fun kind' hmem ↦ (hkind kind' hmem).2
  intro e he
  simp only [batchEvents, transitionEvents, List.mem_cons, List.not_mem_nil, or_false] at he
  rcases he with rfl | rfl
  · exact h.evidenceOf hi reports_transitionEvent (hcarries _)
      ⟨hnode _ (by simp), hnode _ (by simp), hnode _ (by simp), hnode _ (by simp)⟩
  · have hnone : ∀ i ∈ (none : Option WorktreeInspection), Observes H spec i := by simp
    exact h.evidenceOf hnone reports_transitionEvent rfl
      ⟨hrun _ (by simp), hrun _ (by simp), hrun _ (by simp), hrun _ (by simp)⟩

/-- The nodes of the loaded run that retain a worktree. -/
theorem Holds.retained (h : Holds H D stored s v lease spec) :
    (∀ k ∈ (nodeDependencies stored.plan).known, (s.nodes k).retainedWorktree = false) ↔
      stored.run.state.nodes.any (·.retainedWorktree) = false := by
  rw [h.folds.folds.nodes, List.any_map, List.any_eq_false]
  exact forall₂_congr fun k _ ↦ (Bool.not_eq_true _).symm.to_iff

/-- The inspection that is returned is about the checkout of the specification. -/
theorem observes_of_retainAt {env : GitEnvironment} {n : ℕ} {i : WorktreeInspection}
    (h : retainAt env n spec = .ok i) : Observes env.host spec i := by
  unfold retainAt at h
  split at h
  · rename_i inspection n' hinspect
    obtain rfl : inspection = i := Except.ok.inj h
    obtain ⟨-, hinspected⟩ := inspect_eq_ok.mp hinspect
    obtain ⟨hspec, hlease, hpath, hbranch, hbase, hallowed, hmax⟩ := hinspected.identifies
    exact ⟨hspec, hlease, hpath, hbranch, hbase, hallowed, hmax⟩
  · cases h
  · cases h

/-- The texts of the failures of the lifecycle are codes of failures. -/
theorem isFailureCode_lifecycleFailureText (code : LifecycleFailureCode) :
    isFailureCode (lifecycleFailureText code) = true := by
  cases code with
  | contract code => cases code <;> decide
  | _ => decide

theorem Holds.recordBatchOf_eq (h : Holds H D stored s v lease spec) (ts : List RunTransition) :
    recordBatchOf H D stored spec principalId o ts =
      submitTransitions H D stored principalId o ts none := by
  rw [recordBatchOf, h.requireActiveSpec_eq_ok (by simp), Checked.ok_bind]

theorem ends_reconciliation (h : Holds H D stored s v lease spec)
    (hi : ∀ i ∈ inspection, Observes H spec i) {code : Option String}
    (hcode : ∀ c ∈ code, isFailureCode c = true) (hsome : inspection = none → code.isSome = true) :
    Ends H D stored (recordReconciliationRequired H D stored spec principalId o inspection code)
      (if stored.run.state.cancellationRequested = false then some .reconciliationRequired
        else none) := by
  have hrequire : Checked.require (∀ c ∈ code, isFailureCode c = true)
      RuntimeApiFailureCode.invalidRequest = .ok ⟨⟩ := Checked.require_eq_ok.mpr hcode
  have hrecord : recordReconciliationRequired H D stored spec principalId o inspection code =
      submitTransitions H D stored principalId o (reconciliationRequired H spec inspection code)
        none := by
    rw [recordReconciliationRequired, h.requireActiveSpec_eq_ok (by simp), Checked.ok_bind,
      hrequire, Checked.ok_bind]
  rw [hrecord, h.folds.folds.cancellation]
  exact ends_submitTransitions h.toFolded rfl (List.cons_ne_nil _ _)
    (closes_reconciliation h.leased hi hcode hsome reports_transitionEvent reports_transitionEvent)
    (h.evidence_batch hi (fun actor ↦ by cases inspection <;> rfl)
      (by simp [reconciliationTransition]))

theorem ends_canceled (h : Holds H D stored s v lease spec)
    (hi : ∀ i ∈ inspection, Observes H spec i) (hr : ∀ d ∈ r, isContentDigest H d = true) :
    Ends H D stored
      (recordBatchOf H D stored spec principalId o (canceledBatch H spec r inspection))
      (if stored.run.state.cancellationRequested = true ∧
        (inspection = none → stored.run.state.nodes.any (·.retainedWorktree) = false) then
          some .canceled else none) := by
  rw [h.recordBatchOf_eq, h.folds.folds.cancellation]
  simp only [← h.retained]
  exact ends_submitTransitions h.toFolded rfl (List.cons_ne_nil _ _)
    (closes_canceled h.leased hi hr reports_transitionEvent reports_transitionEvent)
    (h.evidence_batch hi (fun actor ↦ by cases inspection <;> rfl) (by simp [canceledTransition]))

theorem ends_requeued (h : Holds H D stored s v lease spec)
    (hi : ∀ i ∈ inspection, Observes H spec i) :
    Ends H D stored (recordBatchOf H D stored spec principalId o (requeuedNode H spec inspection))
      (if lease.providerDispatchEventId = none ∧ (∀ i ∈ inspection, inspectionIsUnchanged i) ∧
        stored.run.state.cancellationRequested = false then some .queued else none) := by
  rw [h.recordBatchOf_eq, h.folds.folds.cancellation]
  refine ends_submitTransitions h.toFolded rfl (List.cons_ne_nil _ _)
    (closes_requeued h.leased hi reports_transitionEvent) fun e he ↦ ?_
  simp only [batchEvents, transitionEvents, List.mem_singleton] at he
  rw [he]
  exact h.evidenceOf hi reports_transitionEvent (by cases inspection <;> rfl)
    (by simp [requeuedTransition])

theorem ends_failed (h : Holds H D stored s v lease spec)
    (hi : ∀ i ∈ inspection, Observes H spec i) (hr : ∀ d ∈ r, isContentDigest H d = true)
    {code : String} (hcode : isFailureCode code = true) (hworker : principalId = lease.workerId)
    (hat : recordedAtOr o recordedAt = .ok at') :
    Ends H D stored
      (submitTransitions H D stored principalId o (failedNode H spec code r inspection) recordedAt)
      (if at' ≤ lease.expiresAt then some .failed else none) :=
  ends_submitTransitions h.toFolded hat (List.cons_ne_nil _ _)
    (closes_failed h.leased hi hr hcode hworker reports_transitionEvent reports_transitionEvent)
    (h.evidence_batch hi (fun actor ↦ by cases inspection <;> rfl) (by simp [failedTransition]))

end Calls

end Blackcell.Bootstrap
