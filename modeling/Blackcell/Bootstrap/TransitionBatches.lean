import Blackcell.Bootstrap.RunTransitions
import Blackcell.Orchestration.RunLifecycle.Closing

/-!
# The fold of the transitions that close a lease

The service closes the active lease of a run by a batch of one or two events. Here the fold of the
run is evaluated on each of these batches, in a state with an active lease that an accepted stream
was folded to: which batch is accepted is a matter of a cancellation that was requested, of the
expiry of the lease, and of the worktrees that other nodes retain.

## Main definitions

* `Specifies`, `Observes` : a specification is that of a lease; an inspection is about the checkout
  of a specification.
* `Leased` : a folded state with an active lease, and its specification.
* `Closes` : what a batch does to such a state.

## Main results

* `closes_canceled`, `closes_failed`, `closes_requeued`, `closes_reconciliation` : the batches.
-/

namespace Blackcell.Bootstrap

open Blackcell.Kernel Blackcell.Adapters.Worktree
open Blackcell.Orchestration Blackcell.Orchestration.RunLifecycle
open Blackcell.Interfaces.Http (PlanRequest)

/-! ### The events of a batch -/

/-- The specification is that of the lease. -/
structure Specifies (H : Host) (runId : String) (spec : WorktreeExecutionSpec)
    (lease : ActiveLease) : Prop where
  runId : spec.lease.runId = runId
  nodeId : spec.lease.nodeId = lease.nodeId
  leaseDigest : spec.lease.digest H = lease.leaseDigest
  specDigest : spec.digest H = lease.worktreeSpecDigest

/-- The inspection is about the checkout of the specification. -/
structure Observes (H : Host) (spec : WorktreeExecutionSpec) (i : WorktreeInspection) : Prop where
  specDigest : i.specDigest = spec.digest H
  leaseDigest : i.leaseDigest = spec.lease.digest H
  worktreePath : i.worktreePath = spec.worktreePath H
  branchName : i.branchName = spec.branchName H
  baseCommit : i.baseCommit = spec.baseCommit
  allowedPaths : i.allowedPaths = spec.allowedPaths
  maxChangedPaths : i.maxChangedPaths = spec.maxChangedPaths

section Events

variable {H : Host} {runId status : String} {deps : NodeDependencies} {s s' : FoldState}
  {spec : WorktreeExecutionSpec} {lease : ActiveLease} {e : EventEnvelope} {kind : RunEventType}
  {fields payload : Mapping} {inspection : Option WorktreeInspection} {i : WorktreeInspection}

theorem foldEvent_of_kind (hkind : runEventType? e = some kind)
    (hprincipal : e.payload.get "principal_id" = .str e.actor) (h : s.terminal = false) :
    foldEvent H runId deps s e = foldBranch H runId deps s e kind := by
  simp [foldEvent, principal, present, check, hkind, hprincipal, h, Checked.require,
    Checked.ofOption]

/-- The fold and the service mean the same by an inspection without changes. -/
theorem unchangedInspection_payload : unchangedInspection i.payload ↔ inspectionIsUnchanged i := by
  simp [unchangedInspection, inspectionIsUnchanged, WorktreeInspection.payload, Mapping.get_cons,
    JsonValue.ofTexts, JsonValue.equals]

/-- The inspection of a batch is accepted, if it need not be unchanged, or is. -/
theorem inspectionOf_eq_ok (hspec : Specifies H runId spec lease) (hi : Observes H spec i)
    (hinspection : payload.get "inspection" = .object i.payload)
    (hdigest : payload.get "inspection_digest" = .str (H.jsonDigest (.object i.payload)))
    {unchanged : Bool} {document : Mapping} :
    RunLifecycle.inspectionOf H payload lease unchanged = .ok document ↔
      (unchanged = true → inspectionIsUnchanged i) ∧ document = i.payload := by
  have hs : i.payload.get "spec_digest" = .str lease.worktreeSpecDigest := by
    rw [← hspec.specDigest, ← hi.specDigest]
    rfl
  have hl : i.payload.get "lease_digest" = .str lease.leaseDigest := by
    rw [← hspec.leaseDigest, ← hi.leaseDigest]
    rfl
  simp only [RunLifecycle.inspectionOf, mapping, Checked.bind_eq_ok, present_eq_ok, check_eq_ok,
    Checked.exists_unit, Checked.pure_eq_ok, JsonValue.fields?_eq_some, hinspection,
    JsonValue.object.injEq, exists_eq_left', hdigest, hs, hl, unchangedInspection_payload,
    true_and]
  exact and_congr_right fun _ ↦ eq_comm

/-- The payload carries the evidence of a batch. -/
def Carries (H : Host) (payload : Mapping) (inspection : Option WorktreeInspection) : Prop :=
  payload.get "inspection" = (inspection.map fun i ↦ JsonValue.object i.payload).getD .null ∧
    payload.get "inspection_digest" =
      (inspection.map fun i ↦ JsonValue.str (H.jsonDigest (.object i.payload))).getD .null

theorem retainedEvidence_eq_ok (hspec : Specifies H runId spec lease)
    (hi : ∀ i ∈ inspection, Observes H spec i) (hcarries : Carries H payload inspection)
    (hretained : payload.get "retained_worktree" = .bool inspection.isSome) {retained : Bool} :
    retainedEvidence H payload lease = .ok retained ↔ retained = inspection.isSome := by
  obtain ⟨hinspection, hdigest⟩ := hcarries
  cases inspection with
  | none =>
    simp only [Option.map_none, Option.getD_none] at hinspection hdigest
    simp [retainedEvidence, hretained, present, check, Checked.ofOption, Checked.require,
      JsonValue.bool?, hinspection, hdigest, eq_comm]
  | some i =>
    have hok : RunLifecycle.inspectionOf H payload lease false = .ok i.payload :=
      (inspectionOf_eq_ok hspec (hi i rfl) hinspection hdigest).mpr ⟨by simp, rfl⟩
    simp [retainedEvidence, hretained, present, Checked.ofOption, JsonValue.bool?, hok, eq_comm]

/-- A failure code that the service accepts is one for the fold. -/
theorem failureCode_eq_ok {code code' : String} (h : isFailureCode code = true) :
    RunLifecycle.failureCode (.str code) = .ok code' ↔ code' = code := by
  simp only [isFailureCode, Bool.and_eq_true, decide_eq_true_eq] at h
  obtain ⟨⟨hne, hlength⟩, hall⟩ := h
  simp only [RunLifecycle.failureCode, identifier, text, Checked.bind_eq_ok, present_eq_ok,
    check_eq_ok, Checked.exists_unit, Checked.pure_eq_ok]
  constructor
  · rintro ⟨c, ⟨c', hc', -, rfl⟩, -, rfl⟩
    exact (Option.some.inj hc').symm
  · rintro rfl
    exact ⟨_, ⟨_, rfl, ⟨hne, hlength⟩, rfl⟩, hall, rfl⟩

/-- The evidence of a node that needs reconciliation. -/
theorem reconciliationEvidence_eq_ok (hspec : Specifies H runId spec lease)
    (hi : ∀ i ∈ inspection, Observes H spec i) (hcarries : Carries H payload inspection)
    (hretained : payload.get "retained_worktree" = .bool inspection.isSome) {code : Option String}
    (hcode : payload.get "failure_code" = .ofText? code)
    (hvalid : ∀ c ∈ code, isFailureCode c = true) (hsome : inspection = none → code.isSome = true)
    {r : Option String × Bool} :
    reconciliationEvidence H payload lease = .ok r ↔ r = (code, inspection.isSome) := by
  have hfailure : ∀ c ∈ code, RunLifecycle.failureCode (.str c) = .ok c := fun c hc ↦
    (failureCode_eq_ok (hvalid c hc)).mpr rfl
  obtain ⟨hinspection, hdigest⟩ := hcarries
  cases inspection with
  | none =>
    simp only [Option.map_none, Option.getD_none] at hinspection hdigest
    obtain ⟨c, rfl⟩ := Option.isSome_iff_exists.mp (hsome rfl)
    simp [reconciliationEvidence, hretained, check, Checked.require, hinspection, hdigest, hcode,
      JsonValue.ofText?, hfailure c rfl, eq_comm]
  | some i =>
    have hok : RunLifecycle.inspectionOf H payload lease false = .ok i.payload :=
      (inspectionOf_eq_ok hspec (hi i rfl) hinspection hdigest).mpr ⟨by simp, rfl⟩
    simp only [Option.map_some, Option.getD_some] at hinspection hdigest
    cases code with
    | none =>
      simp [reconciliationEvidence, hretained, check, Checked.require, hinspection, hcode, hok,
        JsonValue.ofText?, eq_comm]
    | some c =>
      simp [reconciliationEvidence, hretained, check, Checked.require, hinspection, hcode, hok,
        JsonValue.ofText?, hfailure c rfl, eq_comm]

end Events

/-! ### The fold of a batch -/

/-- The event reports a transition. -/
structure Reports (e : EventEnvelope) (t : RunTransition) : Prop where
  kind : runEventType? e = some t.kind
  payload : e.payload = ("principal_id", .str e.actor) :: t.payload

/-- A folded state with an active lease, and the specification of the lease. -/
structure Leased (H : Host) (runId : String) (deps : NodeDependencies) (s : FoldState)
    (spec : WorktreeExecutionSpec) (lease : ActiveLease) : Prop where
  orderly : Orderly deps s
  active : s.active = some lease
  specifies : Specifies H runId spec lease

/-- The state after the lease is released. -/
def releasedTo (s : FoldState) (lease : ActiveLease) (node : NodeLifecycleState)
    (status : RunStatus) : FoldState :=
  { s.setNode lease.nodeId node with active := none, status := status }

section Batches

variable {H : Host} {runId principalId : String} {deps : NodeDependencies} {s s' : FoldState}
  {spec : WorktreeExecutionSpec} {lease : ActiveLease} {e : EventEnvelope}
  {inspection : Option WorktreeInspection} {r : Option String}

theorem Leased.terminal (h : Leased H runId deps s spec lease) : s.terminal = false :=
  (h.orderly.sound (.inl (by rw [h.active]; rfl))).1

theorem Leased.sound (h : Leased H runId deps s spec lease) (k : String) :
    (s.nodes k).status.sound = true :=
  (h.orderly.sound (.inl (by rw [h.active]; rfl))).2 k

theorem Leased.known (h : Leased H runId deps s spec lease) : lease.nodeId ∈ deps.known :=
  h.orderly.known lease h.active

theorem Leased.not_retained (h : Leased H runId deps s spec lease) :
    (s.nodes lease.nodeId).retainedWorktree = false :=
  h.orderly.retained.not_retained (not_settled_of_occupied (h.orderly.status.active lease h.active))

theorem Reports.principal {t : RunTransition} (he : Reports e t) :
    e.payload.get "principal_id" = .str e.actor := by
  rw [he.payload]
  rfl

/-- The evidence of a payload that agrees with that of a batch. -/
theorem carries_of_evidence {payload : Mapping}
    (hinspection : payload.get "inspection" =
      Mapping.get (evidenceFields H inspection) "inspection")
    (hdigest : payload.get "inspection_digest" =
      Mapping.get (evidenceFields H inspection) "inspection_digest") :
    Carries H payload inspection := by
  rw [Carries, hinspection, hdigest]
  cases inspection <;> exact ⟨rfl, rfl⟩

/-- The event is about the active lease. -/
theorem Leased.activeLease_eq_ok (h : Leased H runId deps s spec lease) {payload : Mapping}
    (hnode : payload.get "node_id" = .str spec.lease.nodeId)
    (hlease : payload.get "lease_digest" = .str (spec.lease.digest H)) {worker : Bool}
    {lease' : ActiveLease} :
    activeLease deps payload s.active false worker = .ok lease' ↔
      lease' = lease ∧ (worker = true → payload.get "principal_id" = .str lease.workerId) := by
  rw [RunLifecycle.activeLease_eq_ok, h.active, hnode, hlease, h.specifies.nodeId,
    h.specifies.leaseDigest]
  constructor
  · rintro ⟨heq, -, -, -, hworker⟩
    obtain rfl := Option.some.inj heq
    exact ⟨rfl, hworker⟩
  · rintro ⟨rfl, hworker⟩
    exact ⟨rfl, ⟨rfl, rfl⟩, h.known, by simp, hworker⟩

/-- A digest that the service accepts is one for the fold. -/
theorem optionalDigest_eq_ok (hr : ∀ d ∈ r, isContentDigest H d = true) {r' : Option String} :
    optionalDigest H (.ofText? r) = .ok r' ↔ r' = r := by
  cases r with
  | none =>
    rw [optionalDigest, JsonValue.ofText?, if_pos rfl, Checked.pure_eq_ok, eq_comm]
  | some d =>
    have hd := hr d rfl
    simp only [isContentDigest, Bool.and_eq_true, decide_eq_true_eq] at hd
    have hne : d ≠ "" := by
      rintro rfl
      simp at hd
    have hdigest : RunLifecycle.digest H (.str d) = .ok d := by
      simp only [RunLifecycle.digest, text, Checked.bind_eq_ok, present_eq_ok, check_eq_ok,
        Checked.exists_unit, Checked.pure_eq_ok]
      exact ⟨d, ⟨d, rfl, ⟨hne, by omega⟩, rfl⟩, ⟨hd.1.1, hd.1.2, hd.2⟩, rfl⟩
    simp [optionalDigest, JsonValue.ofText?, hdigest, eq_comm]

/-- What the payload of a transition on the leased node says, whatever its other fields are. -/
theorem Leased.payload (h : Leased H runId deps s spec lease) {t : RunTransition} (he : Reports e t)
    {fields : Mapping} {status : String} (ht : t.payload = leaseEventPayload H spec fields status) :
    e.payload.get "run_id" = .str runId ∧ ∀ {worker : Bool} {lease' : ActiveLease},
      activeLease deps e.payload s.active false worker = .ok lease' ↔
        lease' = lease ∧ (worker = true → e.actor = lease.workerId) := by
  have hget := he.payload
  rw [ht] at hget
  refine ⟨by rw [hget, ← h.specifies.runId]; rfl, fun {worker lease'} ↦ ?_⟩
  rw [h.activeLease_eq_ok (by rw [hget]; rfl) (by rw [hget]; rfl), he.principal,
    JsonValue.str.injEq]

/-- **A canceled node.** The fold accepts it if the run was asked to cancel. -/
theorem foldEvent_canceled (h : Leased H runId deps s spec lease)
    (hi : ∀ i ∈ inspection, Observes H spec i) (hr : ∀ d ∈ r, isContentDigest H d = true)
    (he : Reports e (canceledTransition H spec r inspection)) :
    foldEvent H runId deps s e = .ok s' ↔ s.cancellationRequested = true ∧
      s' = releasedTo s lease { s.nodes lease.nodeId with
        status := .canceled
        resultDigest := r
        retainedWorktree := inspection.isSome } .canceling := by
  rw [foldEvent_of_kind (show runEventType? e = some .nodeCanceled from he.kind) he.principal
    h.terminal]
  obtain ⟨hrun, hactive⟩ := h.payload he rfl
  have hget := he.payload
  have hcarries : Carries H e.payload inspection := by
    refine carries_of_evidence ?_ ?_ <;> rw [hget] <;> cases inspection <;> rfl
  have hretained : e.payload.get "retained_worktree" = .bool inspection.isSome := by
    rw [hget]
    cases inspection <;> rfl
  have hexact : e.payload.exact ["principal_id", "run_id", "node_id", "lease_digest",
      "result_digest", "inspection_digest", "inspection", "retained_worktree", "status"] := by
    rw [hget]
    cases inspection <;> simp [Mapping.exact, Mapping.keys, canceledTransition, leaseEventPayload,
      evidenceFields]
  have hstatus : e.payload.get "status" = .str "canceled" := by
    rw [hget]
    cases inspection <;> rfl
  have hdigest : e.payload.get "result_digest" = .ofText? r := by
    rw [hget]
    cases inspection <;> rfl
  simp only [foldBranch, foldNodeCanceled, exact, run, Checked.bind_eq_ok, check_eq_ok,
    Checked.exists_unit, Checked.pure_eq_ok, hexact, hrun, hstatus, hdigest, hactive,
    retainedEvidence_eq_ok h.specifies hi hcarries hretained, optionalDigest_eq_ok hr, true_and,
    Bool.false_eq_true, false_imp_iff, and_true, exists_eq_left, releasedTo]
  exact and_congr_right fun _ ↦ eq_comm

/-- **A failed node.** The fold accepts it from the worker of the lease, until the lease expires. -/
theorem foldEvent_failed (h : Leased H runId deps s spec lease) {code : String}
    (hi : ∀ i ∈ inspection, Observes H spec i) (hr : ∀ d ∈ r, isContentDigest H d = true)
    (hcode : isFailureCode code = true) (hworker : e.actor = lease.workerId)
    (he : Reports e (failedTransition H spec code r inspection)) :
    foldEvent H runId deps s e = .ok s' ↔ e.recordedAt ≤ lease.expiresAt ∧
      s' = releasedTo s lease { s.nodes lease.nodeId with
        status := .failed
        failureCode := some code
        resultDigest := r
        retainedWorktree := inspection.isSome } .failed := by
  rw [foldEvent_of_kind (show runEventType? e = some .nodeFailed from he.kind) he.principal
    h.terminal]
  obtain ⟨hrun, hactive⟩ := h.payload he rfl
  have hget := he.payload
  have hcarries : Carries H e.payload inspection := by
    refine carries_of_evidence ?_ ?_ <;> rw [hget] <;> cases inspection <;> rfl
  have hretained : e.payload.get "retained_worktree" = .bool inspection.isSome := by
    rw [hget]
    cases inspection <;> rfl
  have hexact : e.payload.exact ["principal_id", "run_id", "node_id", "lease_digest",
      "failure_code", "result_digest", "inspection_digest", "inspection", "retained_worktree",
      "status"] := by
    rw [hget]
    cases inspection <;> simp [Mapping.exact, Mapping.keys, failedTransition, leaseEventPayload,
      evidenceFields]
  have hstatus : e.payload.get "status" = .str "failed" := by
    rw [hget]
    cases inspection <;> rfl
  have hdigest : e.payload.get "result_digest" = .ofText? r := by
    rw [hget]
    cases inspection <;> rfl
  have hfailure : e.payload.get "failure_code" = .str code := by
    rw [hget]
    rfl
  simp only [foldBranch, foldNodeFailed, exact, run, Checked.bind_eq_ok, check_eq_ok,
    Checked.exists_unit, Checked.pure_eq_ok, hexact, hrun, hstatus, hdigest, hactive, hworker,
    hfailure, failureCode_eq_ok hcode, retainedEvidence_eq_ok h.specifies hi hcarries hretained,
    optionalDigest_eq_ok hr, true_and, imp_true_iff, and_true, exists_eq_left, h.not_retained,
    Bool.or_false, releasedTo]
  exact and_congr_right fun _ ↦ eq_comm

/-- **A requeued node.** The fold accepts it if its checkout is gone, or unchanged, nothing was
dispatched and the run was not asked to cancel. -/
theorem foldEvent_requeued (h : Leased H runId deps s spec lease)
    (hi : ∀ i ∈ inspection, Observes H spec i)
    (he : Reports e (requeuedTransition H spec inspection)) :
    foldEvent H runId deps s e = .ok s' ↔ (lease.providerDispatchEventId = none ∧
      (∀ i ∈ inspection, inspectionIsUnchanged i) ∧ s.cancellationRequested = false) ∧
      s' = releasedTo s lease { s.nodes lease.nodeId with status := .pending } .queued := by
  rw [foldEvent_of_kind (show runEventType? e = some .nodeRequeued from he.kind) he.principal
    h.terminal]
  obtain ⟨hrun, hactive⟩ := h.payload he rfl
  have hget := he.payload
  have hcarries : Carries H e.payload inspection := by
    refine carries_of_evidence ?_ ?_ <;> rw [hget] <;> cases inspection <;> rfl
  have hexact : e.payload.exact ["principal_id", "run_id", "node_id", "lease_digest",
      "disposition", "inspection_digest", "inspection", "status"] := by
    rw [hget]
    cases inspection <;> simp [Mapping.exact, Mapping.keys, requeuedTransition, leaseEventPayload,
      evidenceFields]
  have hstatus : e.payload.get "status" = .str "requeued" := by
    rw [hget]
    cases inspection <;> rfl
  have hevidence : ∀ u, requeueEvidence H e.payload lease = .ok u ↔
      ∀ i ∈ inspection, inspectionIsUnchanged i := by
    intro u
    have hdisposition : e.payload.get "disposition" =
        .str (if inspection.isSome then "unchanged" else "missing") := by
      rw [hget]
      rfl
    cases inspection with
    | none => simp [requeueEvidence, hdisposition, hcarries.1, hcarries.2]
    | some i =>
      have hok {document : Mapping} :
          RunLifecycle.inspectionOf H e.payload lease true = .ok document ↔
            (true = true → inspectionIsUnchanged i) ∧ document = i.payload :=
        inspectionOf_eq_ok h.specifies (hi i rfl) hcarries.1 hcarries.2
      simp [requeueEvidence, hdisposition, hok]
  simp only [foldBranch, foldNodeRequeued, exact, run, Checked.bind_eq_ok, check_eq_ok,
    Checked.exists_unit, Checked.pure_eq_ok, hexact, hrun, hstatus, hactive, hevidence, true_and,
    Bool.false_eq_true, false_imp_iff, and_true, exists_eq_left, releasedTo, FoldState.setStatus,
    Bool.not_eq_true, and_assoc]
  exact and_congr_right fun _ ↦ and_congr_right fun _ ↦ and_congr_right fun _ ↦ eq_comm

/-- **A node that needs reconciliation.** The fold accepts it whatever the state of the run is. -/
theorem foldEvent_reconciliation (h : Leased H runId deps s spec lease) {code : Option String}
    (hi : ∀ i ∈ inspection, Observes H spec i) (hcode : ∀ c ∈ code, isFailureCode c = true)
    (hsome : inspection = none → code.isSome = true)
    (he : Reports e (reconciliationTransition H spec inspection code)) :
    foldEvent H runId deps s e = .ok s' ↔
      s' = releasedTo s lease { s.nodes lease.nodeId with
        status := .reconciliationRequired
        failureCode := code
        retainedWorktree := inspection.isSome } .reconciliationRequired := by
  rw [foldEvent_of_kind (show runEventType? e = some .nodeReconciliationRequired from he.kind)
    he.principal h.terminal]
  obtain ⟨hrun, hactive⟩ := h.payload he rfl
  have hget := he.payload
  have hcarries : Carries H e.payload inspection := by
    refine carries_of_evidence ?_ ?_ <;> rw [hget] <;> cases inspection <;> rfl
  have hretained : e.payload.get "retained_worktree" = .bool inspection.isSome := by
    rw [hget]
    cases inspection <;> rfl
  have hexact : e.payload.exact ["principal_id", "run_id", "node_id", "lease_digest",
      "failure_code", "inspection_digest", "inspection", "retained_worktree", "status"] := by
    rw [hget]
    cases inspection <;> simp [Mapping.exact, Mapping.keys, reconciliationTransition,
      leaseEventPayload, evidenceFields]
  have hstatus : e.payload.get "status" = .str "reconciliation-required" := by
    rw [hget]
    cases inspection <;> rfl
  have hfailure : e.payload.get "failure_code" = .ofText? code := by
    rw [hget]
    rfl
  simp only [foldBranch, foldNodeReconciliationRequired, exact, run, Checked.bind_eq_ok,
    check_eq_ok, Checked.exists_unit, Checked.pure_eq_ok, hexact, hrun, hstatus, hactive,
    reconciliationEvidence_eq_ok h.specifies hi hcarries hretained hfailure hcode hsome, true_and,
    Bool.false_eq_true, false_imp_iff, and_true, exists_eq_left, releasedTo]
  exact eq_comm

/-! ### Closing the run -/

section Closing

variable {s₁ : FoldState} {kind : RunEventType} {name status : String} {retained flag : Bool}

/-- The conditions that the closing events share come down to the flag. -/
theorem checkRunClosed_eq_ok (hspec : spec.lease.runId = runId)
    (he : Reports e (closingTransition H spec kind name status retained))
    (hactive : s₁.active = none) {u : PUnit} :
    checkRunClosed runId s₁ e status flag = .ok u ↔ retained = flag := by
  have hget := he.payload
  have hexact : e.payload.exact ["principal_id", "run_id", "status", "retained_worktree"] := by
    rw [hget]
    simp [Mapping.exact, Mapping.keys, closingTransition]
  have hrun : e.payload.get "run_id" = .str runId := by
    rw [hget, ← hspec]
    rfl
  have hstatus : e.payload.get "status" = .str status := by
    rw [hget]
    rfl
  have hretained : e.payload.get "retained_worktree" = .bool retained := by
    rw [hget]
    rfl
  simp [checkRunClosed, exact, run, Checked.bind_eq_ok, hexact, hrun, hstatus, hretained, hactive]

/-- After a sound node took a status that is not sound, it is the only node with this status. -/
theorem any_retained_of_sound (h : Leased H runId deps s spec lease) {node : NodeLifecycleState}
    (hnode : node.status.sound = false) (run : RunStatus) :
    (deps.known.any fun k ↦ ((releasedTo s lease node run).nodes k).status = node.status &&
      ((releasedTo s lease node run).nodes k).retainedWorktree) = node.retainedWorktree := by
  have hnodes : ∀ k, (releasedTo s lease node run).nodes k =
      if k = lease.nodeId then node else s.nodes k := fun k ↦ FoldState.setNode_nodes ..
  have hother : ∀ k, k ≠ lease.nodeId → (s.nodes k).status ≠ node.status := fun k _ heq ↦
    Bool.false_ne_true (hnode.symm.trans (heq ▸ h.sound k))
  rw [Bool.eq_iff_iff, List.any_eq_true]
  constructor
  · rintro ⟨k, -, hk⟩
    rw [hnodes] at hk
    split at hk
    · exact (Bool.and_eq_true_iff.mp hk).2
    · rename_i hne
      exact absurd (of_decide_eq_true (Bool.and_eq_true_iff.mp hk).1) (hother k hne)
  · intro hretained
    refine ⟨lease.nodeId, h.known, ?_⟩
    rw [hnodes, if_pos rfl, hretained]
    simp

/-- After the leased node retains a worktree, or does not, some node does if it does, or if another
one did. -/
theorem any_retained (h : Leased H runId deps s spec lease) {node : NodeLifecycleState}
    {run : RunStatus} :
    node.retainedWorktree = (deps.known.any fun k ↦
      ((releasedTo s lease node run).nodes k).retainedWorktree) ↔
      (node.retainedWorktree = false → ∀ k ∈ deps.known, (s.nodes k).retainedWorktree = false) := by
  have hnodes : ∀ k, (releasedTo s lease node run).nodes k =
      if k = lease.nodeId then node else s.nodes k := fun k ↦ FoldState.setNode_nodes ..
  cases hretained : node.retainedWorktree with
  | true =>
    simp only [Bool.true_eq_false, false_imp_iff, iff_true]
    refine (List.any_eq_true.mpr ⟨lease.nodeId, h.known, ?_⟩).symm
    rw [hnodes, if_pos rfl, hretained]
  | false =>
    simp only [true_imp_iff]
    rw [eq_comm, List.any_eq_false]
    refine forall₂_congr fun k _ ↦ ?_
    rw [hnodes, Bool.not_eq_true]
    split
    · rename_i hk
      rw [hk, hretained, h.not_retained]
    · rfl

variable {node : NodeLifecycleState} {run : RunStatus}

/-- A closing event, once the lease is released. -/
theorem foldEvent_of_closing (h : Leased H runId deps s spec lease)
    (he : Reports e (closingTransition H spec kind name status retained)) :
    foldEvent H runId deps (releasedTo s lease node run) e =
      foldBranch H runId deps (releasedTo s lease node run) e kind :=
  foldEvent_of_kind he.kind he.principal h.terminal

theorem foldEvent_runCanceled (h : Leased H runId deps s spec lease)
    (he : Reports e (closingTransition H spec .runCanceled name "canceled" node.retainedWorktree)) :
    foldEvent H runId deps (releasedTo s lease node run) e = .ok s' ↔
      ((node.retainedWorktree = false → ∀ k ∈ deps.known, (s.nodes k).retainedWorktree = false) ∧
        s.cancellationRequested = true) ∧
        s' = { releasedTo s lease node run with status := .canceled, terminal := true } := by
  have hclosed {flag : Bool} {u : PUnit.{1}} :
      checkRunClosed runId (releasedTo s lease node run) e "canceled" flag = .ok u ↔
        node.retainedWorktree = flag :=
    checkRunClosed_eq_ok h.specifies.runId he rfl
  have hcancel : (releasedTo s lease node run).cancellationRequested = s.cancellationRequested :=
    rfl
  rw [foldEvent_of_closing h he]
  simp only [foldBranch, foldRunCanceled, Checked.bind_eq_ok, hclosed, any_retained h, check_eq_ok,
    Checked.exists_unit, Checked.pure_eq_ok, hcancel, and_assoc]
  exact and_congr_right fun _ ↦ and_congr_right fun _ ↦ eq_comm

theorem foldEvent_runFailed (h : Leased H runId deps s spec lease) (hnode : node.status = .failed)
    (he : Reports e (closingTransition H spec .runFailed name "failed" node.retainedWorktree)) :
    foldEvent H runId deps (releasedTo s lease node run) e = .ok s' ↔
      s' = { releasedTo s lease node run with status := .failed, terminal := true } := by
  have hsound : node.status.sound = false := by
    rw [hnode]
    rfl
  have hany := any_retained_of_sound h hsound run
  have hexists : ∃ k ∈ deps.known, ((releasedTo s lease node run).nodes k).status = .failed :=
    ⟨lease.nodeId, h.known, by
      rw [show (releasedTo s lease node run).nodes lease.nodeId = node by
        simp [releasedTo, FoldState.setNode], hnode]⟩
  rw [hnode] at hany
  have hclosed {flag : Bool} {u : PUnit.{1}} :
      checkRunClosed runId (releasedTo s lease node run) e "failed" flag = .ok u ↔
        node.retainedWorktree = flag :=
    checkRunClosed_eq_ok h.specifies.runId he rfl
  rw [foldEvent_of_closing h he]
  simp only [foldBranch, foldRunFailed, Checked.bind_eq_ok, hclosed, hany, check_eq_ok,
    Checked.exists_unit, Checked.pure_eq_ok, hexists, true_and]
  exact eq_comm

theorem foldEvent_runReconciliationRequired (h : Leased H runId deps s spec lease)
    (hnode : node.status = .reconciliationRequired)
    (he : Reports e (closingTransition H spec .runReconciliationRequired name
      "reconciliation-required" node.retainedWorktree)) :
    foldEvent H runId deps (releasedTo s lease node run) e = .ok s' ↔
      s' = { releasedTo s lease node run with
        status := .reconciliationRequired
        reconciliationRecorded := true } := by
  have hsound : node.status.sound = false := by
    rw [hnode]
    rfl
  have hany := any_retained_of_sound h hsound run
  have hexists : ∃ k ∈ deps.known,
      ((releasedTo s lease node run).nodes k).status = .reconciliationRequired :=
    ⟨lease.nodeId, h.known, by
      rw [show (releasedTo s lease node run).nodes lease.nodeId = node by
        simp [releasedTo, FoldState.setNode], hnode]⟩
  rw [hnode] at hany
  have hclosed {flag : Bool} {u : PUnit.{1}} :
      checkRunClosed runId (releasedTo s lease node run) e "reconciliation-required" flag = .ok u ↔
        node.retainedWorktree = flag :=
    checkRunClosed_eq_ok h.specifies.runId he rfl
  rw [foldEvent_of_closing h he]
  simp only [foldBranch, foldRunReconciliationRequired, Checked.bind_eq_ok, hclosed, hany,
    check_eq_ok, Checked.exists_unit, Checked.pure_eq_ok, hexists, true_and]
  exact eq_comm

end Closing

/-- What a batch does: the fold accepts it, and the state after it, exactly under a condition, and
the state after it has no active lease and a given status. -/
def Closes (H : Host) (runId : String) (deps : NodeDependencies) (s : FoldState)
    (fs : List EventEnvelope) (p : Prop) (status : RunStatus) : Prop :=
  ((∃ s', History.run (foldEvent H runId deps) s fs = .ok s' ∧ acceptsEnd deps s') ↔ p) ∧
    ∀ s', History.run (foldEvent H runId deps) s fs = .ok s' → s'.active = none ∧ s'.status = status

/-- A batch that has one result, under a condition. -/
theorem closes_of_result {fs : List EventEnvelope} {p q : Prop} {t : FoldState}
    (h : ∀ s', History.run (foldEvent H runId deps) s fs = .ok s' ↔ p ∧ s' = t)
    (hactive : t.active = none) (hend : (p ∧ acceptsEnd deps t) ↔ q) :
    Closes H runId deps s fs q t.status := by
  refine ⟨?_, fun s' hs' ↦ ?_⟩
  · simp only [h, and_assoc, exists_and_left, exists_eq_left]
    exact hend
  · rw [((h s').mp hs').2]
    exact ⟨hactive, rfl⟩

variable {e₁ e₂ : EventEnvelope} {name : String}

theorem run_pair {s₁ : FoldState} {p q : Prop} {t : FoldState}
    (h₁ : ∀ s', foldEvent H runId deps s e₁ = .ok s' ↔ p ∧ s' = s₁)
    (h₂ : ∀ s', foldEvent H runId deps s₁ e₂ = .ok s' ↔ q ∧ s' = t) (s' : FoldState) :
    History.run (foldEvent H runId deps) s [e₁, e₂] = .ok s' ↔ (p ∧ q) ∧ s' = t := by
  simp only [History.run_cons, History.run_nil, Checked.bind_eq_ok, h₁, and_assoc, exists_and_left,
    exists_eq_left, h₂, Except.ok.injEq]
  exact and_congr_right fun _ ↦ and_congr_right fun _ ↦ eq_comm

/-- **Cancellation.** The run is canceled if it was asked to, and if no other node retains a
worktree while the one of the leased node is gone. -/
theorem closes_canceled (h : Leased H runId deps s spec lease)
    (hi : ∀ i ∈ inspection, Observes H spec i) (hr : ∀ d ∈ r, isContentDigest H d = true)
    (he₁ : Reports e₁ (canceledTransition H spec r inspection))
    (he₂ : Reports e₂ (closingTransition H spec .runCanceled name "canceled" inspection.isSome)) :
    Closes H runId deps s [e₁, e₂] (s.cancellationRequested = true ∧ (inspection = none →
      ∀ k ∈ deps.known, (s.nodes k).retainedWorktree = false)) .canceled := by
  refine closes_of_result (run_pair (fun _ ↦ foldEvent_canceled h hi hr he₁)
    (fun _ ↦ foldEvent_runCanceled h he₂)) rfl ?_
  have hend : acceptsEnd deps { releasedTo s lease { s.nodes lease.nodeId with
      status := .canceled
      resultDigest := r
      retainedWorktree := inspection.isSome } .canceling with
        status := .canceled
        terminal := true } :=
    fun _ hterminal ↦ absurd rfl hterminal
  simp only [hend, and_true, Option.isSome_eq_false_iff, Option.isNone_iff_eq_none]
  exact ⟨fun h ↦ ⟨h.1, h.2.1⟩, fun h ↦ ⟨h.1, h.2, h.1⟩⟩

/-- **Failure.** The run fails if the failure is recorded before the lease expires. -/
theorem closes_failed (h : Leased H runId deps s spec lease) {code : String}
    (hi : ∀ i ∈ inspection, Observes H spec i) (hr : ∀ d ∈ r, isContentDigest H d = true)
    (hcode : isFailureCode code = true) (hworker : e₁.actor = lease.workerId)
    (he₁ : Reports e₁ (failedTransition H spec code r inspection))
    (he₂ : Reports e₂ (closingTransition H spec .runFailed name "failed" inspection.isSome)) :
    Closes H runId deps s [e₁, e₂] (e₁.recordedAt ≤ lease.expiresAt) .failed := by
  refine closes_of_result (run_pair (fun _ ↦ foldEvent_failed h hi hr hcode hworker he₁)
    (q := True) (fun _ ↦ by rw [foldEvent_runFailed h rfl he₂, true_and])) rfl ?_
  have hend : acceptsEnd deps { releasedTo s lease { s.nodes lease.nodeId with
      status := .failed
      failureCode := some code
      resultDigest := r
      retainedWorktree := inspection.isSome } .failed with status := .failed, terminal := true } :=
    fun _ hterminal ↦ absurd rfl hterminal
  simp only [hend, and_true]

/-- The conditions at the end of a stream on a state with a released lease. -/
theorem acceptsEnd_released (h : Leased H runId deps s spec lease) {node : NodeLifecycleState}
    {status : RunStatus} {recorded : Bool} (hsucceeded : node.status ≠ .succeeded)
    (hfailed : node.status ≠ .failed)
    (hrecorded : node.status = .reconciliationRequired → recorded = true) :
    acceptsEnd deps { releasedTo s lease node status with reconciliationRecorded := recorded } ↔
      s.cancellationRequested = false := by
  have hnodes : ∀ k, (releasedTo s lease node status).nodes k =
      if k = lease.nodeId then node else s.nodes k := fun k ↦ FoldState.setNode_nodes ..
  have hcancel : (releasedTo s lease node status).cancellationRequested = s.cancellationRequested :=
    rfl
  have hopen : ¬(releasedTo s lease node status).terminal = true := Bool.eq_false_iff.mp h.terminal
  have hsound : ∀ k, (s.nodes k).status ≠ .failed ∧
      (s.nodes k).status ≠ .reconciliationRequired := by
    intro k
    have hk := h.sound k
    constructor <;> intro heq <;> rw [heq] at hk <;> cases hk
  rw [acceptsEnd, ← Bool.not_eq_true]
  simp only [hcancel]
  constructor
  · intro hend
    exact (hend rfl hopen).1
  · refine fun hcancel _ _ ↦ ⟨hcancel, ⟨lease.nodeId, h.known, ?_⟩, fun k _ ↦ ?_, ?_⟩
    · rw [hnodes, if_pos rfl]
      exact hsucceeded
    · rw [hnodes]
      split
      · exact hfailed
      · exact (hsound k).1
    · rintro ⟨k, -, hk⟩
      rw [hnodes] at hk
      split at hk
      · exact hrecorded hk
      · exact absurd hk (hsound k).2

/-- **Requeueing.** The node is pending again if nothing was dispatched, its checkout is gone or
unchanged, and the run was not asked to cancel. -/
theorem closes_requeued (h : Leased H runId deps s spec lease)
    (hi : ∀ i ∈ inspection, Observes H spec i)
    (he : Reports e (requeuedTransition H spec inspection)) :
    Closes H runId deps s [e] (lease.providerDispatchEventId = none ∧
      (∀ i ∈ inspection, inspectionIsUnchanged i) ∧ s.cancellationRequested = false) .queued := by
  refine closes_of_result (p := lease.providerDispatchEventId = none ∧
      (∀ i ∈ inspection, inspectionIsUnchanged i) ∧ s.cancellationRequested = false)
    (t := releasedTo s lease { s.nodes lease.nodeId with status := .pending } .queued)
    (fun s' ↦ ?_) rfl ?_
  · simp only [History.run_cons, History.run_nil, Checked.bind_eq_ok, foldEvent_requeued h hi he,
      Except.ok.injEq, exists_eq_right]
  · have hend : acceptsEnd deps
          (releasedTo s lease { s.nodes lease.nodeId with status := .pending } .queued) ↔
        s.cancellationRequested = false :=
      acceptsEnd_released h (by simp) (by simp) (by simp)
    exact ⟨fun h ↦ h.1, fun h ↦ ⟨h, hend.mpr h.2.2⟩⟩

/-- **Reconciliation.** The run waits for reconciliation if it was not asked to cancel. -/
theorem closes_reconciliation (h : Leased H runId deps s spec lease) {code : Option String}
    (hi : ∀ i ∈ inspection, Observes H spec i) (hcode : ∀ c ∈ code, isFailureCode c = true)
    (hsome : inspection = none → code.isSome = true)
    (he₁ : Reports e₁ (reconciliationTransition H spec inspection code))
    (he₂ : Reports e₂ (closingTransition H spec .runReconciliationRequired name
      "reconciliation-required" inspection.isSome)) :
    Closes H runId deps s [e₁, e₂] (s.cancellationRequested = false) .reconciliationRequired := by
  refine closes_of_result (run_pair (p := True)
    (fun _ ↦ by rw [foldEvent_reconciliation h hi hcode hsome he₁, true_and]) (q := True)
    (fun _ ↦ by rw [foldEvent_runReconciliationRequired h rfl he₂, true_and])) rfl ?_
  rw [true_and, true_and]
  exact acceptsEnd_released h (by simp) (by simp) (fun _ ↦ rfl)

end Batches

end Blackcell.Bootstrap
