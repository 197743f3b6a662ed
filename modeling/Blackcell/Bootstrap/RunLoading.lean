import Blackcell.Adapters.WorktreeEvidence
import Blackcell.Bootstrap.NodeBase
import Blackcell.Orchestration.ExecutionRuntime.Projection

/-!
# Loading a run

`_load_run` of `bootstrap/runtime_service.py`: the stream of a run is folded, projected, and checked
against the plan. The last check reads the worktree evidence of the stream: the specifications of the
claims, and the inspections and removals of their checkouts. The references of the run to its project,
intent and plan are decoded before; here the plan is given.

## Main definitions

* `Evidence` : the specifications of the claims and the heads of the nodes that succeeded.
* `evidenceOf`, `validateWorktreeEvidence` : one event of the stream, and the stream.
* `loadRun` : the complete check.

## Main results

* `evidence_of_claim`, `evidence_of_success`, `evidence_of_other` : what an accepted event adds to the
  evidence.
-/

namespace Blackcell.Bootstrap

open Blackcell.Kernel Blackcell.Adapters.Worktree
open Blackcell.Interfaces.Http hiding check check_eq_ok
open Blackcell.Orchestration Blackcell.Orchestration.RunLifecycle

/-- `RuntimeApiFailureCode`. -/
inductive RuntimeApiFailureCode where
  | invalidRequest | notFound | conflict | notReady | storageQuotaExceeded
  deriving DecidableEq, Repr

/-- The accumulated evidence: `specifications` and `successful_heads`, the latest entry first. -/
structure Evidence where
  specifications : List (String × WorktreeExecutionSpec)
  successfulHeads : List (String × String)

/-- A reader of worktree evidence inside the validation of a run. -/
def ofWorktree {α : Type} (x : Except WorktreeFailureCode α) : Except LifecycleError α :=
  x.mapError fun _ ↦ .invalidRunLifecycle

@[simp] theorem ofWorktree_eq_ok {α : Type} {x : Except WorktreeFailureCode α} {a : α} :
    ofWorktree x = .ok a ↔ x = .ok a :=
  Checked.mapError_eq_ok

section

variable (H : Host) (fs : FileSystem) (repositoryRoot isolationRoot : String) (plan : PlanRequest)
  (v : Evidence) (e : EventEnvelope)

/-- `NODE_CLAIMED` in `_validate_worktree_evidence`. -/
def claimEvidence : Except LifecycleError Evidence := do
  let raw ← mapping (e.payload.get "worktree_spec")
  let spec ← ofWorktree (specFromMapping H fs raw)
  let node ← present (byId plan.nodes spec.lease.nodeId)
  let base ← nodeBaseCommit H plan spec.lease.nodeId v.successfulHeads
  check (spec.repositoryRoot = repositoryRoot ∧ spec.isolationRoot = isolationRoot)
  check (spec.baseCommit = base)
  check (spec.allowedPaths = node.allowedPaths ∧
    spec.maxChangedPaths = node.budget.maxChangedFiles)
  check (e.payload.get "worktree_spec_digest" = .str (spec.digest H))
  check (e.payload.get "lease_digest" = .str (spec.lease.digest H))
  return { v with specifications := (spec.lease.digest H, spec) :: v.specifications }

/-- `NODE_PROVIDER_DISPATCH_STARTED` in `_validate_worktree_evidence`. -/
def dispatchEvidence : Except LifecycleError PUnit := do
  let leaseDigest ← present (e.payload.get "lease_digest").text?
  let spec ← present (v.specifications.lookup leaseDigest)
  check (writes plan.nodes spec.lease.nodeId)

/-- `NODE_WORKTREE_CLEANED` in `_validate_worktree_evidence`. -/
def cleanedEvidence : Except LifecycleError PUnit := do
  let raw ← mapping (e.payload.get "removal")
  let removal ← ofWorktree (removalFromMapping raw)
  let spec ← present (v.specifications.lookup removal.leaseDigest)
  let head ← present (v.successfulHeads.lookup spec.lease.nodeId)
  check (removal.specDigest = spec.digest H ∧ removal.worktreePath = spec.worktreePath H ∧
    removal.branchName = spec.branchName H ∧ removal.retainedHeadCommit = head)
  check (e.payload.get "worktree_spec_digest" = .str (spec.digest H))
  check (e.payload.get "lease_digest" = .str (spec.lease.digest H))

/-- The inspection agrees with the specification of its lease. -/
def checkInspection (inspection : WorktreeInspection) (spec : WorktreeExecutionSpec) :
    Except LifecycleError PUnit :=
  check (inspection.specDigest = spec.digest H ∧ inspection.worktreePath = spec.worktreePath H ∧
    inspection.branchName = spec.branchName H ∧ inspection.baseCommit = spec.baseCommit ∧
    inspection.allowedPaths = spec.allowedPaths ∧
    inspection.maxChangedPaths = spec.maxChangedPaths)

/-- The inspection of an event in `_validate_worktree_evidence`: that of a success records its head. -/
def inspectionEvidence (raw : JsonValue) : Except LifecycleError Evidence := do
  let document ← mapping raw
  let inspection ← ofWorktree (inspectionFromMapping document)
  let spec ← present (v.specifications.lookup inspection.leaseDigest)
  checkInspection H inspection spec
  if e.eventType = StrEnum.value RunEventType.nodeSucceeded then
    let head ← commit H (e.payload.get "head_commit")
    check (inspection.headCommit = head)
    return { v with successfulHeads := (spec.lease.nodeId, head) :: v.successfulHeads }
  else return v

/-- The evidence of an event before its inspection is read. -/
def leaseEvidence : Except LifecycleError Evidence :=
  if e.eventType = StrEnum.value RunEventType.nodeClaimed then
    claimEvidence H fs repositoryRoot isolationRoot plan v e
  else if e.eventType = StrEnum.value RunEventType.nodeProviderDispatchStarted then do
    dispatchEvidence plan v e
    return v
  else if e.eventType = StrEnum.value RunEventType.nodeWorktreeCleaned then do
    cleanedEvidence H v e
    return v
  else return v

/-- The body of the loop of `_validate_worktree_evidence`. -/
def evidenceOf : Except LifecycleError Evidence := do
  let w ← leaseEvidence H fs repositoryRoot isolationRoot plan v e
  if e.payload.get "inspection" = .null then return w
  else inspectionEvidence H w e (e.payload.get "inspection")

/-- `_validate_worktree_evidence`. -/
def validateWorktreeEvidence (events : List EventEnvelope) : Except LifecycleError Evidence :=
  History.run (evidenceOf H fs repositoryRoot isolationRoot plan) ⟨[], []⟩ events

/-- `{node.node_id: node.depends_on for node in plan.nodes}`. -/
def nodeDependencies : NodeDependencies where
  entries := plan.nodes.map fun node ↦ (node.nodeId, node.dependsOn)
  nodup := by simpa [Function.comp_def] using plan.validNodes.2.2.1

/-- `_LoadedRun`, of a given plan. -/
structure LoadedRun where
  events : List EventEnvelope
  state : RunLifecycleState
  kernelState : Option ExecutionRuntime.ExecutionRunState

/-- `_load_run`, of a stream and the plan that the run names. -/
def loadRun (runId : String) (events : List EventEnvelope) :
    Except RuntimeApiFailureCode LoadedRun := do
  let queued ← Checked.ofOption events.head? RuntimeApiFailureCode.notFound
  Checked.require (queued.eventType = StrEnum.value RunEventType.runQueued)
    RuntimeApiFailureCode.conflict
  let state ← (foldRunLifecycle H runId (nodeDependencies plan) events).mapError
    fun _ ↦ RuntimeApiFailureCode.conflict
  let kernelState ← (ExecutionRuntime.project H events).mapError
    fun _ ↦ RuntimeApiFailureCode.conflict
  let _ ← (validateWorktreeEvidence H fs repositoryRoot isolationRoot plan events).mapError
    fun _ ↦ RuntimeApiFailureCode.conflict
  return ⟨events, state, kernelState⟩

end

section

variable {H : Host} {fs : FileSystem} {repositoryRoot isolationRoot : String} {plan : PlanRequest}
  {v w : Evidence} {e : EventEnvelope}

/-- The dependencies of a node of the plan. -/
theorem nodeDependencies_of (nodeId : String) :
    (nodeDependencies plan).of nodeId = dependenciesOf plan.nodes nodeId := by
  have hlookup : ∀ nodes : List PlanNode,
      (nodes.map fun node ↦ (node.nodeId, node.dependsOn)).lookup nodeId =
        (nodes.find? fun node ↦ node.nodeId = nodeId).map (·.dependsOn) := by
    intro nodes
    induction nodes with
    | nil => rfl
    | cons node nodes ih =>
      by_cases h : node.nodeId = nodeId
      · simp [h]
      · have hne : (nodeId == node.nodeId) = false := by simpa using fun heq : nodeId = _ ↦ h heq.symm
        simp [List.lookup_cons, h, hne, ih]
  rw [NodeDependencies.of, nodeDependencies, hlookup, dependenciesOf, byId]

/-- The inspection of an event that is not a success adds nothing. -/
theorem evidence_of_inspection (hkind : e.eventType ≠ StrEnum.value RunEventType.nodeSucceeded)
    {raw : JsonValue} (h : inspectionEvidence H v e raw = .ok w) : w = v := by
  simp only [inspectionEvidence, Checked.bind_eq_ok, if_neg hkind, Checked.pure_eq_ok] at h
  obtain ⟨_, -, _, -, _, -, _, -, rfl⟩ := h
  rfl

/-- **Claims.** A claim adds its specification, whose base is that of its node. -/
theorem evidence_of_claim (hkind : e.eventType = StrEnum.value RunEventType.nodeClaimed)
    (h : evidenceOf H fs repositoryRoot isolationRoot plan v e = .ok w) :
    ∃ (raw : Mapping) (spec : WorktreeExecutionSpec),
      e.payload.get "worktree_spec" = .object raw ∧ specFromMapping H fs raw = .ok spec ∧
      nodeBaseCommit H plan spec.lease.nodeId v.successfulHeads = .ok spec.baseCommit ∧
      e.payload.get "lease_digest" = .str (spec.lease.digest H) ∧
      w = { v with specifications := (spec.lease.digest H, spec) :: v.specifications } := by
  simp only [evidenceOf, leaseEvidence, if_pos hkind, Checked.bind_eq_ok] at h
  obtain ⟨u, hu, h⟩ := h
  have hw : w = u := by
    split at h
    · exact (Checked.pure_eq_ok.mp h).symm
    · exact evidence_of_inspection (by rw [hkind]; decide) h
  simp only [claimEvidence, mapping, Checked.bind_eq_ok, present_eq_ok, JsonValue.fields?_eq_some,
    ofWorktree_eq_ok, check_eq_ok, Checked.exists_unit, Checked.pure_eq_ok] at hu
  obtain ⟨raw, hraw, spec, hspec, _, -, _, hbase, -, rfl, -, -, hdigest, rfl⟩ := hu
  exact ⟨raw, spec, hraw, hspec, hbase, hdigest, hw⟩

/-- **Success.** The success of a node adds the head of its inspection, which has the base of the
specification of its lease. -/
theorem evidence_of_success (hkind : e.eventType = StrEnum.value RunEventType.nodeSucceeded)
    {raw : Mapping} (hraw : e.payload.get "inspection" = .object raw)
    (h : evidenceOf H fs repositoryRoot isolationRoot plan v e = .ok w) :
    ∃ (inspection : WorktreeInspection) (spec : WorktreeExecutionSpec),
      inspectionFromMapping raw = .ok inspection ∧
      v.specifications.lookup inspection.leaseDigest = some spec ∧
      inspection.baseCommit = spec.baseCommit ∧
      w = { v with
        successfulHeads := (spec.lease.nodeId, inspection.headCommit) :: v.successfulHeads } := by
  have hlease : leaseEvidence H fs repositoryRoot isolationRoot plan v e = .ok v := by
    have h₁ : e.eventType ≠ StrEnum.value RunEventType.nodeClaimed := by rw [hkind]; decide
    have h₂ : e.eventType ≠ StrEnum.value RunEventType.nodeProviderDispatchStarted := by
      rw [hkind]; decide
    have h₃ : e.eventType ≠ StrEnum.value RunEventType.nodeWorktreeCleaned := by rw [hkind]; decide
    rw [leaseEvidence, if_neg h₁, if_neg h₂, if_neg h₃]
    rfl
  simp only [evidenceOf, hlease, hraw, reduceCtorEq, if_false, Checked.ok_bind, inspectionEvidence,
    mapping, checkInspection, Checked.bind_eq_ok, present_eq_ok, JsonValue.fields?_eq_some,
    JsonValue.object.injEq, ofWorktree_eq_ok, check_eq_ok, Checked.exists_unit, if_pos hkind,
    Checked.pure_eq_ok, exists_eq_left'] at h
  obtain ⟨inspection, hinspection, spec, hspec, ⟨-, -, -, hbase, -, -⟩, _, -, rfl, rfl⟩ := h
  exact ⟨inspection, spec, hinspection, hspec, hbase, rfl⟩

/-- **Other events.** An event that is neither a claim nor a success adds nothing. -/
theorem evidence_of_other (hclaim : e.eventType ≠ StrEnum.value RunEventType.nodeClaimed)
    (hsuccess : e.eventType ≠ StrEnum.value RunEventType.nodeSucceeded)
    (h : evidenceOf H fs repositoryRoot isolationRoot plan v e = .ok w) : w = v := by
  have hlease : Checked.Ensures (· = v) (leaseEvidence H fs repositoryRoot isolationRoot plan v e) := by
    rw [leaseEvidence, if_neg hclaim]
    split
    · exact Checked.ensures_bind fun _ _ ↦ Checked.ensures_pure rfl
    · split
      · exact Checked.ensures_bind fun _ _ ↦ Checked.ensures_pure rfl
      · exact Checked.ensures_pure rfl
  simp only [evidenceOf, Checked.bind_eq_ok] at h
  obtain ⟨u, hu, h⟩ := h
  obtain rfl := hlease u hu
  split at h
  · exact (Checked.pure_eq_ok.mp h).symm
  · exact evidence_of_inspection hsuccess h

end

end Blackcell.Bootstrap
