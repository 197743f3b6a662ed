import Blackcell.Bootstrap.RunLoading
import Blackcell.Orchestration.RunLifecycle.Heads

/-!
# The lineage of writes

A node is claimed on the head of one of the nodes that it depends on. That this base descends from the
heads of all of them that write is a matter of the plan and of the history: the plan orders its writers
by dependency, the dependencies of a claimed node have succeeded, and the head of a node that succeeded
descends from the base that it was claimed on.

Commits and their parents are outside of this code: a relation stands for them, and the assumption is
what the inspection of a worktree checks, that the head of a success descends from its base.

## Main definitions

* `HonestInspections` : the head of a success descends from the base of its inspection.
* `Based` : a commit descends from the heads of the writers that a node depends on.
* `Recorded`, `Traced` : the invariant of the nodes, and of the nodes and the active lease.

## Main results

* `Traced.step` : every accepted event keeps the invariant.
* `claimed_base_descends` : no write of an ancestor is lost.
-/

namespace Blackcell.Bootstrap

open Blackcell.Kernel Blackcell.Adapters.Worktree
open Blackcell.Interfaces.Http hiding check check_eq_ok
open Blackcell.Orchestration Blackcell.Orchestration.RunLifecycle

/-- **Honest inspections.** The head of a node that succeeded descends from the base of the
inspection that reports it. -/
def HonestInspections (parent : String → String → Prop) (events : List EventEnvelope) : Prop :=
  ∀ e ∈ events, e.eventType = StrEnum.value RunEventType.nodeSucceeded →
    ∀ (raw : Mapping) (inspection : WorktreeInspection), e.payload.get "inspection" = .object raw →
      inspectionFromMapping raw = .ok inspection →
      Relation.ReflTransGen parent inspection.headCommit inspection.baseCommit

/-- The nodes that write and that a node depends on have succeeded, and a commit descends from the
head of each. -/
def Based (plan : PlanRequest) (parent : String → String → Prop) (s : FoldState)
    (nodeId base : String) : Prop :=
  ∀ a, Relation.TransGen plan.DependsOn nodeId a → writes plan.nodes a = true →
    ∃ head, (s.nodes a).status = .succeeded ∧ (s.nodes a).headCommit = some head ∧
      Relation.ReflTransGen parent base head

/-- **Recorded nodes.** The dependencies of a node that succeeded have succeeded, and its head, which
the evidence has too, descends from theirs. -/
structure Recorded (plan : PlanRequest) (parent : String → String → Prop) (s : FoldState)
    (successfulHeads : List (String × String)) : Prop where
  nodeId : ∀ k, (s.nodes k).nodeId = k
  closed : ∀ k, (s.nodes k).status = .succeeded → ∀ d, plan.DependsOn k d →
    (s.nodes d).status = .succeeded
  head : ∀ k, (s.nodes k).status = .succeeded → ∃ head, (s.nodes k).headCommit = some head ∧
    successfulHeads.lookup k = some head ∧ Based plan parent s k head

/-- **Traced leases.** The specification of the active lease is in the evidence, and its base descends
from the heads of the writers that the node depends on. -/
def TracedLease (plan : PlanRequest) (parent : String → String → Prop) (s : FoldState)
    (v : Evidence) (lease : ActiveLease) : Prop :=
  (s.nodes lease.nodeId).status ≠ .succeeded ∧
    (∀ d, plan.DependsOn lease.nodeId d → (s.nodes d).status = .succeeded) ∧
    ∃ spec, v.specifications.lookup lease.leaseDigest = some spec ∧
      spec.lease.nodeId = lease.nodeId ∧ Based plan parent s lease.nodeId spec.baseCommit

/-- The invariant of an accepted stream and its evidence. -/
structure Traced (plan : PlanRequest) (parent : String → String → Prop) (s : FoldState)
    (v : Evidence) : Prop where
  recorded : Recorded plan parent s v.successfulHeads
  active : ∀ lease, s.active = some lease → TracedLease plan parent s v lease

/-- The claim carries a specification whose base descends from the heads of the writers that the
claimed node depends on. -/
def ClaimBased (plan : PlanRequest) (parent : String → String → Prop) (s : FoldState)
    (e : EventEnvelope) : Prop :=
  ∃ (nodeId base : String) (spec : Mapping), e.payload.get "node_id" = .str nodeId ∧
    e.payload.get "worktree_spec" = .object spec ∧ spec.get "base_commit" = .str base ∧
    Based plan parent s nodeId base

/-! ### What an event leaves as it is -/

/-- Nodes that have succeeded stay as they are, as far as it matters here. -/
def Keeps (s s' : FoldState) : Prop :=
  ∀ k, (s.nodes k).status = .succeeded →
    (s'.nodes k).status = .succeeded ∧ (s'.nodes k).headCommit = (s.nodes k).headCommit

/-- No node succeeds, and the recorded heads and the identities of the nodes stay as they are. -/
structure Settled (s s' : FoldState) : Prop where
  status : ∀ k, (s'.nodes k).status = .succeeded ↔ (s.nodes k).status = .succeeded
  heads : SameHeads s s'
  nodeId : ∀ k, (s'.nodes k).nodeId = (s.nodes k).nodeId

section

variable {H : Host} {fs : FileSystem} {repositoryRoot isolationRoot runId : String}
  {plan : PlanRequest} {parent : String → String → Prop} {s s' : FoldState} {v w : Evidence}
  {e : EventEnvelope} {nodeId base : String} {successfulHeads : List (String × String)}

theorem Settled.keeps (h : Settled s s') : Keeps s s' :=
  fun k hk ↦ ⟨(h.status k).mpr hk, h.heads k⟩

theorem Based.mono (h : Based plan parent s nodeId base) (hkeeps : Keeps s s') :
    Based plan parent s' nodeId base := by
  intro a ha hwrites
  obtain ⟨head, hstatus, hhead, hdescends⟩ := h a ha hwrites
  obtain ⟨hstatus', hhead'⟩ := hkeeps a hstatus
  exact ⟨head, hstatus', hhead'.trans hhead, hdescends⟩

theorem ClaimBased.mono (h : ClaimBased plan parent s e) (hkeeps : Keeps s s') :
    ClaimBased plan parent s' e := by
  obtain ⟨nodeId, base, spec, hnode, hspec, hbase, hbased⟩ := h
  exact ⟨nodeId, base, spec, hnode, hspec, hbase, hbased.mono hkeeps⟩

theorem Recorded.settled (h : Recorded plan parent s successfulHeads) (hs : Settled s s') :
    Recorded plan parent s' successfulHeads where
  nodeId k := (hs.nodeId k).trans (h.nodeId k)
  closed k hk d hd := (hs.status d).mpr (h.closed k ((hs.status k).mp hk) d hd)
  head k hk := by
    obtain ⟨head, hhead, hlookup, hbased⟩ := h.head k ((hs.status k).mp hk)
    exact ⟨head, (hs.heads k).trans hhead, hlookup, hbased.mono hs.keeps⟩

/-- All nodes that a node depends on have succeeded, if its dependencies have. -/
theorem Recorded.ancestors (h : Recorded plan parent s successfulHeads)
    (hdeps : ∀ d, plan.DependsOn nodeId d → (s.nodes d).status = .succeeded) {a : String}
    (ha : Relation.TransGen plan.DependsOn nodeId a) : (s.nodes a).status = .succeeded := by
  induction ha with
  | single ha => exact hdeps _ ha
  | tail _ hb ih => exact h.closed _ ih _ hb

/-- Replacing the state of a node by one that has succeeded exactly if it had, with the same head,
settles. -/
theorem settled_of_nodes {k : String} {node : NodeLifecycleState} (hheads : SameHeads s s')
    (hnodes : s'.nodes = (s.setNode k node).nodes)
    (hstatus : node.status = .succeeded ↔ (s.nodes k).status = .succeeded)
    (hnodeId : node.nodeId = (s.nodes k).nodeId) : Settled s s' where
  heads := hheads
  status j := by
    rw [hnodes, FoldState.setNode_nodes]
    split
    · rename_i hj
      rwa [hj]
    · rfl
  nodeId j := by
    rw [hnodes, FoldState.setNode_nodes]
    split
    · rename_i hj
      rwa [hj]
    · rfl

theorem settled_of_eq (hnodes : s'.nodes = s.nodes) : Settled s s' where
  heads k := by rw [hnodes]
  status k := by rw [hnodes]
  nodeId k := by rw [hnodes]

/-- An event that is neither a claim nor a success settles, and leaves at most the active lease. -/
theorem settled_of_transition {deps : NodeDependencies} (h : Transition H deps s e s')
    (hheads : SameHeads s s') (hclaim : runEventType? e ≠ some .nodeClaimed)
    (hsuccess : runEventType? e ≠ some .nodeSucceeded)
    (hactive : ∀ lease, s.active = some lease → (s.nodes lease.nodeId).status ≠ .succeeded) :
    Settled s s' ∧ ∀ lease', s'.active = some lease' → ∃ lease, s.active = some lease ∧
      lease'.nodeId = lease.nodeId ∧ lease'.leaseDigest = lease.leaseDigest := by
  have hsame : ∀ lease', s.active = some lease' → ∃ lease, s.active = some lease ∧
      lease'.nodeId = lease.nodeId ∧ lease'.leaseDigest = lease.leaseDigest :=
    fun lease' h ↦ ⟨lease', h, rfl, rfl⟩
  cases h with
  | pass => exact ⟨settled_of_eq rfl, hsame⟩
  | claim lease hkind => exact absurd hkind hclaim
  | prepare lease _ _ hlease =>
    refine ⟨settled_of_nodes hheads rfl (by simpa using hactive lease hlease) rfl, ?_⟩
    rintro lease' ⟨⟩
    exact ⟨lease, hlease, rfl, rfl⟩
  | dispatch lease _ _ _ _ hlease =>
    refine ⟨settled_of_eq rfl, ?_⟩
    rintro lease' ⟨⟩
    exact ⟨lease, hlease, rfl, rfl⟩
  | requestCancel => exact ⟨settled_of_eq rfl, hsame⟩
  | release kind status lease state hkind hrelease _ hlease _ _ _ _ _ _ hnodeId =>
    have hne : state.status ≠ .succeeded := by
      intro hstatus
      cases kind <;> simp_all [RunEventType.release?]
    exact ⟨settled_of_nodes hheads rfl (iff_of_false hne (hactive lease hlease)) hnodeId,
      fun lease' h ↦ by cases h⟩
  | cleanup kind k state _ _ hnone hsucceeded hstatus hnodeId =>
    exact ⟨settled_of_nodes hheads rfl (iff_of_true hstatus hsucceeded) hnodeId, hsame⟩
  | close => exact ⟨settled_of_eq rfl, hsame⟩

/-! ### Steps -/

/-- The type of a public event. -/
theorem eventType_of_kind {kind : RunEventType} (h : runEventType? e = some kind) :
    e.eventType = StrEnum.value kind := by
  rw [runEventType?] at h
  split at h
  · exact (StrEnum.ofValue?_eq_some.mp h).symm
  · cases h

/-- The public events and those of the generated execution have different types. -/
theorem value_ne_value (kind : RunEventType) (type : ExecutionEventType) :
    StrEnum.value kind ≠ StrEnum.value type := by
  have hall : ∀ kind ∈ (StrEnum.members : List RunEventType),
      ∀ type ∈ (StrEnum.members : List ExecutionEventType),
        StrEnum.value kind ≠ StrEnum.value type := by decide +kernel
  exact hall kind (StrEnum.mem_members kind) type (StrEnum.mem_members type)

/-- An event of a known type with the type of a public event is a public event. -/
theorem kind_of_eventType (hknown : isKnown e = true) {kind : RunEventType}
    (h : e.eventType = StrEnum.value kind) : runEventType? e = some kind := by
  rcases Bool.or_eq_true_iff.mp hknown with hpublic | hexecution
  · obtain ⟨kind', hkind'⟩ := Option.isSome_iff_exists.mp hpublic
    have htype := eventType_of_kind hkind'
    rw [hkind', StrEnum.value_injective (htype.symm.trans h)]
  · simp only [isExecution, Bool.and_eq_true] at hexecution
    obtain ⟨type, htype⟩ := Option.isSome_iff_exists.mp hexecution.2
    exact absurd (h.symm.trans (StrEnum.ofValue?_eq_some.mp htype).symm) (value_ne_value kind type)

/-- **Step, other events.** They keep the invariant. -/
theorem Traced.other (h : Traced plan parent s v)
    (hs : observe H runId (nodeDependencies plan) s e = .ok s')
    (hclaim : runEventType? e ≠ some .nodeClaimed)
    (hsuccess : runEventType? e ≠ some .nodeSucceeded) : Traced plan parent s' v ∧ Keeps s s' := by
  obtain ⟨hsettled, hleases⟩ := settled_of_transition (transition_of_observe hs)
    (head_of_observe hsuccess hs) hclaim hsuccess (fun lease hlease ↦ (h.active lease hlease).1)
  refine ⟨⟨h.recorded.settled hsettled, fun lease' hlease' ↦ ?_⟩, hsettled.keeps⟩
  obtain ⟨lease, hlease, hnode, hdigest⟩ := hleases lease' hlease'
  obtain ⟨hstatus, hdeps, spec, hspec, hspecNode, hbased⟩ := h.active lease hlease
  refine ⟨?_, fun d hd ↦ ?_, spec, hdigest ▸ hspec, hnode ▸ hspecNode, hnode ▸
    hbased.mono hsettled.keeps⟩
  · rwa [hnode, ne_eq, hsettled.status]
  · exact (hsettled.status d).mpr (hdeps d (hnode ▸ hd))

/-- The base of a node whose dependencies have succeeded descends from the heads of its writers. -/
theorem Recorded.based (h : Recorded plan parent s successfulHeads)
    (hdeps : ∀ d, plan.DependsOn nodeId d → (s.nodes d).status = .succeeded)
    (hbase : nodeBaseCommit H plan nodeId successfulHeads = .ok base) :
    Based plan parent s nodeId base := by
  intro a ha hwrites
  obtain ⟨w, hw, haw, hlookup⟩ := of_nodeBaseCommit hbase ha hwrites
  obtain ⟨head, hhead, hrecorded, hbased⟩ := h.head w (h.ancestors hdeps hw)
  obtain rfl : head = base := Option.some.inj (hrecorded.symm.trans hlookup)
  rcases haw with rfl | haw
  · exact ⟨head, h.ancestors hdeps ha, hhead, .refl⟩
  · exact hbased a haw hwrites

/-- **Step, claims.** A claim opens a traced lease. -/
theorem Traced.claim (h : Traced plan parent s v)
    (hs : observe H runId (nodeDependencies plan) s e = .ok s')
    (hv : evidenceOf H fs repositoryRoot isolationRoot plan v e = .ok w)
    (hkind : runEventType? e = some .nodeClaimed) :
    Traced plan parent s' w ∧ Keeps s s' ∧ ClaimBased plan parent s' e := by
  obtain ⟨lease, raw, document, rfl, ⟨hnode, hdigest⟩, hraw, hdocument, hdocumentNode, hpending,
    hdeps⟩ := document_of_claim hkind hs
  obtain ⟨raw', spec, hraw', hspec, hbase, hdigest', rfl⟩ :=
    evidence_of_claim (eventType_of_kind hkind) hv
  obtain rfl : raw = raw' := JsonValue.object.inj (hraw.symm.trans hraw')
  obtain ⟨hcommit, document', hdocument', hspecNode⟩ := of_specFromMapping hspec
  obtain rfl : document = document' := JsonValue.object.inj (hdocument.symm.trans hdocument')
  have hnodeId : spec.lease.nodeId = lease.nodeId :=
    JsonValue.str.inj (hspecNode.symm.trans hdocumentNode)
  have hleaseDigest : spec.lease.digest H = lease.leaseDigest :=
    JsonValue.str.inj (hdigest'.symm.trans hdigest)
  have hdepends : ∀ d, plan.DependsOn lease.nodeId d → (s.nodes d).status = .succeeded :=
    fun d hd ↦ hdeps d (by rwa [nodeDependencies_of])
  have hsettled : Settled s (s.claim lease) := settled_of_nodes
    (sameHeads_of_nodes rfl rfl) rfl (by simp [hpending]) rfl
  have hbased : Based plan parent (s.claim lease) lease.nodeId spec.baseCommit :=
    (h.recorded.based hdepends (hnodeId ▸ hbase)).mono hsettled.keeps
  refine ⟨⟨h.recorded.settled hsettled, ?_⟩, hsettled.keeps,
    lease.nodeId, spec.baseCommit, raw, hnode, hraw, hcommit, hbased⟩
  rintro lease' ⟨⟩
  refine ⟨by rw [ne_eq, hsettled.status, hpending]; decide,
    fun d hd ↦ (hsettled.status d).mpr (hdepends d hd), spec, ?_, hnodeId, hbased⟩
  simp [hleaseDigest]

/-- **Step, success.** The head of a node that succeeds descends from the base of its lease. -/
theorem Traced.success (h : Traced plan parent s v) (hhonest : HonestInspections parent [e])
    (hs : observe H runId (nodeDependencies plan) s e = .ok s')
    (hv : evidenceOf H fs repositoryRoot isolationRoot plan v e = .ok w)
    (hkind : runEventType? e = some .nodeSucceeded) : Traced plan parent s' w ∧ Keeps s s' := by
  have htype := eventType_of_kind hkind
  obtain ⟨lease, raw, head, hactive, hraw, hlease, hhead, hnone, hstatus, hheadCommit, hnodeId,
    hothers⟩ := head_of_success hkind hs
  obtain ⟨hopen, hdeps, spec, hspec, hspecNode, hbased⟩ := h.active lease hactive
  obtain ⟨inspection, spec', hinspection, hspec', hbase, rfl⟩ := evidence_of_success htype hraw hv
  obtain ⟨hinspected, -, hreported⟩ := of_inspectionFromMapping hinspection
  have hdigest : inspection.leaseDigest = lease.leaseDigest :=
    JsonValue.str.inj (hinspected.symm.trans hlease)
  obtain rfl : spec = spec' := Option.some.inj (hspec.symm.trans (hdigest ▸ hspec'))
  obtain rfl : inspection.headCommit = head := JsonValue.str.inj (hreported.symm.trans hhead)
  have hkeeps : Keeps s s' := by
    intro k hk
    have hne : k ≠ lease.nodeId := fun heq ↦ hopen (heq ▸ hk)
    rw [hothers k hne]
    exact ⟨hk, rfl⟩
  have hdescends : Based plan parent s' lease.nodeId inspection.headCommit := by
    intro a ha hwrites
    obtain ⟨head, hsucceeded, hcommit, hfrom⟩ := hbased.mono hkeeps a ha hwrites
    refine ⟨head, hsucceeded, hcommit, .trans ?_ (hbase ▸ hfrom)⟩
    exact hhonest e (List.mem_singleton_self e) htype raw inspection hraw hinspection
  refine ⟨⟨⟨fun k ↦ ?_, fun k hk d hd ↦ ?_, fun k hk ↦ ?_⟩, ?_⟩, hkeeps⟩
  · by_cases hne : k = lease.nodeId
    · rw [hne, hnodeId, h.recorded.nodeId]
    · rw [hothers k hne, h.recorded.nodeId]
  · by_cases hne : k = lease.nodeId
    · exact (hkeeps d (hdeps d (hne ▸ hd))).1
    · exact (hkeeps d (h.recorded.closed k (hothers k hne ▸ hk) d hd)).1
  · by_cases hne : k = lease.nodeId
    · subst hne
      exact ⟨_, hheadCommit, by simp [hspecNode], hdescends⟩
    · obtain ⟨head, hcommit, hlookup, hbased'⟩ := h.recorded.head k (hothers k hne ▸ hk)
      refine ⟨head, by rw [hothers k hne, hcommit], ?_, hbased'.mono hkeeps⟩
      have hne' : (k == spec.lease.nodeId) = false := by simpa [hspecNode] using hne
      simp [List.lookup_cons, hne', hlookup]
  · intro lease' hlease'
    rw [hnone] at hlease'
    cases hlease'

/-- **Step.** Every accepted event keeps the invariant, and a claim is based. -/
theorem Traced.step (h : Traced plan parent s v) (hknown : isKnown e = true)
    (hhonest : HonestInspections parent [e])
    (hs : observe H runId (nodeDependencies plan) s e = .ok s')
    (hv : evidenceOf H fs repositoryRoot isolationRoot plan v e = .ok w) :
    Traced plan parent s' w ∧ Keeps s s' ∧
      (runEventType? e = some .nodeClaimed → ClaimBased plan parent s' e) := by
  by_cases hclaim : runEventType? e = some .nodeClaimed
  · obtain ⟨htraced, hkeeps, hbased⟩ := h.claim hs hv hclaim
    exact ⟨htraced, hkeeps, fun _ ↦ hbased⟩
  · by_cases hsuccess : runEventType? e = some .nodeSucceeded
    · obtain ⟨htraced, hkeeps⟩ := h.success hhonest hs hv hsuccess
      exact ⟨htraced, hkeeps, fun h ↦ absurd h hclaim⟩
    · have hother := evidence_of_other
        (fun htype ↦ hclaim (kind_of_eventType hknown htype))
        (fun htype ↦ hsuccess (kind_of_eventType hknown htype)) hv
      obtain ⟨htraced, hkeeps⟩ := h.other hs hclaim hsuccess
      exact ⟨hother ▸ htraced, hkeeps, fun h ↦ absurd h hclaim⟩

/-- Before the first event of a run nothing has succeeded, and no lease is active. -/
theorem Traced.initial : Traced plan parent .initial v where
  recorded :=
    { nodeId := fun k ↦ rfl
      closed := fun k hk ↦ by cases hk
      head := fun k hk ↦ by cases hk }
  active lease hlease := by cases hlease

theorem HonestInspections.append {es : List EventEnvelope}
    (h : HonestInspections parent (es ++ [e])) :
    HonestInspections parent es ∧ HonestInspections parent [e] :=
  ⟨fun a ha ↦ h a (List.mem_append_left _ ha), fun a ha ↦ h a (List.mem_append_right _ ha)⟩

/-- At the end of an accepted stream all its claims are based. -/
theorem based_of_run {events : List EventEnvelope} {state : RunLifecycleState}
    (h : foldRunLifecycle H runId (nodeDependencies plan) events = .ok state)
    (hv : validateWorktreeEvidence H fs repositoryRoot isolationRoot plan events = .ok v)
    (hhonest : HonestInspections parent events) :
    ∃ s, state.nodes = (nodeDependencies plan).known.map s.nodes ∧ Traced plan parent s v ∧
      ∀ e ∈ events, runEventType? e = some .nodeClaimed → ClaimBased plan parent s e := by
  obtain ⟨s, hI, -, hfolds⟩ := observed_end
    (fun es s ↦ (∀ e ∈ es, isKnown e = true) → HonestInspections parent es →
      ∀ v, validateWorktreeEvidence H fs repositoryRoot isolationRoot plan es = .ok v →
        Traced plan parent s v ∧
          ∀ e ∈ es, runEventType? e = some .nodeClaimed → ClaimBased plan parent s e)
    (fun es hquiet _ _ v _ ↦ ⟨.initial, fun e he hkind ↦ by
      rcases hquiet e he with hnone | hqueued
      · simp [hkind] at hnone
      · simp [hkind] at hqueued⟩)
    (fun es e s s' hI hs hknown hhonest w hw ↦ by
      obtain ⟨v, hv, hstep⟩ := History.run_append_eq_ok.mp hw
      simp only [History.run_cons, History.run_nil, Checked.bind_eq_ok, Except.ok.injEq,
        exists_eq_right] at hstep
      obtain ⟨htraced, hclaims⟩ := hI (fun a ha ↦ hknown a (List.mem_append_left _ ha))
        hhonest.append.1 v hv
      obtain ⟨htraced', hkeeps, hclaim⟩ := htraced.step (hknown e (by simp)) hhonest.append.2 hs hstep
      refine ⟨htraced', fun a ha hkind ↦ ?_⟩
      rcases List.mem_append.mp ha with ha | ha
      · exact (hclaims a ha hkind).mono hkeeps
      · obtain rfl := List.mem_singleton.mp ha
        exact hclaim hkind) h
  obtain ⟨htraced, hclaims⟩ := hI (fun e he ↦ (event_of_foldRunLifecycle h e he).2) hhonest v hv
  exact ⟨s, hfolds.nodes, htraced, hclaims⟩

/-- **No lost writes.** In a run that can be loaded, and whose inspections are honest, the base commit
of every claimed node descends from the recorded head of every node with paths to write that it depends
on, in one or more steps. -/
theorem claimed_base_descends {events : List EventEnvelope} {loaded : LoadedRun}
    (h : loadRun H fs repositoryRoot isolationRoot plan runId events = .ok loaded)
    (hhonest : HonestInspections parent events) :
    ∀ e ∈ events, runEventType? e = some .nodeClaimed →
      ∃ (nodeId base : String) (spec : Mapping), e.payload.get "node_id" = .str nodeId ∧
        e.payload.get "worktree_spec" = .object spec ∧ spec.get "base_commit" = .str base ∧
        ∀ ancestor ∈ plan.nodes, Relation.TransGen plan.DependsOn nodeId ancestor.nodeId →
          ancestor.allowedPaths ≠ [] →
          ∃ node ∈ loaded.state.nodes, node.nodeId = ancestor.nodeId ∧
            ∃ head, node.headCommit = some head ∧ Relation.ReflTransGen parent base head := by
  simp only [loadRun, Checked.bind_eq_ok, Checked.mapError_eq_ok, Checked.pure_eq_ok] at h
  obtain ⟨_, -, _, -, state, hfold, _, -, v, hv, rfl⟩ := h
  obtain ⟨s, hnodes, htraced, hclaims⟩ := based_of_run hfold hv hhonest
  intro e he hkind
  obtain ⟨nodeId, base, spec, hnode, hspec, hbase, hbased⟩ := hclaims e he hkind
  refine ⟨nodeId, base, spec, hnode, hspec, hbase, fun ancestor hancestor hdepends hpaths ↦ ?_⟩
  have hwrites : writes plan.nodes ancestor.nodeId = true := by
    rw [writes, PlanRequest.byId_of_mem hancestor]
    exact PlanNode.isWriter_iff.mpr hpaths
  obtain ⟨head, -, hhead, hdescends⟩ := hbased ancestor.nodeId hdepends hwrites
  refine ⟨s.nodes ancestor.nodeId, ?_, htraced.recorded.nodeId _, head, hhead, hdescends⟩
  have hknown : ancestor.nodeId ∈ (nodeDependencies plan).known := by
    rw [NodeDependencies.mem_known]
    simpa [nodeDependencies] using ⟨ancestor, hancestor, rfl⟩
  rw [hnodes]
  exact List.mem_map_of_mem hknown

end

/-! ### A sample run

The run of two nodes, loaded with a plan of these nodes. -/

namespace Sample

/-- A budget of a node that may change two files. -/
def budget : NodeBudget where
  maxInputTokens := 1000
  maxOutputTokens := 1000
  timeoutSeconds := 60
  maxCostMicrousd := 0
  maxChangedFiles := 2
  tokens := by decide
  timeout := by decide
  cost := by decide
  files := by decide

/-- A check of a node. -/
def acceptance : AcceptanceCheck where
  checkId := "unit"
  argv := ["pytest"]
  expectedExitCode := 0
  valid := by decide +kernel

/-- The node on which the other one depends. -/
def buildNode : PlanNode where
  nodeId := "build"
  objective := "build it"
  dependsOn := []
  budget := budget
  effects := [.repositoryRead, .repositoryWrite, .process]
  allowedPaths := ["src"]
  checks := [acceptance]
  identifier := by decide +kernel
  isObjective := by decide +kernel
  dependencies := by decide +kernel
  validEffects := by decide +kernel
  validChecks := by decide +kernel

/-- The node that depends on the other one. -/
def checkNode : PlanNode where
  nodeId := "check"
  objective := "check it"
  dependsOn := ["build"]
  budget := budget
  effects := [.repositoryRead, .repositoryWrite, .process]
  allowedPaths := ["src"]
  checks := [acceptance]
  identifier := by decide +kernel
  isObjective := by decide +kernel
  dependencies := by decide +kernel
  validEffects := by decide +kernel
  validChecks := by decide +kernel

/-- The plan of the two nodes. -/
def plan : PlanRequest where
  planId := "plan-1"
  projectId := "project-1"
  intentId := "intent-1"
  baseCommit := RunLifecycle.Sample.build.baseCommit
  allowedEffects := [.repositoryRead, .repositoryWrite, .process]
  nodes := [buildNode, checkNode]
  idempotencyKey := "accept-1"
  generated := false
  identifiers := by decide +kernel
  isBase := by decide +kernel
  effects := by decide
  validNodes := ⟨by decide, by decide, by decide +kernel, by decide +kernel, by rfl⟩

/-- A file system in which both roots are directories. -/
def fileSystem : FileSystem where
  isSymlink _ := false
  resolve path := some path
  isDir _ := true
  exists? _ := true
  isOwnerDirectory _ := true

theorem loads : ∃ loaded, loadRun RunLifecycle.Sample.host fileSystem "/repository" "/isolation" plan
    "run-1" RunLifecycle.Sample.started = .ok loaded := by
  have h : (loadRun RunLifecycle.Sample.host fileSystem "/repository" "/isolation" plan "run-1"
      RunLifecycle.Sample.started).isOk = true := by decide +kernel
  exact Checked.exists_of_isOk h

/-- The head of the first node is a child of its base. -/
def parent (commit parent : String) : Prop :=
  commit = RunLifecycle.Sample.build.headCommit ∧ parent = RunLifecycle.Sample.build.baseCommit

theorem honest : HonestInspections parent RunLifecycle.Sample.started := by
  have hall : ∀ e ∈ RunLifecycle.Sample.started,
      e.eventType = StrEnum.value RunEventType.nodeSucceeded →
        e.payload.get "inspection" = .object RunLifecycle.Sample.build.finished := by
    decide +kernel
  have hbase : Mapping.get RunLifecycle.Sample.build.finished "base_commit" =
      .str RunLifecycle.Sample.build.baseCommit := by decide +kernel
  have hhead : Mapping.get RunLifecycle.Sample.build.finished "head_commit" =
      .str RunLifecycle.Sample.build.headCommit := by decide +kernel
  intro e he htype raw inspection hraw hinspection
  obtain rfl : raw = RunLifecycle.Sample.build.finished :=
    JsonValue.object.inj (hraw.symm.trans (hall e he htype))
  obtain ⟨-, hbase', hhead'⟩ := of_inspectionFromMapping hinspection
  exact .single ⟨JsonValue.str.inj (hhead'.symm.trans hhead),
    JsonValue.str.inj (hbase'.symm.trans hbase)⟩

end Sample

/-- No write is lost in the sample run: the second node is claimed on the head of the first one. -/
theorem claimed_base_descends_sample : ∃ loaded,
    loadRun RunLifecycle.Sample.host Sample.fileSystem "/repository" "/isolation" Sample.plan "run-1"
      RunLifecycle.Sample.started = .ok loaded ∧
    ∀ e ∈ RunLifecycle.Sample.started, runEventType? e = some .nodeClaimed →
      ∃ (nodeId base : String) (spec : Mapping), e.payload.get "node_id" = .str nodeId ∧
        e.payload.get "worktree_spec" = .object spec ∧ spec.get "base_commit" = .str base ∧
        ∀ ancestor ∈ Sample.plan.nodes,
          Relation.TransGen Sample.plan.DependsOn nodeId ancestor.nodeId →
          ancestor.allowedPaths ≠ [] →
          ∃ node ∈ loaded.state.nodes, node.nodeId = ancestor.nodeId ∧
            ∃ head, node.headCommit = some head ∧
              Relation.ReflTransGen Sample.parent base head := by
  obtain ⟨loaded, hload⟩ := Sample.loads
  exact ⟨loaded, hload, claimed_base_descends hload Sample.honest⟩

end Blackcell.Bootstrap
