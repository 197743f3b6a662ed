import Blackcell.Foundation.Worklist
import Blackcell.Interfaces.Contracts
import Blackcell.Orchestration.RunLifecycle.Transition

/-!
# The base commit of a node

`_node_base_commit` of `bootstrap/runtime_service.py`: the head of the last node, in the order of the
plan, that the node depends on in one or more steps and that writes. The writers of a plan are totally
ordered by dependency, so this node depends on all other writers among the ancestors.

## Main definitions

* `ancestorsOf` : the nodes that a node depends on, in one or more steps.
* `nodeBaseCommit` : the base commit of a node.

## Main results

* `mem_ancestorsOf` : the search for ancestors finds them all, and nothing else.
* `of_nodeBaseCommit` : the base is the head of an ancestor that depends on all other writers among
  the ancestors.
-/

namespace Blackcell.Bootstrap

open Blackcell.Kernel Blackcell.Interfaces.Http Blackcell.Orchestration.RunLifecycle

/-- The dependencies of a node, which must be a node of the plan. -/
def dependsOnOf (plan : PlanRequest) (nodeId : String) : Except LifecycleError (List String) := do
  let node ← present (byId plan.nodes nodeId)
  pure node.dependsOn

/-- A bound on the steps of the search: each node adds its dependencies to the pending ones once. -/
def searchSteps (plan : PlanRequest) (nodeId : String) : Nat :=
  (dependenciesOf plan.nodes nodeId).length +
    ((plan.nodes.map (·.nodeId)).map fun k ↦ (dependenciesOf plan.nodes k).length).sum

/-- `ancestors` of `_node_base_commit`. -/
def ancestorsOf (plan : PlanRequest) (nodeId : String) : Except LifecycleError (List String) := do
  let dependsOn ← dependsOnOf plan nodeId
  Worklist.search (dependsOnOf plan) (searchSteps plan nodeId) dependsOn.reverse []

/-- `_node_base_commit`. -/
def nodeBaseCommit (H : Host) (plan : PlanRequest) (nodeId : String)
    (successfulHeads : List (String × String)) : Except LifecycleError String := do
  let ancestors ← ancestorsOf plan nodeId
  let order ← (planTopologicalOrder plan.nodes).mapError fun _ ↦ LifecycleError.invalidRunLifecycle
  match (order.filter fun c ↦ c ∈ ancestors && writes plan.nodes c).getLast? with
  | none => pure plan.baseCommit
  | some writer => do
    let head ← present (successfulHeads.lookup writer)
    commit H (.str head)

variable {H : Host} {p : PlanRequest} {nodeId a base : String} {dependsOn ancestors : List String}
  {heads : List (String × String)}

theorem dependsOnOf_eq_ok (h : dependsOnOf p nodeId = .ok dependsOn) :
    dependenciesOf p.nodes nodeId = dependsOn := by
  simp only [dependsOnOf, Checked.bind_eq_ok, present_eq_ok, Checked.pure_eq_ok] at h
  obtain ⟨node, hnode, rfl⟩ := h
  exact PlanRequest.dependenciesOf_eq hnode

theorem cost_dependsOnOf : Worklist.cost (dependsOnOf p) a = (dependenciesOf p.nodes a).length := by
  cases hnode : byId p.nodes a with
  | none => simp [Worklist.cost, dependsOnOf, present, Checked.ofOption, dependenciesOf, hnode]
  | some node =>
    rw [PlanRequest.dependenciesOf_eq hnode]
    simp [Worklist.cost, dependsOnOf, present, Checked.ofOption, hnode]

/-- **Ancestors.** The search finds the nodes that a node depends on in one or more steps. -/
theorem mem_ancestorsOf (h : ancestorsOf p nodeId = .ok ancestors) :
    a ∈ ancestors ↔ Relation.TransGen p.DependsOn nodeId a := by
  simp only [ancestorsOf, Checked.bind_eq_ok] at h
  obtain ⟨dependsOn, hnode, h⟩ := h
  have hdeps := dependsOnOf_eq_ok hnode
  have hdirect : ∀ b ∈ dependsOn.reverse, p.DependsOn nodeId b := by
    intro b hb
    rw [PlanRequest.DependsOn, hdeps]
    exact List.mem_reverse.mp hb
  constructor
  · refine Worklist.sound (fun b ↦ Relation.TransGen p.DependsOn nodeId b)
      (fun b followers hb hfollowers c hc ↦ hb.tail ?_) (fun b hb ↦ .single (hdirect b hb)) (by simp)
      h a
    rwa [PlanRequest.DependsOn, dependsOnOf_eq_ok hfollowers]
  · have hsteps : dependsOn.reverse.length + ∑ b ∈ (p.nodes.map (·.nodeId)).toFinset \
        ([] : List String).toFinset, Worklist.cost (dependsOnOf p) b ≤ searchSteps p nodeId := by
      simp only [cost_dependsOnOf, List.toFinset_nil, Finset.sdiff_empty]
      rw [List.sum_toFinset _ p.validNodes.2.2.1, searchSteps, hdeps, List.length_reverse]
    obtain ⟨hpending, -, hclosed⟩ := Worklist.complete (fun b _ followers hfollowers c hc ↦ by
      refine List.mem_toFinset.mpr (PlanRequest.DependsOn.mem (a := b) ?_)
      rwa [PlanRequest.DependsOn, dependsOnOf_eq_ok hfollowers])
      (fun b hb ↦ List.mem_toFinset.mpr (hdirect b hb).mem) (by simp) hsteps h
    intro ha
    induction ha with
    | single hb =>
      rw [PlanRequest.DependsOn, hdeps] at hb
      exact hpending _ (List.mem_reverse.mpr hb)
    | tail _ hc ih =>
      obtain ⟨followers, hfollowers, hall⟩ := hclosed _ ih
      rw [PlanRequest.DependsOn, dependsOnOf_eq_ok hfollowers] at hc
      exact hall _ hc

/-- In a list whose later elements are related to the earlier ones, the last one is related to all
others. -/
theorem getLast_of_pairwise {α : Type*} {R : α → α → Prop} {l : List α} {w : α}
    (h : l.Pairwise fun x y ↦ R y x) (hlast : l.getLast? = some w) {x : α} (hx : x ∈ l) :
    x = w ∨ R w x := by
  obtain ⟨front, rfl⟩ := List.getLast?_eq_some_iff.mp hlast
  rcases List.mem_append.mp hx with hx | hx
  · exact .inr ((List.pairwise_append.mp h).2.2 x hx w (List.mem_singleton_self w))
  · exact .inl (List.mem_singleton.mp hx)

/-- **Bases.** If an ancestor of a node writes, then the base of the node is the recorded head of an
ancestor that is this one, or depends on it. -/
theorem of_nodeBaseCommit (h : nodeBaseCommit H p nodeId heads = .ok base)
    (ha : Relation.TransGen p.DependsOn nodeId a) (hwrites : writes p.nodes a = true) :
    ∃ w, Relation.TransGen p.DependsOn nodeId w ∧ (a = w ∨ Relation.TransGen p.DependsOn w a) ∧
      heads.lookup w = some base := by
  simp only [nodeBaseCommit, Checked.bind_eq_ok, PlanRequest.planTopologicalOrder_eq,
    Except.mapError, Except.ok.injEq, exists_eq_left'] at h
  obtain ⟨ancestors, hancestors, h⟩ := h
  have hmem : a ∈ p.order.filter fun c ↦ c ∈ ancestors && writes p.nodes c := by
    have hnode : a ∈ p.nodes.map (·.nodeId) := by
      obtain ⟨b, -, hb⟩ := Relation.TransGen.tail'_iff.mp ha
      exact hb.mem
    simp [PlanRequest.mem_order hnode, (mem_ancestorsOf hancestors).mpr ha, hwrites]
  have hpairwise : (p.order.filter fun c ↦ c ∈ ancestors && writes p.nodes c).Pairwise fun x y ↦
      Relation.TransGen p.DependsOn y x := by
    rw [← List.filter_filter]
    exact PlanRequest.writers_pairwise.sublist List.filter_sublist
  split at h
  · rename_i hnone
    rw [List.getLast?_eq_none_iff.mp hnone] at hmem
    cases hmem
  · rename_i w hlast
    simp only [Checked.bind_eq_ok, present_eq_ok] at h
    obtain ⟨head, hhead, hcommit⟩ := h
    obtain rfl : base = head := JsonValue.str.inj (of_commit hcommit).symm
    have hw := List.mem_of_getLast? hlast
    simp only [List.mem_filter, Bool.and_eq_true, decide_eq_true_eq] at hw
    exact ⟨w, (mem_ancestorsOf hancestors).mp hw.2.1, getLast_of_pairwise hpairwise hlast hmem, hhead⟩

end Blackcell.Bootstrap
