import Blackcell.Foundation.Topological
import Blackcell.Interfaces.Contracts

/-!
# The graphs of declared plans

The checks of `PlanRequest` on the graph of its nodes: every dependency exists, the search of
`plan_topological_order` takes every node, and each writing node of the order has the one before it
among its ancestors. Together they admit exactly the acyclic graphs in which any two writing nodes are
comparable.

## Main definitions

* `NodeDependsOn`, `NodeWrites` : the graph of the nodes.

## Main results

* `planTopologicalOrder_eq_ok_iff` : the order exists exactly if the graph is closed and acyclic.
* `checkOrder_eq_ok_iff` : the checks admit exactly the intended graphs.
* `PlanRequest.validNodes_iff`, `PlanRequest.order_perm`, `PlanRequest.before_of_mem_dependsOn` : the
  nodes that a plan may have, and its order.
-/

namespace Blackcell.Interfaces.Http

open Relation

/-- A node of the list names another one as a dependency. -/
def NodeDependsOn (nodes : List PlanNode) (a b : String) : Prop :=
  ∃ node ∈ nodes, node.nodeId = a ∧ b ∈ node.dependsOn

/-- A node of the list has paths to write to. -/
def NodeWrites (nodes : List PlanNode) (a : String) : Prop :=
  ∃ node ∈ nodes, node.nodeId = a ∧ node.allowedPaths ≠ []

section Graph

variable {nodes : List PlanNode}

theorem byId_eq_some_iff (hnodup : (nodes.map (·.nodeId)).Nodup) {nodeId : String} {node : PlanNode} :
    byId nodes nodeId = some node ↔ node ∈ nodes ∧ node.nodeId = nodeId := by
  constructor
  · exact fun h ↦ ⟨List.mem_of_find?_eq_some h, by simpa using List.find?_some h⟩
  · rintro ⟨hnode, rfl⟩
    obtain ⟨found, hfound⟩ := Option.isSome_iff_exists.mp
      (List.find?_isSome.mpr ⟨node, hnode, decide_eq_true rfl⟩ :
        (nodes.find? fun x ↦ x.nodeId = node.nodeId).isSome)
    have hid : found.nodeId = node.nodeId := by simpa using List.find?_some hfound
    rw [byId, hfound,
      List.inj_on_of_nodup_map hnodup (List.mem_of_find?_eq_some hfound) hnode hid]

theorem mem_dependenciesOf (hnodup : (nodes.map (·.nodeId)).Nodup) {a b : String} :
    b ∈ dependenciesOf nodes a ↔ NodeDependsOn nodes a b := by
  unfold dependenciesOf NodeDependsOn
  constructor
  · intro h
    cases hnode : byId nodes a with
    | none => simp [hnode] at h
    | some node =>
      obtain ⟨hmem, hid⟩ := (byId_eq_some_iff hnodup).mp hnode
      exact ⟨node, hmem, hid, by simpa [hnode] using h⟩
  · rintro ⟨node, hmem, hid, hb⟩
    simpa [(byId_eq_some_iff hnodup).mpr ⟨hmem, hid⟩] using hb

theorem needs_eq (hnodup : (nodes.map (·.nodeId)).Nodup) :
    Needs (dependenciesOf nodes) = NodeDependsOn nodes := by
  ext a b
  exact mem_dependenciesOf hnodup

theorem writes_iff (hnodup : (nodes.map (·.nodeId)).Nodup) {a : String} :
    writes nodes a = true ↔ NodeWrites nodes a := by
  simp only [writes, NodeWrites, Option.any_eq_true, byId_eq_some_iff hnodup,
    PlanNode.isWriter_iff, and_assoc]

theorem nodup_dependenciesOf {a : String} : (dependenciesOf nodes a).Nodup := by
  unfold dependenciesOf
  cases byId nodes a with
  | none => exact List.nodup_nil
  | some node => exact node.dependencies.2.2.1

/-- **The order.** The nodes have an order exactly if their dependencies exist and none depends on
itself, in one or more steps. -/
theorem planTopologicalOrder_eq_ok_iff (hnodup : (nodes.map (·.nodeId)).Nodup)
    {order : List String} : planTopologicalOrder nodes = .ok order ↔
      ((∀ a b, NodeDependsOn nodes a b → b ∈ nodes.map (·.nodeId)) ∧
        IsAcyclic (NodeDependsOn nodes)) ∧
      Kahn.order (nodes.map (·.nodeId)) (dependenciesOf nodes) = order := by
  have hdeps : ∀ b ∈ nodes.map (·.nodeId), (dependenciesOf nodes b).Nodup := fun b _ ↦
    nodup_dependenciesOf
  simp only [planTopologicalOrder, Checked.bind_eq_ok, check_eq_ok, Checked.exists_unit,
    Checked.pure_eq_ok, ← needs_eq hnodup]
  constructor
  · rintro ⟨hclosed, hlength, rfl⟩
    have hclosed' : ∀ a b, b ∈ dependenciesOf nodes a → b ∈ nodes.map (·.nodeId) := by
      intro a b hb
      obtain ⟨node, hnode, -, hb⟩ := (mem_dependenciesOf hnodup).mp hb
      exact hclosed node hnode b hb
    refine ⟨⟨hclosed', ?_⟩, rfl⟩
    refine (Kahn.isTopological_order hnodup hdeps).isAcyclic (Kahn.nodup_order hnodup hdeps)
      fun a ha ↦ Kahn.mem_order_of_length hnodup hdeps (by rw [hlength, List.length_map]) ?_
    obtain ⟨b, hb⟩ := List.exists_mem_of_ne_nil _ ha
    obtain ⟨node, hnode, rfl, -⟩ := (mem_dependenciesOf hnodup).mp hb
    exact List.mem_map_of_mem hnode
  · rintro ⟨⟨hclosed, hacyclic⟩, rfl⟩
    refine ⟨fun node hnode d hd ↦ hclosed node.nodeId d
      ((mem_dependenciesOf hnodup).mpr ⟨node, hnode, rfl, hd⟩), ?_, rfl⟩
    have hall := Kahn.mem_order hnodup hdeps (fun b _ d hd ↦ hclosed b d hd) hacyclic
    have hperm : (Kahn.order (nodes.map (·.nodeId)) (dependenciesOf nodes)).Perm
        (nodes.map (·.nodeId)) :=
      (List.perm_ext_iff_of_nodup (Kahn.nodup_order hnodup hdeps) hnodup).mpr fun a ↦
        ⟨Kahn.subset_order hnodup hdeps a, hall a⟩
    rw [hperm.length_eq, List.length_map]

/-- The order is one of all nodes, each after its dependencies. -/
theorem order_spec (hnodup : (nodes.map (·.nodeId)).Nodup) {order : List String}
    (h : planTopologicalOrder nodes = .ok order) :
    order.Perm (nodes.map (·.nodeId)) ∧ IsTopological (dependenciesOf nodes) order := by
  have hdeps : ∀ b ∈ nodes.map (·.nodeId), (dependenciesOf nodes b).Nodup := fun b _ ↦
    nodup_dependenciesOf
  obtain ⟨⟨hclosed, hacyclic⟩, rfl⟩ := (planTopologicalOrder_eq_ok_iff hnodup).mp h
  rw [← needs_eq hnodup] at hclosed hacyclic
  have hall := Kahn.mem_order hnodup hdeps (fun b _ d hd ↦ hclosed b d hd) hacyclic
  exact ⟨(List.perm_ext_iff_of_nodup (Kahn.nodup_order hnodup hdeps) hnodup).mpr fun a ↦
    ⟨Kahn.subset_order hnodup hdeps a, hall a⟩, Kahn.isTopological_order hnodup hdeps⟩

/-! ### Writers -/

/-- The table of an order knows the ancestors of all its nodes. -/
theorem exists_ancestorTable {dependsOn : String → List String} {pre order : List String}
    {table : List (String × List String)} (htable : Ancestors dependsOn table pre)
    (horder : IsTopological dependsOn (pre ++ order)) (hnodup : (pre ++ order).Nodup) :
    ∃ result, ancestorTable dependsOn order table = .ok result ∧
      Ancestors dependsOn result (pre ++ order) := by
  induction order generalizing pre table with
  | nil => exact ⟨table, rfl, by rwa [List.append_nil]⟩
  | cons nodeId order ih =>
    have hknown : ∀ d ∈ dependsOn nodeId, d ∈ pre := horder pre nodeId order rfl
    let inherited := (dependsOn nodeId).map fun d ↦ (table.lookup d).getD []
    have hinherited : ((dependsOn nodeId).mapM fun d ↦
        Checked.ofOption (table.lookup d) WireFailure.keyError) = .ok inherited := by
      rw [Checked.mapM_eq_ok, List.forall₂_map_right_iff, List.forall₂_same]
      intro d hd
      obtain ⟨l, hl, -⟩ := htable d (hknown d hd)
      rw [hl]
      rfl
    have hnew : nodeId ∉ pre := fun hmem ↦
      (List.nodup_append.mp hnodup).2.2 nodeId hmem nodeId List.mem_cons_self rfl
    have hancestors : ∀ b, b ∈ dependsOn nodeId ++ inherited.flatten ↔
        TransGen (Needs dependsOn) nodeId b := by
      intro b
      rw [← htable.mem_iff hknown, List.mem_append, List.mem_flatten]
      refine or_congr_right ⟨?_, ?_⟩
      · rintro ⟨l, hl, hb⟩
        obtain ⟨d, hd, rfl⟩ := List.mem_map.mp hl
        obtain ⟨l, hl, -⟩ := htable d (hknown d hd)
        exact ⟨d, hd, l, hl, by simpa [hl] using hb⟩
      · rintro ⟨d, hd, l, hl, hb⟩
        exact ⟨l, List.mem_map.mpr ⟨d, hd, by rw [hl, Option.getD_some]⟩, hb⟩
    have hextended : Ancestors dependsOn
        ((nodeId, dependsOn nodeId ++ inherited.flatten) :: table) (pre ++ [nodeId]) := by
      refine htable.extend (fun b hb ↦ ?_) (by simp) hancestors
      have hne : (b == nodeId) = false := beq_eq_false_iff_ne.mpr fun h ↦ hnew (h ▸ hb)
      rw [List.lookup_cons, hne]
    rw [show pre ++ nodeId :: order = (pre ++ [nodeId]) ++ order by simp] at horder hnodup ⊢
    obtain ⟨result, hresult, hknows⟩ := ih hextended horder hnodup
    exact ⟨result, by rw [ancestorTable, hinherited]; exact hresult, hknows⟩

/-- The check on the writers compares neighbours. -/
theorem checkWriterChain_eq_ok_iff {dependsOn : String → List String}
    {table : List (String × List String)} {known writers : List String}
    (htable : Ancestors dependsOn table known) (hwriters : ∀ w ∈ writers, w ∈ known) :
    checkWriterChain table writers = .ok ⟨⟩ ↔
      writers.IsChain fun a b ↦ TransGen (Needs dependsOn) b a := by
  induction writers with
  | nil => simp [checkWriterChain]
  | cons previous writers ih =>
    cases writers with
    | nil => simp [checkWriterChain]
    | cons current writers =>
      obtain ⟨l, hl, hmem⟩ := htable current (hwriters current (by simp))
      simp only [checkWriterChain, hl, Checked.ofOption_some, Checked.ok_bind, Checked.bind_eq_ok,
        check_eq_ok, Checked.exists_unit, List.isChain_cons_cons, hmem,
        ih fun w hw ↦ hwriters w (List.mem_cons_of_mem _ hw)]

/-- **Intended graphs.** The checks on the order of the nodes admit exactly the acyclic graphs in
which any two writing nodes are comparable. -/
theorem checkOrder_eq_ok_iff (hnodup : (nodes.map (·.nodeId)).Nodup) :
    checkOrder nodes = .ok ⟨⟩ ↔
      WritersOrdered (NodeDependsOn nodes) (nodes.map (·.nodeId)) (NodeWrites nodes) := by
  have hchain : ∀ {order}, planTopologicalOrder nodes = .ok order →
      ((∃ table, ancestorTable (dependenciesOf nodes) order [] = .ok table ∧
        checkWriterChain table (order.filter (writes nodes)) = .ok ⟨⟩) ↔
      ∀ a ∈ nodes.map (·.nodeId), ∀ b ∈ nodes.map (·.nodeId), NodeWrites nodes a →
        NodeWrites nodes b → a ≠ b →
          TransGen (NodeDependsOn nodes) a b ∨ TransGen (NodeDependsOn nodes) b a) := by
    intro order horder
    obtain ⟨hperm, htopological⟩ := order_spec hnodup horder
    have hdistinct := hperm.nodup_iff.mpr hnodup
    have hnil : Ancestors (dependenciesOf nodes) [] [] := .nil
    obtain ⟨table, htable, hknows⟩ := exists_ancestorTable hnil htopological hdistinct
    have hneighbours : checkWriterChain table (order.filter (writes nodes)) = .ok ⟨⟩ ↔ _ :=
      checkWriterChain_eq_ok_iff hknows fun w hw ↦ (List.mem_filter.mp hw).1
    have hcomparable := htopological.isChain_iff hdistinct (writes nodes)
    rw [needs_eq hnodup] at hneighbours hcomparable
    simp only [htable, Except.ok.injEq, exists_eq_left', hneighbours, hcomparable,
      writes_iff hnodup, hperm.mem_iff]
  simp only [checkOrder, Checked.bind_eq_ok]
  constructor
  · rintro ⟨order, horder, hwriters⟩
    obtain ⟨⟨hclosed, hacyclic⟩, -⟩ := (planTopologicalOrder_eq_ok_iff hnodup).mp horder
    exact ⟨hclosed, hacyclic, (hchain horder).mp hwriters⟩
  · intro h
    have horder := (planTopologicalOrder_eq_ok_iff hnodup).mpr ⟨⟨h.closed, h.acyclic⟩, rfl⟩
    exact ⟨_, horder, (hchain horder).mpr h.comparable⟩

end Graph

namespace PlanRequest

/-- **Plans.** The nodes of a plan are from one to sixty-four, distinct and with allowed effects, and
their graph is an intended one; and any such nodes are the nodes of a plan. -/
theorem validNodes_iff {allowedEffects : List PlanEffect} {nodes : List PlanNode} :
    ValidNodes allowedEffects nodes ↔
      (1 ≤ nodes.length ∧ nodes.length ≤ 64 ∧ (nodes.map (·.nodeId)).Nodup ∧
        ∀ node ∈ nodes, ∀ effect ∈ node.effects, effect ∈ allowedEffects) ∧
      WritersOrdered (NodeDependsOn nodes) (nodes.map (·.nodeId)) (NodeWrites nodes) := by
  constructor
  · rintro ⟨hpositive, hmax, hnodup, heach, horder⟩
    exact ⟨⟨hpositive, hmax, hnodup, fun node hnode ↦ (heach node hnode).2⟩,
      (checkOrder_eq_ok_iff hnodup).mp horder⟩
  · rintro ⟨⟨hpositive, hmax, hnodup, heffects⟩, hgraph⟩
    exact ⟨hpositive, hmax, hnodup, fun node hnode ↦
      ⟨fun d hd ↦ hgraph.closed _ d ⟨node, hnode, rfl, hd⟩, heffects node hnode⟩,
      (checkOrder_eq_ok_iff hnodup).mpr hgraph⟩

variable {p : PlanRequest}

theorem order_perm : p.order.Perm (p.nodes.map (·.nodeId)) :=
  (order_spec p.validNodes.2.2.1 planTopologicalOrder_eq).1

/-- Each node of the order comes after its dependencies. -/
theorem before_of_mem_dependsOn {node : PlanNode} (hnode : node ∈ p.nodes) {pre post : List String}
    (h : p.order = pre ++ node.nodeId :: post) {d : String} (hd : d ∈ node.dependsOn) : d ∈ pre :=
  (order_spec p.validNodes.2.2.1 planTopologicalOrder_eq).2 pre node.nodeId post h d
    ((mem_dependenciesOf p.validNodes.2.2.1).mpr ⟨node, hnode, rfl, hd⟩)

end PlanRequest

end Blackcell.Interfaces.Http
