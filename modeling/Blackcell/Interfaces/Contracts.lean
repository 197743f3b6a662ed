import Blackcell.Adapters.Worktree
import Blackcell.Foundation.Kahn
import Mathlib.Data.List.Chain
import Mathlib.Logic.Relation

/-!
# Declared plans

The plan request of `interfaces/http/contracts.py`. A plan is a structure that carries what its
constructor demands: its nodes are distinct, they have a topological order, and of the nodes that
write, each one depends on the one before it in that order. So the writers of a plan are totally
ordered by dependency.

## Main definitions

* `PlanNode`, `PlanRequest` : the validated values.
* `planTopologicalOrder`, `ancestorTable`, `checkWriterChain` : the order, the ancestors of the nodes,
  and the check on the writers.
* `PlanRequest.DependsOn` : a node names another one as a dependency.

## Main results

* `PlanRequest.mem_order` : the order has every node of the plan.
* `PlanRequest.writers_pairwise` : a later writer depends, in one or more steps, on an earlier one.
-/

namespace Blackcell.Interfaces.Http

open Blackcell.Kernel Blackcell.Adapters.Worktree

/-- What the construction of a request raises: `WireContractError`, or the `KeyError` of a lookup. -/
inductive WireFailure where
  | wireContract | keyError
  deriving DecidableEq, Repr

/-- Raise `WireContractError` unless the condition holds. -/
def check (p : Prop) [Decidable p] : Except WireFailure PUnit := Checked.require p .wireContract

@[simp] theorem check_eq_ok {p : Prop} [Decidable p] {u : PUnit} : check p = .ok u ↔ p :=
  Checked.require_eq_ok

/-- `PlanEffect`. -/
inductive PlanEffect where
  | repositoryRead | repositoryWrite | process | network
  deriving DecidableEq, Repr

/-! ### Fields -/

/-- A text that `_identifier` accepts. -/
def isWireIdentifier (s : String) : Bool :=
  s ≠ "" && s.length ≤ 120 &&
    s.toList.all fun c ↦ c.isAlphanum || ['-', '.', '_'].contains c

/-- A character that `_bounded_text` and `_bounded_token` accept. -/
def isTextChar (c : Char) : Bool := c.toNat ≠ 0 && c.toNat ≠ 0x7f

/-- A text that `_bounded_text` accepts. -/
def isBoundedText (maximum : Nat) (s : String) : Bool :=
  !isBlank s && s.length ≤ maximum && s.toList.all isTextChar

/-- A text that `_bounded_token` accepts. -/
def isBoundedToken (s : String) : Bool := s ≠ "" && s.length ≤ 2048 && s.toList.all isTextChar

/-- A text that `is_acceptance_check_id` accepts. -/
def isAcceptanceCheckId (s : String) : Bool :=
  match s.toList with
  | [] => false
  | c :: cs => c.isAlphanum && cs.length ≤ 119 &&
      cs.all fun d ↦ d.isAlphanum || ['.', '_', '-'].contains d

/-- A text that `is_acceptance_executable_alias` accepts. -/
def isAcceptanceExecutableAlias (s : String) : Bool :=
  match s.toList with
  | [] => false
  | c :: cs => c.isAlphanum && cs.length ≤ 63 &&
      cs.all fun d ↦ d.isAlphanum || ['.', '_', '+', '-'].contains d

/-- What the constructor of a check demands. -/
def AcceptanceCheck.Valid (checkId : String) (argv : List String) (expectedExitCode : Nat) : Prop :=
  isAcceptanceCheckId checkId ∧ 1 ≤ argv.length ∧ argv.length ≤ 32 ∧
    (∀ token ∈ argv, isBoundedToken token) ∧ isAcceptanceExecutableAlias (argv.headD "") ∧
    expectedExitCode ≤ 255

instance (checkId : String) (argv : List String) (expectedExitCode : Nat) :
    Decidable (AcceptanceCheck.Valid checkId argv expectedExitCode) :=
  inferInstanceAs (Decidable (_ ∧ _ ∧ _ ∧ _ ∧ _ ∧ _))

/-- `AcceptanceCheck`. -/
structure AcceptanceCheck where
  checkId : String
  argv : List String
  expectedExitCode : Nat
  valid : AcceptanceCheck.Valid checkId argv expectedExitCode

/-- `NodeBudget`. -/
structure NodeBudget where
  maxInputTokens : Nat
  maxOutputTokens : Nat
  timeoutSeconds : Nat
  maxCostMicrousd : Nat
  maxChangedFiles : Nat
  tokens : maxInputTokens ≤ 1000000 ∧ maxOutputTokens ≤ 1000000
  timeout : 1 ≤ timeoutSeconds ∧ timeoutSeconds ≤ 600
  cost : maxCostMicrousd ≤ 10000000000
  files : maxChangedFiles ≤ 10000

/-! ### Nodes -/

/-- What the constructor of a node demands of its dependencies. -/
def PlanNode.ValidDependencies (nodeId : String) (dependsOn : List String) : Prop :=
  dependsOn.length ≤ 64 ∧ (∀ d ∈ dependsOn, isWireIdentifier d) ∧ dependsOn.Nodup ∧
    nodeId ∉ dependsOn

instance (nodeId : String) (dependsOn : List String) :
    Decidable (PlanNode.ValidDependencies nodeId dependsOn) :=
  inferInstanceAs (Decidable (_ ∧ _ ∧ _ ∧ _))

/-- What the constructor of a node demands of its effects and paths: a node has paths exactly if it
writes, and then a budget to write with. -/
def PlanNode.ValidEffects (budget : NodeBudget) (effects : List PlanEffect)
    (allowedPaths : List String) : Prop :=
  effects.length ≤ 4 ∧ effects.Nodup ∧ .repositoryRead ∈ effects ∧ .process ∈ effects ∧
    allowedPaths.length ≤ 64 ∧ allowedPaths.Nodup ∧ (∀ p ∈ allowedPaths, isPolicyPath p) ∧
    (.repositoryWrite ∈ effects → allowedPaths ≠ [] ∧ 1 ≤ budget.maxChangedFiles ∧
      1 ≤ budget.maxInputTokens ∧ 1 ≤ budget.maxOutputTokens) ∧
    (.repositoryWrite ∉ effects → allowedPaths = [] ∧ budget.maxChangedFiles = 0)

instance (budget : NodeBudget) (effects : List PlanEffect) (allowedPaths : List String) :
    Decidable (PlanNode.ValidEffects budget effects allowedPaths) :=
  inferInstanceAs (Decidable (_ ∧ _ ∧ _ ∧ _ ∧ _ ∧ _ ∧ _ ∧ _ ∧ _))

/-- `PlanNode`. -/
structure PlanNode where
  nodeId : String
  objective : String
  dependsOn : List String
  budget : NodeBudget
  effects : List PlanEffect
  allowedPaths : List String
  checks : List AcceptanceCheck
  identifier : isWireIdentifier nodeId
  isObjective : isBoundedText 2000 objective
  dependencies : PlanNode.ValidDependencies nodeId dependsOn
  validEffects : PlanNode.ValidEffects budget effects allowedPaths
  validChecks : 1 ≤ checks.length ∧ checks.length ≤ 64 ∧ (checks.map (·.checkId)).Nodup

/-- The node writes to the repository. -/
def PlanNode.isWriter (node : PlanNode) : Bool := node.effects.contains .repositoryWrite

/-- A node writes exactly if it has paths to write to. -/
theorem PlanNode.isWriter_iff {node : PlanNode} : node.isWriter = true ↔ node.allowedPaths ≠ [] := by
  obtain ⟨-, -, -, -, -, -, -, hwrites, hreads⟩ := node.validEffects
  rw [isWriter, List.contains_iff_mem]
  exact ⟨fun h ↦ (hwrites h).1, fun h ↦ by_contra fun hne ↦ h (hreads hne).1⟩

/-- `by_id`: the node with an identifier. -/
def byId (nodes : List PlanNode) (nodeId : String) : Option PlanNode :=
  nodes.find? fun node ↦ node.nodeId = nodeId

/-- The dependencies of a node, by its identifier. -/
def dependenciesOf (nodes : List PlanNode) (nodeId : String) : List String :=
  ((byId nodes nodeId).map (·.dependsOn)).getD []

/-- The node with an identifier writes. -/
def writes (nodes : List PlanNode) (nodeId : String) : Bool :=
  (byId nodes nodeId).any (·.isWriter)

/-! ### The order of the nodes -/

/-- `plan_topological_order`, of nodes with distinct identifiers. -/
def planTopologicalOrder (nodes : List PlanNode) : Except WireFailure (List String) := do
  check (∀ node ∈ nodes, ∀ d ∈ node.dependsOn, d ∈ nodes.map (·.nodeId))
  let ordered := Kahn.order (nodes.map (·.nodeId)) (dependenciesOf nodes)
  check (ordered.length = nodes.length)
  pure ordered

/-- The ancestors of the nodes of an order: those of a node are its dependencies, and theirs. -/
def ancestorTable (dependsOn : String → List String) :
    List String → List (String × List String) → Except WireFailure (List (String × List String))
  | [], table => .ok table
  | nodeId :: order, table => do
    let inherited ← (dependsOn nodeId).mapM fun d ↦
      Checked.ofOption (table.lookup d) WireFailure.keyError
    ancestorTable dependsOn order ((nodeId, dependsOn nodeId ++ inherited.flatten) :: table)

/-- Each writer has the writer before it among its ancestors. -/
def checkWriterChain (table : List (String × List String)) :
    List String → Except WireFailure PUnit
  | previous :: current :: writers => do
    let ancestors ← Checked.ofOption (table.lookup current) WireFailure.keyError
    check (previous ∈ ancestors)
    checkWriterChain table (current :: writers)
  | _ => .ok ⟨⟩

/-- The checks of a plan that need the order of its nodes. -/
def checkOrder (nodes : List PlanNode) : Except WireFailure PUnit := do
  let order ← planTopologicalOrder nodes
  let table ← ancestorTable (dependenciesOf nodes) order []
  checkWriterChain table (order.filter (writes nodes))

/-! ### Plans -/

/-- The nodes of a plan. -/
def PlanRequest.ValidNodes (allowedEffects : List PlanEffect) (nodes : List PlanNode) : Prop :=
  1 ≤ nodes.length ∧ nodes.length ≤ 64 ∧ (nodes.map (·.nodeId)).Nodup ∧
    (∀ node ∈ nodes, (∀ d ∈ node.dependsOn, d ∈ nodes.map (·.nodeId)) ∧
      ∀ effect ∈ node.effects, effect ∈ allowedEffects) ∧
    checkOrder nodes = .ok ⟨⟩

/-- `PlanRequest`. -/
structure PlanRequest where
  planId : String
  projectId : String
  intentId : String
  baseCommit : String
  allowedEffects : List PlanEffect
  nodes : List PlanNode
  idempotencyKey : String
  /-- `planning_mode` is `generated`. -/
  generated : Bool
  identifiers : isWireIdentifier planId ∧ isWireIdentifier projectId ∧ isWireIdentifier intentId ∧
    isWireIdentifier idempotencyKey
  isBase : isCommit baseCommit
  effects : allowedEffects.length ≤ 4 ∧ allowedEffects.Nodup
  validNodes : PlanRequest.ValidNodes allowedEffects nodes

namespace PlanRequest

variable (p : PlanRequest)

/-- `plan_topological_order(plan.nodes)`. -/
def order : List String := Kahn.order (p.nodes.map (·.nodeId)) (dependenciesOf p.nodes)

/-- A node names another one as a dependency. -/
def DependsOn (a b : String) : Prop := b ∈ dependenciesOf p.nodes a

variable {p}

theorem planTopologicalOrder_eq : planTopologicalOrder p.nodes = .ok p.order := by
  have h := p.validNodes.2.2.2.2
  simp only [checkOrder, Checked.bind_eq_ok] at h
  obtain ⟨order, horder, -⟩ := h
  simp only [planTopologicalOrder, Checked.bind_eq_ok, check_eq_ok, Checked.exists_unit,
    Checked.pure_eq_ok] at horder ⊢
  exact ⟨horder.1, horder.2.1, rfl⟩

theorem byId_eq_some {node : PlanNode} {nodeId : String} (h : byId p.nodes nodeId = some node) :
    node ∈ p.nodes ∧ node.nodeId = nodeId :=
  ⟨List.mem_of_find?_eq_some h, by simpa using List.find?_some h⟩

theorem exists_byId {nodeId : String} (h : nodeId ∈ p.nodes.map (·.nodeId)) :
    ∃ node, byId p.nodes nodeId = some node := by
  obtain ⟨node, hnode, rfl⟩ := List.mem_map.mp h
  exact Option.isSome_iff_exists.mp (List.find?_isSome.mpr ⟨node, hnode, by simp⟩)

/-- The nodes of a plan are found by their identifiers. -/
theorem byId_of_mem {node : PlanNode} (h : node ∈ p.nodes) :
    byId p.nodes node.nodeId = some node := by
  obtain ⟨found, hfound⟩ := exists_byId (List.mem_map_of_mem h)
  obtain ⟨hmem, hnode⟩ := byId_eq_some hfound
  rw [hfound, List.inj_on_of_nodup_map p.validNodes.2.2.1 hmem h hnode]

theorem dependenciesOf_eq {node : PlanNode} {nodeId : String}
    (h : byId p.nodes nodeId = some node) : dependenciesOf p.nodes nodeId = node.dependsOn := by
  simp [dependenciesOf, h]

/-- Dependencies are nodes of the plan. -/
theorem DependsOn.mem {a b : String} (h : p.DependsOn a b) : b ∈ p.nodes.map (·.nodeId) := by
  unfold DependsOn dependenciesOf at h
  cases hnode : byId p.nodes a with
  | none => simp [hnode] at h
  | some node =>
    rw [hnode, Option.map_some, Option.getD_some] at h
    exact (p.validNodes.2.2.2.1 node (byId_eq_some hnode).1).1 b h

/-- **The order.** It has every node of the plan. -/
theorem mem_order {nodeId : String} (h : nodeId ∈ p.nodes.map (·.nodeId)) : nodeId ∈ p.order := by
  have hlength := planTopologicalOrder_eq (p := p)
  simp only [planTopologicalOrder, Checked.bind_eq_ok, check_eq_ok, Checked.exists_unit] at hlength
  refine Kahn.mem_order_of_length p.validNodes.2.2.1 (fun b hb ↦ ?_) ?_ h
  · obtain ⟨node, hnode⟩ := exists_byId hb
    rw [dependenciesOf_eq hnode]
    exact node.dependencies.2.2.1
  · rw [hlength.2.1, List.length_map]

/-- The entries of the table are ancestors. -/
theorem ancestorTable_sound {dependsOn : String → List String} {order : List String}
    {table result : List (String × List String)}
    (htable : ∀ entry ∈ table, ∀ a ∈ entry.2,
      Relation.TransGen (fun x y ↦ y ∈ dependsOn x) entry.1 a)
    (h : ancestorTable dependsOn order table = .ok result) :
    ∀ entry ∈ result, ∀ a ∈ entry.2, Relation.TransGen (fun x y ↦ y ∈ dependsOn x) entry.1 a := by
  induction order generalizing table with
  | nil =>
    obtain rfl : table = result := by simpa [ancestorTable] using h
    exact htable
  | cons nodeId order ih =>
    simp only [ancestorTable, Checked.bind_eq_ok] at h
    obtain ⟨inherited, hinherited, h⟩ := h
    refine ih (List.forall_mem_cons.mpr ⟨fun a ha ↦ ?_, htable⟩) h
    rcases List.mem_append.mp ha with ha | ha
    · exact .single ha
    · obtain ⟨ancestors, hancestors, ha⟩ := List.mem_flatten.mp ha
      obtain ⟨d, hd, hlookup⟩ := Checked.exists_of_mem_mapM hinherited hancestors
      obtain ⟨l₁, l₂, hsplit, -⟩ := List.lookup_eq_some_iff.mp (Checked.ofOption_eq_ok.mp hlookup)
      have hentry := htable (d, ancestors) (by simp [hsplit]) a ha
      exact .head hd hentry

/-- Neighbouring writers depend on each other. -/
theorem isChain_of_checkWriterChain {dependsOn : String → List String}
    {table : List (String × List String)} {writers : List String}
    (htable : ∀ entry ∈ table, ∀ a ∈ entry.2,
      Relation.TransGen (fun x y ↦ y ∈ dependsOn x) entry.1 a)
    (h : checkWriterChain table writers = .ok ⟨⟩) :
    writers.IsChain fun a b ↦ Relation.TransGen (fun x y ↦ y ∈ dependsOn x) b a := by
  induction writers with
  | nil => exact .nil
  | cons previous writers ih =>
    cases writers with
    | nil => exact .singleton _
    | cons current writers =>
      simp only [checkWriterChain, Checked.bind_eq_ok, Checked.ofOption_eq_ok, check_eq_ok,
        Checked.exists_unit] at h
      obtain ⟨ancestors, hlookup, hmem, h⟩ := h
      obtain ⟨l₁, l₂, hsplit, -⟩ := List.lookup_eq_some_iff.mp hlookup
      exact .cons_cons (htable (current, ancestors) (by simp [hsplit]) previous hmem) (ih h)

/-- **Writers.** A later writer of the order depends, in one or more steps, on an earlier one. -/
theorem writers_pairwise : (p.order.filter (writes p.nodes)).Pairwise fun a b ↦
    Relation.TransGen p.DependsOn b a := by
  have h := p.validNodes.2.2.2.2
  simp only [checkOrder, Checked.bind_eq_ok, planTopologicalOrder_eq, Except.ok.injEq,
    exists_eq_left'] at h
  obtain ⟨table, htable, hchain⟩ := h
  have hsound := ancestorTable_sound (by simp) htable
  have htrans : IsTrans String fun a b ↦ Relation.TransGen p.DependsOn b a :=
    ⟨fun _ _ _ hab hbc ↦ hbc.trans hab⟩
  exact List.isChain_iff_pairwise.mp (isChain_of_checkWriterChain hsound hchain)

end PlanRequest

end Blackcell.Interfaces.Http
