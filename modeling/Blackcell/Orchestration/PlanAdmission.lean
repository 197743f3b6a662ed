import Blackcell.Interfaces.PlanGraph
import Blackcell.Orchestration.ExecutionPlan.Graph

/-!
# Plan admission

A declared plan is validated by `PlanRequest`, which takes the nodes from a worklist, and a compiled one
by `Plan`, which resolves the tasks in rounds. The two implementations admit the same graphs: those in
which all dependencies exist, no node depends on itself, and any two nodes that write are comparable.

## Main results

* `plan_admission_decides` : both implementations admit exactly the intended graphs, and order them.
-/

namespace Blackcell.Orchestration

open Blackcell.Interfaces.Http Blackcell.Orchestration.ExecutionPlan

/-- **Plan admission.** Both implementations accept distinct nodes, in a number that they allow, exactly
if all dependencies exist, the graph is acyclic and any two nodes that write are comparable; and the
order of an accepted plan has each node once, after its dependencies. -/
theorem plan_admission_decides :
    (∀ (allowedEffects : List PlanEffect) (nodes : List PlanNode),
      PlanRequest.ValidNodes allowedEffects nodes ↔
        (1 ≤ nodes.length ∧ nodes.length ≤ 64 ∧ (nodes.map (·.nodeId)).Nodup ∧
          ∀ node ∈ nodes, ∀ effect ∈ node.effects, effect ∈ allowedEffects) ∧
        WritersOrdered (NodeDependsOn nodes) (nodes.map (·.nodeId)) (NodeWrites nodes)) ∧
    (∀ (schemaVersion planId goalId projectId intentId : String) (planRevision : Nat)
      (supersedesPlanId : Option String) (baseCommit draftDigest : String) (tasks : List TaskSpec),
      (∃ p, Plan.create schemaVersion planId goalId projectId intentId planRevision supersedesPlanId
          baseCommit draftDigest tasks = .ok p) ↔
        (schemaVersion = executionPlanSchema ∧ Plan.Valid planId goalId projectId intentId planRevision
            supersedesPlanId baseCommit draftDigest ∧
          1 ≤ tasks.length ∧ tasks.length ≤ maxTasks ∧ (tasks.map (·.taskId)).Nodup) ∧
        WritersOrdered (TaskDependsOn tasks) (tasks.map (·.taskId)) (TaskWrites tasks)) ∧
    (∀ p : PlanRequest, planTopologicalOrder p.nodes = .ok p.order ∧
      p.order.Perm (p.nodes.map (·.nodeId)) ∧
      ∀ node ∈ p.nodes, ∀ pre post, p.order = pre ++ node.nodeId :: post →
        ∀ d ∈ node.dependsOn, d ∈ pre) ∧
    ∀ p : Plan, ExecutionPlan.topologicalOrder p.tasks.1 = .ok p.topologicalOrder ∧
      p.topologicalOrder.Perm (p.tasks.1.map (·.taskId)) ∧
      ∀ t ∈ p.tasks.1, ∀ pre post, p.topologicalOrder = pre ++ t.taskId :: post →
        ∀ d ∈ t.dependsOn, d ∈ pre := by
  refine ⟨fun _ _ ↦ PlanRequest.validNodes_iff, fun _ _ _ _ _ _ _ _ _ _ ↦ Plan.exists_create_iff,
    fun p ↦ ?declared, fun p ↦ ?compiled⟩
  case declared =>
    exact ⟨PlanRequest.planTopologicalOrder_eq, PlanRequest.order_perm,
      fun node hnode pre post h d hd ↦ PlanRequest.before_of_mem_dependsOn hnode h hd⟩
  case compiled =>
    exact ⟨p.topologicalOrder_eq_ok, p.topologicalOrder_perm,
      fun t ht pre post h d hd ↦ Plan.before_of_mem_dependsOn ht h hd⟩

namespace Diamond

theorem valid_unit : VerificationCheck.Valid "unit" ["pytest"] 0 := by decide +kernel

theorem isPathTuple_src : IsPathTuple ["src"] := by decide +kernel

theorem isPathTuple_nil : IsPathTuple [] := by decide

theorem attempts_one : 1 ≤ 1 ∧ 1 ≤ 3 := by decide

/-- The check of the sample tasks. -/
def unit : VerificationCheck := ⟨"unit", ["pytest"], 0, valid_unit⟩

/-- A task that writes to a path. -/
def first : TaskSpec where
  taskId := "first"
  objective := "Write."
  dependsOn := []
  allowedPaths := ⟨["src"], isPathTuple_src⟩
  checks := ⟨[unit], by decide +kernel⟩
  maxAttempts := 1
  identifier := by decide +kernel
  isObjective := by decide +kernel
  dependencies := by decide +kernel
  attempts := attempts_one

/-- A task that reads what the first one wrote. -/
def left : TaskSpec :=
  { first with
    taskId := "left", dependsOn := ["first"], allowedPaths := ⟨[], isPathTuple_nil⟩
    identifier := by decide +kernel, dependencies := by decide +kernel }

/-- Another task that reads what the first one wrote. -/
def right : TaskSpec :=
  { left with
    taskId := "right", identifier := by decide +kernel, dependencies := by decide +kernel }

/-- A task that writes again, after both readers. -/
def last : TaskSpec :=
  { first with
    taskId := "last", dependsOn := ["left", "right"]
    identifier := by decide +kernel, dependencies := by decide +kernel }

/-- A plan of a writer, two readers and a writer. -/
def created : Contract Plan :=
  Plan.create executionPlanSchema "plan-1" "goal-1" "project-1" "intent-1" 1 none
    "1111111111111111111111111111111111111111"
    "sha256:6b601ca1c50a2d0f568b2685af817bac7f68a9039295eec025d32c2f359c1e34"
    [first, left, right, last]

theorem isOk_created : created.isOk = true := by decide +kernel

end Diamond

/-- The diamond is accepted, so its two writers are comparable, through the readers. -/
theorem plan_admission_decides_sample :
    WritersOrdered (TaskDependsOn [Diamond.first, Diamond.left, Diamond.right, Diamond.last])
      ["first", "left", "right", "last"]
      (TaskWrites [Diamond.first, Diamond.left, Diamond.right, Diamond.last]) :=
  ((plan_admission_decides.2.1 executionPlanSchema "plan-1" "goal-1" "project-1" "intent-1" 1 none
    "1111111111111111111111111111111111111111"
    "sha256:6b601ca1c50a2d0f568b2685af817bac7f68a9039295eec025d32c2f359c1e34"
    [Diamond.first, Diamond.left, Diamond.right, Diamond.last]).mp
      (Checked.exists_of_isOk Diamond.isOk_created)).2

end Blackcell.Orchestration
