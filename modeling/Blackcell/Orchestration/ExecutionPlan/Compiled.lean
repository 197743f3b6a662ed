import Blackcell.Orchestration.ExecutionPlan.Policy
import Blackcell.Orchestration.ExecutionPlan.RoundTrip

/-!
# Compiled plans

What a plan that `compile_plan` returns may do. The draft comes from a language model: the compiler
compares the paths of a draft with those of the goal before they are normalised, and the policy kernel
compares them afterwards. The paths of a goal are in normal form, so a path of the draft that is one of
them is its own normal form, and the two comparisons agree.

## Main definitions

* `Plan.WithinAuthority` : the plan stays within the authority of its goal.

## Main results

* `compileTask_checks`, `compileTask_readsBack` : the checks of a compiled task are those of the goal,
  and its paths are read as themselves.
* `compilePlan_withinAuthority` : every compiled plan stays within the authority of its goal.
-/

namespace Blackcell.Orchestration.ExecutionPlan

open Blackcell.Kernel

/-- The plan stays within the authority of its goal: its tasks write where the goal allows it and are
verified by the checks of the goal, it follows the plan that it supersedes, and the policy kernel
authorizes each attempt of each task. -/
structure Plan.WithinAuthority (H : Host) (goal : GoalSpec) (previous : Option Plan) (plan : Plan) :
    Prop where
  scope : plan.goalId = goal.goalId ∧ plan.projectId = goal.projectId ∧
    plan.intentId = goal.intentId ∧ plan.baseCommit = goal.baseCommit
  paths : ∀ t ∈ plan.tasks.1, ∀ p ∈ t.allowedPaths.1, p ∈ goal.allowedPaths.1
  checks : ∀ t ∈ plan.tasks.1, ∀ c ∈ t.checks.1, c ∈ goal.verificationChecks.1
  covered : ∀ c ∈ goal.verificationChecks.1, ∃ t ∈ plan.tasks.1, c ∈ t.checks.1
  attempts : ∀ t ∈ plan.tasks.1, t.maxAttempts = goal.maxAttempts
  first : previous = none → plan.planRevision = 1 ∧ plan.supersedesPlanId = none
  next : ∀ p ∈ previous, plan.planRevision = p.planRevision + 1 ∧
    plan.supersedesPlanId = some p.planId ∧ p.goalId = plan.goalId ∧
    p.projectId = plan.projectId ∧ p.intentId = plan.intentId ∧ p.baseCommit = plan.baseCommit
  authorized : ∀ t ∈ plan.tasks.1, ∀ runId, isPlanIdentifier runId →
    ∀ attempt, 1 ≤ attempt → attempt ≤ t.maxAttempts →
      ∃ request decision,
        ToolActionRequest.create runId plan.planId t.taskId attempt t.allowedPaths.1 = .ok request ∧
          authorize H goal plan t request = .ok decision ∧ decision.allowed = true

section Compiled

variable {H : Host} {goal : GoalSpec} {value : JsonValue} {task : TaskSpec}

/-- The checks of a compiled task are checks of the goal. -/
theorem compileTask_checks (h : compileTask goal value = .ok task) :
    ∀ c ∈ task.checks.1, c ∈ goal.verificationChecks.1 := by
  simp only [compileTask, Checked.bind_eq_ok] at h
  obtain ⟨_, -, _, -, _, -, _, -, _, -, _, -, _, -, _, -, checkIds, -, _, -, checks, hchecks, _, -, _,
    -, _, -, h⟩ := h
  obtain ⟨-, -, -, -, hsorted, -⟩ := TaskSpec.create_eq_ok h
  intro c hc
  rw [checkTuple, Checked.certify_eq_ok] at hsorted
  rw [hsorted, sortedChecks, List.mem_insertionSort] at hc
  obtain ⟨checkId, -, hfound⟩ := Checked.exists_of_mem_mapM hchecks hc
  exact List.mem_of_find?_eq_some (Checked.ofOption_eq_ok.mp hfound)

/-- **Paths.** The paths of a compiled task are read as themselves: each of them was a path of the
draft and is one of the goal, whose paths are in normal form. -/
theorem compileTask_readsBack (h : compileTask goal value = .ok task) :
    pathTuple task.allowedPaths.1 = .ok task.allowedPaths := by
  simp only [compileTask, Checked.bind_eq_ok, demand_eq_ok, Checked.require_eq_ok,
    Checked.exists_unit] at h
  obtain ⟨_, -, -, _, -, _, -, _, -, -, paths, -, hgoal, _, -, -, _, -, _, -, _, -, _, -, h⟩ := h
  obtain ⟨-, -, -, hpaths, -, -⟩ := TaskSpec.create_eq_ok h
  refine pathTuple_self fun p hp ↦ ?_
  obtain ⟨-, normal, hnormal, hsorted⟩ := pathTuple_eq_ok.mp hpaths
  have hmem : p ∈ normal := by simpa [hsorted] using hp
  obtain ⟨q, hq, hread⟩ := Checked.exists_of_mem_mapM hnormal hmem
  have hself : p = q := by
    have hstripped : p = withoutTrailingSlashes q := by
      simp only [repositoryPath, Checked.bind_eq_ok, demand_eq_ok, Checked.exists_unit,
        Checked.pure_eq_ok] at hread
      exact hread.2.2.symm
    rw [hstripped, goal.allowedPaths.2.2.2 q (hgoal q hq)]
  rw [hself] at hread ⊢
  exact hread

variable {draft : Mapping} {previous : Option Plan} {plan : Plan}

/-- The plan is compiled from tasks that cover the checks of the goal, and its lineage is that of the
goal and of the superseded plan. -/
theorem compilePlan_eq_ok (h : compilePlan H goal draft previous = .ok plan) :
    ∃ values tasks, List.mapM (compileTask goal) values = .ok tasks ∧
      plan.tasks.1 = sortedTasks tasks ∧
      (∀ c ∈ goal.verificationChecks.1, ∃ t ∈ tasks, ∃ c' ∈ t.checks.1, c'.checkId = c.checkId) ∧
      (∀ p ∈ previous, p.goalId = goal.goalId ∧ p.projectId = goal.projectId ∧
        p.intentId = goal.intentId ∧ p.baseCommit = goal.baseCommit) ∧
      (plan.goalId = goal.goalId ∧ plan.projectId = goal.projectId ∧
        plan.intentId = goal.intentId ∧ plan.baseCommit = goal.baseCommit) ∧
      plan.planRevision = previous.elim 1 (fun p ↦ p.planRevision + 1) ∧
      plan.supersedesPlanId = previous.map (·.planId) := by
  simp only [compilePlan, Checked.bind_eq_ok, demand_eq_ok, Checked.require_eq_ok,
    Checked.exists_unit] at h
  obtain ⟨-, values, -, -, tasks, htasks, ⟨-, hcovered⟩, hlineage, h⟩ := h
  obtain ⟨⟨-, hgoal, hproject, hintent⟩, hrevision, hsupersedes, hbase, -, hsorted⟩ :=
    Plan.create_eq_ok h
  refine ⟨values, tasks, htasks, hsorted, fun c hc ↦ ?_, hlineage,
    ⟨hgoal, hproject, hintent, hbase⟩, ?_, hsupersedes⟩
  · obtain ⟨t, ht, hid⟩ := List.mem_flatMap.mp (hcovered c.checkId (List.mem_map_of_mem hc))
    obtain ⟨c', hc', hsame⟩ := List.mem_map.mp hid
    exact ⟨t, ht, c', hc', hsame⟩
  · cases previous <;> exact hrevision

/-- A compiled task is authorized for each of its attempts. -/
theorem exists_authorize_compiled (htask : compileTask goal value = .ok task) {runId : String}
    (hrun : isPlanIdentifier runId = true) {attempt : Nat} (hpositive : 1 ≤ attempt)
    (hattempt : attempt ≤ task.maxAttempts) :
    ∃ request decision,
      ToolActionRequest.create runId plan.planId task.taskId attempt task.allowedPaths.1 =
          .ok request ∧
        authorize H goal plan task request = .ok decision ∧ decision.allowed = true := by
  obtain ⟨hpaths, hattempts⟩ := compileTask_within htask
  obtain ⟨request, hrequest, -⟩ := ToolActionRequest.exists_create hrun plan.valid.1.1
    task.identifier hpositive (compileTask_readsBack htask)
  obtain ⟨decision, hdecision, -⟩ := exists_authorize H goal plan task request
  obtain ⟨hrun', hplan, htaskId, hnumber, hcapability, hallowed, hdestructive⟩ :=
    ToolActionRequest.create_eq_ok hrequest
  have hsame : request.allowedPaths.1 = task.allowedPaths.1 :=
    task.allowedPaths.2.eq_of_pathTuple hallowed
  have hnonempty : request.runId ≠ "" := by
    rintro hempty
    rw [hrun'] at hempty
    exact absurd (hempty ▸ hrun) (by decide)
  have hbound : request.attempt ≤ min goal.maxAttempts task.maxAttempts := by
    rw [hnumber, ← hattempts, min_self]
    exact hattempt
  exact ⟨request, decision, hrequest, hdecision, authorize_eq_allowed hdecision hnonempty hplan
    htaskId hcapability hdestructive hbound hsame hpaths⟩

/-- **Authority.** A plan that compiles stays within the authority of its goal, whatever the draft. -/
theorem compilePlan_withinAuthority (h : compilePlan H goal draft previous = .ok plan) :
    plan.WithinAuthority H goal previous := by
  obtain ⟨values, tasks, htasks, hsorted, hcovered, hlineage, hscope, hrevision, hsupersedes⟩ :=
    compilePlan_eq_ok h
  have hmem : ∀ t, t ∈ plan.tasks.1 ↔ t ∈ tasks := fun t ↦ by
    rw [hsorted, sortedTasks, List.mem_insertionSort]
  have hcompiled : ∀ t ∈ plan.tasks.1, ∃ value, compileTask goal value = .ok t := fun t ht ↦
    (Checked.exists_of_mem_mapM htasks ((hmem t).mp ht)).imp fun _ ↦ And.right
  have hchecks : ∀ t ∈ plan.tasks.1, ∀ c ∈ t.checks.1, c ∈ goal.verificationChecks.1 := by
    intro t ht
    obtain ⟨value, hvalue⟩ := hcompiled t ht
    exact compileTask_checks hvalue
  constructor
  case scope => exact hscope
  case paths =>
    intro t ht
    obtain ⟨value, hvalue⟩ := hcompiled t ht
    exact (compileTask_within hvalue).1
  case checks => exact hchecks
  case covered =>
    intro c hc
    obtain ⟨t, ht, c', hc', hid⟩ := hcovered c hc
    have ht := (hmem t).mpr ht
    -- The identifiers of the checks of a goal are distinct.
    have hsame : c' = c := List.inj_on_of_nodup_map goal.verificationChecks.2.2.1
      (hchecks t ht c' hc') hc hid
    exact ⟨t, ht, hsame ▸ hc'⟩
  case attempts =>
    intro t ht
    obtain ⟨value, hvalue⟩ := hcompiled t ht
    exact (compileTask_within hvalue).2
  case first =>
    rintro rfl
    exact ⟨hrevision, hsupersedes⟩
  case next =>
    intro p hp
    obtain rfl := Option.mem_def.mp hp
    obtain ⟨hgoal, hproject, hintent, hbase⟩ := hlineage p rfl
    exact ⟨hrevision, hsupersedes, hgoal.trans hscope.1.symm, hproject.trans hscope.2.1.symm,
      hintent.trans hscope.2.2.1.symm, hbase.trans hscope.2.2.2.symm⟩
  case authorized =>
    intro t ht runId hrun attempt hpositive hattempt
    obtain ⟨value, hvalue⟩ := hcompiled t ht
    exact exists_authorize_compiled hvalue hrun hpositive hattempt

end Compiled

namespace Compile

/-- A digest of 64 hexadecimal digits. -/
abbrev Hex := { s : String // isHex 64 s = true }

/-- The check of a sample goal. -/
def unit : VerificationCheck := ⟨"unit", ["pytest", "-q"], 0, by decide +kernel⟩

/-- A goal with two attempts for each task, which may write to `src`. -/
def goal : GoalSpec where
  goalId := "goal-1"
  projectId := "project-1"
  intentId := "intent-1"
  objective := "Fix the parser."
  baseCommit := "1111111111111111111111111111111111111111"
  constraints := ⟨[], by decide⟩
  allowedPaths := ⟨["src"], by decide +kernel⟩
  verificationChecks := ⟨[unit], by decide +kernel⟩
  maxAttempts := 2
  sameErrorLimit := 1
  identifiers := by decide +kernel
  isObjective := by decide +kernel
  isCommit := isHex_ofList (by decide +kernel)
  attempts := by decide

/-- A draft of one task. -/
def draft : Mapping := [("schema_version", .str executionPlanDraftSchema),
  ("tasks", .list [.object [("task_id", .str "task-1"), ("objective", .str "Fix."),
    ("depends_on", .list []), ("allowed_paths", .list [.str "src"]),
    ("checks", .list [.str "unit"])]])]

/-- The payload of the task. -/
def taskDocument : JsonValue :=
  .object [("task_id", .str "task-1"), ("objective", .str "Fix."), ("depends_on", .list []),
    ("allowed_paths", .list [.str "src"]), ("checks", .list [unit.payload]),
    ("max_attempts", .int 2)]

def goalHex : Hex :=
  hexText 0x1ec7a7264f17cc9f8204cbd6f87f645b55edda6d31a8ec31c42f3243a85401b2

def draftHex : Hex :=
  hexText 0x32d9818cab85cba0c9c31a757a084c51d309602b77b04d93a7847fe00f4976fd

def taskHex : Hex :=
  hexText 0x6e102864821ba781bdbd20cd6e9a299ba40223ae7e038b08235f7866e76244c0

/-- The document that identifies a revision of the plan. -/
def identityDocument (revision : Int) (supersedes : Option String) : JsonValue :=
  .object [("draft_digest", .str (digestPrefix ++ draftHex.1)),
    ("goal_digest", .str (digestPrefix ++ goalHex.1)), ("plan_version", .int revision),
    ("supersedes_plan_id", .ofText? supersedes),
    ("task_digests", .list [.str (digestPrefix ++ taskHex.1)])]

def firstHex : Hex :=
  hexText 0x3757ee9a02385c43272ed41d6bfd333a99823b57e99c692195229aa07567f9f8

def firstPlan : String := "plan-" ++ shortDigest (digestPrefix ++ firstHex.1)

def nextHex : Hex :=
  hexText 0xc37e8498ca89fe03d1331c63d9a315c3f2c6f2576e5d3300903616d7abe435bc

def nextPlan : String := "plan-" ++ shortDigest (digestPrefix ++ nextHex.1)

/-- The action of an attempt of the second plan. -/
def actionDocument (attempt : Int) : JsonValue :=
  .object [("allowed_paths", .list [.str "src"]), ("attempt", .int attempt),
    ("capability", .str "repository-task"), ("destructive", .bool false),
    ("plan_id", .str nextPlan), ("run_id", .str "run-1"), ("task_id", .str "task-1")]

/-- SHA-256 on the documents of the sample. -/
def host : Host := .ofTables [
  ((goalPayload goal).canonical, goalHex), ((JsonValue.object draft).canonical, draftHex),
  (taskDocument.canonical, taskHex), (identityDocument 1 none, firstHex),
  (identityDocument 2 (some firstPlan), nextHex),
  (actionDocument 1,
    hexText 0xd60cc4e44feeca3ee70df54b1af944bd89dbe60326435faa84762a3bc4e3be53),
  (actionDocument 2,
    hexText 0xbb7b1e5ccf1296ea514365088953a94d659d050c9fb304158339851bf0921f18)] [] []

/-- The draft compiles, and compiles again to a plan that supersedes the first one. -/
theorem isOk_compilePlan : (compilePlan host goal draft none >>= fun first ↦
    compilePlan host goal draft (some first)).isOk = true := by
  decide +kernel

end Compile

/-- The two plans that a draft compiles to, one superseding the other, stay within their authority. -/
theorem compilePlan_withinAuthority_sample : ∃ first next,
    compilePlan Compile.host Compile.goal Compile.draft none = .ok first ∧
      first.WithinAuthority Compile.host Compile.goal none ∧
      compilePlan Compile.host Compile.goal Compile.draft (some first) = .ok next ∧
      next.WithinAuthority Compile.host Compile.goal (some first) := by
  obtain ⟨next, h⟩ := Checked.exists_of_isOk Compile.isOk_compilePlan
  obtain ⟨first, hfirst, hnext⟩ := Checked.bind_eq_ok.mp h
  exact ⟨first, next, hfirst, compilePlan_withinAuthority hfirst, hnext,
    compilePlan_withinAuthority hnext⟩

end Blackcell.Orchestration.ExecutionPlan
