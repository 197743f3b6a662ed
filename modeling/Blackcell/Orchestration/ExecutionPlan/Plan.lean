import Blackcell.Orchestration.ExecutionPlan.Goal

/-!
# Plans

The tasks and plans of `orchestration/execution_plan.py`, and the compiler that turns an untrusted
draft into a plan. A plan is a structure that carries what its constructor demands: its tasks are
distinct, their dependencies are tasks of the plan, and they have a topological order in which each
task that writes depends on the writer before it.

## Main definitions

* `TaskSpec`, `Plan` : the validated values, with `create` for their constructors.
* `topologicalOrder`, `validateWriterOrder` : the order of the tasks, and the check on its writers.
* `compilePlan` : the compiler.
* `planPayload`, `planFromPayload` : the durable form of a plan, and its validation when it is read.

## Main results

* `Plan.topologicalOrder_perm`, `Plan.dependsOn_before` : the order holds each task once, after its
  dependencies.
* `planFromPayload_planPayload` : a plan that can be read back from its payload is read as itself.
-/

namespace Blackcell.Orchestration.ExecutionPlan

open Blackcell.Kernel

/-! ### Tasks -/

/-- The dependencies of a task as its constructor leaves them. -/
def IsDependencyTuple (taskId : String) (dependsOn : List String) : Prop :=
  IsSortedSet dependsOn ∧ taskId ∉ dependsOn ∧ ∀ d ∈ dependsOn, isPlanIdentifier d

instance (taskId : String) (dependsOn : List String) :
    Decidable (IsDependencyTuple taskId dependsOn) :=
  inferInstanceAs (Decidable (_ ∧ _ ∧ _))

/-- `TaskSpec`. -/
@[ext]
structure TaskSpec where
  taskId : String
  objective : String
  dependsOn : List String
  allowedPaths : { paths // IsPathTuple paths }
  checks : { checks // IsCheckTuple checks }
  maxAttempts : Nat
  identifier : isPlanIdentifier taskId
  isObjective : isObjective objective
  dependencies : IsDependencyTuple taskId dependsOn
  attempts : 1 ≤ maxAttempts ∧ maxAttempts ≤ 3
  deriving DecidableEq

namespace TaskSpec

/-- The constructor. -/
def create (taskId objective : String) (dependsOn allowedPaths : List String)
    (checks : List VerificationCheck) (maxAttempts : Nat) : Contract TaskSpec := do
  let allowedPaths ← pathTuple allowedPaths
  let checks ← checkTuple checks
  if h : isPlanIdentifier taskId ∧ ExecutionPlan.isObjective objective ∧
      IsDependencyTuple taskId (sortedSet dependsOn) ∧ 1 ≤ maxAttempts ∧ maxAttempts ≤ 3 then
    pure ⟨taskId, objective, sortedSet dependsOn, allowedPaths, checks, maxAttempts, h.1, h.2.1,
      h.2.2.1, h.2.2.2⟩
  else throw .invalidExecutionContract

/-- The constructor keeps its arguments, in their normal forms. -/
theorem create_eq_ok {taskId objective : String} {dependsOn allowedPaths : List String}
    {checks : List VerificationCheck} {maxAttempts : Nat} {t : TaskSpec}
    (h : create taskId objective dependsOn allowedPaths checks maxAttempts = .ok t) :
    t.taskId = taskId ∧ t.objective = objective ∧ t.dependsOn = sortedSet dependsOn ∧
      pathTuple allowedPaths = .ok t.allowedPaths ∧ checkTuple checks = .ok t.checks ∧
      t.maxAttempts = maxAttempts := by
  simp only [create, Checked.bind_eq_ok] at h
  obtain ⟨p, hp, c, hc, h⟩ := h
  split at h
  · obtain rfl := Checked.pure_eq_ok.mp h
    exact ⟨rfl, rfl, rfl, hp, hc, rfl⟩
  · exact absurd h (by simp)

/-- A task that may write. -/
def isWriter (task : TaskSpec) : Bool := task.allowedPaths.1 ≠ []

/-- `task_payload`. -/
def payload (task : TaskSpec) : JsonValue :=
  .object [
    ("task_id", .str task.taskId),
    ("objective", .str task.objective),
    ("depends_on", .ofTexts task.dependsOn),
    ("allowed_paths", .ofTexts task.allowedPaths.1),
    ("checks", .list (task.checks.1.map (·.payload))),
    ("max_attempts", .int task.maxAttempts)]

/-- `task_digest`. -/
def taskDigest (H : Host) (task : TaskSpec) : String := H.jsonDigest task.payload

/-- `_task_from_payload`. -/
def ofPayload (value : JsonValue) : Contract TaskSpec := do
  let raw ← mapping value
  demand (raw.exact ["task_id", "objective", "depends_on", "allowed_paths", "checks",
    "max_attempts"])
  let checks ← checksOfPayload (raw.get "checks")
  let taskId ← mappingText raw "task_id"
  let objective ← mappingText raw "objective"
  let dependsOn ← textSequence (raw.get "depends_on")
  let allowedPaths ← textSequence (raw.get "allowed_paths")
  let maxAttempts ← mappingInteger raw "max_attempts"
  create taskId objective dependsOn allowedPaths checks maxAttempts

theorem ofPayload_payload {task r : TaskSpec} (h : ofPayload task.payload = .ok r) : r = task := by
  simp only [ofPayload, payload, mapping, JsonValue.fields?, Checked.ofOption_some,
    Checked.ok_bind, Checked.bind_eq_ok, demand_eq_ok, Checked.exists_unit, mappingText,
    text_eq_ok, mappingInteger_eq_ok] at h
  simp only [Mapping.get_cons, reduceIte, String.reduceEq, JsonValue.str.injEq,
    JsonValue.int.injEq, Int.natCast_inj] at h
  obtain ⟨-, checks, hchecks, _, ⟨rfl, -⟩, _, ⟨rfl, -⟩, dependsOn, hdeps, paths, hpaths, _, rfl,
    h⟩ := h
  obtain rfl := checksOfPayload_payload hchecks
  obtain rfl := textSequence_ofTexts hdeps
  obtain rfl := textSequence_ofTexts hpaths
  obtain ⟨hid, hobjective, hdeps, hp, hv, hattempts⟩ := create_eq_ok h
  rw [task.dependencies.1.sortedSet_eq] at hdeps
  rw [checkTuple, Checked.certify_eq_ok, task.checks.2.sortedChecks_eq] at hv
  exact TaskSpec.ext hid hobjective hdeps (Subtype.ext (task.allowedPaths.2.eq_of_pathTuple hp))
    (Subtype.ext hv) hattempts

/-- A task that can be read back has paths that can be read. -/
theorem pathTuple_of_readBack {task : TaskSpec} (h : ofPayload task.payload = .ok task) :
    pathTuple task.allowedPaths.1 = .ok task.allowedPaths := by
  simp only [ofPayload, payload, mapping, JsonValue.fields?, Checked.ofOption_some,
    Checked.ok_bind, Checked.bind_eq_ok] at h
  simp only [Mapping.get_cons, reduceIte, String.reduceEq] at h
  obtain ⟨_, -, checks, -, taskId, -, objective, -, dependsOn, -, paths, hpaths, maxAttempts, -,
    h⟩ := h
  obtain rfl := textSequence_ofTexts hpaths
  exact (create_eq_ok h).2.2.2.1

end TaskSpec

/-- The dependencies of a task, by its identifier. -/
def dependenciesOf (tasks : List TaskSpec) (taskId : String) : List String :=
  ((tasks.find? fun t ↦ t.taskId = taskId).map (·.dependsOn)).getD []

/-! ### Topological order -/

/-- The pending tasks whose dependencies are all resolved. -/
def readyTasks (dependencies : String → List String) (resolved pending : List String) :
    List String :=
  sorted (pending.filter fun id ↦ (dependencies id).all (· ∈ resolved))

/-- The rounds of `_topological_order`: each resolves the tasks that are ready, and a round without
such a task ends the search. There are at most as many rounds as tasks
(`topologicalRounds_enough`). -/
def topologicalRounds (dependencies : String → List String) :
    Nat → List String → List String → Contract (List String)
  | _, resolved, [] => .ok resolved
  | 0, _, _ :: _ => .error .cyclicPlan
  | rounds + 1, resolved, pending =>
    let ready := readyTasks dependencies resolved pending
    if ready = [] then .error .cyclicPlan
    else topologicalRounds dependencies rounds (resolved ++ ready) (pending.filter (· ∉ ready))

/-- `_topological_order`. -/
def topologicalOrder (tasks : List TaskSpec) : Contract (List String) :=
  topologicalRounds (dependenciesOf tasks) tasks.length [] (tasks.map (·.taskId))

section Rounds

variable {dependencies : String → List String} {rounds : Nat} {resolved pending : List String}

theorem mem_readyTasks {id : String} : id ∈ readyTasks dependencies resolved pending ↔
    id ∈ pending ∧ ∀ d ∈ dependencies id, d ∈ resolved := by
  simp [readyTasks]

theorem topologicalRounds_nil : topologicalRounds dependencies rounds resolved [] = .ok resolved := by
  cases rounds <;> rfl

theorem topologicalRounds_succ (h : pending ≠ []) :
    topologicalRounds dependencies (rounds + 1) resolved pending =
      if readyTasks dependencies resolved pending = [] then .error .cyclicPlan
      else topologicalRounds dependencies rounds
        (resolved ++ readyTasks dependencies resolved pending)
        (pending.filter (· ∉ readyTasks dependencies resolved pending)) := by
  cases pending with
  | nil => exact absurd rfl h
  | cons id pending => rfl

/-- A round with a ready task leaves fewer tasks pending. -/
theorem length_filter_readyTasks (h : readyTasks dependencies resolved pending ≠ []) :
    (pending.filter (· ∉ readyTasks dependencies resolved pending)).length < pending.length := by
  obtain ⟨id, hid⟩ := List.exists_mem_of_ne_nil _ h
  refine List.length_filter_lt_length_iff_exists.mpr ⟨id, (mem_readyTasks.mp hid).1, ?_⟩
  simpa using hid

/-- More rounds than pending tasks change nothing. -/
theorem topologicalRounds_enough (h : pending.length ≤ rounds) :
    topologicalRounds dependencies (rounds + 1) resolved pending =
      topologicalRounds dependencies rounds resolved pending := by
  induction rounds generalizing resolved pending with
  | zero =>
    obtain rfl : pending = [] := List.length_eq_zero_iff.mp (by omega)
    rfl
  | succ rounds ih =>
    by_cases hpending : pending = []
    · rw [hpending, topologicalRounds_nil, topologicalRounds_nil]
    · rw [topologicalRounds_succ hpending, topologicalRounds_succ hpending]
      split
      · rfl
      · rename_i hready
        have hless := length_filter_readyTasks hready
        exact ih (by omega)

/-- The ready tasks, followed by an order of the tasks that are still pending, are an order of all
pending tasks. -/
theorem readyTasks_append_perm {rest : List String}
    (h : rest.Perm (pending.filter (· ∉ readyTasks dependencies resolved pending))) :
    (readyTasks dependencies resolved pending ++ rest).Perm pending := by
  have hready : (readyTasks dependencies resolved pending).Perm
      (pending.filter fun id ↦ (dependencies id).all (· ∈ resolved)) :=
    List.perm_insertionSort _ _
  have hrest : pending.filter (· ∉ readyTasks dependencies resolved pending) =
      pending.filter fun id ↦ !(dependencies id).all (· ∈ resolved) := by
    refine List.filter_congr fun id hid ↦ Bool.eq_iff_iff.mpr ?_
    simp [mem_readyTasks, hid]
  rw [hrest] at h
  exact (hready.append h).trans (List.filter_append_perm _ _)

/-- **Rounds.** The rounds add the pending tasks to the resolved ones, each after all of its
dependencies. -/
theorem topologicalRounds_spec {order : List String}
    (h : topologicalRounds dependencies rounds resolved pending = .ok order) :
    ∃ rest, order = resolved ++ rest ∧ rest.Perm pending ∧
      ∀ pre id post, rest = pre ++ id :: post → ∀ d ∈ dependencies id, d ∈ resolved ++ pre := by
  induction rounds generalizing resolved pending with
  | zero =>
    cases pending with
    | nil =>
      rw [topologicalRounds_nil, Except.ok.injEq] at h
      exact ⟨[], by simp [h], .refl _, by simp⟩
    | cons id pending => simp [topologicalRounds] at h
  | succ rounds ih =>
    by_cases hpending : pending = []
    · rw [hpending, topologicalRounds_nil, Except.ok.injEq] at h
      exact ⟨[], by simp [h], by simp [hpending], by simp⟩
    · rw [topologicalRounds_succ hpending] at h
      split at h
      · simp at h
      · obtain ⟨rest, rfl, hperm, hbefore⟩ := ih h
        refine ⟨readyTasks dependencies resolved pending ++ rest, List.append_assoc .., 
          readyTasks_append_perm hperm, ?_⟩
        intro pre id post hsplit d hd
        -- The task is one of this round, or of a later one.
        rcases List.append_eq_append_iff.mp hsplit with ⟨more, rfl, hrest⟩ | ⟨more, hready, hrest⟩
        · simpa using hbefore more id post hrest d hd
        · cases more with
          | nil =>
            rw [List.append_nil] at hready
            have := hbefore [] id post hrest.symm d hd
            rwa [List.append_nil, hready] at this
          | cons x more =>
            obtain ⟨rfl, -⟩ := List.cons.inj hrest
            have hid : id ∈ readyTasks dependencies resolved pending := by simp [hready]
            exact List.mem_append_left _ ((mem_readyTasks.mp hid).2 d hd)

end Rounds

/-! ### Writers -/

/-- The ancestors of the tasks of an order: those of a task are its dependencies, and theirs. -/
def ancestorsOf (dependencies : String → List String) (order : List String) :
    List (String × List String) :=
  order.foldl (fun ancestors id ↦
    ancestors ++ [(id, dependencies id ++
      (dependencies id).flatMap fun d ↦ (ancestors.lookup d).getD [])]) []

/-- The tasks that write, in the given order. -/
def writersOf (tasks : List TaskSpec) (order : List String) : List String :=
  order.filter fun id ↦ tasks.any fun t ↦ t.taskId = id && t.isWriter

/-- `_validate_writer_order`: each writer has the writer before it among its ancestors. -/
def validateWriterOrder (tasks : List TaskSpec) : Contract Unit := do
  let order ← topologicalOrder tasks
  let ancestors := ancestorsOf (dependenciesOf tasks) order
  let writers := writersOf tasks order
  Checked.require
    ((writers.zip writers.tail).all fun (previous, current) ↦
      ((ancestors.lookup current).getD []).contains previous)
    PlanContractError.parallelWriterPlan

/-! ### Plans -/

/-- `EXECUTION_PLAN_SCHEMA`. -/
def executionPlanSchema : String := "blackcell.plan/v2"

/-- The sorted tasks of a plan: distinct, closed under dependencies, and with an order. -/
def IsTaskTuple (tasks : List TaskSpec) : Prop :=
  tasks.Pairwise (fun a b ↦ a.taskId ≤ b.taskId) ∧ (tasks.map (·.taskId)).Nodup ∧
    1 ≤ tasks.length ∧ tasks.length ≤ maxTasks ∧
    (∀ t ∈ tasks, ∀ d ∈ t.dependsOn, d ∈ tasks.map (·.taskId)) ∧
    (topologicalOrder tasks).isOk ∧ (validateWriterOrder tasks).isOk

instance (tasks : List TaskSpec) : Decidable (IsTaskTuple tasks) :=
  inferInstanceAs (Decidable (_ ∧ _ ∧ _ ∧ _ ∧ _ ∧ _ ∧ _))

/-- What the constructor of a plan demands of its other fields. -/
def Plan.Valid (planId goalId projectId intentId : String) (planRevision : Nat)
    (supersedesPlanId : Option String) (baseCommit draftDigest : String) : Prop :=
  (isPlanIdentifier planId ∧ isPlanIdentifier goalId ∧ isPlanIdentifier projectId ∧
    isPlanIdentifier intentId) ∧
  1 ≤ planRevision ∧ (planRevision = 1 ↔ supersedesPlanId = none) ∧
  (∀ previous ∈ supersedesPlanId, isPlanIdentifier previous ∧ previous ≠ planId) ∧
  isCommit baseCommit ∧ isHexDigest draftDigest

instance (planId goalId projectId intentId : String) (planRevision : Nat)
    (supersedesPlanId : Option String) (baseCommit draftDigest : String) :
    Decidable (Plan.Valid planId goalId projectId intentId planRevision supersedesPlanId baseCommit
      draftDigest) :=
  inferInstanceAs (Decidable (_ ∧ _ ∧ _ ∧ _ ∧ _ ∧ _))

/-- `Plan`. The schema version of every plan is `EXECUTION_PLAN_SCHEMA`. -/
@[ext]
structure Plan where
  planId : String
  goalId : String
  projectId : String
  intentId : String
  planRevision : Nat
  supersedesPlanId : Option String
  baseCommit : String
  draftDigest : String
  tasks : { tasks // IsTaskTuple tasks }
  valid : Plan.Valid planId goalId projectId intentId planRevision supersedesPlanId baseCommit
    draftDigest
  deriving DecidableEq

/-- `sorted(tasks, key=task_id)`. -/
def sortedTasks (tasks : List TaskSpec) : List TaskSpec :=
  tasks.insertionSort fun a b ↦ a.taskId ≤ b.taskId

namespace Plan

/-- The constructor. -/
def create (schemaVersion planId goalId projectId intentId : String) (planRevision : Nat)
    (supersedesPlanId : Option String) (baseCommit draftDigest : String) (tasks : List TaskSpec) :
    Contract Plan := do
  demand (schemaVersion = executionPlanSchema)
  if h : Valid planId goalId projectId intentId planRevision supersedesPlanId baseCommit
      draftDigest then
    let tasks := sortedTasks tasks
    demand (1 ≤ tasks.length ∧ tasks.length ≤ maxTasks ∧ (tasks.map (·.taskId)).Nodup ∧
      ∀ t ∈ tasks, ∀ d ∈ t.dependsOn, d ∈ tasks.map (·.taskId))
    let _ ← topologicalOrder tasks
    validateWriterOrder tasks
    let tasks ← Checked.certify IsTaskTuple tasks PlanContractError.invalidExecutionContract
    pure ⟨planId, goalId, projectId, intentId, planRevision, supersedesPlanId, baseCommit,
      draftDigest, tasks, h⟩
  else throw .invalidExecutionContract

/-- The constructor keeps its arguments, and sorts the tasks. -/
theorem create_eq_ok {schemaVersion planId goalId projectId intentId : String} {planRevision : Nat}
    {supersedesPlanId : Option String} {baseCommit draftDigest : String} {tasks : List TaskSpec}
    {p : Plan} (h : create schemaVersion planId goalId projectId intentId planRevision
      supersedesPlanId baseCommit draftDigest tasks = .ok p) :
    (p.planId = planId ∧ p.goalId = goalId ∧ p.projectId = projectId ∧ p.intentId = intentId) ∧
      p.planRevision = planRevision ∧ p.supersedesPlanId = supersedesPlanId ∧
      p.baseCommit = baseCommit ∧ p.draftDigest = draftDigest ∧ p.tasks.1 = sortedTasks tasks := by
  simp only [create, Checked.bind_eq_ok, demand_eq_ok, Checked.exists_unit] at h
  obtain ⟨-, h⟩ := h
  split at h
  · simp only [Checked.bind_eq_ok, demand_eq_ok, Checked.exists_unit, Checked.certify_eq_ok,
      Checked.pure_eq_ok] at h
    obtain ⟨-, -, -, -, r, hr, rfl⟩ := h
    exact ⟨⟨rfl, rfl, rfl, rfl⟩, rfl, rfl, rfl, rfl, hr⟩
  · exact absurd h (by simp)

/-- `topological_order`. -/
def topologicalOrder (p : Plan) : List String :=
  match ExecutionPlan.topologicalOrder p.tasks.1 with
  | .ok order => order
  | .error _ => []

theorem topologicalOrder_eq_ok (p : Plan) :
    ExecutionPlan.topologicalOrder p.tasks.1 = .ok p.topologicalOrder := by
  have h := p.tasks.2.2.2.2.2.2.1
  unfold topologicalOrder
  cases ho : ExecutionPlan.topologicalOrder p.tasks.1 with
  | ok order => rfl
  | error e => rw [ho] at h; cases h

/-- The order holds each task of the plan once. -/
theorem topologicalOrder_perm (p : Plan) :
    p.topologicalOrder.Perm (p.tasks.1.map (·.taskId)) := by
  obtain ⟨rest, horder, hperm, -⟩ := topologicalRounds_spec p.topologicalOrder_eq_ok
  rw [horder, List.nil_append]
  exact hperm

/-- **Order.** Each task of the order comes after its dependencies. -/
theorem dependsOn_before (p : Plan) {pre post : List String} {id : String}
    (h : p.topologicalOrder = pre ++ id :: post) {d : String}
    (hd : d ∈ dependenciesOf p.tasks.1 id) : d ∈ pre := by
  obtain ⟨rest, horder, -, hbefore⟩ := topologicalRounds_spec p.topologicalOrder_eq_ok
  rw [horder, List.nil_append] at h
  exact hbefore pre id post h d hd

/-- `by_id[task_id]`: the task of the plan with an identifier. -/
def byId (p : Plan) (taskId : String) : Option TaskSpec :=
  p.tasks.1.find? fun t ↦ t.taskId = taskId

theorem byId_eq_some {p : Plan} {t : TaskSpec} (ht : t ∈ p.tasks.1) : p.byId t.taskId = some t := by
  obtain ⟨t', ht'⟩ := Option.isSome_iff_exists.mp
    (List.find?_isSome.mpr ⟨t, ht, decide_eq_true rfl⟩ :
      (p.tasks.1.find? fun x ↦ x.taskId = t.taskId).isSome)
  have hid : t'.taskId = t.taskId := by simpa using List.find?_some ht'
  rw [byId, ht', List.inj_on_of_nodup_map p.tasks.2.2.1 (List.mem_of_find?_eq_some ht') ht hid]

theorem dependenciesOf_eq {p : Plan} {t : TaskSpec} (ht : t ∈ p.tasks.1) :
    dependenciesOf p.tasks.1 t.taskId = t.dependsOn := by
  have h := byId_eq_some ht
  unfold byId at h
  rw [dependenciesOf, h]
  rfl

end Plan

/-- `plan_payload`. -/
def planPayload (plan : Plan) : JsonValue :=
  .object [
    ("schema_version", .str executionPlanSchema),
    ("plan_id", .str plan.planId),
    ("goal_id", .str plan.goalId),
    ("project_id", .str plan.projectId),
    ("intent_id", .str plan.intentId),
    ("plan_version", .int plan.planRevision),
    ("supersedes_plan_id", .ofText? plan.supersedesPlanId),
    ("base_commit", .str plan.baseCommit),
    ("draft_digest", .str plan.draftDigest),
    ("tasks", .list (plan.tasks.1.map (·.payload))),
    ("topological_order", .ofTexts plan.topologicalOrder)]

/-- `plan_digest`. -/
def Plan.planDigest (H : Host) (plan : Plan) : String := H.jsonDigest (planPayload plan)

/-- `plan_from_payload`: reconstruct and revalidate a plan from durable event content. -/
def planFromPayload (value : JsonValue) : Contract Plan := do
  let raw ← mapping value
  demand (raw.exact ["schema_version", "plan_id", "goal_id", "project_id", "intent_id",
    "plan_version", "supersedes_plan_id", "base_commit", "draft_digest", "tasks",
    "topological_order"])
  let items ← sequence (raw.get "tasks")
  let tasks ← items.mapM TaskSpec.ofPayload
  let supersedes := raw.get "supersedes_plan_id"
  demand (supersedes = .null ∨ supersedes.text?.isSome)
  let schemaVersion ← mappingText raw "schema_version"
  let planId ← mappingText raw "plan_id"
  let goalId ← mappingText raw "goal_id"
  let projectId ← mappingText raw "project_id"
  let intentId ← mappingText raw "intent_id"
  let planRevision ← mappingInteger raw "plan_version"
  let baseCommit ← mappingText raw "base_commit"
  let draftDigest ← mappingText raw "draft_digest"
  let plan ← Plan.create schemaVersion planId goalId projectId intentId planRevision
    supersedes.text? baseCommit draftDigest tasks
  let order ← textSequence (raw.get "topological_order")
  demand (order = plan.topologicalOrder)
  pure plan

theorem text?_ofText? (s : Option String) : (JsonValue.ofText? s).text? = s := by
  cases s <;> rfl

/-- **Reading a plan back.** A plan whose payload is admitted is read as itself. The payload of a
plan is refused when a token of a command is blank, or a path is `.` without its trailing slash,
which the constructors allow. -/
theorem planFromPayload_planPayload {plan r : Plan}
    (h : planFromPayload (planPayload plan) = .ok r) : r = plan := by
  simp only [planFromPayload, planPayload, mapping, JsonValue.fields?, Checked.ofOption_some,
    Checked.ok_bind, Checked.bind_eq_ok, demand_eq_ok, Checked.exists_unit, mappingText,
    text_eq_ok, mappingInteger_eq_ok, sequence_eq_ok, Checked.pure_eq_ok] at h
  simp only [Mapping.get_cons, reduceIte, String.reduceEq, JsonValue.str.injEq,
    JsonValue.int.injEq, Int.natCast_inj, JsonValue.list.injEq, text?_ofText?] at h
  obtain ⟨-, _, rfl, tasks, htasks, -, _, -, h⟩ := h
  obtain ⟨_, ⟨rfl, -⟩, _, ⟨rfl, -⟩, _, ⟨rfl, -⟩, h⟩ := h
  obtain ⟨_, ⟨rfl, -⟩, _, rfl, _, ⟨rfl, -⟩, h⟩ := h
  obtain ⟨_, ⟨rfl, -⟩, p, hp, -, -, -, rfl⟩ := h
  obtain rfl := Checked.eq_of_mapM_map (fun _ _ ↦ TaskSpec.ofPayload_payload) htasks
  obtain ⟨⟨hplan, hgoal, hproject, hintent⟩, hrevision, hsupersedes, hbase, hdraft, htasks⟩ :=
    Plan.create_eq_ok hp
  have hsorted : sortedTasks plan.tasks.1 = plan.tasks.1 := plan.tasks.2.1.insertionSort_eq
  exact Plan.ext hplan hgoal hproject hintent hrevision hsupersedes hbase hdraft
    (Subtype.ext (htasks.trans hsorted))

/-! ### The compiler -/

/-- `EXECUTION_PLAN_DRAFT_SCHEMA`. -/
def executionPlanDraftSchema : String := "blackcell.plan-draft/v1"

/-- `_compile_task`. -/
def compileTask (goal : GoalSpec) (value : JsonValue) : Contract TaskSpec := do
  let raw ← mapping value
  demand (raw.exact ["task_id", "objective", "depends_on", "allowed_paths", "checks"])
  let rawDependencies ← sequence (raw.get "depends_on")
  let rawPaths ← sequence (raw.get "allowed_paths")
  let rawChecks ← sequence (raw.get "checks")
  demand (rawPaths.length ≤ maxPaths ∧ 1 ≤ rawChecks.length ∧ rawChecks.length ≤ maxChecks)
  let paths ← rawPaths.mapM text
  Checked.require (∀ p ∈ paths, p ∈ goal.allowedPaths.1) PlanContractError.planPathOutsideGoal
  let checkIds ← rawChecks.mapM text
  demand checkIds.Nodup
  let checks ← checkIds.mapM fun checkId ↦
    Checked.ofOption (goal.verificationChecks.1.find? fun c ↦ c.checkId = checkId)
      PlanContractError.planCheckOutsideGoal
  let taskId ← text (raw.get "task_id")
  let objective ← text (raw.get "objective")
  let dependsOn ← rawDependencies.mapM text
  TaskSpec.create taskId objective dependsOn paths checks goal.maxAttempts

/-- The first 32 digits of a digest. -/
def shortDigest (digest : String) : String :=
  String.ofList ((withoutDigestPrefix digest).toList.take 32)

/-- The digest that identifies a plan. -/
def planIdentity (H : Host) (goal : GoalSpec) (revision : Nat) (supersedes : Option String)
    (draftDigest : String) (tasks : List TaskSpec) : String :=
  H.jsonDigest (.object [
    ("goal_digest", .str (goal.digest H)),
    ("plan_version", .int revision),
    ("supersedes_plan_id", .ofText? supersedes),
    ("draft_digest", .str draftDigest),
    ("task_digests", .ofTexts (tasks.map (·.taskDigest H)))])

/-- `compile_plan`: compile an untrusted provider draft into a plan revision. -/
def compilePlan (H : Host) (goal : GoalSpec) (draft : Mapping) (previous : Option Plan) :
    Contract Plan := do
  demand (draft.exact ["schema_version", "tasks"] ∧
    draft.get "schema_version" = .str executionPlanDraftSchema)
  let rawTasks ← sequence (draft.get "tasks")
  demand (1 ≤ rawTasks.length ∧ rawTasks.length ≤ maxTasks)
  let tasks ← rawTasks.mapM (compileTask goal)
  let covered := tasks.flatMap fun t ↦ t.checks.1.map (·.checkId)
  let required := goal.verificationChecks.1.map (·.checkId)
  Checked.require ((∀ c ∈ covered, c ∈ required) ∧ ∀ c ∈ required, c ∈ covered)
    PlanContractError.planCheckCoverageIncomplete
  let draftDigest := H.jsonDigest (.object draft)
  Checked.require
    (∀ p ∈ previous, p.goalId = goal.goalId ∧ p.projectId = goal.projectId ∧
      p.intentId = goal.intentId ∧ p.baseCommit = goal.baseCommit)
    PlanContractError.invalidPlanLineage
  let revision := match previous with
    | none => 1
    | some p => p.planRevision + 1
  let supersedes := previous.map (·.planId)
  let identity := planIdentity H goal revision supersedes draftDigest tasks
  Plan.create executionPlanSchema ("plan-" ++ shortDigest identity) goal.goalId goal.projectId
    goal.intentId revision supersedes goal.baseCommit draftDigest tasks

section Compiled

variable {H : Host} {goal : GoalSpec}

/-- A compiled task stays within the paths of the goal, and has its attempts. -/
theorem compileTask_within {value : JsonValue} {task : TaskSpec}
    (h : compileTask goal value = .ok task) :
    (∀ p ∈ task.allowedPaths.1, p ∈ goal.allowedPaths.1) ∧ task.maxAttempts = goal.maxAttempts := by
  simp only [compileTask, Checked.bind_eq_ok, demand_eq_ok, Checked.require_eq_ok,
    Checked.exists_unit] at h
  obtain ⟨_, -, -, _, -, _, -, _, -, -, paths, -, hgoal, _, -, -, _, -, _, -, _, -, _, -, h⟩ := h
  obtain ⟨-, -, -, hpaths, -, hattempts⟩ := TaskSpec.create_eq_ok h
  refine ⟨fun p hp ↦ ?_, hattempts⟩
  obtain ⟨q, hq, rfl⟩ := mem_of_pathTuple hpaths hp
  rw [goal.allowedPaths.2.2.2 q (hgoal q hq)]
  exact hgoal q hq

/-- **Compiled plans.** The tasks of a compiled plan are compiled for its goal, whose base it has. -/
theorem compilePlan_within {draft : Mapping} {previous : Option Plan} {plan : Plan}
    (h : compilePlan H goal draft previous = .ok plan) :
    plan.baseCommit = goal.baseCommit ∧
      ∀ task ∈ plan.tasks.1, ∃ value, compileTask goal value = .ok task := by
  simp only [compilePlan, Checked.bind_eq_ok, demand_eq_ok, Checked.require_eq_ok,
    Checked.exists_unit] at h
  obtain ⟨-, rawTasks, -, -, tasks, htasks, -, -, h⟩ := h
  obtain ⟨-, -, -, hbase, -, hsorted⟩ := Plan.create_eq_ok h
  refine ⟨hbase, fun task hmem ↦ ?_⟩
  rw [hsorted, sortedTasks, List.mem_insertionSort] at hmem
  obtain ⟨value, -, hvalue⟩ := Checked.exists_of_mem_mapM htasks hmem
  exact ⟨value, hvalue⟩

end Compiled

end Blackcell.Orchestration.ExecutionPlan
