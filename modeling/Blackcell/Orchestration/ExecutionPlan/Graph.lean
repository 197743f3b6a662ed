import Blackcell.Foundation.Topological
import Blackcell.Orchestration.ExecutionPlan.Plan

/-!
# The graphs of compiled plans

The checks of `Plan` on the graph of its tasks. `_topological_order` resolves the tasks in rounds,
and `_validate_writer_order` computes the ancestors of each task of the order and compares the
writers with their predecessors. Together they admit exactly the acyclic graphs in which any two
tasks that write are comparable.

## Main definitions

* `TaskDependsOn`, `TaskWrites` : the graph of the tasks.

## Main results

* `topologicalOrder_isOk_iff` : the order exists exactly if the graph is acyclic.
* `validateWriterOrder_eq_ok_iff` : the writers are compared as they should be.
* `Plan.exists_create_iff` : the tasks that a plan may have.
-/

namespace Blackcell.Orchestration.ExecutionPlan

open Relation

/-- A task of the list names another one as a dependency. -/
def TaskDependsOn (tasks : List TaskSpec) (a b : String) : Prop :=
  ∃ t ∈ tasks, t.taskId = a ∧ b ∈ t.dependsOn

/-- A task of the list has paths to write to. -/
def TaskWrites (tasks : List TaskSpec) (a : String) : Prop :=
  ∃ t ∈ tasks, t.taskId = a ∧ t.allowedPaths.1 ≠ []

section Rounds

variable {dependencies : String → List String} {resolved pending : List String} {rounds : Nat}

/-- **Enough rounds.** The rounds resolve all tasks, when none of them depends on itself. -/
theorem exists_topologicalRounds (hacyclic : IsAcyclic (Needs dependencies))
    (hclosed : ∀ a ∈ pending, ∀ d ∈ dependencies a, d ∈ resolved ∨ d ∈ pending)
    (hrounds : pending.length ≤ rounds) :
    ∃ order, topologicalRounds dependencies rounds resolved pending = .ok order := by
  induction rounds generalizing resolved pending with
  | zero =>
    obtain rfl : pending = [] := List.length_eq_zero_iff.mp (by omega)
    exact ⟨resolved, topologicalRounds_nil⟩
  | succ rounds ih =>
    by_cases hpending : pending = []
    · rw [hpending]
      exact ⟨resolved, topologicalRounds_nil⟩
    · -- A first pending task waits for no other one, so the round has a ready task.
      obtain ⟨a, ha⟩ := List.exists_mem_of_ne_nil _ hpending
      obtain ⟨m, hm, -, hfirst⟩ :=
        hacyclic.swap.exists_minimal pending (fun _ ↦ True) ⟨a, ha, trivial⟩
      have hmem : m ∈ readyTasks dependencies resolved pending :=
        mem_readyTasks.mpr ⟨hm, fun d hd ↦
          (hclosed m hm d hd).resolve_right fun hd' ↦ hfirst d hd' hd trivial⟩
      have hready := List.ne_nil_of_mem hmem
      have hless := length_filter_readyTasks hready
      rw [topologicalRounds_succ hpending, if_neg hready]
      refine ih (fun b hb d hd ↦ ?_) (by omega)
      have hb := (List.mem_filter.mp hb).1
      rw [List.mem_append, List.mem_filter, decide_eq_true_eq]
      have hcases := hclosed b hb d hd
      tauto

end Rounds

section Graph

variable {tasks : List TaskSpec}

theorem mem_dependenciesOf (hnodup : (tasks.map (·.taskId)).Nodup) {a b : String} :
    b ∈ dependenciesOf tasks a ↔ TaskDependsOn tasks a b := by
  unfold dependenciesOf TaskDependsOn
  constructor
  · intro h
    cases ht : tasks.find? fun t ↦ t.taskId = a with
    | none => simp [ht] at h
    | some t =>
      exact ⟨t, List.mem_of_find?_eq_some ht, by simpa using List.find?_some ht,
        by simpa [ht] using h⟩
  · rintro ⟨t, ht, rfl, hb⟩
    obtain ⟨t', ht'⟩ := Option.isSome_iff_exists.mp
      (List.find?_isSome.mpr ⟨t, ht, decide_eq_true rfl⟩ :
        (tasks.find? fun x ↦ x.taskId = t.taskId).isSome)
    have hid : t'.taskId = t.taskId := by simpa using List.find?_some ht'
    have hsame : t' = t :=
      List.inj_on_of_nodup_map hnodup (List.mem_of_find?_eq_some ht') ht hid
    simpa [ht', hsame] using hb

theorem needs_eq (hnodup : (tasks.map (·.taskId)).Nodup) :
    Needs (dependenciesOf tasks) = TaskDependsOn tasks := by
  ext a b
  exact mem_dependenciesOf hnodup

/-- The order is one of all tasks, each after its dependencies. -/
theorem topologicalOrder_spec {order : List String} (h : topologicalOrder tasks = .ok order) :
    order.Perm (tasks.map (·.taskId)) ∧ IsTopological (dependenciesOf tasks) order := by
  obtain ⟨rest, rfl, hperm, hbefore⟩ := topologicalRounds_spec h
  exact ⟨hperm, fun pre a post hsplit d hd ↦ hbefore pre a post hsplit d hd⟩

/-- **The order.** The tasks have an order exactly if none depends on itself, in one or more
steps. -/
theorem exists_topologicalOrder_iff (hnodup : (tasks.map (·.taskId)).Nodup)
    (hclosed : ∀ a b, TaskDependsOn tasks a b → b ∈ tasks.map (·.taskId)) :
    (∃ order, topologicalOrder tasks = .ok order) ↔ IsAcyclic (TaskDependsOn tasks) := by
  rw [← needs_eq hnodup] at hclosed ⊢
  constructor
  · rintro ⟨order, horder⟩
    obtain ⟨hperm, htopological⟩ := topologicalOrder_spec horder
    refine htopological.isAcyclic (hperm.nodup_iff.mpr hnodup) fun a ha ↦ ?_
    obtain ⟨b, hb⟩ := List.exists_mem_of_ne_nil _ ha
    obtain ⟨t, ht, rfl, -⟩ := (mem_dependenciesOf hnodup).mp hb
    exact hperm.mem_iff.mpr (List.mem_map_of_mem ht)
  · intro hacyclic
    exact exists_topologicalRounds hacyclic (fun a _ d hd ↦ .inr (hclosed a d hd))
      (by rw [List.length_map])

/-! ### Writers -/

/-- The table of an order knows the ancestors of all its tasks. -/
theorem ancestors_foldl {dependencies : String → List String} {pre order : List String}
    {table : List (String × List String)} (htable : Ancestors dependencies table pre)
    (hkeys : ∀ a, a ∉ pre → table.lookup a = none)
    (horder : IsTopological dependencies (pre ++ order)) (hnodup : (pre ++ order).Nodup) :
    Ancestors dependencies (order.foldl (fun ancestors id ↦
      ancestors ++ [(id, dependencies id ++
        (dependencies id).flatMap fun d ↦ (ancestors.lookup d).getD [])]) table) (pre ++ order) := by
  induction order generalizing pre table with
  | nil => rwa [List.append_nil]
  | cons id order ih =>
    have hknown : ∀ d ∈ dependencies id, d ∈ pre := horder pre id order rfl
    have hnew : id ∉ pre := fun hmem ↦
      (List.nodup_append.mp hnodup).2.2 id hmem id List.mem_cons_self rfl
    have hancestors : ∀ b, (b ∈ dependencies id ++
        (dependencies id).flatMap fun d ↦ (table.lookup d).getD []) ↔
        TransGen (Needs dependencies) id b := by
      intro b
      rw [← htable.mem_iff hknown, List.mem_append, List.mem_flatMap]
      refine or_congr_right (exists_congr fun d ↦ and_congr_right fun hd ↦ ?_)
      obtain ⟨l, hl, -⟩ := htable d (hknown d hd)
      simp [hl]
    rw [show pre ++ id :: order = (pre ++ [id]) ++ order by simp] at horder hnodup ⊢
    refine ih (htable.extend (fun b hb ↦ ?_) ?_ hancestors) (fun a ha ↦ ?_) horder hnodup
    · obtain ⟨l, hl, -⟩ := htable b hb
      rw [List.lookup_append, hl, Option.some_or]
    · rw [List.lookup_append, hkeys id hnew, Option.none_or, List.lookup_cons_self]
    · rw [List.mem_append, not_or, List.mem_singleton] at ha
      rw [List.lookup_append, hkeys a ha.1, Option.none_or]
      simpa using ha.2

/-- A comparison of all neighbours is one along the list. -/
theorem all_zip_tail_iff {α : Type} {r : α → α → Bool} {l : List α} :
    ((l.zip l.tail).all fun (a, b) ↦ r a b) = true ↔ l.IsChain fun a b ↦ r a b = true := by
  induction l with
  | nil => simp
  | cons a l ih =>
    cases l with
    | nil => simp
    | cons b l => simpa using fun _ ↦ by simpa using ih

/-- **Writers.** The order of the writers is admitted exactly if any two of them are comparable. -/
theorem validateWriterOrder_eq_ok_iff (hnodup : (tasks.map (·.taskId)).Nodup) {order : List String}
    (horder : topologicalOrder tasks = .ok order) :
    validateWriterOrder tasks = .ok ⟨⟩ ↔
      ∀ a ∈ tasks.map (·.taskId), ∀ b ∈ tasks.map (·.taskId), TaskWrites tasks a →
        TaskWrites tasks b → a ≠ b →
          TransGen (TaskDependsOn tasks) a b ∨ TransGen (TaskDependsOn tasks) b a := by
  obtain ⟨hperm, htopological⟩ := topologicalOrder_spec horder
  have hdistinct := hperm.nodup_iff.mpr hnodup
  have hknows : Ancestors (dependenciesOf tasks) (ancestorsOf (dependenciesOf tasks) order) order :=
    ancestors_foldl .nil (fun _ _ ↦ rfl) htopological hdistinct
  have hwrites : ∀ a, (tasks.any fun t ↦ t.taskId = a && t.isWriter) = true ↔ TaskWrites tasks a := by
    intro a
    simp [TaskWrites, TaskSpec.isWriter]
  have hneighbours : ∀ a ∈ writersOf tasks order, ∀ b ∈ writersOf tasks order,
      ((((ancestorsOf (dependenciesOf tasks) order).lookup b).getD []).contains a = true ↔
        TransGen (TaskDependsOn tasks) b a) := by
    intro a _ b hb
    obtain ⟨l, hl, hmem⟩ := hknows b (List.mem_filter.mp hb).1
    rw [hl, Option.getD_some, List.contains_iff_mem, hmem, needs_eq hnodup]
  have hcomparable := htopological.isChain_iff hdistinct
    fun id ↦ tasks.any fun t ↦ t.taskId = id && t.isWriter
  rw [needs_eq hnodup] at hcomparable
  simp only [hwrites, hperm.mem_iff] at hcomparable
  rw [← hcomparable]
  simp only [validateWriterOrder, horder, Checked.ok_bind, Checked.require_eq_ok]
  exact all_zip_tail_iff.trans (List.IsChain.iff_of_mem_imp fun a b ha hb ↦ hneighbours a ha b hb)

end Graph

/-! ### Plans -/

section Plans

variable {tasks tasks' : List TaskSpec}

/-- Comparing tasks by their identifiers is total. -/
instance : Std.Total fun a b : TaskSpec ↦ a.taskId ≤ b.taskId :=
  ⟨fun a b ↦ le_total a.taskId b.taskId⟩

instance : IsTrans TaskSpec fun a b ↦ a.taskId ≤ b.taskId :=
  ⟨fun _ _ _ ↦ le_trans⟩

theorem sortedTasks_perm : (sortedTasks tasks).Perm tasks := List.perm_insertionSort _ _

theorem pairwise_sortedTasks : (sortedTasks tasks).Pairwise fun a b ↦ a.taskId ≤ b.taskId :=
  List.pairwise_insertionSort _ _

/-- The graph of the tasks does not depend on their order. -/
theorem writersOrdered_congr (h : tasks.Perm tasks') :
    WritersOrdered (TaskDependsOn tasks) (tasks.map (·.taskId)) (TaskWrites tasks) ↔
      WritersOrdered (TaskDependsOn tasks') (tasks'.map (·.taskId)) (TaskWrites tasks') := by
  have hdepends : TaskDependsOn tasks = TaskDependsOn tasks' := by
    ext a b
    simp only [TaskDependsOn, h.mem_iff]
  have hwrites : TaskWrites tasks = TaskWrites tasks' := by
    ext a
    simp only [TaskWrites, h.mem_iff]
  have hids : ∀ a, a ∈ tasks.map (·.taskId) ↔ a ∈ tasks'.map (·.taskId) := fun a ↦
    (h.map _).mem_iff
  rw [hdepends, hwrites]
  constructor
  · rintro ⟨hclosed, hacyclic, hcomparable⟩
    exact ⟨fun a b hab ↦ (hids b).mp (hclosed a b hab), hacyclic,
      fun a ha b hb ↦ hcomparable a ((hids a).mpr ha) b ((hids b).mpr hb)⟩
  · rintro ⟨hclosed, hacyclic, hcomparable⟩
    exact ⟨fun a b hab ↦ (hids b).mpr (hclosed a b hab), hacyclic,
      fun a ha b hb ↦ hcomparable a ((hids a).mp ha) b ((hids b).mp hb)⟩

/-- The checks of the constructor on the graph of distinct tasks. -/
theorem graph_checks_iff (hnodup : (tasks.map (·.taskId)).Nodup) :
    ((∀ t ∈ tasks, ∀ d ∈ t.dependsOn, d ∈ tasks.map (·.taskId)) ∧
      (∃ order, topologicalOrder tasks = .ok order) ∧ validateWriterOrder tasks = .ok ⟨⟩) ↔
    WritersOrdered (TaskDependsOn tasks) (tasks.map (·.taskId)) (TaskWrites tasks) := by
  have hclosed : (∀ t ∈ tasks, ∀ d ∈ t.dependsOn, d ∈ tasks.map (·.taskId)) ↔
      ∀ a b, TaskDependsOn tasks a b → b ∈ tasks.map (·.taskId) := by
    constructor
    · rintro h a b ⟨t, ht, -, hb⟩
      exact h t ht b hb
    · exact fun h t ht d hd ↦ h t.taskId d ⟨t, ht, rfl, hd⟩
  rw [hclosed]
  constructor
  · rintro ⟨hclosed, ⟨order, horder⟩, hwriters⟩
    exact ⟨hclosed, (exists_topologicalOrder_iff hnodup hclosed).mp ⟨order, horder⟩,
      (validateWriterOrder_eq_ok_iff hnodup horder).mp hwriters⟩
  · rintro ⟨hclosed, hacyclic, hcomparable⟩
    obtain ⟨order, horder⟩ := (exists_topologicalOrder_iff hnodup hclosed).mpr hacyclic
    exact ⟨hclosed, ⟨order, horder⟩,
      (validateWriterOrder_eq_ok_iff hnodup horder).mpr hcomparable⟩

namespace Plan

/-- **Plans.** The constructor accepts from one to sixty-four distinct tasks, with valid other
fields, exactly if their graph is an intended one. -/
theorem exists_create_iff {schemaVersion planId goalId projectId intentId : String}
    {planRevision : Nat} {supersedesPlanId : Option String} {baseCommit draftDigest : String} :
    (∃ p, create schemaVersion planId goalId projectId intentId planRevision supersedesPlanId
        baseCommit draftDigest tasks = .ok p) ↔
      (schemaVersion = executionPlanSchema ∧ Valid planId goalId projectId intentId planRevision
          supersedesPlanId baseCommit draftDigest ∧
        1 ≤ tasks.length ∧ tasks.length ≤ maxTasks ∧ (tasks.map (·.taskId)).Nodup) ∧
      WritersOrdered (TaskDependsOn tasks) (tasks.map (·.taskId)) (TaskWrites tasks) := by
  have hperm : (sortedTasks tasks).Perm tasks := sortedTasks_perm
  have hids : ((sortedTasks tasks).map (·.taskId)).Nodup ↔ (tasks.map (·.taskId)).Nodup :=
    (hperm.map _).nodup_iff
  rw [← hids, ← hperm.length_eq, ← writersOrdered_congr hperm]
  simp only [create, Checked.bind_eq_ok, demand_eq_ok, Checked.exists_unit]
  constructor
  · rintro ⟨p, hschema, h⟩
    split at h
    · rename_i hvalid
      simp only [Checked.bind_eq_ok, demand_eq_ok, Checked.exists_unit] at h
      obtain ⟨⟨hpositive, hmax, hnodup, hclosed⟩, order, horder, hwriters, -⟩ := h
      exact ⟨⟨hschema, hvalid, hpositive, hmax, hnodup⟩,
        (graph_checks_iff hnodup).mp ⟨hclosed, ⟨order, horder⟩, hwriters⟩⟩
    · exact absurd h (by simp)
  · rintro ⟨⟨hschema, hvalid, hpositive, hmax, hnodup⟩, hgraph⟩
    obtain ⟨hclosed, ⟨order, horder⟩, hwriters⟩ := (graph_checks_iff hnodup).mpr hgraph
    have htuple : IsTaskTuple (sortedTasks tasks) :=
      ⟨pairwise_sortedTasks, hnodup, hpositive, hmax, hclosed, by rw [horder]; rfl,
        by rw [hwriters]; rfl⟩
    simp only [dif_pos hvalid, Checked.bind_eq_ok, demand_eq_ok, Checked.exists_unit,
      Checked.pure_eq_ok]
    exact ⟨_, hschema, ⟨hpositive, hmax, hnodup, hclosed⟩, order, horder, hwriters,
      ⟨sortedTasks tasks, htuple⟩, Checked.certify_eq_ok.mpr rfl, rfl⟩

/-- Each task of the order comes after its dependencies. -/
theorem before_of_mem_dependsOn {p : Plan} {t : TaskSpec} (ht : t ∈ p.tasks.1)
    {pre post : List String} (h : p.topologicalOrder = pre ++ t.taskId :: post) {d : String}
    (hd : d ∈ t.dependsOn) : d ∈ pre :=
  p.dependsOn_before h (dependenciesOf_eq ht ▸ hd)

end Plan

end Plans

end Blackcell.Orchestration.ExecutionPlan
