import Blackcell.Orchestration.ExecutionRuntime.Runs
import Blackcell.Orchestration.ExecutionRuntime.Sound

/-!
# The lineage of commits

The base of an attempt is the one head of the direct dependencies of its task. That it also descends
from the heads of the other tasks that the task depends on is a matter of the history: a dependency
had succeeded when its dependent was made ready, it does not change after that, and its head descends
from the base that its own attempt was started on.

Commits and their parents are outside of this code: a relation on commits stands for them, and the
assumption of this file is that an attempt that succeeds records a head that descends from its base.

## Main definitions

* `startedOn` : the base that the latest attempt of a task was started on, under the current plan.
* `Honest` : the head of an attempt that succeeds descends from the base of the attempt.
* `Grounded` : what a task that is on its way says about the tasks it depends on.

## Main results

* `base_descends` : an attempt is started on a base that descends from all earlier work it needs.
-/

namespace Blackcell.Orchestration.ExecutionRuntime

open Blackcell.Kernel Blackcell.Gateway Blackcell.Orchestration.ExecutionPlan

/-! ### Bases of attempts -/

/-- The base that the latest attempt of a task was started on since the latest plan was admitted. -/
def baseAfter (taskId : String) (base : Option String) (e : EventEnvelope) : Option String :=
  match executionEventType? e with
  | some .planAdmitted => none
  | some .taskStarted =>
    if e.payload.get "task_id" = .str taskId then (e.payload.get "base_commit").text? else base
  | _ => base

/-- The base that the latest attempt of a task was started on, under the current plan. -/
def startedOn (E : List EventEnvelope) (taskId : String) : Option String :=
  E.foldl (baseAfter taskId) none

/-- A commit descends from another one, or is the same: its ancestors are reached by `parent`. -/
def Descends (parent : String → String → Prop) : String → String → Prop :=
  Relation.ReflTransGen parent

/-- **Honest histories.** The head that is recorded for an attempt that succeeded descends from the
base that the attempt was started on. -/
def Honest (parent : String → String → Prop) (E : List EventEnvelope) : Prop :=
  ∀ E₁ e E₂, E = E₁ ++ e :: E₂ → executionEventType? e = some .taskVerified →
    e.payload.get "route" = .str (StrEnum.value AttemptRoute.succeeded) →
    ∀ taskId base head, e.payload.get "task_id" = .str taskId → startedOn E₁ taskId = some base →
      e.payload.get "head_commit" = .str head → Descends parent head base

section Bases

variable {parent : String → String → Prop} {E E' : List EventEnvelope} {e : EventEnvelope}
  {taskId : String}

theorem startedOn_append : startedOn (E ++ [e]) taskId = baseAfter taskId (startedOn E taskId) e := by
  simp [startedOn]

theorem baseAfter_of_ne {base : Option String} (hplan : executionEventType? e ≠ some .planAdmitted)
    (hstart : executionEventType? e = some .taskStarted → e.payload.get "task_id" ≠ .str taskId) :
    baseAfter taskId base e = base := by
  unfold baseAfter
  split
  · exact absurd ‹_› hplan
  · rw [if_neg (hstart ‹_›)]
  · rfl

/-- The base of an attempt is recorded where the attempt is started. -/
theorem exists_of_startedOn {base : String} (h : startedOn E taskId = some base) :
    ∃ e ∈ E, executionEventType? e = some .taskStarted ∧
      e.payload.get "base_commit" = .str base := by
  induction E using List.reverseRecOn with
  | nil => cases h
  | append_singleton E e ih =>
    rw [startedOn_append, baseAfter] at h
    have hearlier : startedOn E taskId = some base → ∃ x ∈ E ++ [e],
        executionEventType? x = some .taskStarted ∧ x.payload.get "base_commit" = .str base := by
      intro hbase
      obtain ⟨x, hx, hrest⟩ := ih hbase
      exact ⟨x, List.mem_append_left _ hx, hrest⟩
    split at h
    · cases h
    · rename_i htype
      split at h
      · exact ⟨e, by simp, htype, JsonValue.text?_eq_some.mp h⟩
      · exact hearlier h
    · exact hearlier h

theorem Honest.of_append (h : Honest parent (E ++ E')) : Honest parent E := by
  intro E₁ e E₂ hsplit
  exact h E₁ e (E₂ ++ E') (by simp [hsplit])

end Bases

/-! ### Grounded tasks -/

/-- The status of a task whose dependencies have been checked. -/
def isUnderway : TaskLifecycleStatus → Bool
  | .ready | .running | .verifying | .succeeded => true
  | _ => false

/-- The status of a task whose latest attempt has been started, and has not failed. -/
def isStarted : TaskLifecycleStatus → Bool
  | .running | .verifying | .succeeded => true
  | _ => false

/-- **Grounded tasks.** The dependencies of a task that is under way have succeeded; the base of its
latest attempt is the head of each of them; and the head of a task that succeeded descends from the
base of its attempt. -/
structure Grounded (parent : String → String → Prop) (E : List EventEnvelope)
    (s : ExecutionRunState) (t : ExecutionTaskState) : Prop where
  satisfied : isUnderway t.status → ∀ d ∈ t.dependsOn, ∃ t', s.find d = some t' ∧
    t'.status = .succeeded
  base : isStarted t.status → ∃ base, startedOn E t.taskId = some base ∧
    ∀ d ∈ t.dependsOn, ∃ t', s.find d = some t' ∧ t'.headCommit = some base
  head : t.status = .succeeded → ∃ base head, startedOn E t.taskId = some base ∧
    t.headCommit = some head ∧ Descends parent head base

section Grounded

variable {H : Host} {parent : String → String → Prop} {E : List EventEnvelope} {e : EventEnvelope}
  {s s' : ExecutionRunState} {t t' : ExecutionTaskState} {type : ExecutionEventType}

theorem isUnderway_of_isStarted {status : TaskLifecycleStatus} (h : isStarted status = true) :
    isUnderway status = true := by
  cases status <;> simp_all [isStarted, isUnderway]

/-- A task that an event leaves alone stays grounded, when tasks that succeeded stay as they are. -/
theorem Grounded.of_eq (h : Grounded parent E s t)
    (hkept : ∀ d t', s.find d = some t' → t'.status = .succeeded → s'.find d = some t')
    (hbase : startedOn (E ++ [e]) t.taskId = startedOn E t.taskId) :
    Grounded parent (E ++ [e]) s' t where
  satisfied hunderway d hd := by
    obtain ⟨t', hfind, hsucceeded⟩ := h.satisfied hunderway d hd
    exact ⟨t', hkept d t' hfind hsucceeded, hsucceeded⟩
  base hstarted := by
    obtain ⟨base, hon, hheads⟩ := h.base hstarted
    refine ⟨base, hbase.trans hon, fun d hd ↦ ?_⟩
    obtain ⟨t', hfind, hsucceeded⟩ := h.satisfied (isUnderway_of_isStarted hstarted) d hd
    obtain ⟨t'', hfind', hhead⟩ := hheads d hd
    obtain rfl := Option.some.inj (hfind.symm.trans hfind')
    exact ⟨t', hkept d t' hfind hsucceeded, hhead⟩
  head hsucceeded := by
    obtain ⟨base, head, hon, hhead⟩ := h.head hsucceeded
    exact ⟨base, head, hbase.trans hon, hhead⟩

/-- A task that is not under way is grounded. -/
theorem Grounded.of_not_underway (h : isUnderway t.status = false) : Grounded parent E s t where
  satisfied hunderway := by simp [h] at hunderway
  base hstarted := by exact absurd (isUnderway_of_isStarted hstarted) (by simp [h])
  head hsucceeded := by simp [hsucceeded, isUnderway] at h

/-- What a task says about the tasks it depends on does not rest on its other fields. -/
theorem Grounded.congr (h : Grounded parent E s t) (hid : t'.taskId = t.taskId)
    (hdependsOn : t'.dependsOn = t.dependsOn) (hstatus : t'.status = .succeeded → t.status = .succeeded)
    (hunderway : isUnderway t'.status → isUnderway t.status)
    (hstarted : isStarted t'.status → isStarted t.status)
    (hhead : t.status = .succeeded → t'.headCommit = t.headCommit) : Grounded parent E s t' where
  satisfied h' := by
    rw [hdependsOn]
    exact h.satisfied (hunderway h')
  base h' := by
    rw [hdependsOn, hid]
    exact h.base (hstarted h')
  head h' := by
    rw [hid, hhead (hstatus h')]
    exact h.head (hstatus h')

/-- An event that replaces a task which had not succeeded keeps the others grounded. -/
theorem grounded_of_replaceTask (htasks : s'.tasks = (s.replaceTask t').tasks)
    (names : NamesTask e.payload s t) (hid : t'.taskId = t.taskId) (hne : t.status ≠ .succeeded)
    (hs : ∀ x ∈ s.tasks, Grounded parent E s x)
    (hplan : executionEventType? e ≠ some .planAdmitted)
    (ht : Grounded parent E s t →
      (∀ d x, s.find d = some x → x.status = .succeeded → s'.find d = some x) →
      Grounded parent (E ++ [e]) s' t') :
    ∀ x ∈ s'.tasks, Grounded parent (E ++ [e]) s' x := by
  have hkept : ∀ d x, s.find d = some x → x.status = .succeeded → s'.find d = some x := by
    intro d x hfind hsucceeded
    have hd : d ≠ t'.taskId := by
      rintro rfl
      rw [hid, names.find] at hfind
      exact hne (Option.some.inj hfind ▸ hsucceeded)
    rw [ExecutionRunState.find, htasks]
    exact (ExecutionRunState.find_replaceTask_of_ne hd).trans hfind
  intro x hx
  rw [htasks] at hx
  rcases ExecutionRunState.mem_replaceTask hx with rfl | ⟨hx, hxne⟩
  · exact ht (hs t (ExecutionRunState.mem_of_find names.find).1) hkept
  · refine (hs x hx).of_eq hkept ?_
    rw [startedOn_append, baseAfter_of_ne hplan]
    intro _ hget
    rw [names.get, JsonValue.str.injEq] at hget
    exact hxne (hget.symm.trans hid.symm)

/-- An event that leaves the tasks of the run alone leaves them grounded. -/
theorem grounded_of_tasks (hs : ∀ x ∈ s.tasks, Grounded parent E s x)
    (htasks : s'.tasks = s.tasks) (hplan : executionEventType? e ≠ some .planAdmitted)
    (hstart : executionEventType? e ≠ some .taskStarted) :
    ∀ x ∈ s'.tasks, Grounded parent (E ++ [e]) s' x := by
  intro x hx
  rw [htasks] at hx
  refine (hs x hx).of_eq (fun d t' hfind _ ↦ ?_) ?_
  · rw [ExecutionRunState.find, htasks]
    exact hfind
  · rw [startedOn_append, baseAfter_of_ne hplan fun h ↦ absurd h hstart]

/-- **Changes.** A change of a run keeps its tasks grounded. -/
theorem Change.grounded (h : Change H e.eventId e.payload s type s')
    (htype : executionEventType? e = some type) (hhonest : Honest parent (E ++ [e]))
    (hs : ∀ x ∈ s.tasks, Grounded parent E s x) :
    ∀ x ∈ s'.tasks, Grounded parent (E ++ [e]) s' x := by
  have hne : ∀ {type'}, type ≠ type' → executionEventType? e ≠ some type' := by
    intro type' hne heq
    exact hne (Option.some.inj (htype.symm.trans heq))
  have hsame : type ≠ .planAdmitted → type ≠ .taskStarted → ∀ taskId,
      startedOn (E ++ [e]) taskId = startedOn E taskId := by
    intro hplan hstart taskId
    rw [startedOn_append, baseAfter_of_ne (hne hplan) fun h ↦ absurd h (hne hstart)]
  cases h with
  | replanStarted | planDraftReceived | runTerminated =>
    exact grounded_of_tasks hs rfl (hne (by rintro ⟨⟩)) (hne (by rintro ⟨⟩))
  | planAdmitted plan =>
    intro x hx
    obtain ⟨task, -, rfl⟩ := List.mem_map.mp hx
    exact .of_not_underway rfl
  | policyDecided task planId action decision names status =>
    refine grounded_of_replaceTask rfl names.toNamesTask rfl (by simp [status]) hs
      (hne (by rintro ⟨⟩)) ?_
    intro htask hkept
    exact (htask.of_eq hkept (hsame (by rintro ⟨⟩) (by rintro ⟨⟩) _)).congr rfl rfl id id id
      fun _ ↦ rfl
  | taskReady task names running status bound pending dependencies =>
    refine grounded_of_replaceTask rfl names.toNamesTask rfl ?_ hs (hne (by rintro ⟨⟩))
      fun _ hkept ↦ ?_
    · rcases status with status | status <;> simp [status]
    · refine ⟨fun _ d hd ↦ ?_, by rintro ⟨⟩, by rintro ⟨⟩⟩
      obtain ⟨t', hfind, hsucceeded⟩ := dependencies d hd
      exact ⟨t', hkept d t' hfind hsucceeded, hsucceeded⟩
  | taskStarted task planId baseCommit decisionId actionDigest names status plan workspaceGet baseGet
    isBase base =>
    refine grounded_of_replaceTask rfl names.toNamesTask rfl (by simp [status]) hs
      (hne (by rintro ⟨⟩)) ?_
    intro htask hkept
    have hsatisfied := htask.satisfied (by simp [status, isUnderway])
    refine ⟨fun _ d hd ↦ ?_, fun _ ↦ ⟨baseCommit, ?_, fun d hd ↦ ?_⟩, by rintro ⟨⟩⟩
    · obtain ⟨t', hfind, hsucceeded⟩ := hsatisfied d hd
      exact ⟨t', hkept d t' hfind hsucceeded, hsucceeded⟩
    · rw [startedOn_append, baseAfter, htype]
      simp [names.get, baseGet, ExecutionTaskState.withoutPolicy, JsonValue.text?]
    · obtain ⟨t', hfind, hsucceeded⟩ := hsatisfied d hd
      obtain ⟨t'', hfind', hhead⟩ := (ExecutionRunState.expectedBaseCommit_eq_ok.mp base).2 d hd
      obtain rfl := Option.some.inj (hfind.symm.trans hfind')
      exact ⟨t', hkept d t' hfind hsucceeded, hhead⟩
  | taskVerifying task workspace names status =>
    refine grounded_of_replaceTask rfl names.toNamesTask rfl (by simp [status]) hs
      (hne (by rintro ⟨⟩)) ?_
    intro htask hkept
    exact (htask.of_eq hkept (hsame (by rintro ⟨⟩) (by rintro ⟨⟩) _)).congr rfl rfl (by rintro ⟨⟩)
      (fun _ ↦ by simp [status, isUnderway]) (fun _ ↦ by simp [status, isStarted])
      fun hsucceeded ↦ by simp [status] at hsucceeded
  | taskVerified task workspace route evidence names status workspaceGet nonempty active routeGet
    exitGet checksGet cleanGet newGet signatureGet countGet classGet summaryGet artifactsGet
    progressGet inputGet outputGet costGet headGet =>
    refine grounded_of_replaceTask rfl names.toNamesTask rfl (by simp [status]) hs
      (hne (by rintro ⟨⟩)) ?_
    intro htask hkept
    have hkeptTask := htask.of_eq hkept (hsame (by rintro ⟨⟩) (by rintro ⟨⟩) _)
    by_cases hroute : route = .succeeded
    · subst hroute
      obtain ⟨base, hon, hheads⟩ := hkeptTask.base (by simp [status, isStarted])
      refine ⟨fun _ ↦ hkeptTask.satisfied (by simp [status, isUnderway]), fun _ ↦
        ⟨base, hon, hheads⟩, fun _ ↦ ⟨base, evidence.headCommit, hon, rfl, ?_⟩⟩
      rw [hsame (by rintro ⟨⟩) (by rintro ⟨⟩)] at hon
      exact hhonest E e [] rfl htype routeGet _ base _ names.get hon headGet
    · refine .of_not_underway ?_
      cases route <;> simp_all [ExecutionTaskState.verified, AttemptRoute.taskStatus, isUnderway]
  | taskBlocked task reason names reasonGet nonempty status =>
    refine grounded_of_replaceTask rfl names rfl (by simp [status]) hs
      (hne (by rintro ⟨⟩)) ?_
    exact fun _ _ ↦ .of_not_underway rfl

/-- A public event keeps the tasks of a run grounded: it ends those that had not succeeded. -/
theorem grounded_afterPublic {type : RunLifecycle.RunEventType}
    (htype : RunLifecycle.runEventType? e = some type)
    (hs : ∀ x ∈ s.tasks, Grounded parent E s x) :
    ∀ x ∈ (s.afterPublic type e).tasks, Grounded parent (E ++ [e]) (s.afterPublic type e) x := by
  have hnone := executionEventType?_eq_none htype
  cases hended : (publicStatus type s.status).2 with
  | none =>
    refine grounded_of_tasks hs ?_ (by simp [hnone]) (by simp [hnone])
    rw [ExecutionRunState.afterPublic, hended]
    rfl
  | some status =>
    have htasks : (s.afterPublic type e).tasks = s.tasks.map (ExecutionTaskState.endWith status) := by
      rw [ExecutionRunState.afterPublic, hended]
      rfl
    have hid : ∀ x : ExecutionTaskState, (x.endWith status).taskId = x.taskId := by
      intro x
      unfold ExecutionTaskState.endWith
      split <;> rfl
    have hkept : ∀ d x, s.find d = some x → x.status = .succeeded →
        (s.afterPublic type e).find d = some x := by
      intro d x hfind hsucceeded
      rw [ExecutionRunState.find, htasks, List.find?_map]
      have hp : ((fun y : ExecutionTaskState ↦ decide (y.taskId = d)) ∘
          ExecutionTaskState.endWith status) = fun y ↦ decide (y.taskId = d) := by
        funext y
        simp [hid]
      rw [hp]
      rw [ExecutionRunState.find] at hfind
      simp [hfind, ExecutionTaskState.endWith, hsucceeded]
    intro x hx
    rw [htasks] at hx
    obtain ⟨y, hy, rfl⟩ := List.mem_map.mp hx
    by_cases hsucceeded : y.status = .succeeded
    · rw [ExecutionTaskState.endWith, if_pos hsucceeded]
      refine (hs y hy).of_eq hkept ?_
      rw [startedOn_append, baseAfter_of_ne (by simp [hnone]) (by simp [hnone])]
    · rw [ExecutionTaskState.endWith, if_neg hsucceeded]
      refine .of_not_underway ?_
      cases type <;> simp_all [publicStatus]
      all_goals subst hended; rfl

/-- **Grounded runs.** The tasks of an honest run are grounded. -/
theorem grounded_of_project (hhonest : Honest parent E) (h : project H E = .ok (some s)) :
    ∀ t ∈ s.tasks, Grounded parent E s t := by
  refine History.invariant (fun E state ↦ Honest parent E → ∀ s ∈ state, ∀ t ∈ s.tasks,
    Grounded parent E s t) (by simp) ?_ h hhonest s rfl
  rintro E e before state hbefore hstep hhonest s rfl
  have hs := hbefore hhonest.of_append
  cases apply_eq_ok.mp hstep with
  | published t s₀ type => exact grounded_afterPublic type (hs s₀ rfl)
  | opened => simp [ExecutionRunState.opened]
  | changed t s₀ s₁ type fields run isRun stream sequence active change =>
    have hgrounded := change.grounded type hhonest (hs s₀ rfl)
    exact fun t ht ↦ ⟨(hgrounded t ht).satisfied, (hgrounded t ht).base, (hgrounded t ht).head⟩

/-! ### Lineage -/

/-- The task with the first identifier depends on the one with the second. -/
def DependsOn (s : ExecutionRunState) (a b : String) : Prop :=
  ∃ t, s.find a = some t ∧ b ∈ t.dependsOn

/-- The head of a task that succeeded descends from the heads of all tasks that it depends on: its
attempt was started on the head of its direct dependencies, and descended from there. -/
theorem head_descends (hs : ∀ x ∈ s.tasks, Grounded parent E s x) {a b : String}
    (h : Relation.ReflTransGen (DependsOn s) a b) {head : String} (hfind : s.find a = some t)
    (hsucceeded : t.status = .succeeded) (hhead : t.headCommit = some head) :
    ∃ t' head', s.find b = some t' ∧ t'.headCommit = some head' ∧ Descends parent head head' := by
  induction h using Relation.ReflTransGen.head_induction_on generalizing t head with
  | refl => exact ⟨t, head, hfind, hhead, .refl⟩
  | @head a c hac _ ih =>
    obtain ⟨t₁, hfind₁, hmem⟩ := hac
    obtain rfl := Option.some.inj (hfind.symm.trans hfind₁)
    have hgrounded := hs t (ExecutionRunState.mem_of_find hfind).1
    obtain ⟨tc, hfindc, hsucceededc⟩ := hgrounded.satisfied (by simp [hsucceeded, isUnderway]) c hmem
    obtain ⟨base, hon, hheads⟩ := hgrounded.base (by simp [hsucceeded, isStarted])
    obtain ⟨tc', hfindc', hbase⟩ := hheads c hmem
    obtain rfl := Option.some.inj (hfindc.symm.trans hfindc')
    obtain ⟨base', head', hon', hhead', hdescends⟩ := hgrounded.head hsucceeded
    obtain rfl := Option.some.inj (hon.symm.trans hon')
    obtain rfl := Option.some.inj (hhead.symm.trans hhead')
    obtain ⟨t', head'', hfind', hhead'', hrest⟩ := ih hfindc hsucceededc hbase
    exact ⟨t', head'', hfind', hhead'', hdescends.trans hrest⟩

end Grounded

/-- **No lost writes.** An attempt is started on the commit of the goal, when its task depends on no
other one, and else on a commit that descends from the recorded heads of all tasks that the task
depends on, under the current plan. -/
theorem base_descends {H : Host} {parent : String → String → Prop} {E E' : List EventEnvelope}
    {e : EventEnvelope} {state : Option ExecutionRunState}
    (h : project H (E ++ e :: E') = .ok state) (hhonest : Honest parent (E ++ e :: E'))
    (htype : executionEventType? e = some .taskStarted) :
    ∃ s t base, project H E = .ok (some s) ∧ e.payload.get "task_id" = .str t.taskId ∧
      s.find t.taskId = some t ∧ e.payload.get "base_commit" = .str base ∧
      (t.dependsOn = [] → base = s.goalBaseCommit) ∧
      ∀ d, Relation.TransGen (DependsOn s) t.taskId d →
        ∃ t' head, s.find d = some t' ∧ t'.headCommit = some head ∧ Descends parent base head := by
  obtain ⟨before, after, hbefore, hstep, -⟩ := History.split h
  cases apply_eq_ok.mp hstep with
  | unopened t type => exact absurd ((executionEventType?_eq_none type).symm.trans htype) nofun
  | published t s type => exact absurd ((executionEventType?_eq_none type).symm.trans htype) nofun
  | opened _ _ _ _ _ type => exact absurd (type.symm.trans htype) (by decide)
  | changed type s s' htype' fields run isRun stream sequence active change =>
    obtain rfl := Option.some.inj (htype'.symm.trans htype)
    cases change with
    | taskStarted task planId baseCommit decisionId actionDigest names status plan workspaceGet
      baseGet isBase base =>
      have hs := grounded_of_project hhonest.of_append hbefore
      obtain ⟨hgoal, hheads⟩ := ExecutionRunState.expectedBaseCommit_eq_ok.mp base
      refine ⟨s, task, baseCommit, hbefore, names.get, names.find, baseGet, hgoal, fun d hd ↦ ?_⟩
      obtain ⟨c, ⟨t, hfind, hmem⟩, hrest⟩ := Relation.TransGen.head'_iff.mp hd
      obtain rfl := Option.some.inj (names.find.symm.trans hfind)
      -- The base is the head of a direct dependency, which has succeeded.
      obtain ⟨tc, hfindc, hhead⟩ := hheads c hmem
      obtain ⟨tc', hfindc', hsucceeded⟩ :=
        (hs task (ExecutionRunState.mem_of_find names.find).1).satisfied
          (by simp [status, isUnderway]) c hmem
      obtain rfl := Option.some.inj (hfindc.symm.trans hfindc')
      exact head_descends hs hrest hfindc hsucceeded hhead

/-- The law on the attempt of the frugal run, each of whose commits has that of the goal as its
parent. -/
theorem base_descends_sample :
    ∃ E e E', streamOf "run-1" (Sample.executed Sample.frugal 100).ledger = E ++ e :: E' ∧
      executionEventType? e = some .taskStarted ∧
      ∃ s t base, project Sample.frugal.host E = .ok (some s) ∧
        e.payload.get "task_id" = .str t.taskId ∧ s.find t.taskId = some t ∧
        e.payload.get "base_commit" = .str base ∧ (t.dependsOn = [] → base = s.goalBaseCommit) := by
  obtain ⟨hproject, hstarted, hbases⟩ :
      (project Sample.frugal.host
          (streamOf "run-1" (Sample.executed Sample.frugal 100).ledger)).isOk = true ∧
        (∃ e ∈ streamOf "run-1" (Sample.executed Sample.frugal 100).ledger,
          executionEventType? e = some .taskStarted) ∧
        ∀ e ∈ streamOf "run-1" (Sample.executed Sample.frugal 100).ledger,
          executionEventType? e = some .taskStarted →
            e.payload.get "base_commit" = .str Sample.goal.baseCommit := by
    decide +kernel
  obtain ⟨e, he, htype⟩ := hstarted
  obtain ⟨E, E', hsplit⟩ := List.append_of_mem he
  have hhonest : Honest (fun _ b ↦ b = Sample.goal.baseCommit) (E ++ e :: E') := by
    rintro E₁ x E₂ hx - - taskId base head - hbase -
    obtain ⟨y, hy, hytype, hget⟩ := exists_of_startedOn hbase
    have hmem : y ∈ streamOf "run-1" (Sample.executed Sample.frugal 100).ledger := by
      rw [hsplit, hx]
      exact List.mem_append_left _ hy
    have hsame := (hbases y hmem hytype).symm.trans hget
    exact .single (JsonValue.str.inj hsame).symm
  rw [hsplit] at hproject
  cases hstate : project Sample.frugal.host (E ++ e :: E') with
  | error => simp [hstate, Except.isOk, Except.toBool] at hproject
  | ok state =>
    obtain ⟨s, t, base, hbefore, hget, hfind, hbase, hgoal, -⟩ := base_descends hstate hhonest htype
    exact ⟨E, e, E', hsplit, htype, s, t, base, hbefore, hget, hfind, hbase, hgoal⟩

end Blackcell.Orchestration.ExecutionRuntime
