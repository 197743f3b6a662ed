import Blackcell.Orchestration.ExecutionRuntime.Attempts

/-!
# What follows a termination

A run that terminates stops having effects: until its next plan is admitted no decision is recorded
and no task is started, verified or blocked, and a plan is replaced only when no attempt of it is
under way. The projection refuses every event after a final status. After `replan-required` it
refuses to make a task ready, and the other events of a task follow one that made it ready, so the
law rests on what the run was doing when it terminated: it holds of the runs that ask for a replan
only while no task is ready, running or being verified.

## Main definitions

* `StopsEffects`, `SupersedesIdle` : the two parts of the law, on the events of a run.
* `ReplansIdle` : a run asks for a replan only while its tasks are idle.
* `Halted` : the statuses of a run that has terminated and has no new plan yet.

## Main results

* `quiescent_of_replansIdle` : the law holds of the runs that ask for a replan while they are idle.
* `not_always_quiescent` : it does not hold of every run.
-/

namespace Blackcell.Orchestration.ExecutionRuntime

open Blackcell.Kernel Blackcell.Gateway Blackcell.Orchestration.ExecutionPlan

/-! ### The law -/

/-- The events by which a run has an effect. -/
def isEffect : ExecutionEventType → Bool
  | .policyDecided | .taskStarted | .taskVerifying | .taskVerified | .taskBlocked => true
  | _ => false

/-- The status of a task with an attempt that is authorized, under way or being verified. -/
def isOccupied : TaskLifecycleStatus → Bool
  | .ready | .running | .verifying => true
  | _ => false

/-- After a termination, the run has no effect before a plan is admitted. -/
def StopsEffects (E : List EventEnvelope) : Prop :=
  ∀ E₁ e E₂ x E₃, E = E₁ ++ e :: (E₂ ++ x :: E₃) → executionEventType? e = some .runTerminated →
    (∀ y ∈ E₂, executionEventType? y ≠ some .planAdmitted) →
    ∀ type, executionEventType? x = some type → isEffect type = false

/-- A plan is admitted only when no attempt of the plan before it is under way. -/
def SupersedesIdle (H : Host) (E : List EventEnvelope) : Prop :=
  ∀ E₁ e E₂, E = E₁ ++ e :: E₂ → executionEventType? e = some .planAdmitted →
    ∀ s, project H E₁ = .ok (some s) → ∀ t ∈ s.tasks,
      t.status ≠ .running ∧ t.status ≠ .verifying ∧ t.activeWorkspaceId = none

/-- **Idle replans.** A run terminates with `replan-required` only while no task is ready, running
or being verified. -/
def ReplansIdle (H : Host) (E : List EventEnvelope) : Prop :=
  ∀ E₁ e E₂, E = E₁ ++ e :: E₂ → executionEventType? e = some .runTerminated →
    e.payload.get "status" = .str (StrEnum.value RunLifecycleStatus.replanRequired) →
    ∀ s, project H E₁ = .ok (some s) → ∀ t ∈ s.tasks, isOccupied t.status = false

/-! ### Halted runs -/

/-- The statuses of a run that has terminated and has no new plan yet. -/
def Halted (status : RunLifecycleStatus) : Prop :=
  isFinal status ∨ status = .replanRequired ∨ status = .replanning

/-- The tasks of a run that waits for a plan are idle, and it has none before its first plan. -/
structure Quiescent (s : ExecutionRunState) : Prop where
  unplanned : s.planId = none → s.tasks = []
  idle : s.status = .replanRequired ∨ s.status = .replanning →
    ∀ t ∈ s.tasks, isOccupied t.status = false

section Halted

variable {H : Host} {E : List EventEnvelope} {e : EventEnvelope} {s s' : ExecutionRunState}
  {t : ExecutionTaskState} {type : ExecutionEventType} {eventId : String} {payload : Mapping}

theorem ReplansIdle.of_append {E' : List EventEnvelope} (h : ReplansIdle H (E ++ E')) :
    ReplansIdle H E := by
  intro E₁ e E₂ hsplit
  exact h E₁ e (E₂ ++ E') (by simp [hsplit])

/-- An outcome halts a run. -/
theorem halted_of_isOutcome {status : RunLifecycleStatus} (h : isOutcome status) :
    Halted status := by
  cases status <;> simp_all [Halted, isOutcome, isFinal]

/-- A run that has terminated stays so until a plan is admitted. -/
theorem Step.halted (h : Step H e (some s) (some s')) (hs : Halted s.status)
    (hplan : executionEventType? e ≠ some .planAdmitted) : Halted s'.status := by
  cases h with
  | published type =>
    rcases publicStatus_eq_or_isFinal type s.status with hsame | hfinal
    · simpa [ExecutionRunState.afterPublic, hsame] using hs
    · exact .inl hfinal
  | changed type s s' htype fields run isRun stream sequence active change =>
    cases change with
    | planAdmitted => exact absurd htype hplan
    | replanStarted => exact .inr (.inr rfl)
    | runTerminated status reason statusGet outcome => exact halted_of_isOutcome outcome
    | _ => exact hs

/-- A run that terminates is halted. -/
theorem Step.halted_of_terminated (h : Step H e (some s) (some s'))
    (htype : executionEventType? e = some .runTerminated) : Halted s'.status := by
  cases h with
  | published type s type' => simp [executionEventType?_eq_none type'] at htype
  | changed type s s' htype' fields run isRun stream sequence active change =>
    obtain rfl := Option.some.inj (htype.symm.trans htype')
    cases change with
    | runTerminated status reason statusGet outcome => exact halted_of_isOutcome outcome

/-- The events by which a run has an effect name an occupied task. -/
theorem Change.exists_occupied (h : Change H eventId payload s type s') (htype : isEffect type) :
    ∃ t ∈ s.tasks, isOccupied t.status := by
  cases h with
  | policyDecided task planId action decision names status =>
    exact ⟨task, (ExecutionRunState.mem_of_find names.find).1, by simp [status, isOccupied]⟩
  | taskStarted task planId baseCommit decisionId actionDigest names status =>
    exact ⟨task, (ExecutionRunState.mem_of_find names.find).1, by simp [status, isOccupied]⟩
  | taskVerifying task workspace names status =>
    exact ⟨task, (ExecutionRunState.mem_of_find names.find).1, by simp [status, isOccupied]⟩
  | taskVerified task workspace route evidence names status =>
    exact ⟨task, (ExecutionRunState.mem_of_find names.find).1, by simp [status, isOccupied]⟩
  | taskBlocked task reason names reasonGet nonempty status =>
    exact ⟨task, (ExecutionRunState.mem_of_find names.find).1, by simp [status, isOccupied]⟩
  | _ => simp [isEffect] at htype

/-- A halted run accepts no event by which it has an effect. -/
theorem Quiescent.not_effect {state : Option ExecutionRunState} (hs : Quiescent s)
    (hhalted : Halted s.status) (h : Step H e (some s) state)
    (htype : executionEventType? e = some type) : isEffect type = false := by
  cases h with
  | published type' s type'' => simp [executionEventType?_eq_none type''] at htype
  | changed type' s s' htype' fields run isRun stream sequence active change =>
    obtain rfl := Option.some.inj (htype.symm.trans htype')
    by_contra heffect
    obtain ⟨t, ht, hoccupied⟩ := change.exists_occupied (by simpa using heffect)
    have hidle := hs.idle (hhalted.resolve_left active) t ht
    simp [hidle] at hoccupied

/-- The tasks of a plan that was just admitted are pending. -/
theorem Step.pending_of_admitted {state : Option ExecutionRunState} (h : Step H e state (some s))
    (htype : executionEventType? e = some .planAdmitted) : ∀ t ∈ s.tasks, t.status = .pending := by
  cases h with
  | published type s type' => simp [executionEventType?_eq_none type'] at htype
  | opened _ _ _ _ _ type' => simp [type'] at htype
  | changed type s₀ s₁ htype' fields run isRun stream sequence active change =>
    obtain rfl := Option.some.inj (htype.symm.trans htype')
    cases change with
    | planAdmitted plan =>
      intro t ht
      obtain ⟨task, -, rfl⟩ := List.mem_map.mp ht
      rfl

/-! ### Quiescent runs -/

/-- An event that replaces a task of a running run, or an idle task by an idle one, keeps the run
quiescent. -/
theorem Quiescent.replaceTask {t' : ExecutionTaskState} (hs : Quiescent s)
    (hplan : s'.planId = s.planId) (hstatus : s'.status = s.status)
    (htasks : s'.tasks = (s.replaceTask t').tasks) (hfind : s.find t'.taskId = some t)
    (hoccupied : s.status = .running ∨ isOccupied t.status) : Quiescent s' where
  unplanned h := by
    rw [hplan] at h
    simp [htasks, ExecutionRunState.replaceTask, hs.unplanned h]
  idle h := by
    rw [hstatus] at h
    have hidle := hs.idle h t (ExecutionRunState.mem_of_find hfind).1
    rcases hoccupied with hrunning | hoccupied
    · simp [hrunning] at h
    · simp [hidle] at hoccupied

/-- A change keeps a run quiescent, when a replan is asked for while the run is idle. -/
theorem Change.quiescent (h : Change H eventId payload s type s') (hs : Quiescent s)
    (hidle : type = .runTerminated →
      payload.get "status" = .str (StrEnum.value RunLifecycleStatus.replanRequired) →
        ∀ t ∈ s.tasks, isOccupied t.status = false) : Quiescent s' := by
  cases h with
  | replanStarted planId revision status => exact ⟨hs.unplanned, fun _ ↦ hs.idle (.inl status)⟩
  | planDraftReceived => exact ⟨hs.unplanned, hs.idle⟩
  | planAdmitted => exact ⟨nofun, nofun⟩
  | policyDecided task planId action decision names status =>
    exact hs.replaceTask rfl rfl rfl names.find (.inr (by simp [status, isOccupied]))
  | taskReady task names running => exact hs.replaceTask rfl rfl rfl names.find (.inl running)
  | taskStarted task planId baseCommit decisionId actionDigest names status =>
    exact hs.replaceTask rfl rfl rfl names.find (.inr (by simp [status, isOccupied]))
  | taskVerifying task workspace names status =>
    exact hs.replaceTask rfl rfl rfl names.find (.inr (by simp [status, isOccupied]))
  | taskVerified task workspace route evidence names status =>
    exact hs.replaceTask rfl rfl rfl names.find (.inr (by simp [status, isOccupied]))
  | taskBlocked task reason names reasonGet nonempty status =>
    exact hs.replaceTask rfl rfl rfl names.find (.inr (by simp [status, isOccupied]))
  | runTerminated status reason statusGet outcome =>
    refine ⟨hs.unplanned, ?_⟩
    rintro (rfl | rfl)
    · exact hidle rfl statusGet
    · simp [isOutcome] at outcome

/-- **Quiescent runs.** A run that asks for replans while it is idle is idle while it waits for its
plan. -/
theorem quiescent_of_project (hE : ReplansIdle H E) (h : project H E = .ok (some s)) :
    Quiescent s := by
  refine (History.invariant (fun E state ↦ project H E = .ok state ∧
    (ReplansIdle H E → ∀ s ∈ state, Quiescent s)) ⟨rfl, by simp⟩ ?_ h).2 hE s rfl
  rintro E e before state ⟨hbefore, hquiescent⟩ hstep
  have hstep := apply_eq_ok.mp hstep
  refine ⟨project_concat.mpr ⟨before, hbefore, hstep⟩, ?_⟩
  rintro hE s rfl
  have hs := hquiescent hE.of_append
  cases hstep with
  | opened => exact ⟨fun _ ↦ rfl, nofun⟩
  | published type s₀ =>
    rcases publicStatus_eq_or_isFinal type s₀.status with hsame | hfinal
    · refine ⟨fun hplan ↦ ?_, ?_⟩
      · simpa [ExecutionRunState.afterPublic, hsame, endTasks] using (hs s₀ rfl).unplanned hplan
      · simpa [ExecutionRunState.afterPublic, hsame, endTasks] using (hs s₀ rfl).idle
    · refine ⟨fun hplan ↦ ?_, ?_⟩
      · have hnil := (hs s₀ rfl).unplanned hplan
        cases hended : (publicStatus type s₀.status).2 <;>
          simp [ExecutionRunState.afterPublic, hended, endTasks, hnil]
      · simp only [ExecutionRunState.afterPublic]
        rintro (hstatus | hstatus) <;> simp [hstatus, isFinal, isOutcome] at hfinal
  | changed type s₀ s₁ htype fields run isRun stream sequence active change =>
    have hchanged := change.quiescent (hs s₀ rfl) fun hterminated hget t ht ↦
      hE E e [] rfl (hterminated ▸ htype) hget s₀ hbefore t ht
    exact ⟨hchanged.unplanned, hchanged.idle⟩

end Halted

/-- **Quiescence.** A run that asks for a replan only while its tasks are idle has no effect between
a termination and the admission of its next plan, and replaces no plan with an attempt under way. -/
theorem quiescent_of_replansIdle {H : Host} {E : List EventEnvelope}
    {state : Option ExecutionRunState} (h : project H E = .ok state) (hE : ReplansIdle H E) :
    StopsEffects E ∧ SupersedesIdle H E := by
  constructor
  · intro E₁ e E₂ x E₃ hsplit hterminated hplan type htype
    rw [hsplit] at h hE
    obtain ⟨before, after, hbefore, hstep, hrest⟩ := History.split h
    obtain ⟨m, m', hm, hx, -⟩ := History.split hrest
    -- the run is halted from the termination on
    have hhalted : ∃ s, m = some s ∧ Halted s.status := by
      refine History.keeps (fun state ↦ ∃ s, state = some s ∧ Halted s.status) ?_ ?_ hm
      · rintro y _ state hy ⟨s, rfl, hs⟩ hstep
        have hstep := apply_eq_ok.mp hstep
        obtain ⟨s', rfl⟩ := Option.isSome_iff_exists.mp hstep.isSome
        exact ⟨s', rfl, hstep.halted hs (hplan y hy)⟩
      · have hstep := apply_eq_ok.mp hstep
        cases hstep with
        | unopened type type' => simp [executionEventType?_eq_none type'] at hterminated
        | opened _ _ _ _ _ type' => simp [type'] at hterminated
        | published type s type' => simp [executionEventType?_eq_none type'] at hterminated
        | changed type' s s' h1 h2 h3 h4 h5 h6 h7 h8 =>
          exact ⟨_, rfl, (Step.changed type' s s' h1 h2 h3 h4 h5 h6 h7 h8).halted_of_terminated
            hterminated⟩
    obtain ⟨s, rfl, hs⟩ := hhalted
    have hproject : project H (E₁ ++ e :: E₂) = .ok (some s) :=
      History.run_append_eq_ok.mpr ⟨before, hbefore, by simp [hstep, hm]⟩
    have hidle : ReplansIdle H (E₁ ++ e :: E₂) := by
      rw [← List.cons_append, ← List.append_assoc] at hE
      exact hE.of_append
    exact (quiescent_of_project hidle hproject).not_effect hs (apply_eq_ok.mp hx) htype
  · intro E₁ e E₂ hsplit htype s hs t ht
    rw [hsplit] at h hE
    obtain ⟨before, after, hbefore, hstep, -⟩ := History.split h
    obtain rfl : before = some s := Except.ok.inj (hbefore.symm.trans hs)
    have hquiescent := quiescent_of_project hE.of_append hs
    have hwaits : s.planId = none ∨ s.status = .replanning := by
      cases apply_eq_ok.mp hstep with
      | published type s type' => simp [executionEventType?_eq_none type'] at htype
      | changed type' s s' htype' fields run isRun stream sequence active change =>
        obtain rfl := Option.some.inj (htype.symm.trans htype')
        cases change with
        | planAdmitted plan status => exact status.imp (·.1) (·.2.1)
    rcases hwaits with hnone | hreplanning
    · simp [hquiescent.unplanned hnone] at ht
    · have hidle := hquiescent.idle (.inr hreplanning) t ht
      have hsound := (runSound_of_project hs).tasks t ht
      have hstatus : t.status ≠ .running ∧ t.status ≠ .verifying := by
        constructor <;> (intro hstatus; simp [hstatus, isOccupied] at hidle)
      refine ⟨hstatus.1, hstatus.2, ?_⟩
      by_contra hactive
      rcases hsound.idle (Option.isSome_iff_ne_none.mpr hactive) with hrunning | hverifying
      · exact hstatus.1 hrunning
      · exact hstatus.2 hverifying

/-! ### Sample runs -/

namespace Sample

/-- The run asks for a replan. -/
def replan : ExecutionEventType × Mapping :=
  (.runTerminated, runTerminatedPayload .replanRequired "plan-outdated")

/-- The run asks for a replan while its task is ready, and the action of the task is decided after
that. -/
def overtaken : List (ExecutionEventType × Mapping) := [
  (.taskReady, taskReadyPayload "task-1" 1), replan,
  (.policyDecided, policyDecidedPayload documentHost "task-1" 1 decision)]

theorem recorded_concat (changes : List (ExecutionEventType × Mapping))
    (change : ExecutionEventType × Mapping) :
    ∃ e, recorded (changes ++ [change]) = recorded changes ++ [e] ∧
      executionEventType? e = some change.1 := by
  refine ⟨_, List.foldl_append, ?_⟩
  simp [requestEvent, executionEventType?]

/-- Both runs are accepted. -/
theorem replan_checked :
    (project host (recorded (admission ++ [replan]))).isOk = true ∧
      (project host (recorded (admission ++ overtaken))).isOk = true := by
  refine ⟨?replanned, ?overtaken⟩
  case replanned => decide +kernel
  case overtaken => decide +kernel

end Sample

/-- The law on the sample run, which asks for a replan before its task is made ready. -/
theorem quiescent_of_replansIdle_sample :
    StopsEffects (Sample.recorded (Sample.admission ++ [Sample.replan])) ∧
      SupersedesIdle Sample.host (Sample.recorded (Sample.admission ++ [Sample.replan])) := by
  obtain ⟨state, hproject⟩ := Checked.exists_of_isOk Sample.replan_checked.1
  refine quiescent_of_replansIdle hproject fun E₁ e E₂ hsplit htype _ s hs t ht ↦ ?_
  obtain ⟨last, hlast, -⟩ := Sample.recorded_concat Sample.admission Sample.replan
  rw [hlast] at hsplit
  rcases History.concat_eq_split hsplit with ⟨rfl, -, -⟩ | ⟨rest, hrest, -⟩
  · obtain ⟨admitted, hadmitted, htype'⟩ := Sample.recorded_concat (Sample.admission.take 2)
      (.planAdmitted, planAdmittedPayload Sample.documentHost Sample.plan)
    rw [show Sample.admission = Sample.admission.take 2 ++ [_] from rfl, hadmitted,
      project_concat] at hs
    obtain ⟨before, -, hstep⟩ := hs
    simp [hstep.pending_of_admitted htype' t ht, isOccupied]
  · have hmem : e ∈ Sample.recorded Sample.admission := by simp [hrest]
    have hnone : ∀ x ∈ Sample.recorded Sample.admission,
        executionEventType? x ≠ some .runTerminated := by decide +kernel
    exact absurd htype (hnone e hmem)

/-- The sample run whose task is ready when it asks for a replan accepts a decision after that. -/
theorem not_always_quiescent : ¬ ∀ (H : Host) (E : List EventEnvelope)
    (state : Option ExecutionRunState), project H E = .ok state →
      StopsEffects E ∧ SupersedesIdle H E := by
  intro h
  obtain ⟨state, hproject⟩ := Checked.exists_of_isOk Sample.replan_checked.2
  have hstops := (h Sample.host _ state hproject).1
  obtain ⟨replanned, hreplanned, hterminated⟩ := Sample.recorded_concat
    (Sample.admission ++ [(.taskReady, taskReadyPayload "task-1" 1)]) Sample.replan
  obtain ⟨decided, hdecided, htype⟩ := Sample.recorded_concat
    (Sample.admission ++ [(.taskReady, taskReadyPayload "task-1" 1)] ++ [Sample.replan])
    (.policyDecided, policyDecidedPayload Sample.documentHost "task-1" 1 Sample.decision)
  have hsplit : Sample.recorded (Sample.admission ++ Sample.overtaken) =
      Sample.recorded (Sample.admission ++ [(.taskReady, taskReadyPayload "task-1" 1)]) ++
        replanned :: ([] ++ decided :: []) := by
    rw [hreplanned] at hdecided
    simpa [Sample.overtaken] using hdecided
  have heffect := hstops _ _ _ _ _ hsplit hterminated (by simp) _ htype
  simp [isEffect] at heffect

end Blackcell.Orchestration.ExecutionRuntime
