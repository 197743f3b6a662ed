import Blackcell.Orchestration.ExecutionRuntime.Append

/-!
# One plan of a run

A run executes one plan at a time: an admitted plan raises the revision of the run, and while the
revision stays the same a run that has stopped running does not start again. Within a plan each
event of a task moves that task, and the clock of a task only runs forward. So a request that has
changed a run cannot change it a second time under the same plan, which is what makes the requests
of a resumed call new ones.

## Main definitions

* `ExecutionTaskState.clock` : how far a task has come.
* `Moves` : what an event of a task changes.

## Main results

* `Change.moves` : an event of a task moves one task.
* `History.backwards` : within a plan, a running state was preceded by running states only.
* `Change.not_again` : a recorded request is not accepted a second time under the same plan.
-/

namespace Blackcell.Orchestration.ExecutionRuntime

open Blackcell.Kernel Blackcell.Gateway Blackcell.Orchestration.ExecutionPlan

/-! ### Moves of a task -/

/-- How far a task has come: eight ticks for each attempt, one for each event of the attempt. -/
def ExecutionTaskState.clock (t : ExecutionTaskState) : Nat :=
  match t.status with
  | .pending | .repairable => 8 * (t.attempts + 1)
  | .ready => 8 * (t.attempts + 1) + if t.pendingPolicyDecisionId.isSome then 2 else 1
  | .running => 8 * t.attempts + 3
  | .verifying => 8 * t.attempts + 4
  | .succeeded | .replanRequired | .escalated | .terminalFailure => 8 * t.attempts + 5
  | .blocked | .canceled => 8 * (t.attempts + 1) + 7

/-- The events of the tasks of a plan. -/
def isTaskEvent : ExecutionEventType → Bool
  | .policyDecided | .taskReady | .taskStarted | .taskVerifying | .taskVerified | .taskBlocked =>
    true
  | _ => false

/-- **Moves.** An event moves one task that is not done, and leaves the plan of the run and the
other tasks alone. -/
structure Moves (payload : Mapping) (s s' : ExecutionRunState) (t t' : ExecutionTaskState) :
    Prop where
  get : payload.get "task_id" = .str t.taskId
  find : s.find t.taskId = some t
  tasks : s'.tasks = (s.replaceTask t').tasks
  taskId : t'.taskId = t.taskId
  dependsOn : t'.dependsOn = t.dependsOn
  allowedPaths : t'.allowedPaths = t.allowedPaths
  maxAttempts : t'.maxAttempts = t.maxAttempts
  clock : t.clock < t'.clock
  status : s'.status = s.status
  planId : s'.planId = s.planId
  planDigest : s'.planDigest = s.planDigest
  planRevision : s'.planRevision = s.planRevision
  budget : s'.budget = s.budget
  goalBaseCommit : s'.goalBaseCommit = s.goalBaseCommit
  unblocked : t.status ≠ .blocked
  unfinished : t.status ≠ .succeeded

section Changes

variable {H : Host} {eventId : String} {payload : Mapping} {s s' : ExecutionRunState}
  {type : ExecutionEventType}

/-- The clock of a task after its attempt was verified. -/
theorem clock_verified (t : ExecutionTaskState) (eventId : String) (route : AttemptRoute)
    (signature : Option String) (evidence : AttemptEvidence) :
    8 * t.attempts + 5 ≤ (t.verified eventId route signature evidence).clock := by
  cases route <;> simp [ExecutionTaskState.verified, ExecutionTaskState.clock,
    AttemptRoute.taskStatus] <;> omega

theorem Change.moves (h : Change H eventId payload s type s') (htype : isTaskEvent type) :
    ∃ t t', Moves payload s s' t t' := by
  cases h with
  | replanStarted | planDraftReceived | planAdmitted | runTerminated => simp [isTaskEvent] at htype
  | policyDecided task planId action decision names status pending =>
    exact ⟨task, _, names.get, names.find, rfl, rfl, rfl, rfl, rfl, by
      simp [ExecutionTaskState.clock, status, pending], rfl, rfl, rfl, rfl, rfl, rfl,
      by simp [status], by simp [status]⟩
  | taskReady task names running status bound pending =>
    refine ⟨task, _, names.get, names.find, rfl, rfl, rfl, rfl, rfl, ?_, rfl, rfl, rfl, rfl, rfl, rfl,
      ?_, ?_⟩
    · rcases status with status | status <;> simp [ExecutionTaskState.clock, status, pending]
    · rcases status with status | status <;> simp [status]
    · rcases status with status | status <;> simp [status]
  | taskStarted task planId baseCommit decisionId actionDigest names status =>
    refine ⟨task, _, names.get, names.find, rfl, rfl, rfl, rfl, rfl, ?_, rfl, rfl, rfl, rfl, rfl,
      rfl, by simp [status], by simp [status]⟩
    simp only [ExecutionTaskState.clock, status]
    split <;> omega
  | taskVerifying task workspace names status =>
    exact ⟨task, _, names.get, names.find, rfl, rfl, rfl, rfl, rfl, by
      simp [ExecutionTaskState.clock, status], rfl, rfl, rfl, rfl, rfl, rfl,
      by simp [status], by simp [status]⟩
  | taskVerified task workspace route evidence names status =>
    refine ⟨task, _, names.get, names.find, rfl, rfl, rfl, rfl, rfl, ?_, rfl, rfl, rfl, rfl, rfl,
      rfl, by simp [status], by simp [status]⟩
    have hclock := clock_verified task eventId route (evidence.errorSignature H) evidence
    have htask : task.clock = 8 * task.attempts + 4 := by simp [ExecutionTaskState.clock, status]
    omega
  | taskBlocked task reason names reasonGet nonempty status =>
    refine ⟨task, _, names.get, names.find, rfl, rfl, rfl, rfl, rfl, ?_, rfl, rfl, rfl, rfl, rfl,
      rfl, by simp [status], by simp [status]⟩
    simp only [ExecutionTaskState.clock, status, ExecutionTaskState.withoutPolicy]
    split <;> omega

/-- The tick of an attempt that each event of the attempt stands for. -/
def mark : ExecutionEventType → Option Nat
  | .taskReady => some 1
  | .policyDecided => some 2
  | .taskStarted => some 3
  | .taskVerifying => some 4
  | .taskVerified => some 5
  | _ => none

theorem Change.exists_attempt (h : Change H eventId payload s type s') {tick : Nat}
    (hmark : mark type = some tick) : ∃ attempt : Nat, payload.get "attempt" = .int attempt := by
  cases h with
  | policyDecided _ _ _ _ names | taskReady _ names | taskStarted _ _ _ _ _ names
  | taskVerifying _ _ names | taskVerified _ _ _ _ names => exact ⟨_, names.attempt⟩
  | replanStarted | planDraftReceived | planAdmitted | runTerminated | taskBlocked =>
    simp [mark] at hmark

/-- An event of an attempt moves the clock of its task past the tick of the event. -/
theorem Change.passes (h : Change H eventId payload s type s') {taskId : String} {attempt tick : Nat}
    (hmark : mark type = some tick) (htask : payload.get "task_id" = .str taskId)
    (hattempt : payload.get "attempt" = .int attempt) :
    (∃ t, s.find taskId = some t ∧ t.clock < 8 * attempt + tick) ∧
      ∃ t, s'.find taskId = some t ∧ 8 * attempt + tick ≤ t.clock := by
  have hnames : ∀ {task : ExecutionTaskState} {n : Nat}, NamesAttempt payload s task n →
      taskId = task.taskId ∧ attempt = n := by
    intro task n names
    have hid := htask.symm.trans names.get
    have hn := hattempt.symm.trans names.attempt
    simp only [JsonValue.str.injEq, JsonValue.int.injEq, Int.natCast_inj] at hid hn
    exact ⟨hid, hn⟩
  cases h with
  | replanStarted | planDraftReceived | planAdmitted | runTerminated | taskBlocked =>
    simp [mark] at hmark
  | policyDecided task planId action decision names status pending =>
    obtain ⟨rfl, rfl⟩ := hnames names
    obtain rfl : 2 = tick := by simpa [mark] using hmark
    refine ⟨⟨task, names.find, by simp [ExecutionTaskState.clock, status, pending]⟩, _,
      ExecutionRunState.find_replaceTask_self names.find, ?_⟩
    simp [ExecutionTaskState.clock, status]
  | taskReady task names running status bound pending =>
    obtain ⟨rfl, rfl⟩ := hnames names
    obtain rfl : 1 = tick := by simpa [mark] using hmark
    refine ⟨⟨task, names.find, ?_⟩, _, ExecutionRunState.find_replaceTask_self names.find, ?_⟩
    · rcases status with status | status <;> simp [ExecutionTaskState.clock, status]
    · simp [ExecutionTaskState.clock, pending]
  | taskStarted task planId baseCommit decisionId actionDigest names status =>
    obtain ⟨rfl, rfl⟩ := hnames names
    obtain rfl : 3 = tick := by simpa [mark] using hmark
    refine ⟨⟨task, names.find, ?_⟩, _, ExecutionRunState.find_replaceTask_self names.find, ?_⟩
    · simp only [ExecutionTaskState.clock, status]
      split <;> omega
    · simp [ExecutionTaskState.clock]
  | taskVerifying task workspace names status =>
    obtain ⟨rfl, rfl⟩ := hnames names
    obtain rfl : 4 = tick := by simpa [mark] using hmark
    refine ⟨⟨task, names.find, by simp [ExecutionTaskState.clock, status]⟩, _,
      ExecutionRunState.find_replaceTask_self names.find, ?_⟩
    simp [ExecutionTaskState.clock]
  | taskVerified task workspace route evidence names status =>
    obtain ⟨rfl, rfl⟩ := hnames names
    obtain rfl : 5 = tick := by simpa [mark] using hmark
    have hfind : (s.replaceTask (task.verified eventId route (evidence.errorSignature H)
        evidence)).find task.taskId = some _ := ExecutionRunState.find_replaceTask_self names.find
    exact ⟨⟨task, names.find, by simp [ExecutionTaskState.clock, status]⟩, _, hfind,
      clock_verified task eventId route (evidence.errorSignature H) evidence⟩

end Changes

/-! ### Other tasks -/

namespace Moves

variable {payload : Mapping} {s s' : ExecutionRunState} {t t' : ExecutionTaskState}

theorem find_self (h : Moves payload s s' t t') : s'.find t.taskId = some t' := by
  have hfind := h.find
  rw [← h.taskId] at hfind ⊢
  rw [ExecutionRunState.find, h.tasks]
  exact ExecutionRunState.find_replaceTask_self hfind

theorem find_of_ne (h : Moves payload s s' t t') {taskId : String} (hne : taskId ≠ t.taskId) :
    s'.find taskId = s.find taskId := by
  rw [← h.taskId] at hne
  rw [ExecutionRunState.find, h.tasks]
  exact ExecutionRunState.find_replaceTask_of_ne hne

/-- A task of the state before a move is there after it, and not behind where it was. -/
theorem find_le (h : Moves payload s s' t t') {taskId : String} {x : ExecutionTaskState}
    (hx : s.find taskId = some x) : ∃ x', s'.find taskId = some x' ∧ x.clock ≤ x'.clock ∧
      (x.status = .blocked ∨ x.status = .succeeded → x' = x) := by
  by_cases hid : taskId = t.taskId
  · subst hid
    obtain rfl := Option.some.inj (h.find.symm.trans hx)
    exact ⟨t', h.find_self, h.clock.le, fun hstatus ↦ absurd hstatus
      (not_or.mpr ⟨h.unblocked, h.unfinished⟩)⟩
  · exact ⟨x, (h.find_of_ne hid).trans hx, le_rfl, fun _ ↦ rfl⟩

end Moves

/-! ### Within a plan -/

section Plans

variable {H : Host} {e : EventEnvelope} {s s' : ExecutionRunState}

/-- The revision of the plan of a run, and zero before its first plan. -/
def ExecutionRunState.rank (s : ExecutionRunState) : Nat := s.planRevision.elim 0 (· + 1)

theorem rank_inj (h : s.rank = s'.rank) : s.planRevision = s'.planRevision := by
  unfold ExecutionRunState.rank at h
  cases hs : s.planRevision <;> cases hs' : s'.planRevision <;> simp_all

/-- A run without a plan has no revision of one. -/
def ExecutionRunState.Unplanned (s : ExecutionRunState) : Prop :=
  s.planId = none → s.planRevision = none

theorem Step.unplanned (h : Step H e (some s) (some s')) (hs : s.Unplanned) : s'.Unplanned := by
  cases h with
  | published => exact hs
  | changed type s s' htype fields run isRun stream sequence active change =>
    cases change with
    | planAdmitted => exact nofun
    | _ => exact hs

/-- **Plans.** A step does not lower the revision of the plan. -/
theorem Step.rank_le (h : Step H e (some s) (some s')) (hs : s.Unplanned) : s.rank ≤ s'.rank := by
  cases h with
  | published => exact le_rfl
  | changed type s s' htype fields run isRun stream sequence active change =>
    cases change with
    | planAdmitted plan status =>
      rcases status with ⟨hplan, -, -, -⟩ | ⟨-, -, -, hrevision⟩
      · simp [ExecutionRunState.rank, hs hplan]
      · cases hr : s.planRevision with
        | none => simp [ExecutionRunState.rank, hr]
        | some revision =>
          simp only [hr, Option.map_some, Option.some.injEq] at hrevision
          simp [ExecutionRunState.rank, hr, hrevision]
    | _ => exact le_rfl

/-- While the plan stays the same, a state that runs was reached from one that ran, by a move of a
task or by a public event that changes no task. -/
theorem Step.within (h : Step H e (some s) (some s')) (hs : s.Unplanned)
    (hrunning : s'.status = .running) (hrevision : s'.planRevision = s.planRevision) :
    s.status = .running ∧ ((∃ t t', Moves e.payload s s' t t') ∨ s'.tasks = s.tasks) := by
  cases h with
  | published t s type isRun stream sequence unchanged finished =>
    cases t <;> simp_all [ExecutionRunState.afterPublic, publicStatus, endTasks]
  | changed type s s' htype fields run isRun stream sequence active change =>
    by_cases htask : isTaskEvent type = true
    · obtain ⟨t, t', hmoves⟩ := change.moves htask
      exact ⟨hmoves.status ▸ hrunning, .inl ⟨t, t', { hmoves with }⟩⟩
    · cases change with
      | replanStarted => simp at hrunning
      | planDraftReceived _ _ _ _ _ _ _ _ _ status =>
        rcases status with status | status <;> simp_all [ExecutionRunState.addUsage]
      | planAdmitted plan status =>
        rcases status with ⟨hplan, -, -, -⟩ | ⟨-, -, -, hr⟩
        · simp [hs hplan] at hrevision
        · cases hr' : s.planRevision <;> simp [hr'] at hr hrevision
          omega
      | runTerminated status reason statusGet outcome =>
        simp_all [isOutcome]
      | _ => exact absurd rfl htask

/-- The steps after an open state, up to an open state. -/
abbrev Follow (H : Host) (E : List EventEnvelope) (s s' : ExecutionRunState) : Prop :=
  History.run (apply H) (some s) E = .ok (some s')

theorem Follow.concat {E : List EventEnvelope} (h : Follow H (E ++ [e]) s s') :
    ∃ m, Follow H E s m ∧ Step H e (some m) (some s') := by
  obtain ⟨m, hm, he⟩ := History.run_append_eq_ok.mp h
  simp only [History.run_cons, History.run_nil, Checked.bind_eq_ok, Except.ok.injEq,
    exists_eq_right, apply_eq_ok] at he
  have hsome : m.isSome := History.keeps (fun state ↦ state.isSome)
    (fun e before after _ hbefore hstep ↦ by
      obtain ⟨s, rfl⟩ := Option.isSome_iff_exists.mp hbefore
      exact (apply_eq_ok.mp hstep).isSome) rfl hm
  obtain ⟨m, rfl⟩ := Option.isSome_iff_exists.mp hsome
  exact ⟨m, hm, he⟩

theorem Follow.rank_le {E : List EventEnvelope} (h : Follow H E s s') (hs : s.Unplanned) :
    s'.Unplanned ∧ s.rank ≤ s'.rank := by
  induction E using List.reverseRecOn generalizing s' with
  | nil =>
    obtain rfl : s = s' := by simpa [Follow] using h
    exact ⟨hs, le_rfl⟩
  | append_singleton E e ih =>
    obtain ⟨m, hm, hstep⟩ := h.concat
    obtain ⟨hm', hle⟩ := ih hm
    exact ⟨hstep.unplanned hm', hle.trans (hstep.rank_le hm')⟩

/-- **Within a plan.** While the plan stays the same, a run that runs has been running all along, and
what its steps keep has been kept. -/
theorem Follow.within {P : ExecutionRunState → Prop} {E : List EventEnvelope}
    (h : Follow H E s s') (hs : s.Unplanned) (hrunning : s'.status = .running)
    (hrevision : s'.planRevision = s.planRevision)
    (hP : ∀ e a b, Step H e (some a) (some b) →
      ((∃ t t', Moves e.payload a b t t') ∨ b.tasks = a.tasks) → P a → P b)
    (hstart : s.status = .running → P s) : s.status = .running ∧ P s' := by
  induction E using List.reverseRecOn generalizing s' with
  | nil =>
    obtain rfl : s = s' := by simpa [Follow] using h
    exact ⟨hrunning, hstart hrunning⟩
  | append_singleton E e ih =>
    obtain ⟨m, hm, hstep⟩ := h.concat
    obtain ⟨hm', hle⟩ := hm.rank_le hs
    have hsame : s'.rank = s.rank := by simp only [ExecutionRunState.rank, hrevision]
    have hle' := hstep.rank_le hm'
    have hm_revision : m.planRevision = s.planRevision := rank_inj (by omega)
    obtain ⟨hm_running, hmoves⟩ := hstep.within hm' hrunning (hrevision.trans hm_revision.symm)
    obtain ⟨hs_running, hPm⟩ := ih hm hm_running hm_revision
    exact ⟨hs_running, hP e m s' hstep hmoves hPm⟩

/-- Within a plan, the clock of a task runs forward, and a task that is blocked or done stays so. -/
theorem Follow.find_le {E : List EventEnvelope} (h : Follow H E s s') (hs : s.Unplanned)
    (hrunning : s'.status = .running) (hrevision : s'.planRevision = s.planRevision)
    {taskId : String} {x : ExecutionTaskState} (hx : s.find taskId = some x) :
    ∃ x', s'.find taskId = some x' ∧ x.clock ≤ x'.clock ∧
      (x.status = .blocked ∨ x.status = .succeeded → x' = x) := by
  refine (h.within hs hrunning hrevision
    (P := fun a ↦ ∃ x', a.find taskId = some x' ∧ x.clock ≤ x'.clock ∧
      (x.status = .blocked ∨ x.status = .succeeded → x' = x)) ?_ ?_).2
  · rintro e a b hstep (⟨t, t', hmoves⟩ | htasks) ⟨y, hy, hle, hstays⟩
    · obtain ⟨z, hz, hle', hstays'⟩ := hmoves.find_le hy
      refine ⟨z, hz, hle.trans hle', fun hstatus ↦ ?_⟩
      obtain rfl := hstays hstatus
      exact hstays' hstatus
    · exact ⟨y, by rw [ExecutionRunState.find, htasks]; exact hy, hle, hstays⟩
  · exact fun _ ↦ ⟨x, hx, le_rfl, fun _ ↦ rfl⟩

/-- A run that was opened from nothing has no revision before its first plan. -/
theorem unplanned_of_project {E : List EventEnvelope} (h : project H E = .ok (some s)) :
    s.Unplanned := by
  refine History.invariant (fun _ state ↦ ∀ s ∈ state, s.Unplanned) (by simp) ?_ h s rfl
  rintro pre e before state hbefore hstep s rfl
  have hstep := apply_eq_ok.mp hstep
  cases before with
  | none =>
    cases hstep with
    | opened => exact fun _ ↦ rfl
  | some b => exact hstep.unplanned (hbefore b rfl)

/-- **No repetition.** A request that has changed a run does not change it again while the run runs
under the same plan. -/
theorem Change.not_again {E : List EventEnvelope} {s₀ s₁ s₂ : ExecutionRunState} {eventId : String}
    {type : ExecutionEventType} (hfirst : Change H e.eventId e.payload s₀ type s₁)
    (hs : s₀.Unplanned) (h : Follow H E (s₁.noted e) s) (hrunning : s.status = .running)
    (hrevision : s.planRevision = s₀.planRevision)
    (hagain : Change H eventId e.payload s type s₂) : False := by
  by_cases htask : isTaskEvent type = true
  · obtain ⟨t, t', hmoves⟩ := hfirst.moves htask
    have hunplanned : (s₁.noted e).Unplanned := by
      intro hplan
      rw [noted_planId, hmoves.planId] at hplan
      rw [noted_planRevision, hmoves.planRevision]
      exact hs hplan
    have hsame : s.planRevision = (s₁.noted e).planRevision := by
      rw [hrevision, noted_planRevision, hmoves.planRevision]
    cases hmark : mark type with
    | some tick =>
      obtain ⟨attempt, hattempt⟩ := hfirst.exists_attempt hmark
      obtain ⟨-, x, hx, hclock⟩ := hfirst.passes hmark hmoves.get hattempt
      rw [← noted_find _ e] at hx
      obtain ⟨y, hy, hle, -⟩ := h.find_le hunplanned hrunning hsame hx
      obtain ⟨⟨z, hz, hlt⟩, -⟩ := hagain.passes hmark hmoves.get hattempt
      obtain rfl := Option.some.inj (hy.symm.trans hz)
      omega
    | none =>
      cases hfirst with
      | taskBlocked task reason names =>
        have hblocked := ExecutionRunState.find_replaceTask_self (s := s₀)
          (t := { task.withoutPolicy with status := .blocked, blockedReason := some reason })
          names.find
        obtain ⟨y, hy, -, hstays⟩ := h.find_le hunplanned hrunning hsame hblocked
        obtain rfl := hstays (.inl rfl)
        cases hagain with
        | taskBlocked task' reason' names' reasonGet' nonempty' status' =>
          have hid := names.get.symm.trans names'.get
          rw [JsonValue.str.injEq] at hid
          have hfind := names'.find
          rw [← hid] at hfind
          obtain rfl := Option.some.inj (hy.symm.trans hfind)
          simp at status'
      | _ => simp [mark, isTaskEvent] at hmark htask
  · cases hfirst with
    | runTerminated status reason statusGet outcome =>
      obtain ⟨hrunning', -⟩ := h.within (P := fun _ ↦ True) hs hrunning hrevision
        (fun _ _ _ _ _ _ ↦ trivial) fun _ ↦ trivial
      simp_all [isOutcome]
    | planAdmitted =>
      cases hagain with
      | planAdmitted plan status => simp [hrunning] at status
    | replanStarted =>
      cases hagain with
      | replanStarted planId revision status => simp [hrunning] at status
    | planDraftReceived =>
      cases hagain with
      | planDraftReceived _ _ _ _ _ _ _ _ _ status => simp [hrunning] at status
    | _ => exact absurd rfl htask

end Plans

end Blackcell.Orchestration.ExecutionRuntime
