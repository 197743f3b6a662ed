import Blackcell.Orchestration.ExecutionRuntime.Runs
import Blackcell.Orchestration.ExecutionRuntime.Sound

/-!
# Executions that proceed

A call that runs alone, on a running state that belongs to its plan, stores every request of its
execution: the projection accepts it, and no earlier request had its key. What is assumed of the
surroundings is collected in `Proceeds`; the rules of this file are about single requests.

## Main definitions

* `Planned` : the tasks of a state are those of a plan.
* `Proceeds` : an invariant under which the requests of an execution are new.
* `Aside` : a state in which one task was moved, and no usage was counted.

## Main results

* `meets_request` : a request that changes a running state is stored.
* `meets_terminate` : a run ends.
-/

namespace Blackcell.Orchestration.ExecutionRuntime

open Blackcell.Kernel Blackcell.Gateway Blackcell.Orchestration.ExecutionPlan

/-! ### Usage -/

/-- The usage that a run has counted. -/
structure Usage where
  inputTokens : Nat
  inputTokensComplete : Bool
  outputTokens : Nat
  outputTokensComplete : Bool
  latencyMs : Nat
  costMicrousd : Nat
  costMicrousdComplete : Bool
  deriving DecidableEq

/-- The usage of a run. -/
def ExecutionRunState.usage (s : ExecutionRunState) : Usage :=
  ⟨s.inputTokens, s.inputTokensComplete, s.outputTokens, s.outputTokensComplete, s.latencyMs,
    s.costMicrousd, s.costMicrousdComplete⟩

section Usage

variable {s s' : ExecutionRunState}

theorem providerUsageIncomplete_congr (h : s'.usage = s.usage) :
    providerUsageIncomplete s' = providerUsageIncomplete s := by
  simp only [ExecutionRunState.usage, Usage.mk.injEq] at h
  simp [providerUsageIncomplete, h]

theorem remainingBudget_congr (h : s'.usage = s.usage) (budget : GatewayBudget) :
    remainingBudget budget s' = remainingBudget budget s := by
  simp only [ExecutionRunState.usage, Usage.mk.injEq] at h
  simp [remainingBudget, h]

end Usage

/-! ### States of a plan -/

/-- What an event of a task leaves alone. -/
def ExecutionTaskState.shape (t : ExecutionTaskState) :
    String × List String × List String × Nat :=
  (t.taskId, t.dependsOn, t.allowedPaths, t.maxAttempts)

/-- **Planned states.** The tasks of a state are those of a plan, and a task that waits for its
repair has an attempt left. -/
structure Planned (plan : Plan) (s : ExecutionRunState) : Prop where
  planId : s.planId = some plan.planId
  tasks : s.tasks.map (·.shape) = plan.tasks.1.map fun t ↦ (ExecutionTaskState.initial t).shape
  repairable : ∀ t ∈ s.tasks, t.status = .repairable → t.attempts < t.maxAttempts

section Planned

variable {plan : Plan} {s s' : ExecutionRunState} {t t' : ExecutionTaskState} {task : TaskSpec}

theorem Planned.map_taskId (h : Planned plan s) :
    s.tasks.map (·.taskId) = plan.tasks.1.map (·.taskId) := by
  have hids := congrArg (List.map Prod.fst) h.tasks
  simpa [List.map_map, Function.comp_def, ExecutionTaskState.shape,
    ExecutionTaskState.initial] using hids

/-- Each task of the plan is one of the state. -/
theorem Planned.exists_find (h : Planned plan s) (hmem : task ∈ plan.tasks.1) :
    ∃ t, s.find task.taskId = some t ∧ t.shape = (ExecutionTaskState.initial task).shape := by
  have hshape : (ExecutionTaskState.initial task).shape ∈ s.tasks.map (·.shape) := by
    rw [h.tasks]
    exact List.mem_map.mpr ⟨task, hmem, rfl⟩
  obtain ⟨t, ht, hshape⟩ := List.mem_map.mp hshape
  have hnodup : (s.tasks.map (·.taskId)).Nodup := by
    rw [h.map_taskId]
    exact plan.tasks.2.2.1
  have hid : t.taskId = task.taskId := congrArg Prod.fst hshape
  exact ⟨t, hid ▸ ExecutionRunState.find_of_mem hnodup ht, hshape⟩

/-- The task of a state that a task of the plan stands for. -/
theorem Planned.shape_eq (h : Planned plan s) (hmem : task ∈ plan.tasks.1)
    (hfind : s.find task.taskId = some t) :
    t.taskId = task.taskId ∧ t.dependsOn = task.dependsOn ∧ t.allowedPaths = task.allowedPaths.1 ∧
      t.maxAttempts = task.maxAttempts := by
  obtain ⟨t', ht', hshape⟩ := h.exists_find hmem
  obtain rfl := Option.some.inj (hfind.symm.trans ht')
  simpa [ExecutionTaskState.shape, ExecutionTaskState.initial] using hshape

theorem map_shape_replaceTask (hfind : s.find t'.taskId = some t) (hshape : t'.shape = t.shape)
    (hnodup : (s.tasks.map (·.taskId)).Nodup) :
    (s.replaceTask t').tasks.map (·.shape) = s.tasks.map (·.shape) := by
  simp only [ExecutionRunState.replaceTask, List.map_map]
  refine List.map_congr_left fun x hx ↦ ?_
  simp only [Function.comp]
  split
  · rename_i hid
    have hx' := ExecutionRunState.find_of_mem hnodup hx
    rw [hid, hfind] at hx'
    rw [← Option.some.inj hx', hshape]
  · rfl

end Planned

/-! ### Requests -/

section Payloads

variable {H : Host} {plan : Plan} {type : ExecutionEventType} {payload : Mapping}

theorem nodup_payloadFields (type : ExecutionEventType) : (payloadFields type).Nodup := by
  cases type <;> decide

/-- A payload with the fields of its kind, in their order. -/
theorem exact_of_keys {runId : String}
    (h : Mapping.keys (("run_id", .str runId) :: payload) = payloadFields type) :
    Mapping.exact (("run_id", .str runId) :: payload) (payloadFields type) ∧
      "run_id" ∉ payload.keys := by
  refine ⟨⟨fun _ hkey ↦ h ▸ hkey, fun _ hkey ↦ h ▸ hkey⟩, fun hkey ↦ ?_⟩
  have hnodup := nodup_payloadFields type
  rw [← h] at hnodup
  exact (List.nodup_cons.mp hnodup).1 hkey

theorem ExecutionRequests.keys (h : ExecutionRequests H plan type payload) (runId : String) :
    Mapping.keys (("run_id", .str runId) :: payload) = payloadFields type := by
  cases h <;> rfl

theorem PlanningRequests.keys {env : Environment} (h : PlanningRequests env type payload)
    (runId : String) :
    Mapping.keys (("run_id", .str runId) :: payload) = payloadFields type := by
  cases h <;> rfl

end Payloads

/-- **Executions that proceed.** An invariant that the requests of an execution keep, under which
they are new, and under which the state of the run belongs to the plan. The executor does not report
a verification as passed when its workspace is not clean. -/
structure Proceeds (env : Environment) (caller : Nat) (runId : String)
    (C : operations.Op → World → Prop) (J : World → Prop) (plan : Plan) : Prop
    extends Admits env caller runId Quiet C J (ExecutionRequests env.host plan) where
  planned {w : World} {s : ExecutionRunState} : J w → Open env.host runId w.ledger s →
    Planned plan s
  readablePlan : ∀ task ∈ plan.tasks.1, pathTuple task.allowedPaths.1 = .ok task.allowedPaths
  isPlanRunId : isPlanIdentifier runId
  fresh {w w₁ : World} {s s' : ExecutionRunState} {type : ExecutionEventType} {payload : Mapping}
    {eventId : String} : J w → Open env.host runId w.ledger s → s.status = .running →
    Change env.host eventId (("run_id", .str runId) :: payload) s type s' → Quiet w w₁ → J w₁ →
    C (.requestKey ("run:" ++ runId) type (requestScope type (some s) payload)) w₁ →
    ∀ x ∈ streamOf runId w.ledger,
      x.idempotencyKey ≠ some (requestKeyOf env type payload (some s))
  stamps {w w₁ : World} : J w → Quiet w w₁ → J w₁ → C .stamp w₁ →
    ∀ x ∈ w.ledger, x.eventId ≠ (env.stamps w₁.stamped).eventId
  clean {w : World} {request : AttemptRequest} {evidence : AttemptEvidence} : J w →
    C (.execute request) w → env.executor w.calls.length request = .evidence evidence →
    evidence.passed = true → evidence.workspaceClean = true

section Proceeds

variable {env : Environment} {caller : Nat} {runId : String} {C : operations.Op → World → Prop}
  {J : World → Prop} {plan : Plan} {w : World} {s : ExecutionRunState} {actor : String}

variable (h : Proceeds env caller runId C J plan)

include h

/-- **Requests.** A request that changes a running state is stored. -/
theorem meets_request {type : ExecutionEventType} {payload : Mapping}
    (after : String → ExecutionRunState) (hJ : J w) (hopen : Open env.host runId w.ledger s)
    (hrunning : s.status = .running) (hactor : isBlank actor = false)
    (hallowed : ExecutionRequests env.host plan type payload)
    (hchange : ∀ eventId,
      Change env.host eventId (("run_id", .str runId) :: payload) s type (after eventId)) :
    Prog.Meets (handle env caller) Quiet C J (append env.host runId type payload actor)
      (fun r w' ↦ ∃ e, r = .ok e ∧ Stored env runId type payload after w e w') w := by
  obtain ⟨hfields, hkeys⟩ := exact_of_keys (hallowed.keys runId)
  refine meets_append_new h.steady hJ hopen hactor hkeys ?_ ?_ ?_ ?_ ?_
  · rintro rfl
    exact absurd (hchange "") nofun
  · exact fun w₁ hquiet hJ₁ hC ↦ h.fresh hJ hopen hrunning (hchange "") hquiet hJ₁ hC
  · exact fun w₁ hquiet hJ₁ hC ↦ h.stamps hJ hquiet hJ₁ hC
  · intro e hfollows htype hpayload
    have hrun := hopen.runId_eq
    have hsequence : e.streamSequence = s.lastStreamSequence + 1 := by
      rw [hfollows.sequence, hopen.lastStreamSequence]
    refine .changed type s _ htype (hpayload ▸ hfields) ?_ (hrun ▸ hopen.isRun)
      (hrun ▸ hfollows.stream) hsequence (by simp [hrunning, isFinal, isOutcome])
      (hpayload ▸ hchange e.eventId)
    rw [hpayload, hrun]
    rfl
  · exact fun w₂ e hbuilt hJ₂ hread hfollows hstep hinsert ↦
      h.store hallowed hbuilt hJ₂ hread hfollows hstep hinsert

/-- Reading the state of an open run. -/
theorem meets_state (hJ : J w) (hopen : Open env.host runId w.ledger s) :
    Prog.Meets (handle env caller) Quiet C J (rehydrate env.host runId)
      (fun r w' ↦ r = .ok s ∧ J w' ∧ Quiet w w' ∧ Open env.host runId w'.ledger s) w := by
  refine (meets_rehydrate h.steady hJ).mono fun r w' hJ' hpost ↦ ?_
  obtain ⟨hquiet, hr⟩ := hpost
  have hopen' : Open env.host runId w'.ledger s := by
    rw [hquiet.ledger]
    exact hopen
  cases r with
  | ok s' => exact ⟨by rw [hopen'.unique hr], hJ', hquiet, hopen'⟩
  | error error => exact absurd (hopen'.state.symm.trans hr.1.state) (by simp)

/-- **Ends.** A running run is ended with any outcome, with success when its tasks are done. -/
theorem meets_terminate {status : RunLifecycleStatus} {reason : String} (hJ : J w)
    (hopen : Open env.host runId w.ledger s) (hrunning : s.status = .running)
    (hactor : isBlank actor = false) (houtcome : isOutcome status) (hreason : reason ≠ "")
    (hfinished : status = .succeeded → s.allSucceeded) :
    Prog.Meets (handle env caller) Quiet C J (terminate env.host runId status actor reason)
      (fun r w' ↦ ∃ s', r = .ok s' ∧ Open env.host runId w'.ledger s' ∧ s'.status = status) w := by
  simp only [terminate, Prog.bind_eq]
  refine (meets_request h (fun _ ↦ { s with status := status }) hJ hopen hrunning hactor
    (.runTerminated status reason) ?_).bind ?_ ?_
  · exact fun _ ↦ .runTerminated status reason rfl houtcome rfl hreason hfinished
  · rintro _ w₁ hJ₁ ⟨e, -, hstored⟩
    exact (meets_state h hJ₁ hstored.opened).mono
      fun r w' _ ⟨hr, _, _, hopen'⟩ ↦ ⟨_, hr, hopen', rfl⟩
  · rintro _ _ _ ⟨e, he, -⟩
    simp at he

end Proceeds

end Blackcell.Orchestration.ExecutionRuntime
