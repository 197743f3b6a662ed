import Blackcell.Bootstrap.ExecutionWorker

/-!
# The duration of a lease

A lease has to outlast the timeouts of the cycle that holds it. The duration is computed from the
numbers of commands that the operations of the lifecycle run at most, and it counts one inspection
at the end of the node. A cycle whose success is refused after this inspection records another end
of the node, and inspects the checkout again.

## Main definitions

* `recordsAgain`, `reachesSuccess` : the success of a node is refused too late, and the state in
  which a cycle records it.
* `refusedLate` : the success of a writing node is refused too late.

## Main results

* `lease_outlasts` : a lease outlasts the cycles, but for one inspection.
-/

namespace Blackcell.Bootstrap.ExecutionWorker

open Blackcell.Kernel Blackcell.Adapters.Worktree
open Blackcell.Interfaces.Http hiding check check_eq_ok
open Blackcell.Adapters.TextChanges (TextChangeAdmission)
open Blackcell.Orchestration.Changes (ChangeContext ChangeProposal)

/-! ### The parts of a cycle -/

/-- What a part of a cycle declares, when it returns and when it raises. -/
abbrev Costs {α : Type} (m n : ℕ) (x : Cycle α) : Prop := x.Takes Clock.seconds m n

section Parts

variable {env : WorkerEnvironment} {policy : ExecutionWorkerPolicy} {spec : WorktreeExecutionSpec}
  {principalId : String} {prepared : PreparedNode} {m n : ℕ}

theorem costs_demand {p : Prop} [Decidable p] {e : CycleError} : Costs m n (demand p e) :=
  Metered.takes_check _

theorem costs_call {α : Type} (timeout : ℕ) (answer : ℕ → Except CycleError α) :
    Costs timeout timeout (call timeout answer) :=
  Metered.takes_step fun _ ↦ Nat.le_refl _

/-- A call without a timeout. -/
theorem costs_call_zero {α : Type} (answer : ℕ → Except CycleError α) :
    Costs m n (call 0 answer) :=
  (costs_call 0 answer).mono (Nat.zero_le _) (Nat.zero_le _)

/-- An operation of the lifecycle declares the timeouts of its commands. -/
theorem costs_runGit {α : Type} {k : ℕ} {x : Metered ℕ Raised α} (h : Runs k x) :
    Costs (gitWorktreeCommandTimeoutSeconds * k) (gitWorktreeCommandTimeoutSeconds * k)
      (runGit x) := by
  refine Metered.takes_step fun c ↦ Nat.add_le_add_left (Nat.mul_le_mul_left _ ?_) _
  have hend := h.exec_le c.calls
  simp only [id_eq, max_self] at hend
  omega

theorem costs_inspectWorktree : Costs 1200 1200 (inspectWorktree env spec) :=
  costs_runGit takes_inspect

theorem costs_shouldCancelNode : Costs m n (shouldCancelNode env spec) := by
  have hload : Costs 0 0 (some <$> call 0 env.load) := (costs_call_zero _).map _
  refine (Metered.Takes.free (hload.handled fun e ↦ ?_) fun _ ↦ Metered.takes_pure _).mono
    (Nat.zero_le m) (Nat.zero_le n)
  cases e
  · exact Metered.takes_pure _
  all_goals exact Metered.takes_throw _

theorem costs_requireActive : Costs m n (requireActive env spec) :=
  Metered.Takes.free costs_shouldCancelNode fun _ ↦ costs_demand

theorem costs_loadActive {requirePrepared : Bool} :
    Costs m n (loadActive env spec principalId requirePrepared) :=
  Metered.Takes.free costs_demand fun _ ↦ Metered.Takes.free (costs_call_zero _) fun _ ↦
    Metered.Takes.free costs_demand fun _ ↦ Metered.takes_pure _

theorem costs_recordProviderDispatch :
    Costs m n (recordProviderDispatch env spec principalId) :=
  Metered.Takes.free costs_loadActive fun _ ↦ Metered.Takes.free costs_demand fun _ ↦
    costs_call_zero _

theorem costs_retainOrConflict : Costs 1200 1200 (retainOrConflict env spec) := by
  refine costs_inspectWorktree.handled fun e ↦ ?_
  cases e <;> exact Metered.takes_throw _

theorem costs_tryRetain : Costs 1200 1200 (tryRetain env spec) := by
  refine (costs_inspectWorktree.map _).handled fun e ↦ ?_
  cases e
  case worktree => exact Metered.takes_pure _
  all_goals exact Metered.takes_throw _

theorem costs_inspectAccepted : Costs 1200 1200 (inspectAccepted env spec) := by
  refine costs_inspectWorktree.handled fun e ↦ ?_
  cases e <;> exact Metered.takes_throw _

/-- The record of a success inspects once. -/
theorem costs_recordNodeSuccess : Costs 1200 1200 (recordNodeSuccess env spec principalId) := by
  refine Metered.Takes.free costs_loadActive fun _ ↦ ?_
  refine costs_retainOrConflict.then (Nat.le_refl _) fun _ ↦ ?_
  refine Metered.Takes.free costs_demand fun _ ↦ Metered.Takes.free (costs_call_zero _) fun _ ↦ ?_
  exact Metered.Takes.free (costs_call_zero _) fun _ ↦ Metered.takes_pure _

/-- The record of a failure inspects at most once. -/
theorem costs_recordNodeFailure {allowUnprepared : Bool} :
    Costs 1200 1200 (recordNodeFailure env spec principalId allowUnprepared) := by
  have hend : Costs 0 0 (do let _ ← call 0 env.load; pure () : Cycle Unit) :=
    Metered.Takes.free (costs_call_zero _) fun _ ↦ Metered.takes_pure _
  refine Metered.Takes.free costs_loadActive fun _ ↦ ?_
  refine Metered.Takes.free (costs_call_zero _) fun fs ↦ ?_
  dsimp only
  split
  · exact Metered.Takes.free (costs_call_zero _) fun _ ↦ hend.mono (by decide) (by decide)
  · refine costs_tryRetain.then (Nat.le_refl _) fun _ ↦ ?_
    exact Metered.Takes.free (costs_call_zero _) fun _ ↦ hend

/-- The acknowledgement of a cancellation inspects at most once. -/
theorem costs_acknowledgeCancellation :
    Costs 1200 1200 (acknowledgeCancellation env spec principalId) := by
  refine Metered.Takes.free costs_loadActive fun _ ↦ Metered.Takes.free costs_demand fun _ ↦ ?_
  refine costs_tryRetain.then (Nat.le_refl _) fun _ ↦ ?_
  refine Metered.Takes.free (costs_call_zero _) fun _ ↦ ?_
  exact Metered.Takes.free costs_demand fun _ ↦ Metered.Takes.free (costs_call_zero _) fun _ ↦
    Metered.takes_pure _

/-! ### The claim -/

theorem costs_check {α : Type} (x : Except CycleError α) : Costs m n (.check x : Cycle α) :=
  Metered.takes_check x

theorem costs_claimNode {runId nodeId workerId : String} {expiresAt : ℕ} :
    Costs m n (claimNode env runId nodeId workerId expiresAt) := by
  refine Metered.Takes.free costs_demand fun _ ↦ Metered.Takes.free (costs_call_zero _) fun _ ↦ ?_
  refine Metered.Takes.free costs_demand fun _ ↦ Metered.Takes.free (costs_check _) fun _ ↦ ?_
  refine Metered.Takes.free (costs_check _) fun _ ↦ Metered.Takes.free costs_demand fun _ ↦ ?_
  refine Metered.Takes.free (costs_call_zero _) fun _ ↦ Metered.Takes.free costs_demand fun _ ↦ ?_
  refine Metered.Takes.free (costs_call_zero _) fun _ ↦ ?_
  refine Metered.Takes.free (costs_check _) fun _ ↦ ?_
  exact Metered.Takes.free (costs_call_zero _) fun _ ↦ Metered.takes_pure _

theorem costs_createCheckout {workerId : String} :
    Costs 1800 3000 (createCheckout env spec workerId) := by
  have hcreate : Costs 1800 1800 (runGit (createWorktree env.toCheckoutEnvironment spec)) :=
    costs_runGit takes_createWorktree
  refine (hcreate.recover (p := 0) (q := 1200) fun e ↦ ?_).mono (by decide) (by decide)
  cases e
  case worktree =>
    exact costs_recordNodeFailure.raising _
  all_goals exact Metered.takes_throw _

/-- The preparation of a node creates its checkout, and inspects it when the creation fails. -/
theorem costs_prepareNode {runId nodeId workerId : String} {expiresAt : ℕ} :
    Costs 1800 3000 (prepareNode env runId nodeId workerId expiresAt) := by
  refine Metered.Takes.free costs_claimNode fun prepared ↦ ?_
  refine (costs_createCheckout.bind (p := 0) (q := 0) fun _ ↦ ?_).mono (by decide) (by decide)
  refine Metered.Takes.free (costs_call_zero _) fun _ ↦ ?_
  exact Metered.Takes.free (costs_call_zero _) fun _ ↦ Metered.Takes.free costs_demand fun _ ↦
    Metered.takes_pure _

/-! ### The execution -/

theorem costs_collectEvidence : Costs 1200 1200 (collectEvidence env spec) := by
  refine Metered.Takes.free costs_demand fun _ ↦ ?_
  refine costs_inspectWorktree.then (Nat.le_refl _) fun _ ↦ ?_
  exact Metered.Takes.free costs_demand fun _ ↦ costs_call_zero _

theorem seconds_afterInspections (c : Clock) (k : ℕ) :
    (afterInspections env spec c k).seconds ≤ c.seconds + k * 1200 := by
  induction k with
  | zero => exact Nat.le_add_right _ _
  | succ k ih =>
    have hstep := costs_inspectWorktree.exec_le (x := inspectWorktree env spec)
      (afterInspections env spec c k)
    rw [max_self] at hstep
    rw [afterInspections]
    omega

/-- The effects of a proposal are inspected twice, and once more after they were undone. -/
theorem costs_executeChanges {proposal : ChangeProposal env.digest}
    {admission : TextChangeAdmission env.host} :
    Costs 2400 3600 (executeChanges env spec proposal admission) where
  of_ok c result c' h := by
    obtain ⟨hanswer, rfl⟩ := Prod.mk.inj h
    refine (seconds_afterInspections c _).trans (Nat.add_le_add_left ?_ _)
    have hinspected := (Adapters.TextChanges.inspectsWithin_execute (textEnvironment env spec c)
      spec proposal admission ⟨env.checkout c.calls, 0, 0⟩).1 _ (Checked.mapError_eq_ok.mp hanswer)
    simp only [Nat.zero_add] at hinspected
    omega
  of_error c e c' h := by
    obtain ⟨-, rfl⟩ := Prod.mk.inj h
    refine (seconds_afterInspections c _).trans (Nat.add_le_add_left ?_ _)
    have hinspected := (Adapters.TextChanges.inspectsWithin_execute (textEnvironment env spec c)
      spec proposal admission ⟨env.checkout c.calls, 0, 0⟩).2
    simp only [Nat.zero_add] at hinspected
    omega

theorem costs_proposeChanges : Costs prepared.node.budget.timeoutSeconds
    prepared.node.budget.timeoutSeconds (proposeChanges env policy prepared) :=
  Metered.Takes.free costs_requireActive fun _ ↦
    Metered.Takes.free costs_recordProviderDispatch fun _ ↦ costs_call _ _

theorem costs_applyProposal {context : ChangeContext env.repr env.digest}
    {proposal : ChangeProposal env.digest} :
    Costs 2400 3600 (applyProposal env spec context proposal) := by
  refine Metered.Takes.free (costs_call_zero _) fun _ ↦ ?_
  refine Metered.Takes.free (costs_call_zero _) fun _ ↦ ?_
  refine Metered.Takes.free costs_requireActive fun _ ↦ ?_
  refine Metered.Takes.free (costs_check _) fun _ ↦ ?_
  refine (costs_executeChanges.bind fun result ↦ Metered.Takes.free (m := 0) (n := 0)
    (costs_call_zero _) fun _ ↦ ?_).mono (by decide) (by decide)
  exact Metered.Takes.free (costs_check _) fun _ ↦ Metered.Takes.free costs_requireActive fun _ ↦
    Metered.takes_pure _

/-- The changes of a writing node: the evidence, the proposal, and the effects. -/
theorem costs_changeFiles : Costs (3600 + prepared.node.budget.timeoutSeconds)
    (4800 + prepared.node.budget.timeoutSeconds) (changeFiles env policy prepared) :=
  (costs_collectEvidence.bind fun _ ↦ Metered.Takes.free (costs_call_zero _) fun _ ↦
    costs_proposeChanges.bind fun _ ↦ costs_applyProposal).mono (by omega) (by omega)

theorem costs_probe :
    Costs acceptanceProbeTimeoutSeconds acceptanceProbeTimeoutSeconds (probe env) :=
  (costs_call _ _).then (Nat.le_refl _) fun _ ↦ costs_demand

theorem costs_runIsolated (timeout : ℕ) : Costs timeout timeout (runIsolated env timeout) := by
  refine (((costs_call timeout _).map _).handled fun e ↦ ?_).mono (max_self _).le (Nat.le_refl _)
  cases e
  case acceptance => exact Metered.takes_pure _
  all_goals exact Metered.takes_throw _

/-- The seconds of a check: two inspections, a probe and the command. -/
abbrev checkSeconds (timeout : ℕ) : ℕ := 2402 + timeout

theorem costs_concludeAcceptance {expected : ℤ} {before : WorktreeInspection}
    {launch : Option Launch} :
    Costs 1200 1200 (concludeAcceptance env spec expected before launch) :=
  costs_inspectAccepted.then (Nat.le_refl _) fun _ ↦ Metered.Takes.free costs_demand fun _ ↦
    Metered.Takes.free (costs_check _) fun _ ↦ Metered.Takes.free costs_demand fun _ ↦
      Metered.takes_pure _

/-- A check is between two inspections. -/
theorem costs_runAcceptance {expected : ℤ} {timeout : ℕ} :
    Costs (checkSeconds timeout) (checkSeconds timeout)
      (runAcceptance env spec expected timeout) := by
  refine Metered.Takes.free (costs_call_zero _) fun _ ↦ ?_
  refine (costs_inspectAccepted.bind fun before ↦ Metered.Takes.free costs_demand fun _ ↦
    costs_probe.bind fun _ ↦ (costs_runIsolated timeout).bind fun launch ↦
      costs_concludeAcceptance).mono ?_ ?_ <;>
  · simp only [acceptanceProbeTimeoutSeconds, checkSeconds]
    omega

theorem costs_runCheck {check : AcceptanceCheck} :
    Costs (checkSeconds prepared.node.budget.timeoutSeconds)
      (checkSeconds prepared.node.budget.timeoutSeconds) (runCheck env policy prepared check) := by
  refine Metered.Takes.free (costs_check _) fun command ↦ ?_
  refine costs_runAcceptance.then (Nat.le_refl _) fun _ ↦ ?_
  exact Metered.Takes.free (costs_call_zero _) fun _ ↦ costs_demand

/-- **Checks.** Each check adds its seconds. -/
theorem costs_runChecks {checks : List AcceptanceCheck} :
    Costs (checks.length * checkSeconds prepared.node.budget.timeoutSeconds)
      (checks.length * checkSeconds prepared.node.budget.timeoutSeconds)
      (runChecks env policy prepared checks) := by
  induction checks with
  | nil => exact Metered.takes_pure _
  | cons check checks ih =>
    refine (costs_runCheck.bind fun _ ↦ ih).mono ?_ ?_ <;>
    · rw [List.length_cons, Nat.succ_mul]
      omega

/-- The seconds of the work on a node, before the record of its end. -/
def workSeconds (node : PlanNode) : ℕ :=
  (if node.isWriter then 6360 + node.budget.timeoutSeconds else 1200) +
    node.checks.length * checkSeconds node.budget.timeoutSeconds

/-- A commit that declares so much, and the checks after it. -/
theorem costs_commitAndCheck {effects : List WorktreeCommitEffect} {k : ℕ}
    (h : Runs k ((metered env.toGitEnvironment).commitChanges env.toGitEnvironment prepared.spec
      effects)) :
    Costs (120 * k + prepared.node.checks.length * checkSeconds prepared.node.budget.timeoutSeconds)
      (120 * k + prepared.node.checks.length * checkSeconds prepared.node.budget.timeoutSeconds)
      (commitAndCheck env policy prepared effects) :=
  ((costs_runGit h).bind fun _ ↦ costs_runChecks.bind fun _ ↦ Metered.Takes.free (m := 0) (n := 0)
    costs_requireActive fun _ ↦ Metered.Takes.free (costs_call_zero _) fun _ ↦
      costs_requireActive).mono (Nat.le_refl _) (by simp [gitWorktreeCommandTimeoutSeconds])

/-- **Work.** The changes, their commit and the checks; a node that only reads commits nothing. -/
theorem costs_perform :
    Costs (workSeconds prepared.node) (workSeconds prepared.node)
      (perform env policy prepared) := by
  refine Metered.Takes.free costs_requireActive fun _ ↦ ?_
  unfold stageChanges workSeconds
  split
  · refine (costs_changeFiles.bind fun effects ↦
      costs_commitAndCheck takes_commitChanges).mono ?_ ?_ <;>
    · simp only [maxGitWorktreeCommitCommands]
      omega
  · rw [pure_bind]
    exact costs_commitAndCheck takes_commitChanges_nil

/-! ### The end of a node -/

theorem costs_tryStore : Costs m n (tryStore env) :=
  ((costs_call_zero (m := 0) (n := 0) env.store).handled fun _ ↦ Metered.takes_pure _).mono
    (Nat.zero_le _) (Nat.zero_le _)

theorem costs_acknowledge : Costs 1200 1200 (acknowledge env policy prepared) := by
  refine Metered.Takes.free costs_tryStore fun _ ↦ ?_
  refine (Metered.Takes.handled (m := 1200) (n := 1200) ?_ fun e ↦ ?_).mono (Nat.le_refl _)
    (Nat.le_refl _)
  · exact costs_acknowledgeCancellation.then (Nat.le_refl _) fun _ ↦ Metered.takes_pure _
  · cases e
    case api => exact Metered.takes_pure _
    all_goals exact Metered.takes_throw _

theorem costs_handleFailure {e : CycleError} :
    Costs 1200 1200 (handleFailure env policy prepared e) := by
  refine Metered.Takes.free costs_shouldCancelNode fun cancel ↦ ?_
  split
  · exact costs_acknowledge
  · cases e
    case api => exact Metered.takes_pure _
    all_goals exact Metered.Takes.free costs_tryStore fun _ ↦
      costs_recordNodeFailure.then (Nat.le_refl _) fun _ ↦ Metered.takes_pure _

end Parts

/-! ### Cycles -/

section Cycles

variable (env : WorkerEnvironment) (policy : ExecutionWorkerPolicy)

/-- The record of a success is refused after it has inspected the checkout, and another end of the
node is recorded. -/
def recordsAgain (prepared : PreparedNode) (c : Clock) : Bool :=
  match (recordNodeSuccess env prepared.spec policy.workerId).exec c with
  | (.ok _, _) => false
  | (.error (.api _), c') => decide (c.seconds < c'.seconds) &&
      ((shouldCancelNode env prepared.spec).exec c').1.toOption = some true
  | (.error _, c') => decide (c.seconds < c'.seconds)

/-- The node that a cycle has prepared, and the clock, when it records the success of the node. -/
def reachesSuccess (ready : ReadyNode env) (c : Clock) : Option (PreparedNode × Clock) :=
  match (claim env policy ready).exec c with
  | (.ok (some prepared), c') =>
    match (perform env policy prepared).exec c' with
    | (.ok _, c'') => some (prepared, c'')
    | _ => none
  | _ => none

variable {env policy} {prepared : PreparedNode} {ready : ReadyNode env} {c c' : Clock}

/-- A refusal of the runtime ends the cycle, unless the node is to be canceled. -/
theorem seconds_handleFailure_api {code : RuntimeApiFailureCode}
    (h : ((shouldCancelNode env prepared.spec).exec c).1.toOption ≠ some true) :
    ((handleFailure env policy prepared (.api code)).exec c).2.seconds ≤ c.seconds := by
  have hcosts : Costs 0 0 (shouldCancelNode env prepared.spec) := costs_shouldCancelNode
  have hask := hcosts.exec_le c
  rcases hr : (shouldCancelNode env prepared.spec).exec c with ⟨e | cancel, c₁⟩
  · rw [hr] at hask
    rw [handleFailure, Metered.exec_bind_of_error hr]
    exact hask
  · rw [hr] at hask h
    cases cancel with
    | true => exact absurd rfl h
    | false =>
      rw [handleFailure, Metered.exec_bind_of_ok hr]
      exact hask

/-- **Ends.** A cycle that is not refused after the inspection of its success records one end. -/
theorem seconds_end_le (h : recordsAgain env policy prepared c = false) :
    ((tryCatch (succeed env policy prepared)
      (handleFailure env policy prepared)).exec c).2.seconds ≤ c.seconds + 1200 := by
  have hcosts : Costs 1200 1200 (recordNodeSuccess env prepared.spec policy.workerId) :=
    costs_recordNodeSuccess
  have hrecord := hcosts.exec_le c
  rcases hr : (recordNodeSuccess env prepared.spec policy.workerId).exec c with ⟨e | _, c₁⟩
  · rw [hr, max_self] at hrecord
    have hraise : (succeed env policy prepared).exec c = (.error e, c₁) :=
      Metered.exec_bind_of_error hr
    rw [Metered.exec_tryCatch_of_error hraise]
    have hhandling : Costs 1200 1200 (handleFailure env policy prepared e) := costs_handleFailure
    have hhandle := hhandling.exec_le c₁
    rw [max_self] at hhandle
    rw [recordsAgain, hr] at h
    by_cases hinspected : c.seconds < c₁.seconds
    · cases e with
      | api code =>
        refine (seconds_handleFailure_api fun hcancel ↦ ?_).trans hrecord
        simp [hinspected, hcancel] at h
      | _ => simp [hinspected] at h
    · omega
  · rw [hr, max_self] at hrecord
    have hreturn : (succeed env policy prepared).exec c = (.ok .nodeSucceeded, c₁) :=
      Metered.exec_bind_of_ok hr
    rw [Metered.exec_tryCatch_of_ok hreturn]
    exact hrecord

/-- An end that is recorded twice. -/
theorem seconds_end_le_twice :
    ((tryCatch (succeed env policy prepared)
      (handleFailure env policy prepared)).exec c).2.seconds ≤ c.seconds + 2400 := by
  have hrecord : Costs 1200 1200 (succeed env policy prepared) :=
    costs_recordNodeSuccess.then (Nat.le_refl _) fun _ ↦ Metered.takes_pure _
  exact (hrecord.recover fun _ ↦ costs_handleFailure).exec_le c

/-- The execution of a node whose success is reached in `c'`. -/
theorem seconds_execute_le {k : ℕ} (hend : 1200 ≤ k)
    (h : ∀ c', (perform env policy prepared).exec c = (.ok (), c') → ((tryCatch
      (succeed env policy prepared) (handleFailure env policy prepared)).exec c').2.seconds ≤
        c'.seconds + k) :
    ((execute env policy prepared).exec c).2.seconds ≤
      c.seconds + workSeconds prepared.node + k := by
  have hcosts : Costs (workSeconds prepared.node) (workSeconds prepared.node)
    (perform env policy prepared) := costs_perform
  have hperform := hcosts.exec_le c
  rw [max_self] at hperform
  rw [execute]
  rcases hr : (perform env policy prepared).exec c with ⟨e | _, c₁⟩
  · rw [hr] at hperform
    rw [Metered.exec_tryCatch_of_error (Metered.exec_bind_of_error hr)]
    have hhandling : Costs 1200 1200 (handleFailure env policy prepared e) := costs_handleFailure
    have hhandle := hhandling.exec_le c₁
    rw [max_self] at hhandle
    simp only at hperform
    omega
  · rw [hr] at hperform
    rw [Metered.exec_tryCatch_bind_of_ok hr]
    have hlast := h c₁ hr
    simp only at hperform
    omega

/-- A node is claimed as the plan has it. -/
theorem node_of_claimNode {runId nodeId workerId : String} {expiresAt : ℕ}
    (h : (claimNode env runId nodeId workerId expiresAt).exec c = (.ok prepared, c')) :
    byId env.plan.nodes nodeId = some prepared.node := by
  simp only [claimNode, Metered.exec_bind_eq_ok, Metered.exec_check_eq_ok,
    Metered.exec_pure_eq_ok] at h
  obtain ⟨-, -, -, run, -, -, -, -, -, state, -, -, node, -, ⟨hnode, -⟩, -, -, -, -, -, -, -, -, -,
    fs, -, -, spec, -, -, -, -, -, rfl, -⟩ := h
  exact Checked.ofOption_eq_ok.mp hnode

/-- A node that was claimed and prepared is the one of the plan. -/
theorem of_claim (h : (claim env policy ready).exec c = (.ok (some prepared), c')) :
    prepared.node = ready.node ∧ c'.seconds ≤ c.seconds + 1800 := by
  simp only [claim, Metered.exec_bind_eq_ok, Metered.exec_tryCatch_eq_ok,
    Metered.exec_map_eq_ok] at h
  obtain ⟨start, c₁, hstart, ⟨prepared', hprepare, hsome⟩ | ⟨e, c₂, -, hrefused⟩⟩ := h
  · obtain rfl := Option.some.inj hsome
    have hclock : c₁.seconds = c.seconds := by
      rw [← (Prod.mk.inj hstart).2]
      exact Nat.add_zero _
    refine ⟨?_, hclock ▸ costs_prepareNode.of_ok _ _ _ hprepare⟩
    simp only [prepareNode, Metered.exec_bind_eq_ok, Metered.exec_pure_eq_ok] at hprepare
    obtain ⟨claimed, c₂, hclaim, -, -, -, -, -, -, -, -, -, -, -, -, rfl, -⟩ := hprepare
    exact Option.some.inj ((node_of_claimNode hclaim).symm.trans (env.plan.byId_of_mem ready.mem))
  · cases e with
    | api code => cases (Metered.exec_pure_eq_ok.mp hrefused).1
    | _ => cases (Prod.mk.inj (Metered.exec_throw.symm.trans hrefused)).1

theorem costs_claim : Costs 3000 3000 (claim env policy ready) := by
  refine Metered.Takes.free (costs_call_zero _) fun start ↦ ?_
  refine ((costs_prepareNode.map _).handled fun e ↦ ?_).mono (by decide) (Nat.le_refl _)
  cases e
  case api => exact Metered.takes_pure _
  all_goals exact Metered.takes_throw _

/-- The claim, the work and one record of the end fit into the lease; a node that only reads may
record its end twice. -/
theorem workSeconds_le (node : PlanNode) :
    1800 + workSeconds node + (if node.isWriter then 1200 else 2400) + policy.leaseGraceSeconds ≤
      leaseSeconds policy node := by
  have hread : maxExecutionReadBaseWorktreeSeconds = 5760 := rfl
  have hwrite : maxExecutionWriteBaseWorktreeSeconds = 9360 := rfl
  have hcheck : maxExecutionAcceptanceWorktreeSeconds = 2400 := rfl
  have hprobe : acceptanceProbeTimeoutSeconds = 2 := rfl
  unfold workSeconds leaseSeconds checkSeconds
  simp only [hread, hwrite, hcheck, hprobe, Nat.mul_add,
    Nat.mul_comm node.budget.timeoutSeconds node.checks.length]
  split <;> omega

/-- The success of a writing node is refused too late: after the inspection of its record, to be
followed by the record of another end. -/
def refusedLate (env : WorkerEnvironment) (policy : ExecutionWorkerPolicy) (ready : ReadyNode env)
    (c : Clock) : Bool :=
  ready.node.isWriter && (reachesSuccess env policy ready c).any fun r ↦
    recordsAgain env policy r.1 r.2

/-- **Leases.** A lease outlasts the timeouts of every cycle, but for one inspection where the
success of a writing node is refused too late. -/
theorem lease_outlasts (env : WorkerEnvironment) (policy : ExecutionWorkerPolicy)
    (ready : ReadyNode env) (c : Clock) :
    ((runOnce env policy (some ready)).exec c).2.seconds + policy.leaseGraceSeconds ≤
      c.seconds + leaseSeconds policy ready.node +
        (if refusedLate env policy ready c then 1200 else 0) := by
  have hlease : _ + policy.leaseGraceSeconds ≤ leaseSeconds policy ready.node :=
    workSeconds_le ready.node
  have hcosts : Costs 3000 3000 (claim env policy ready) := costs_claim
  have hclaim := hcosts.exec_le c
  have hwork : 1200 ≤ workSeconds ready.node := by
    unfold workSeconds
    split <;> omega
  rw [runOnce]
  rcases hr : (claim env policy ready).exec c with ⟨e | r, c₁⟩
  · rw [hr] at hclaim
    rw [Metered.exec_bind_of_error hr]
    simp only at hclaim ⊢
    split at hlease <;> omega
  · rw [hr] at hclaim
    rw [Metered.exec_bind_of_ok hr]
    cases r with
    | none =>
      simp only [Metered.exec_pure] at hclaim ⊢
      split at hlease <;> omega
    | some prepared =>
      obtain ⟨hnode, hprepared⟩ := of_claim hr
      have htwice : ((execute env policy prepared).exec c₁).2.seconds ≤
          c₁.seconds + workSeconds prepared.node + 2400 :=
        seconds_execute_le (by decide) fun c₂ _ ↦ seconds_end_le_twice
      simp only
      by_cases hwriter : ready.node.isWriter = true
      · rw [if_pos hwriter] at hlease
        by_cases hlate : refusedLate env policy ready c = true
        · rw [if_pos hlate]
          rw [hnode] at htwice
          omega
        · have hend : ∀ c₂, (perform env policy prepared).exec c₁ = (.ok (), c₂) →
              recordsAgain env policy prepared c₂ = false := by
            intro c₂ hperform
            simpa [refusedLate, hwriter, reachesSuccess, hr, hperform] using hlate
          have honce : ((execute env policy prepared).exec c₁).2.seconds ≤
              c₁.seconds + workSeconds prepared.node + 1200 :=
            seconds_execute_le (Nat.le_refl _) fun c₂ hperform ↦ seconds_end_le (hend c₂ hperform)
          rw [if_neg hlate]
          rw [hnode] at honce
          omega
      · rw [if_neg hwriter] at hlease
        rw [hnode] at htwice
        omega

end Cycles

end Blackcell.Bootstrap.ExecutionWorker
