import Blackcell.Adapters.Worktree
import Blackcell.Orchestration.ExecutionRuntime.Checkpoint

/-!
# The identities of attempts

`ProductionAttemptExecutor.execute` of `bootstrap/execution_plan.py` runs an attempt under a lease,
calls the provider under an identity made from the lease, and works in a checkout whose names are
made from the lease and its specification. The lease holds the run, the task, the number of the
attempt and the worker, but not the plan: a plan that replaces another one starts its attempts at one
again, and may use the identifiers of the tasks of the plan that it replaces.

## Main definitions

* `AttemptStart`, `starts` : the attempts that a stream starts, with what their identities depend on.
* `ProductionAttemptExecutor` : the executor, as far as identities depend on it.
* `DistinctIdentities` : different attempts have different identities.
* `FreshNames` : no two plans start a task of one name with one number on one worker.

## Main results

* `distinctIdentities_iff` : identities are distinct exactly if names are fresh.
-/

namespace Blackcell.Bootstrap

open Blackcell.Kernel Blackcell.Adapters.Worktree Blackcell.Orchestration
  Blackcell.Orchestration.ExecutionPlan Blackcell.Orchestration.ExecutionRuntime

/-! ### Starts of attempts -/

/-- The arguments of `execute` on which the identities of an attempt depend. -/
structure AttemptStart where
  runId : String
  planId : String
  taskId : String
  attempt : Nat
  baseCommit : String
  allowedPaths : List String
  deriving DecidableEq

/-- The attempt that a payload starts, in the state before the start. -/
def startOf? (s : ExecutionRunState) (payload : Mapping) : Option AttemptStart := do
  let planId ← s.planId
  let taskId ← (payload.get "task_id").text?
  let task ← s.find taskId
  let attempt ← (payload.get "attempt").int?
  let baseCommit ← (payload.get "base_commit").text?
  pure ⟨s.runId, planId, task.taskId, attempt.toNat, baseCommit, task.allowedPaths⟩

/-- The start that the runtime records holds the arguments with which it calls the executor. -/
theorem startOf?_taskStartedPayload {H : Host} {s : ExecutionRunState} {t : ExecutionTaskState}
    {r : AttemptRequest} (hrun : s.runId = r.runId) (hplan : s.planId = some r.plan.planId)
    (hfind : s.find r.task.taskId = some t) (hpaths : t.allowedPaths = r.task.allowedPaths.1) :
    startOf? s (("run_id", .str r.runId) :: taskStartedPayload H r.task.taskId r.attempt
      r.workspaceId r.baseCommit r.policyDecision) =
      some ⟨r.runId, r.plan.planId, r.task.taskId, r.attempt, r.baseCommit,
        r.task.allowedPaths.1⟩ := by
  have hid := (ExecutionRunState.mem_of_find hfind).2
  simp [startOf?, taskStartedPayload, Mapping.get_cons, JsonValue.text?, JsonValue.int?, hplan,
    hfind, hrun, hid, hpaths]

/-- The attempt that an event starts. -/
def started? (state : Option ExecutionRunState) (e : EventEnvelope) : Option AttemptStart :=
  if executionEventType? e = some .taskStarted then state.bind fun s ↦ startOf? s e.payload else none

/-- The attempts that the events after a state start, as far as they are accepted. -/
def startsFrom (H : Host) : Option ExecutionRunState → List EventEnvelope → List AttemptStart
  | _, [] => []
  | state, e :: es =>
    match apply H state e with
    | .ok state' => (started? state e).toList ++ startsFrom H state' es
    | .error _ => []

/-- The attempts that a stream starts, in order. -/
def starts (H : Host) (E : List EventEnvelope) : List AttemptStart := startsFrom H none E

/-! ### Identities -/

/-- `ProductionAttemptExecutor`, with the answers of the file system and the limit of the authority
during one attempt. -/
structure ProductionAttemptExecutor where
  repositoryRoot : String
  isolationRoot : String
  /-- `policy.worker_id`. -/
  workerId : String
  /-- `policy.max_changed_paths`. -/
  maxChangedPaths : Nat
  /-- `authority.max_changed_paths`. -/
  authorityMaxChangedPaths : Nat
  fileSystem : FileSystem

namespace ProductionAttemptExecutor

variable (x : ProductionAttemptExecutor) (a : AttemptStart)

/-- The lease of an attempt: the number of the attempt is also its fencing token. -/
def lease : Except WorktreeFailureCode WorktreeLeaseIdentity :=
  WorktreeLeaseIdentity.create a.runId a.taskId a.attempt a.attempt x.workerId

/-- The specification of the checkout of an attempt. -/
def spec : Except WorktreeFailureCode WorktreeExecutionSpec := do
  let lease ← x.lease a
  WorktreeExecutionSpec.create x.fileSystem lease x.repositoryRoot x.isolationRoot a.baseCommit
    a.allowedPaths (min x.maxChangedPaths x.authorityMaxChangedPaths)

variable {x a}

/-- The lease of a specification is the lease of the attempt. -/
theorem lease_of_spec {s : WorktreeExecutionSpec} (h : x.spec a = .ok s) :
    x.lease a = .ok s.lease := by
  simp only [spec, Checked.bind_eq_ok] at h
  obtain ⟨l, hl, h⟩ := h
  rw [hl, (WorktreeExecutionSpec.of_create h).1]

end ProductionAttemptExecutor

variable (H : Host) (x : Nat → ProductionAttemptExecutor) (E : List EventEnvelope)

/-- **Distinct identities.** Two attempts that differ in their plan, their task or their number have
different lease digests, different request identities, and different directories and branches. The
attempts are numbered in the order of the stream, and each has the executor that runs it. -/
def DistinctIdentities : Prop :=
  ∀ (i j : Nat) (a b : AttemptStart), (starts H E)[i]? = some a → (starts H E)[j]? = some b →
    (a.planId, a.taskId, a.attempt) ≠ (b.planId, b.taskId, b.attempt) →
      (∀ l l', (x i).lease a = .ok l → (x j).lease b = .ok l' →
        l.digest H ≠ l'.digest H ∧ RunLifecycle.providerRequestId (l.digest H) ≠
          RunLifecycle.providerRequestId (l'.digest H)) ∧
      ∀ s s', (x i).spec a = .ok s → (x j).spec b = .ok s' →
        s.worktreePath H ≠ s'.worktreePath H ∧ s.branchName H ≠ s'.branchName H

/-- **Fresh names.** No two attempts of different plans, whose leases are accepted, have the same
task, the same number and the same worker. -/
def FreshNames : Prop :=
  ∀ (i j : Nat) (a b : AttemptStart), (starts H E)[i]? = some a → (starts H E)[j]? = some b →
    a.planId ≠ b.planId → a.taskId = b.taskId → a.attempt = b.attempt →
      (x i).workerId = (x j).workerId → ∀ l, (x i).lease a ≠ .ok l

/-- The documents that are hashed for the identities of an attempt. -/
def attemptDocuments (x : ProductionAttemptExecutor) (a : AttemptStart) : List JsonValue :=
  (x.lease a).toOption.toList.map (fun l ↦ .object l.document) ++
    (x.spec a).toOption.toList.map (fun s ↦ .object (s.document H))

/-- The documents that are hashed for the identities of the attempts of a stream. -/
def identityDocuments : Set JsonValue :=
  {v | ∃ i a, (starts H E)[i]? = some a ∧ v ∈ attemptDocuments H (x i) a}

section

variable {H x E} {s : ExecutionRunState} {es : List EventEnvelope} {a b : AttemptStart} {i j : Nat}

/-- An accepted event keeps the run of a state. -/
theorem runId_of_apply {e : EventEnvelope} {state' : Option ExecutionRunState}
    (h : apply H (some s) e = .ok state') : ∃ s', state' = some s' ∧ s'.runId = s.runId := by
  cases apply_eq_ok.mp h with
  | published t => exact ⟨_, rfl, rfl⟩
  | changed t _ s' type fields run isRun stream sequence active change =>
    exact ⟨_, rfl, by cases change <;> rfl⟩

theorem runId_of_started? {e : EventEnvelope} (h : a ∈ (started? (some s) e).toList) :
    a.runId = s.runId := by
  simp only [started?, startOf?, Option.mem_toList] at h
  split at h
  · simp only [Option.bind_some, Option.bind_eq_bind, Option.bind_eq_some_iff] at h
    obtain ⟨planId, -, taskId, -, task, -, attempt, -, baseCommit, -, ⟨⟩⟩ := h
    rfl
  · cases h

/-- The attempts that are started after a state belong to its run. -/
theorem runId_of_mem_startsFrom (h : a ∈ startsFrom H (some s) es) : a.runId = s.runId := by
  induction es generalizing s with
  | nil => cases h
  | cons e es ih =>
    rw [startsFrom] at h
    cases hstep : apply H (some s) e with
    | error => simp [hstep] at h
    | ok state' =>
      rw [hstep] at h
      obtain ⟨s', rfl, hrun⟩ := runId_of_apply hstep
      rcases List.mem_append.mp h with h | h
      · exact runId_of_started? h
      · exact (ih h).trans hrun

/-- The attempts of a stream belong to one run. -/
theorem runId_eq_of_mem_starts (ha : a ∈ starts H E) (hb : b ∈ starts H E) : a.runId = b.runId := by
  unfold starts at ha hb
  induction E with
  | nil => cases ha
  | cons e es ih =>
    have hnone : started? none e = none := by simp [started?]
    rw [startsFrom] at ha hb
    cases hstep : apply H none e with
    | error => simp [hstep] at ha
    | ok state' =>
      simp only [hstep, hnone, Option.toList_none, List.nil_append] at ha hb
      cases state' with
      | none => exact ih ha hb
      | some s => exact (runId_of_mem_startsFrom ha).trans (runId_of_mem_startsFrom hb).symm

theorem mem_starts (h : (starts H E)[i]? = some a) : a ∈ starts H E := List.mem_of_getElem? h

/-- The lease of an attempt is one of the hashed documents. -/
theorem lease_mem (ha : (starts H E)[i]? = some a) {l : WorktreeLeaseIdentity}
    (hl : (x i).lease a = .ok l) : .object l.document ∈ identityDocuments H x E :=
  ⟨i, a, ha, by simp [attemptDocuments, hl, Except.toOption]⟩

theorem spec_mem (ha : (starts H E)[i]? = some a) {s : WorktreeExecutionSpec}
    (hs : (x i).spec a = .ok s) : .object (s.document H) ∈ identityDocuments H x E :=
  ⟨i, a, ha, by simp [attemptDocuments, hs, Except.toOption]⟩

/-- Under fresh names, different attempts have different leases. -/
theorem FreshNames.lease_ne (h : FreshNames H x E) (ha : (starts H E)[i]? = some a)
    (hb : (starts H E)[j]? = some b)
    (hne : (a.planId, a.taskId, a.attempt) ≠ (b.planId, b.taskId, b.attempt))
    {l l' : WorktreeLeaseIdentity} (hl : (x i).lease a = .ok l) (hl' : (x j).lease b = .ok l') :
    l ≠ l' := by
  rintro rfl
  obtain ⟨-, hnode, hattempt, -, hworker⟩ := WorktreeLeaseIdentity.create_eq_ok.mp hl
  obtain ⟨-, hnode', hattempt', -, hworker'⟩ := WorktreeLeaseIdentity.create_eq_ok.mp hl'
  have htask : a.taskId = b.taskId := hnode.symm.trans hnode'
  have hnumber : a.attempt = b.attempt := hattempt.symm.trans hattempt'
  refine h i j a b ha hb (fun hplan ↦ hne ?_) htask hnumber (hworker.symm.trans hworker') l hl
  rw [hplan, htask, hnumber]

/-- The request of a lease determines the digest of the lease. -/
theorem digest_eq_of_providerRequestId {l l' : WorktreeLeaseIdentity}
    (h : RunLifecycle.providerRequestId (l.digest H) =
      RunLifecycle.providerRequestId (l'.digest H)) : l.digest H = l'.digest H := by
  unfold RunLifecycle.providerRequestId at h
  have hlist := String.ext_iff.mp h
  rw [String.toList_append, String.toList_append] at hlist
  have hdigits := String.toList_injective (List.append_inj_right hlist rfl)
  unfold WorktreeLeaseIdentity.digest at hdigits ⊢
  exact Host.withoutDigestPrefix_inj.mp hdigits

end

/-- **Identities.** When SHA-256 does not collide on the hashed documents, different attempts of a
run have different identities exactly if no two of its plans start a task of one name with one number
on one worker. -/
theorem distinctIdentities_iff {H : Host} {x : Nat → ProductionAttemptExecutor}
    {E : List EventEnvelope} (hfree : H.CollisionFreeOn (identityDocuments H x E)) :
    DistinctIdentities H x E ↔ FreshNames H x E := by
  constructor
  · intro hdistinct i j a b ha hb hplan htask hattempt hworker l hl
    -- The two attempts have one lease, since they belong to one run.
    have hl' : (x j).lease b = .ok l := by
      rw [← hl, ProductionAttemptExecutor.lease, ProductionAttemptExecutor.lease, htask, hattempt,
        hworker, runId_eq_of_mem_starts (mem_starts ha) (mem_starts hb)]
    have hne : (a.planId, a.taskId, a.attempt) ≠ (b.planId, b.taskId, b.attempt) :=
      fun h ↦ hplan (congrArg Prod.fst h)
    exact ((hdistinct i j a b ha hb hne).1 l l hl hl').1 rfl
  · intro hfresh i j a b ha hb hne
    have hdigest : ∀ l l', (x i).lease a = .ok l → (x j).lease b = .ok l' →
        l.digest H ≠ l'.digest H := fun l l' hl hl' h ↦
      hfresh.lease_ne ha hb hne hl hl'
        (WorktreeLeaseIdentity.digest_inj hfree (lease_mem ha hl) (lease_mem hb hl') h)
    have hspec : ∀ s s', (x i).spec a = .ok s → (x j).spec b = .ok s' →
        s.digest H ≠ s'.digest H := fun s s' hs hs' h ↦
      hdigest s.lease s'.lease (ProductionAttemptExecutor.lease_of_spec hs)
        (ProductionAttemptExecutor.lease_of_spec hs')
        (WorktreeExecutionSpec.lease_digest_eq_of_digest hfree (spec_mem ha hs) (spec_mem hb hs') h)
    refine ⟨fun l l' hl hl' ↦ ⟨hdigest l l' hl hl', fun h ↦ ?_⟩, fun s s' hs hs' ↦
      ⟨fun h ↦ ?_, fun h ↦ ?_⟩⟩
    · exact hdigest l l' hl hl' (digest_eq_of_providerRequestId h)
    · exact hspec s s' hs hs' (WorktreeExecutionSpec.digest_eq_of_worktreePath h)
    · exact hspec s s' hs hs' (WorktreeExecutionSpec.digest_eq_of_branchName h)

namespace Sample

open ExecutionRuntime.Sample

def revisedActionHex : Hex :=
  hexText 0x50ed25042bf1fb8cb31e58af0c51c2d0e9115a210ec80a3cd253614649d1919d

def missingHex : Hex :=
  hexText 0x41bd893a1252dda72b7500919ad452feba5979a26682e41d8dc97a67d8136a73

/-- The plan that the same draft is compiled to when it replaces the plan. -/
def revised : Plan :=
  { ExecutionRuntime.Sample.plan with
    planId := "plan-dc9c25ce26840e892bcb6f4101e1a598"
    planRevision := 2
    supersedesPlanId := some ExecutionRuntime.Sample.plan.planId
    valid := by decide +kernel }

/-- The worker that runs all attempts. -/
def worker : ProductionAttemptExecutor where
  repositoryRoot := "/srv/repository"
  isolationRoot := "/srv/worktrees"
  workerId := "worker-1"
  maxChangedPaths := 16
  authorityMaxChangedPaths := 16
  fileSystem := ⟨fun _ ↦ false, some, fun _ ↦ true, fun _ ↦ true, fun _ ↦ true⟩

/-- The first attempt of the task under a plan. -/
def firstAttempt (planId : String) : AttemptStart :=
  ⟨"run-1", planId, "task-1", 1, goal.baseCommit, ["src"]⟩

/-- The documents of the lease and of the checkout of the attempt. -/
def leaseDocument : Mapping := [
  ("attempt", .int 1), ("fencing_token", .int 1), ("node_id", .str "task-1"),
  ("run_id", .str "run-1"), ("schema_version", .str worktreeLeaseSchema),
  ("worker_id", .str "worker-1")]

def leaseHex : Hex :=
  hexText 0x989df4f22d7178efa792b43b91a64b67880a61ef0979a4205602da97d87b0739

/-- SHA-256 on the documents of a run that is planned twice. -/
def host : Host := .ofTables (documents ++ [
  ((planPayload revised).canonical,
    hexText 0xcbf54b47ed78e7bb9baf6670db44c45126e1d574ed508a710da8b8a805c9d774),
  (.object [("allowed_paths", .list [.str "src"]), ("attempt", .int 1),
      ("capability", .str "repository-task"), ("destructive", .bool false),
      ("plan_id", .str revised.planId), ("run_id", .str "run-1"), ("task_id", .str "task-1")],
    revisedActionHex),
  (.object [("action_digest", .str (digestPrefix ++ revisedActionHex.1)), ("allowed", .bool true),
      ("reason", .str "bounded-task-authorized")],
    hexText 0xfec1d7c2e99904e68a6e25b6539ce48b7f7ca467e690d5bc5265f967703db8b9),
  (.object [("attempt", .int 1), ("plan_id", .str revised.planId), ("task_id", .str "task-1")],
    hexText 0x3aec1add91c335ca7f014d2ca68b6f8751bfd489318075cad976db0157612511),
  (.object [("failure_class", .str "missing-dependency"), ("summary", .str "boom")], missingHex),
  (.object leaseDocument, leaseHex),
  (.object [("allowed_paths", .list [.str "src"]), ("base_commit", .str goal.baseCommit),
      ("isolation_root", .str "/srv/worktrees"),
      ("lease_digest", .str (digestPrefix ++ leaseHex.1)), ("max_changed_paths", .int 16),
      ("repository_root", .str "/srv/repository"), ("schema_version", .str worktreeSpecSchema)],
    hexText 0x9b2e9f4edd2ed22afdd99ff799f3481f695f987f64d2be2b114146df43d45197)]) [] []

theorem isPlanIdentifier_authorized : isPlanIdentifier "bounded-task-authorized" := by
  decide +kernel

/-- The decision on the attempt under the plan that replaces the first one. -/
def revisedDecision : PolicyDecision :=
  ⟨true, "bounded-task-authorized", digestPrefix ++ revisedActionHex.1, isPlanIdentifier_authorized,
    isHexDigest_append revisedActionHex.2⟩

/-- The attempt fails for a missing dependency, so that the run is planned again. -/
def replannedAttempt : List (ExecutionEventType × Mapping) := [
  (.taskReady, taskReadyPayload "task-1" 1),
  (.policyDecided, policyDecidedPayload host "task-1" 1 decision),
  (.taskStarted, taskStartedPayload host "task-1" 1 workspace goal.baseCommit decision),
  (.taskVerifying, taskVerifyingPayload "task-1" 1 workspace),
  (.taskVerified, taskVerifiedPayload "task-1" 1 workspace .replanRequired
    (some (digestPrefix ++ missingHex.1)) 1 true
    { failed with failureClass := some .missingDependency, isOutcome := by decide +kernel }),
  (.runTerminated, runTerminatedPayload .replanRequired "replan-required")]

/-- The second plan, and the start of its attempt. -/
def replanning : List (ExecutionEventType × Mapping) := [
  (.replanStarted, replanStartedPayload ExecutionRuntime.Sample.plan),
  (.planDraftReceived, planDraftReceivedPayload revised (result 1 (some 1))),
  (.planAdmitted, planAdmittedPayload host revised),
  (.taskReady, taskReadyPayload "task-1" 1),
  (.policyDecided, policyDecidedPayload host "task-1" 1 revisedDecision),
  (.taskStarted, taskStartedPayload host "task-1" 1 "workspace-3aec1add91c335ca7f014d2ca68b6f87"
    goal.baseCommit revisedDecision)]

/-- The stream of the run that is planned twice. -/
def replanned : List EventEnvelope := recorded (admission ++ replannedAttempt ++ replanning)

theorem starts_replanned : starts host replanned =
    [firstAttempt ExecutionRuntime.Sample.plan.planId, firstAttempt revised.planId] := by
  decide +kernel

example : starts host [] = [] := by decide +kernel

/-- The documents of the run that is planned twice do not collide. -/
theorem collisionFreeOn_replanned :
    host.CollisionFreeOn (identityDocuments host (fun _ ↦ worker) replanned) := by
  have hdocuments : ∀ v ∈ (starts host replanned).flatMap (attemptDocuments host worker),
      ∀ w ∈ (starts host replanned).flatMap (attemptDocuments host worker),
        host.jsonDigest v = host.jsonDigest w → v.canonical = w.canonical := by
    rw [starts_replanned]
    decide +kernel
  have hmem : ∀ v ∈ identityDocuments host (fun _ ↦ worker) replanned,
      v ∈ (starts host replanned).flatMap (attemptDocuments host worker) := by
    rintro v ⟨i, a, ha, hv⟩
    exact List.mem_flatMap.mpr ⟨a, mem_starts ha, hv⟩
  exact fun v hv w hw ↦ hdocuments v (hmem v hv) w (hmem w hw)

/-- The two attempts have one lease. -/
theorem exists_lease : ∃ l, worker.lease (firstAttempt ExecutionRuntime.Sample.plan.planId) = .ok l ∧
    worker.lease (firstAttempt revised.planId) = .ok l := by
  have hidentifiers : isLeaseIdentifier "run-1" ∧ isLeaseIdentifier "task-1" ∧
      isLeaseIdentifier "worker-1" := by
    decide +kernel
  refine ⟨⟨"run-1", "task-1", 1, 1, "worker-1", hidentifiers, by decide⟩, ?_, ?_⟩
  · exact WorktreeLeaseIdentity.create_eq_ok.mpr ⟨rfl, rfl, rfl, rfl, rfl⟩
  · exact WorktreeLeaseIdentity.create_eq_ok.mpr ⟨rfl, rfl, rfl, rfl, rfl⟩

theorem planId_ne : ExecutionRuntime.Sample.plan.planId ≠ revised.planId := by decide +kernel

end Sample

/-- The law on the run that is planned twice: its names are not fresh. -/
theorem distinctIdentities_iff_sample :
    DistinctIdentities Sample.host (fun _ ↦ Sample.worker) Sample.replanned ↔
      FreshNames Sample.host (fun _ ↦ Sample.worker) Sample.replanned :=
  distinctIdentities_iff Sample.collisionFreeOn_replanned

/-- The first attempts of a task under two plans of one run share their identities. -/
theorem not_always_distinctIdentities : ¬ ∀ (H : Host) (x : Nat → ProductionAttemptExecutor)
    (E : List EventEnvelope), H.CollisionFreeOn (identityDocuments H x E) →
      DistinctIdentities H x E := by
  intro h
  have hdistinct := h Sample.host (fun _ ↦ Sample.worker) Sample.replanned
    Sample.collisionFreeOn_replanned
  obtain ⟨l, hfirst, hsecond⟩ := Sample.exists_lease
  have hne : ∀ p q : String, p ≠ q → (p, "task-1", 1) ≠ (q, "task-1", 1) :=
    fun p q hpq heq ↦ hpq (congrArg Prod.fst heq)
  exact ((hdistinct 0 1 _ _ (by rw [Sample.starts_replanned]; rfl)
    (by rw [Sample.starts_replanned]; rfl) (hne _ _ Sample.planId_ne)).1 l l hfirst hsecond).1 rfl

end Blackcell.Bootstrap
