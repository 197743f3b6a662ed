import Blackcell.Adapters.GitCommands
import Blackcell.Adapters.TextChanges
import Blackcell.Bootstrap.NodeBase
import Blackcell.Bootstrap.Requests
import Blackcell.Orchestration.Acceptance
import Blackcell.Orchestration.ChangeContext

/-!
# A cycle of the execution worker

`ExecutionWorker.run_once` of `bootstrap/execution_worker.py`, with the calls of the runtime, of the
lifecycle of worktrees and of the acceptance runner that it makes. The surroundings answer the calls
in any way: the ledger, the artifact store, the provider, the processes and the files of the host. A
cycle adds up the timeouts that are declared for the calls it makes, also for those that fail. What
the artifacts of a cycle hold, and the codes of its failures, are left to the surroundings.

## Main definitions

* `WorkerEnvironment`, `Clock` : the answers of the surroundings, and the timeouts so far.
* `prepareNode`, `recordNodeSuccess`, `recordNodeFailure`, `acknowledgeCancellation` : the calls of
  the runtime.
* `runAcceptance` : the acceptance runner.
* `leaseSeconds`, `runOnce` : the duration of a lease, and a cycle.
-/

namespace Blackcell.Bootstrap.ExecutionWorker

open Blackcell.Kernel Blackcell.Adapters.Worktree
open Blackcell.Interfaces.Http hiding check check_eq_ok
open Blackcell.Adapters.TextChanges (TextChangeAdmission TextChangeExecutionResult)
open Blackcell.Orchestration.Acceptance (AcceptanceCommand maxAcceptanceStreamBytes)
open Blackcell.Orchestration.Changes (ChangeContext ChangeProposal)
open Blackcell.Orchestration.RunLifecycle (NodeLifecycleState)

/-- An exception of a cycle. -/
inductive CycleError where
  /-- `RuntimeApiError`. -/
  | api (code : RuntimeApiFailureCode)
  /-- `WorktreeLifecycleError`. -/
  | worktree
  /-- `AcceptanceError`. -/
  | acceptance
  /-- Any other `Exception`. -/
  | other
  deriving DecidableEq, Repr

/-- What `_launch` returns: the process that ran, and the exit code of the command in it. -/
structure Launch where
  result : BoundedProcessResult
  exitCode : ℤ

/-- The surroundings of a worker: what the `n`-th call answers, according to its kind. The plan of a
run does not change. -/
structure WorkerEnvironment extends CheckoutEnvironment where
  repr : FiniteFloat → String
  plan : PlanRequest
  repositoryRoot : String
  worktreesRoot : String
  /-- `utc_now`, in seconds. -/
  now : ℕ → ℕ
  /-- `_load_run`. -/
  load : ℕ → Except CycleError LoadedRun
  /-- `_append_run_transitions`. -/
  append : ℕ → Except CycleError Unit
  /-- `_store_json` and `_store_bytes`. -/
  store : ℕ → Except CycleError Unit
  /-- The part of `collect` that reads the files. -/
  readEvidence : ℕ → Except CycleError (ChangeContext repr digest)
  /-- `propose`, of the provider. -/
  propose : ℕ → Except CycleError (ChangeProposal digest)
  /-- The files of the checkout, and the effects on them that fail. -/
  checkout : ℕ → Adapters.TextChanges.Files
  fault : ℕ → ℕ → Option Adapters.TextChanges.Fault
  /-- The checks of the executable and of the mounts of a command. -/
  authorize : ℕ → Except CycleError Unit
  /-- `_launch`. -/
  launch : ℕ → Except CycleError Launch

/-- The calls so far, and the timeouts that were declared for them, in seconds. -/
structure Clock where
  calls : ℕ
  seconds : ℕ
  deriving DecidableEq, Repr

/-- A part of a cycle. -/
abbrev Cycle (α : Type) := Metered Clock CycleError α

/-- Raise an error unless a condition holds. -/
def demand (p : Prop) [Decidable p] (e : CycleError) : Cycle Unit := .check (Checked.require p e)

/-- A call with a timeout. -/
def call {α : Type} (timeout : ℕ) (answer : ℕ → Except CycleError α) : Cycle α :=
  .step fun c ↦ (answer c.calls, ⟨c.calls + 1, c.seconds + timeout⟩)

/-- What an error of the lifecycle is, in a cycle. -/
def cycleError : Raised → CycleError
  | .lifecycle _ => .worktree
  | _ => .other

/-- An operation of the lifecycle: each of its commands has a timeout, whether or not it succeeds. -/
def runGit {α : Type} (x : Metered ℕ Raised α) : Cycle α := .step fun c ↦
  ((x.exec c.calls).1.mapError cycleError,
    ⟨(x.exec c.calls).2 + 1,
      c.seconds + gitWorktreeCommandTimeoutSeconds * ((x.exec c.calls).2 - c.calls)⟩)

variable (env : WorkerEnvironment)

/-- `inspect` and `retain`. -/
def inspectWorktree (spec : WorktreeExecutionSpec) : Cycle WorktreeInspection :=
  runGit ((metered env.toGitEnvironment).inspect env.toGitEnvironment spec)

/-! ### The runtime -/

/-- `RuntimeApiError(RuntimeApiFailureCode.CONFLICT)`. -/
abbrev apiConflict : CycleError := .api .conflict

/-- `_require_active_spec`. -/
def IsActiveSpec (run : LoadedRun) (spec : WorktreeExecutionSpec) (requirePrepared : Bool) : Prop :=
  ∃ active ∈ run.state.activeLease, active.nodeId = spec.lease.nodeId ∧
    active.leaseDigest = spec.lease.digest env.host ∧
    active.worktreeSpecDigest = spec.digest env.host ∧ (requirePrepared → active.prepared)

instance (run : LoadedRun) (spec : WorktreeExecutionSpec) (requirePrepared : Bool) :
    Decidable (IsActiveSpec env run spec requirePrepared) :=
  inferInstanceAs (Decidable (∃ active ∈ run.state.activeLease, _ ∧ _ ∧ _ ∧ _))

/-- `_require_active_worker`. -/
def IsActiveWorker (run : LoadedRun) (principalId : String) : Prop :=
  ∃ active ∈ run.state.activeLease, active.workerId = principalId

instance (run : LoadedRun) (principalId : String) : Decidable (IsActiveWorker run principalId) :=
  inferInstanceAs (Decidable (∃ active ∈ run.state.activeLease, _))

/-- The active lease of a run is not the one of this specification any more. -/
def IsFenced (run : LoadedRun) (spec : WorktreeExecutionSpec) : Prop :=
  ¬∃ active ∈ run.state.activeLease, active.leaseDigest = spec.lease.digest env.host ∧
    active.worktreeSpecDigest = spec.digest env.host ∧ active.workerId = spec.lease.workerId

instance (run : LoadedRun) (spec : WorktreeExecutionSpec) : Decidable (IsFenced env run spec) :=
  inferInstanceAs (Decidable ¬∃ active ∈ run.state.activeLease, _ ∧ _ ∧ _)

/-- `should_cancel_node`. -/
def shouldCancelNode (spec : WorktreeExecutionSpec) : Cycle Bool := do
  let run ← tryCatch (some <$> call 0 env.load) fun
    | .api _ => pure none
    | e => throw e
  pure (run.all fun run ↦ run.state.cancellationRequested || decide (IsFenced env run spec))

/-- The run of an active specification, for its worker. -/
def loadActive (spec : WorktreeExecutionSpec) (principalId : String) (requirePrepared : Bool) :
    Cycle LoadedRun := do
  demand (isPrincipal principalId) (.api .invalidRequest)
  let run ← call 0 env.load
  demand (IsActiveSpec env run spec requirePrepared ∧ IsActiveWorker run principalId) apiConflict
  pure run

/-- `record_provider_dispatch`. -/
def recordProviderDispatch (spec : WorktreeExecutionSpec) (principalId : String) : Cycle Unit := do
  let run ← loadActive env spec principalId true
  demand (∃ node ∈ byId env.plan.nodes spec.lease.nodeId, node.isWriter ∧
    ∃ active ∈ run.state.activeLease, active.providerDispatchEventId = none) apiConflict
  call 0 env.append

/-- An inspection whose failure is a conflict. -/
def retainOrConflict (spec : WorktreeExecutionSpec) : Cycle WorktreeInspection :=
  tryCatch (inspectWorktree env spec) fun
    | .worktree => throw apiConflict
    | e => throw e

/-- `record_node_success`. -/
def recordNodeSuccess (spec : WorktreeExecutionSpec) (principalId : String) : Cycle Unit := do
  let _ ← loadActive env spec principalId true
  let inspection ← retainOrConflict env spec
  demand (inspection.uncommittedPaths = [] ∧ IsCompliant inspection) apiConflict
  call 0 env.append
  let _ ← call 0 env.load

/-- An inspection that may fail: `none` where it raises a `WorktreeLifecycleError`. -/
def tryRetain (spec : WorktreeExecutionSpec) : Cycle (Option WorktreeInspection) :=
  tryCatch (some <$> inspectWorktree env spec) fun
    | .worktree => pure none
    | e => throw e

/-- `_record_node_failure`. -/
def recordNodeFailure (spec : WorktreeExecutionSpec) (principalId : String)
    (allowUnprepared : Bool) : Cycle Unit := do
  let _ ← loadActive env spec principalId !allowUnprepared
  let fs ← (call 0 fun n ↦ .ok (env.files n) : Cycle FileSystem)
  if allowUnprepared ∧ ¬lexists fs (spec.worktreePath env.host) then
    -- `NODE_FAILED` and `RUN_FAILED`, without a worktree.
    call 0 env.append
  else do
    -- The same with the inspection, or `NODE_RECONCILIATION_REQUIRED` without one.
    let _ ← tryRetain env spec
    call 0 env.append
  let _ ← call 0 env.load

/-- `acknowledge_cancellation`. -/
def acknowledgeCancellation (spec : WorktreeExecutionSpec) (principalId : String) : Cycle Unit := do
  let run ← loadActive env spec principalId false
  demand run.state.cancellationRequested apiConflict
  let inspection ← tryRetain env spec
  call 0 env.append
  demand inspection.isSome apiConflict
  let _ ← call 0 env.load

/-- `ReadyNode`: a node of the plan of its run. -/
structure ReadyNode where
  runId : String
  node : PlanNode
  mem : node ∈ env.plan.nodes

/-- `PreparedNode`. -/
structure PreparedNode where
  spec : WorktreeExecutionSpec
  node : PlanNode

/-- What `prepare_node` demands of the run. -/
def IsClaimable (run : LoadedRun) : Prop :=
  run.kernelState = none ∧ (run.state.status = .queued ∨ run.state.status = .running) ∧
    run.state.cancellationRequested = false ∧ run.state.activeLease = none

instance (run : LoadedRun) : Decidable (IsClaimable run) :=
  decidable_of_iff (run.kernelState.isNone ∧ (run.state.status = .queued ∨
    run.state.status = .running) ∧ run.state.cancellationRequested = false ∧
      run.state.activeLease.isNone) (by simp [IsClaimable])

/-- The specification of the next attempt of a node. -/
def attemptSpec (fs : FileSystem) (run : LoadedRun) (runId workerId : String)
    (state : NodeLifecycleState) (node : PlanNode) : Except CycleError WorktreeExecutionSpec := do
  let fence := (run.state.nodes.map (·.fencingToken)).foldl max 0 + 1
  let lease ← (WorktreeLeaseIdentity.create runId node.nodeId (state.attempts + 1) fence
    workerId).mapError fun _ ↦ .worktree
  let base ← (nodeBaseCommit env.host env.plan node.nodeId (run.state.nodes.filterMap fun s ↦
    s.headCommit.map fun head ↦ (s.nodeId, head))).mapError fun _ ↦ .other
  (WorktreeExecutionSpec.create fs lease env.repositoryRoot env.worktreesRoot base
    node.allowedPaths node.budget.maxChangedFiles).mapError fun _ ↦ .worktree

/-- The part of `prepare_node` that claims the node. -/
def claimNode (runId nodeId workerId : String) (expiresAt : ℕ) : Cycle PreparedNode := do
  demand (isWireIdentifier runId ∧ isWireIdentifier nodeId ∧ isPrincipal workerId)
    (.api .invalidRequest)
  let run ← call 0 env.load
  demand (IsClaimable run) apiConflict
  let state ← .check (Checked.ofOption (run.state.nodes.find? fun s ↦ s.nodeId = nodeId)
    (.api .notFound))
  let node ← .check (Checked.ofOption (byId env.plan.nodes nodeId) (.api .notFound))
  demand (state.status = .pending) apiConflict
  let claimedAt ← (call 0 fun n ↦ .ok (env.now n) : Cycle ℕ)
  demand (claimedAt < expiresAt) (.api .invalidRequest)
  let fs ← (call 0 fun n ↦ .ok (env.files n) : Cycle FileSystem)
  let spec ← .check (attemptSpec env fs run runId workerId state node)
  call 0 env.append
  pure ⟨spec, node⟩

/-- The creation of the checkout of a claimed node: when it fails, the node has failed. -/
def createCheckout (spec : WorktreeExecutionSpec) (workerId : String) : Cycle WorktreeInspection :=
  tryCatch (runGit (createWorktree env.toCheckoutEnvironment spec)) fun
    | .worktree => do
      recordNodeFailure env spec workerId true
      throw apiConflict
    | e => throw e

/-- `prepare_node`. -/
def prepareNode (runId nodeId workerId : String) (expiresAt : ℕ) : Cycle PreparedNode := do
  let prepared ← claimNode env runId nodeId workerId expiresAt
  let _ ← createCheckout env prepared.spec workerId
  let current ← call 0 env.load
  -- `NODE_CANCELED` and `RUN_CANCELED`, or `NODE_WORKTREE_PREPARED`.
  call 0 env.append
  demand (current.state.cancellationRequested = false) apiConflict
  pure prepared

/-! ### Evidence, effects and checks -/

/-- `collect`. -/
def collectEvidence (spec : WorktreeExecutionSpec) : Cycle (ChangeContext env.repr env.digest) := do
  demand (spec.allowedPaths ≠ []) .other
  let inspection ← inspectWorktree env spec
  demand (inspection.uncommittedPaths = [] ∧ inspection.changedPaths = [] ∧
    inspection.headCommit = spec.baseCommit ∧ IsCompliant inspection) .other
  call 0 env.readEvidence

/-- Where the clock stands after so many inspections. -/
def afterInspections (spec : WorktreeExecutionSpec) (c : Clock) : ℕ → Clock
  | 0 => c
  | n + 1 => ((inspectWorktree env spec).exec (afterInspections spec c n)).2

/-- The surroundings of the executor of text changes, from a clock on. -/
def textEnvironment (spec : WorktreeExecutionSpec) (c : Clock) :
    Adapters.TextChanges.Environment CycleError where
  host := env.host
  digest := env.digest
  repr := env.repr
  fault := env.fault c.calls
  inspect n _ := ((inspectWorktree env spec).exec (afterInspections env spec c n)).1

/-- What an error of the executor is, in a cycle. -/
def executionError : Adapters.TextChanges.Failure CycleError → CycleError
  | .code _ => .other
  | .lifecycle e => e

/-- `execute`, of the executor of text changes. -/
def executeChanges (spec : WorktreeExecutionSpec) (proposal : ChangeProposal env.digest)
    (admission : TextChangeAdmission env.host) : Cycle (TextChangeExecutionResult env.host) :=
  .step fun c ↦
    let ending := Adapters.TextChanges.execute (textEnvironment env spec c) spec proposal admission
      ⟨env.checkout c.calls, 0, 0⟩
    (ending.1.mapError executionError, afterInspections env spec c ending.2.inspected)

/-- `WorktreeCommitEffect(...)`. -/
def commitEffect (path : String) (afterDigest : Option String) :
    Except CycleError WorktreeCommitEffect :=
  if h : isRepositoryPath path ∧ ∀ digest ∈ afterDigest, isHexDigest digest then
    .ok ⟨path, afterDigest, h.1, h.2⟩
  else .error .worktree

/-- `BUBBLEWRAP_ACCEPTANCE_PROBE_TIMEOUT_SECONDS`. -/
def acceptanceProbeTimeoutSeconds : ℕ := 2

/-- `_probe`. -/
def probe : Cycle Unit := do
  let launch ← call acceptanceProbeTimeoutSeconds env.launch
  demand (launch.result.returnCode = 0 ∧ launch.exitCode = 0) .acceptance

/-- `_inspect`, of the acceptance runner. -/
def inspectAccepted (spec : WorktreeExecutionSpec) : Cycle WorktreeInspection :=
  tryCatch (inspectWorktree env spec) fun
    | .worktree => throw .acceptance
    | e => throw e

/-- The command of a check: an `AcceptanceError` is kept until the checkout was inspected. -/
def runIsolated (timeout : ℕ) : Cycle (Option Launch) :=
  tryCatch (some <$> call timeout env.launch) fun
    | .acceptance => pure none
    | e => throw e

/-- `_complete_stream`. -/
def isCompleteStream (stream : BoundedStreamCapture) : Bool :=
  stream.complete && stream.totalBytes = some stream.captured.length

/-- The part of `run` that follows the command: whether the check has passed. -/
def concludeAcceptance (spec : WorktreeExecutionSpec) (expectedExitCode : ℤ)
    (before : WorktreeInspection) (launch : Option Launch) : Cycle Bool := do
  let after ← inspectAccepted env spec
  demand (after = before) .acceptance
  let launch ← .check (Checked.ofOption launch .acceptance)
  demand (isCompleteStream launch.result.stdout ∧ isCompleteStream launch.result.stderr ∧
    0 ≤ launch.exitCode ∧ launch.exitCode ≤ 255) .acceptance
  pure (launch.exitCode = expectedExitCode)

/-- `run`, of the acceptance runner: whether the check has passed. -/
def runAcceptance (spec : WorktreeExecutionSpec) (expectedExitCode : ℤ) (timeout : ℕ) :
    Cycle Bool := do
  call 0 env.authorize
  let before ← inspectAccepted env spec
  demand (IsCompliant before) .acceptance
  probe env
  let launch ← runIsolated env timeout
  concludeAcceptance env spec expectedExitCode before launch

/-! ### The worker -/

/-- `ExecutionWorkerPolicy`. -/
structure ExecutionWorkerPolicy where
  workerId : String
  stdoutLimitBytes : ℕ
  stderrLimitBytes : ℕ
  leaseGraceSeconds : ℕ
  isWorker : workerId ≠ "" ∧ workerId.length ≤ 120 ∧
    ∀ c ∈ workerId.toList, 0x21 ≤ c.toNat ∧ c.toNat ≤ 0x7e
  limits : ∀ limit ∈ [stdoutLimitBytes, stderrLimitBytes],
    1 ≤ limit ∧ limit ≤ maxAcceptanceStreamBytes
  grace : 1 ≤ leaseGraceSeconds ∧ leaseGraceSeconds ≤ 3600

/-- `MAX_EXECUTION_READ_BASE_WORKTREE_SECONDS`. -/
def maxExecutionReadBaseWorktreeSeconds : ℕ :=
  gitWorktreeCommandTimeoutSeconds * (maxGitWorktreeCreateCommands +
    maxGitWorktreeCommitCommands + maxGitWorktreeInspectCommands)

/-- `MAX_EXECUTION_WRITE_BASE_WORKTREE_SECONDS`. -/
def maxExecutionWriteBaseWorktreeSeconds : ℕ :=
  maxExecutionReadBaseWorktreeSeconds +
    3 * gitWorktreeCommandTimeoutSeconds * maxGitWorktreeInspectCommands

/-- `MAX_EXECUTION_ACCEPTANCE_WORKTREE_SECONDS`. -/
def maxExecutionAcceptanceWorktreeSeconds : ℕ :=
  2 * gitWorktreeCommandTimeoutSeconds * maxGitWorktreeInspectCommands

variable (policy : ExecutionWorkerPolicy)

/-- The duration of the lease of a node. -/
def leaseSeconds (node : PlanNode) : ℕ :=
  let boundedTimeoutStages := node.checks.length + if node.isWriter then 1 else 0
  let baseWorktreeSeconds :=
    if node.isWriter then maxExecutionWriteBaseWorktreeSeconds
    else maxExecutionReadBaseWorktreeSeconds
  let worktreeSeconds :=
    baseWorktreeSeconds + node.checks.length * maxExecutionAcceptanceWorktreeSeconds
  node.budget.timeoutSeconds * boundedTimeoutStages + worktreeSeconds +
    node.checks.length * acceptanceProbeTimeoutSeconds + policy.leaseGraceSeconds

/-- `_require_active`. -/
def requireActive (spec : WorktreeExecutionSpec) : Cycle Unit := do
  let cancel ← shouldCancelNode env spec
  demand (cancel = false) .acceptance

/-- The part of `_execute` that asks the provider for a proposal. -/
def proposeChanges (prepared : PreparedNode) : Cycle (ChangeProposal env.digest) := do
  requireActive env prepared.spec
  recordProviderDispatch env prepared.spec policy.workerId
  call prepared.node.budget.timeoutSeconds env.propose

/-- The part of `_execute` that applies a proposal. -/
def applyProposal (spec : WorktreeExecutionSpec) (context : ChangeContext env.repr env.digest)
    (proposal : ChangeProposal env.digest) : Cycle (List WorktreeCommitEffect) := do
  call 0 env.store
  call 0 env.store
  requireActive env spec
  let admission ← .check (if h : _ then .ok ⟨spec.digest env.host, spec.lease.digest env.host,
    context.digest env.host, proposal.digest env.host, h⟩ else .error .other)
  let result ← executeChanges env spec proposal admission
  call 0 env.store
  let effects ← .check (result.effects.mapM fun e ↦ commitEffect e.path e.afterDigest)
  requireActive env spec
  pure effects

/-- The part of `_execute` that changes the files of a writing node. -/
def changeFiles (prepared : PreparedNode) : Cycle (List WorktreeCommitEffect) := do
  let context ← collectEvidence env prepared.spec
  call 0 env.store
  let proposal ← proposeChanges env policy prepared
  applyProposal env prepared.spec context proposal

/-- One round of the loop over the checks. -/
def runCheck (prepared : PreparedNode) (check : AcceptanceCheck) : Cycle Unit := do
  let command ← .check (Checked.ofOption (AcceptanceCommand.create check.checkId check.argv
    check.expectedExitCode (.int prepared.node.budget.timeoutSeconds) policy.stdoutLimitBytes
    policy.stderrLimitBytes) .acceptance)
  let passed ← runAcceptance env prepared.spec command.expectedExitCode
    prepared.node.budget.timeoutSeconds
  call 0 env.store
  demand passed .other

/-- The loop over the checks. -/
def runChecks (prepared : PreparedNode) : List AcceptanceCheck → Cycle Unit
  | [] => pure ()
  | check :: checks => do
    runCheck env policy prepared check
    runChecks prepared checks

/-- The effects that are committed: none for a node that only reads. -/
def stageChanges (prepared : PreparedNode) : Cycle (List WorktreeCommitEffect) :=
  if prepared.node.isWriter then changeFiles env policy prepared else pure []

/-- The part of `_execute` that commits the effects, runs the checks and stores the outcome. -/
def commitAndCheck (prepared : PreparedNode) (effects : List WorktreeCommitEffect) :
    Cycle Unit := do
  let _ ← runGit ((metered env.toGitEnvironment).commitChanges env.toGitEnvironment prepared.spec
    effects)
  runChecks env policy prepared prepared.node.checks
  requireActive env prepared.spec
  call 0 env.store
  requireActive env prepared.spec

/-- The part of `_execute` before the success is recorded. -/
def perform (prepared : PreparedNode) : Cycle Unit := do
  requireActive env prepared.spec
  let effects ← stageChanges env policy prepared
  commitAndCheck env policy prepared effects

/-- The status of `ExecutionWorkerCycleResult`. -/
inductive CycleStatus where
  | idle | nodeSucceeded | nodeFailed | nodeCanceled | claimConflict
  deriving DecidableEq, Repr

/-- An artifact that may fail to be stored. -/
def tryStore : Cycle Unit := tryCatch (call 0 env.store) fun _ ↦ pure ()

/-- `_acknowledge_cancellation`. -/
def acknowledge (prepared : PreparedNode) : Cycle CycleStatus := do
  tryStore env
  tryCatch (do
    acknowledgeCancellation env prepared.spec policy.workerId
    pure .nodeCanceled) fun
    | .api _ => pure .claimConflict
    | e => throw e

/-- What `_execute` does with an exception. -/
def handleFailure (prepared : PreparedNode) (e : CycleError) : Cycle CycleStatus := do
  let cancel ← shouldCancelNode env prepared.spec
  if cancel then acknowledge env policy prepared
  else match e with
    | .api _ => pure .claimConflict
    | _ => do
      tryStore env
      recordNodeFailure env prepared.spec policy.workerId false
      pure .nodeFailed

/-- The end of a node that has succeeded. -/
def succeed (prepared : PreparedNode) : Cycle CycleStatus := do
  recordNodeSuccess env prepared.spec policy.workerId
  pure .nodeSucceeded

/-- `_execute`. -/
def execute (prepared : PreparedNode) : Cycle CycleStatus :=
  tryCatch (do
    perform env policy prepared
    succeed env policy prepared) (handleFailure env policy prepared)

/-- The claim of a node: `none` where it is refused. -/
def claim (ready : ReadyNode env) : Cycle (Option PreparedNode) := do
  let start ← (call 0 fun n ↦ .ok (env.now n) : Cycle ℕ)
  tryCatch (some <$> prepareNode env ready.runId ready.node.nodeId policy.workerId
    (start + leaseSeconds policy ready.node)) fun
    | .api _ => pure none
    | e => throw e

/-- `run_once`, with the node that is ready. -/
def runOnce : Option (ReadyNode env) → Cycle CycleStatus
  | none => pure .idle
  | some ready => do
    let prepared ← claim env policy ready
    match prepared with
    | none => pure .claimConflict
    | some prepared => execute env policy prepared

end Blackcell.Bootstrap.ExecutionWorker
