import Blackcell.Foundation.Traced
import Mathlib.Data.List.Nodup

/-!
# The foreground supervisor

The *daemon* spawns one child process for each component, polls the children until one of them has
exited or the stop event is set, and then stops them: it polls each child once more, terminates
those that run, waits for each of them, and kills those that did not exit in time. A child is left
behind if it was spawned, and was neither observed to exit nor killed when `serve` ends.

What the operating system answers is part of the input: every operation on a child returns or raises
whatever it likes. The timeouts of the waits are not modelled, since a wait may time out or not.

## Main definitions

* `ManagedRuntimeProcess` : what the operations on a child answer.
* `Daemon.serve`, `Daemon.stopChildren`.
* `Daemon.LeavesNoOrphan` : every child has been observed to exit, or was sent kill.
* `Daemon.StopsEach` : no failure makes the shutdown skip a child.

## Main results

* `Daemon.stopChildren_eq` : the stages of a shutdown.
* `Daemon.leavesNoOrphan_serve` : when `serve` leaves no orphan.
-/

namespace Blackcell.Bootstrap.Daemon

/-! ### Children -/

/-- The exceptions of the supervisor: `OSError`, `subprocess.TimeoutExpired`, the two kinds of
`RuntimeError` that it raises, and any other exception. -/
inductive DaemonError
  | osError
  | timeoutExpired
  | startupFailed
  | cleanupFailed
  | other
  deriving DecidableEq

/-- `ManagedRuntimeProcess`, by the answers to the operations that the supervisor performs: the
polls of its rounds, the poll of the shutdown, `terminate`, the graceful wait, `kill`, and the wait
after it. -/
structure ManagedRuntimeProcess where
  poll : Nat → Except DaemonError (Option Int)
  finalPoll : Except DaemonError (Option Int)
  terminate : Except DaemonError Unit
  wait : Except DaemonError Int
  kill : Except DaemonError Unit
  forcedWait : Except DaemonError Int

/-- A child, with its position among the children that were spawned. -/
abbrev Child := Nat × ManagedRuntimeProcess

/-- What happens to a child: it is spawned, it is observed to have exited, or it is sent a signal.
-/
inductive DaemonEvent
  | spawned (child : Nat)
  | exited (child : Nat)
  | terminated (child : Nat)
  | killed (child : Nat)
  deriving DecidableEq

/-- The surroundings of the supervisor. -/
structure Surroundings where
  /-- The process factory: the answer to its `n`-th call, with the given arguments. -/
  spawn : Nat → List String → Except DaemonError ManagedRuntimeProcess
  /-- The number of rounds after which the stop event is set. -/
  rounds : Nat
  /-- The wait for the stop event at the end of a round. -/
  pause : Nat → Except DaemonError Unit

/-- `child.poll()`. -/
def poll (child : Nat) (answer : Except DaemonError (Option Int)) :
    Traced DaemonEvent DaemonError (Option Int) :=
  match answer with
  | .ok (some code) => .act [.exited child] (.ok (some code))
  | .ok none => .act [] (.ok none)
  | .error e => .act [] (.error e)

/-- `child.wait(...)`. -/
def wait (child : Nat) (answer : Except DaemonError Int) : Traced DaemonEvent DaemonError Int :=
  match answer with
  | .ok code => .act [.exited child] (.ok code)
  | .error e => .act [] (.error e)

/-! ### Shutdown -/

/-- The child runs at the poll of the shutdown. -/
def isRunning (child : Child) : Bool :=
  match child.2.finalPoll with
  | .ok none => true
  | _ => false

/-- `child.poll() is None`. -/
def pollRunning (child : Child) : Traced DaemonEvent DaemonError Bool :=
  (poll child.1 child.2.finalPoll).bind fun code ↦ .done code.isNone

/-- `child.terminate()`, with `OSError` suppressed. -/
def terminate (child : Child) : Traced DaemonEvent DaemonError Unit :=
  match child.2.terminate with
  | .error .osError => .act [.terminated child.1] (.ok ())
  | answer => .act [.terminated child.1] answer

/-- The graceful wait for a child does not see it exit. -/
def isStale (child : Child) : Bool :=
  match child.2.wait with
  | .error .timeoutExpired => true
  | .error .osError => true
  | _ => false

/-- Wait for a child, and tell whether it is stale. -/
def waitStale (child : Child) : Traced DaemonEvent DaemonError Bool :=
  .act (wait child.1 child.2.wait).trace <|
    match child.2.wait with
    | .ok _ => .ok false
    | .error .timeoutExpired => .ok true
    | .error .osError => .ok true
    | .error e => .error e

/-- `except (OSError, subprocess.TimeoutExpired)` around the forced stop. -/
def cleanupError : DaemonError → DaemonError
  | .osError => .cleanupFailed
  | .timeoutExpired => .cleanupFailed
  | e => e

/-- Kill a stale child, and wait for it. -/
def forceStop (child : Child) : Traced DaemonEvent DaemonError Unit :=
  (Traced.mapError · cleanupError) <|
    (Traced.act [.killed child.1] child.2.kill).bind fun _ ↦
      (wait child.1 child.2.forcedWait).bind fun _ ↦ .done ()

/-- `RuntimeDaemon._stop_children`. -/
def stopChildren (children : List Child) : Traced DaemonEvent DaemonError Unit := do
  let running ← Traced.select pollRunning children
  Traced.each terminate running
  let stale ← Traced.select waitStale running
  Traced.each forceStop stale

/-! ### Supervision -/

/-- `_unexpected_component_exit`. -/
def unexpectedComponentExit (returnCode : Int) : Int :=
  if 1 ≤ returnCode ∧ returnCode ≤ 255 then returnCode else 1

/-- One round: poll the children, up to the first one that has exited. -/
def pollRound (round : Nat) : List Child → Traced DaemonEvent DaemonError (Option Int)
  | [] => .done none
  | child :: children =>
    (poll child.1 (child.2.poll round)).bind fun
      | some code => .done (some code)
      | none => pollRound round children

/-- The rounds until the stop event is set. -/
def supervise (pause : Nat → Except DaemonError Unit) (children : List Child) :
    Nat → Nat → Traced DaemonEvent DaemonError Int
  | 0, _ => .done 0
  | rounds + 1, round =>
    (pollRound round children).bind fun
      | some code => .done (unexpectedComponentExit code)
      | none => (Traced.act [] (pause round)).bind fun _ ↦
          supervise pause children rounds (round + 1)

/-- The children that are spawned for the components, and whether all of them are. -/
def spawnAll (spawn : Nat → List String → Except DaemonError ManagedRuntimeProcess)
    (command : List String) : Nat → List String → List Child × Except DaemonError Unit
  | _, [] => ([], .ok ())
  | n, component :: components =>
    match spawn n (command ++ [component]) with
    | .error e => ([], .error e)
    | .ok process =>
      let (children, result) := spawnAll spawn command (n + 1) components
      ((n, process) :: children, result)

/-- `except OSError` around the supervision. -/
def startupError : DaemonError → DaemonError
  | .osError => .startupFailed
  | e => e

variable (world : Surroundings) (command components : List String)

/-- The children of a run. -/
def children : List Child := (spawnAll world.spawn command 0 components).1

/-- The body of `serve`: spawn the components, and supervise their processes. -/
def body : Traced DaemonEvent DaemonError Int :=
  (Traced.act ((children world command components).map fun child ↦ .spawned child.1)
    (spawnAll world.spawn command 0 components).2).bind fun _ ↦
      supervise world.pause (children world command components) world.rounds 0

/-- `RuntimeDaemon.serve`. -/
def serve : Traced DaemonEvent DaemonError Int :=
  ((body world command components).mapError startupError).tryFinally
    (stopChildren (children world command components))

/-! ### Orphans -/

/-- Every child that was spawned has been observed to exit, or was sent kill. -/
def LeavesNoOrphan (trace : List DaemonEvent) : Prop :=
  ∀ child, .spawned child ∈ trace → .exited child ∈ trace ∨ .killed child ∈ trace

/-- The children that run at the shutdown. -/
def runningChildren (children : List Child) : List Child := children.filter isRunning

/-- The children that the graceful waits do not see exit. -/
def staleChildren (children : List Child) : List Child := (runningChildren children).filter isStale

/-- No failure makes the shutdown skip a child: its polls return, it terminates and waits without
exceptions other than those that it handles, and of the stale children, each but the last one is
killed and waited for without an exception. -/
structure StopsEach (children : List Child) : Prop where
  polls : ∀ child ∈ children, ∃ code, child.2.finalPoll = .ok code
  terminates : ∀ child ∈ runningChildren children,
    child.2.terminate = .ok () ∨ child.2.terminate = .error .osError
  waits : ∀ child ∈ runningChildren children, (∃ code, child.2.wait = .ok code) ∨
    child.2.wait = .error .timeoutExpired ∨ child.2.wait = .error .osError
  kills : ∀ child ∈ (staleChildren children).dropLast,
    child.2.kill = .ok () ∧ ∃ code, child.2.forcedWait = .ok code

/-- A process that was seen to exit is seen so by its later polls: it keeps its return code. -/
def KeepsReturnCode (child : Child) : Prop :=
  ∀ round code, child.2.poll round = .ok (some code) → ∃ code', child.2.finalPoll = .ok (some code')

/-! ### Operations on one child -/

variable {world command components}

theorem mem_trace_poll {n child : Nat} {answer : Except DaemonError (Option Int)} :
    .exited child ∈ (poll n answer).trace ↔ n = child ∧ ∃ code, answer = .ok (some code) := by
  rcases answer with e | (_ | code) <;> simp [poll, Traced.act, eq_comm]

theorem mem_trace_wait {n child : Nat} {answer : Except DaemonError Int} :
    .exited child ∈ (wait n answer).trace ↔ n = child ∧ ∃ code, answer = .ok code := by
  rcases answer with e | code <;> simp [wait, Traced.act, eq_comm]

@[simp] theorem killed_notMem_poll {n child : Nat} {answer : Except DaemonError (Option Int)} :
    .killed child ∉ (poll n answer).trace := by
  rcases answer with e | (_ | code) <;> simp [poll, Traced.act]

@[simp] theorem killed_notMem_wait {n child : Nat} {answer : Except DaemonError Int} :
    .killed child ∉ (wait n answer).trace := by
  rcases answer with e | code <;> simp [wait, Traced.act]

@[simp] theorem result_poll (n : Nat) (answer : Except DaemonError (Option Int)) :
    (poll n answer).result = answer := by
  rcases answer with e | (_ | code) <;> rfl

@[simp] theorem result_wait (n : Nat) (answer : Except DaemonError Int) :
    (wait n answer).result = answer := by
  rcases answer with e | code <;> rfl

@[simp] theorem trace_pollRunning (child : Child) :
    (pollRunning child).trace = (poll child.1 child.2.finalPoll).trace := by
  rcases h : child.2.finalPoll with e | (_ | code) <;>
    simp [pollRunning, h, Traced.bind, poll, Traced.act, Traced.done]

theorem result_pollRunning_of_ok {child : Child} {code : Option Int}
    (h : child.2.finalPoll = .ok code) : (pollRunning child).result = .ok (isRunning child) := by
  cases code <;> simp [pollRunning, isRunning, h, Traced.bind, poll, Traced.act, Traced.done]

theorem result_pollRunning_of_error {child : Child} {e : DaemonError}
    (h : child.2.finalPoll = .error e) : (pollRunning child).result = .error e := by
  simp [pollRunning, h, Traced.bind, poll, Traced.act]

@[simp] theorem trace_terminate (child : Child) :
    (terminate child).trace = [.terminated child.1] := by
  unfold terminate
  split <;> rfl

theorem result_terminate_of_ok {child : Child}
    (h : child.2.terminate = .ok () ∨ child.2.terminate = .error .osError) :
    (terminate child).result = .ok () := by
  rcases h with h | h <;> simp [terminate, h, Traced.act]

theorem result_terminate_of_error {child : Child} {e : DaemonError}
    (h : child.2.terminate = .error e) (he : e ≠ .osError) :
    (terminate child).result = .error e := by
  cases e <;> simp_all [terminate, Traced.act]

theorem result_waitStale_of_ok {child : Child}
    (h : (∃ code, child.2.wait = .ok code) ∨ child.2.wait = .error .timeoutExpired ∨
      child.2.wait = .error .osError) : (waitStale child).result = .ok (isStale child) := by
  rcases h with ⟨code, h⟩ | h | h <;> simp [waitStale, isStale, h, Traced.act]

theorem result_waitStale_of_error {child : Child} {e : DaemonError} (h : child.2.wait = .error e)
    (htimeout : e ≠ .timeoutExpired) (hos : e ≠ .osError) :
    (waitStale child).result = .error e := by
  cases e <;> simp_all [waitStale, Traced.act]

theorem killed_mem_forceStop {child : Child} {n : Nat} :
    .killed n ∈ (forceStop child).trace ↔ n = child.1 := by
  cases h : child.2.kill with
  | error e => simp [forceStop, h, Traced.bind, Traced.act]
  | ok u =>
    cases hwait : child.2.forcedWait <;>
      simp [forceStop, h, hwait, Traced.bind, Traced.act, wait, Traced.done]

theorem exited_mem_forceStop {child : Child} {n : Nat} (h : .exited n ∈ (forceStop child).trace) :
    child.1 = n := by
  rw [forceStop, Traced.trace_mapError] at h
  rcases Traced.mem_trace_bind.mp h with hkill | ⟨-, -, h⟩
  · simp [Traced.act] at hkill
  · rcases Traced.mem_trace_bind.mp h with hwait | ⟨-, -, h⟩
    · exact (mem_trace_wait.mp hwait).1
    · cases h

theorem result_forceStop_eq_ok {child : Child} :
    (forceStop child).result = .ok () ↔
      child.2.kill = .ok () ∧ ∃ code, child.2.forcedWait = .ok code := by
  cases h : child.2.kill with
  | error e => simp [forceStop, h, Traced.bind, Traced.act, Traced.mapError, Except.mapError]
  | ok u =>
    cases hwait : child.2.forcedWait <;>
      simp [forceStop, h, hwait, Traced.bind, Traced.act, wait, Traced.done, Traced.mapError,
        Except.mapError]

/-! ### The stages of a shutdown -/

section Shutdown

variable {children : List Child}

/-- The polls of a shutdown return. -/
theorem select_pollRunning (h : ∀ child ∈ children, ∃ code, child.2.finalPoll = .ok code) :
    Traced.select pollRunning children =
      ⟨children.flatMap fun child ↦ (poll child.1 child.2.finalPoll).trace,
        .ok (runningChildren children)⟩ := by
  rw [Traced.select_eq_of_ok fun child hmem ↦ result_pollRunning_of_ok (h child hmem).choose_spec]
  simp [runningChildren]

/-- The graceful waits of a shutdown return, or raise what it handles. -/
theorem select_waitStale
    (h : ∀ child ∈ runningChildren children, (∃ code, child.2.wait = .ok code) ∨
      child.2.wait = .error .timeoutExpired ∨ child.2.wait = .error .osError) :
    Traced.select waitStale (runningChildren children) =
      ⟨(runningChildren children).flatMap fun child ↦ (wait child.1 child.2.wait).trace,
        .ok (staleChildren children)⟩ :=
  Traced.select_eq_of_ok fun child hmem ↦ result_waitStale_of_ok (h child hmem)

/-- **The stages of a shutdown.** As long as the polls, the signals to terminate and the graceful
waits return, the shutdown goes on to the stale children. -/
theorem trace_stopChildren
    (hpolls : ∀ child ∈ children, ∃ code, child.2.finalPoll = .ok code)
    (hterminates : ∀ child ∈ runningChildren children,
      child.2.terminate = .ok () ∨ child.2.terminate = .error .osError)
    (hwaits : ∀ child ∈ runningChildren children, (∃ code, child.2.wait = .ok code) ∨
      child.2.wait = .error .timeoutExpired ∨ child.2.wait = .error .osError) :
    (stopChildren children).trace =
      (Traced.select pollRunning children).trace ++
        ((Traced.each terminate (runningChildren children)).trace ++
          ((Traced.select waitStale (runningChildren children)).trace ++
            (Traced.each forceStop (staleChildren children)).trace)) := by
  have hterminate := Traced.each_eq_of_ok fun child hmem ↦
    result_terminate_of_ok (hterminates child hmem)
  rw [stopChildren, Traced.bind_of_ok _ (congrArg Traced.result (select_pollRunning hpolls)),
    Traced.bind_of_ok _ (congrArg Traced.result hterminate),
    Traced.bind_of_ok _ (congrArg Traced.result (select_waitStale hwaits))]

/-- The positions of the children are distinct, so a position tells the child. -/
theorem eq_of_fst_eq (hnodup : (children.map Prod.fst).Nodup) {child other : Child}
    (hchild : child ∈ children) (hother : other ∈ children) (h : child.1 = other.1) :
    child = other :=
  List.inj_on_of_nodup_map hnodup hchild hother h

theorem mem_runningChildren {child : Child} :
    child ∈ runningChildren children ↔ child ∈ children ∧ child.2.finalPoll = .ok none := by
  rw [runningChildren, List.mem_filter]
  refine and_congr_right fun _ ↦ ?_
  rcases h : child.2.finalPoll with e | (_ | code) <;> simp [isRunning, h]

theorem mem_staleChildren {child : Child} :
    child ∈ staleChildren children ↔ child ∈ runningChildren children ∧ isStale child = true := by
  rw [staleChildren, List.mem_filter]

/-- **The kills of a shutdown.** It reaches all stale children if it stops each but the last one
without an exception. -/
theorem forall_killed_iff (hnodup : (children.map Prod.fst).Nodup) :
    (∀ child ∈ staleChildren children,
        .killed child.1 ∈ (Traced.each forceStop (staleChildren children)).trace) ↔
      ∀ child ∈ (staleChildren children).dropLast,
        child.2.kill = .ok () ∧ ∃ code, child.2.forcedWait = .ok code := by
  have hsub : (staleChildren children).Sublist children :=
    List.filter_sublist.trans List.filter_sublist
  rw [Traced.forall_mem_each_iff (fun child ↦ DaemonEvent.killed child.1)
    ((List.Nodup.of_map Prod.fst hnodup).sublist hsub) (fun child _ ↦ killed_mem_forceStop.mpr rfl)
    fun child hchild other hother hmem ↦ eq_of_fst_eq hnodup (hsub.mem hchild) (hsub.mem hother)
      (killed_mem_forceStop.mp hmem)]
  exact forall₂_congr fun child _ ↦ result_forceStop_eq_ok

/-- **A shutdown without a failure** that skips a child sees each child exit, or kills it. -/
theorem stopped_of_stopsEach (hnodup : (children.map Prod.fst).Nodup) (h : StopsEach children)
    {child : Child} (hchild : child ∈ children) :
    .exited child.1 ∈ (stopChildren children).trace ∨
      .killed child.1 ∈ (stopChildren children).trace := by
  rw [trace_stopChildren h.polls h.terminates h.waits]
  obtain ⟨_ | code, hcode⟩ := h.polls child hchild
  · have hrunning : child ∈ runningChildren children := mem_runningChildren.mpr ⟨hchild, hcode⟩
    have hstale : isStale child = true →
        .killed child.1 ∈ (Traced.each forceStop (staleChildren children)).trace := fun hstale ↦
      (forall_killed_iff hnodup).mpr h.kills child (mem_staleChildren.mpr ⟨hrunning, hstale⟩)
    rcases h.waits child hrunning with ⟨code, hwait⟩ | hwait | hwait
    · have hexited : .exited child.1 ∈
          (Traced.select waitStale (runningChildren children)).trace := by
        rw [select_waitStale h.waits]
        exact List.mem_flatMap.mpr ⟨child, hrunning, mem_trace_wait.mpr ⟨rfl, code, hwait⟩⟩
      simp [hexited]
    · simp [hstale (by simp [isStale, hwait])]
    · simp [hstale (by simp [isStale, hwait])]
  · have hexited : .exited child.1 ∈ (Traced.select pollRunning children).trace := by
      rw [select_pollRunning h.polls]
      exact List.mem_flatMap.mpr ⟨child, hchild, mem_trace_poll.mpr ⟨rfl, code, hcode⟩⟩
    simp [hexited]

/-- The polls of a shutdown see only those children exit that have exited, and kill none. -/
theorem mem_trace_select_pollRunning (hnodup : (children.map Prod.fst).Nodup) {child : Child}
    (hchild : child ∈ children)
    (h : .exited child.1 ∈ (Traced.select pollRunning children).trace ∨
      .killed child.1 ∈ (Traced.select pollRunning children).trace) :
    ∃ code, child.2.finalPoll = .ok (some code) := by
  rcases h with h | h
  · obtain ⟨other, hother, hmem⟩ := Traced.mem_trace_select h
    rw [trace_pollRunning, mem_trace_poll] at hmem
    rw [eq_of_fst_eq hnodup hchild hother hmem.1.symm]
    exact hmem.2
  · obtain ⟨other, -, hmem⟩ := Traced.mem_trace_select h
    simp at hmem

/-- The signals to terminate are neither exits nor kills. -/
theorem notMem_trace_each_terminate (child : Child) (running : List Child) :
    .exited child.1 ∉ (Traced.each terminate running).trace ∧
      .killed child.1 ∉ (Traced.each terminate running).trace := by
  constructor <;>
  · intro h
    obtain ⟨other, -, hmem, -⟩ := Traced.mem_trace_each h
    simp at hmem

/-- The graceful waits see only those children exit that exit in time, and kill none. -/
theorem mem_trace_select_waitStale (hnodup : (children.map Prod.fst).Nodup) {child : Child}
    (hchild : child ∈ runningChildren children)
    (h : .exited child.1 ∈ (Traced.select waitStale (runningChildren children)).trace ∨
      .killed child.1 ∈ (Traced.select waitStale (runningChildren children)).trace) :
    ∃ code, child.2.wait = .ok code := by
  rcases h with h | h
  · obtain ⟨other, hother, hmem⟩ := Traced.mem_trace_select h
    have hmem : other.1 = child.1 ∧ ∃ code, other.2.wait = .ok code := mem_trace_wait.mp hmem
    rw [eq_of_fst_eq hnodup (mem_runningChildren.mp hchild).1 (mem_runningChildren.mp hother).1
      hmem.1.symm]
    exact hmem.2
  · obtain ⟨other, -, hmem⟩ := Traced.mem_trace_select h
    exact absurd hmem killed_notMem_wait

/-- The shutdown does not skip the child: the child has exited at its poll, or the shutdown observes
it to exit or kills it. -/
def IsStopped (children : List Child) (child : Child) : Prop :=
  (∃ code, child.2.finalPoll = .ok (some code)) ∨
    .exited child.1 ∈ (stopChildren children).trace ∨
    .killed child.1 ∈ (stopChildren children).trace

/-- A poll that raises makes the shutdown skip the child. -/
theorem polls_of_isStopped (hnodup : (children.map Prod.fst).Nodup) {child : Child}
    (hchild : child ∈ children) (h : IsStopped children child) :
    ∃ code, child.2.finalPoll = .ok code := by
  cases hpoll : child.2.finalPoll with
  | ok code => exact ⟨code, rfl⟩
  | error e =>
    obtain ⟨e', he'⟩ := Traced.result_select_of_error hchild (result_pollRunning_of_error hpoll)
    have hstop : (stopChildren children).trace = (Traced.select pollRunning children).trace := by
      rw [stopChildren, Traced.bind_of_error _ he']
    rw [IsStopped, hstop] at h
    obtain ⟨code, hcode⟩ := h.elim id (mem_trace_select_pollRunning hnodup hchild)
    simp [hpoll] at hcode

/-- A running child is stopped by what comes after its poll. -/
theorem notMem_trace_select_pollRunning (hnodup : (children.map Prod.fst).Nodup) {child : Child}
    (hchild : child ∈ runningChildren children) :
    .exited child.1 ∉ (Traced.select pollRunning children).trace ∧
      .killed child.1 ∉ (Traced.select pollRunning children).trace := by
  obtain ⟨hmem, hrunning⟩ := mem_runningChildren.mp hchild
  constructor
  · intro h
    obtain ⟨code, hcode⟩ := mem_trace_select_pollRunning hnodup hmem (.inl h)
    simp [hrunning] at hcode
  · intro h
    obtain ⟨code, hcode⟩ := mem_trace_select_pollRunning hnodup hmem (.inr h)
    simp [hrunning] at hcode

theorem IsStopped.of_running {child : Child} (h : IsStopped children child)
    (hchild : child ∈ runningChildren children) :
    .exited child.1 ∈ (stopChildren children).trace ∨
      .killed child.1 ∈ (stopChildren children).trace := by
  refine h.resolve_left ?_
  rintro ⟨code, hcode⟩
  simp [(mem_runningChildren.mp hchild).2] at hcode

/-- A signal to terminate that raises, other than `OSError`, makes the shutdown skip the child. -/
theorem terminates_of_isStopped (hnodup : (children.map Prod.fst).Nodup)
    (hpolls : ∀ child ∈ children, ∃ code, child.2.finalPoll = .ok code) {child : Child}
    (hchild : child ∈ runningChildren children) (h : IsStopped children child) :
    child.2.terminate = .ok () ∨ child.2.terminate = .error .osError := by
  cases hterminate : child.2.terminate with
  | ok u => exact .inl rfl
  | error e =>
    by_contra hne
    have hraises := result_terminate_of_error hterminate fun heq ↦ hne (.inr (by rw [heq]))
    obtain ⟨e', he'⟩ := Traced.result_each_of_error hchild hraises
    have hstop : (stopChildren children).trace =
        (Traced.select pollRunning children).trace ++
          (Traced.each terminate (runningChildren children)).trace := by
      rw [stopChildren, Traced.bind_of_ok _ (congrArg Traced.result (select_pollRunning hpolls)),
        Traced.bind_of_error _ he']
    have hpolled := notMem_trace_select_pollRunning hnodup hchild
    have hterminated := notMem_trace_each_terminate child (runningChildren children)
    have hseen := h.of_running hchild
    simp [hstop, hpolled, hterminated] at hseen

/-- A graceful wait that raises an exception that is not handled makes the shutdown skip the child.
-/
theorem waits_of_isStopped (hnodup : (children.map Prod.fst).Nodup)
    (hpolls : ∀ child ∈ children, ∃ code, child.2.finalPoll = .ok code)
    (hterminates : ∀ child ∈ runningChildren children,
      child.2.terminate = .ok () ∨ child.2.terminate = .error .osError) {child : Child}
    (hchild : child ∈ runningChildren children) (h : IsStopped children child) :
    (∃ code, child.2.wait = .ok code) ∨ child.2.wait = .error .timeoutExpired ∨
      child.2.wait = .error .osError := by
  cases hwait : child.2.wait with
  | ok code => exact .inl ⟨code, rfl⟩
  | error e =>
    by_contra hne
    have hraises := result_waitStale_of_error hwait (fun heq ↦ hne (.inr (.inl (by rw [heq]))))
      fun heq ↦ hne (.inr (.inr (by rw [heq])))
    obtain ⟨e', he'⟩ := Traced.result_select_of_error hchild hraises
    have hterminate := Traced.each_eq_of_ok fun child hmem ↦
      result_terminate_of_ok (hterminates child hmem)
    have hstop : (stopChildren children).trace =
        (Traced.select pollRunning children).trace ++
          ((Traced.each terminate (runningChildren children)).trace ++
            (Traced.select waitStale (runningChildren children)).trace) := by
      rw [stopChildren, Traced.bind_of_ok _ (congrArg Traced.result (select_pollRunning hpolls)),
        Traced.bind_of_ok _ (congrArg Traced.result hterminate), Traced.bind_of_error _ he']
    have hpolled := notMem_trace_select_pollRunning hnodup hchild
    have hterminated := notMem_trace_each_terminate child (runningChildren children)
    have hseen := h.of_running hchild
    simp only [hstop, List.mem_append, hpolled, hterminated, false_or] at hseen
    obtain ⟨code, hcode⟩ := mem_trace_select_waitStale hnodup hchild hseen
    simp [hwait] at hcode

/-- **A shutdown that skips no child** meets no failure that would make it do so. -/
theorem stopsEach_of_isStopped (hnodup : (children.map Prod.fst).Nodup)
    (h : ∀ child ∈ children, IsStopped children child) : StopsEach children := by
  have hpolls := fun child hchild ↦ polls_of_isStopped hnodup hchild (h child hchild)
  have hrunning : ∀ child ∈ runningChildren children, IsStopped children child :=
    fun child hchild ↦ h child (mem_runningChildren.mp hchild).1
  have hterminates := fun child hchild ↦
    terminates_of_isStopped hnodup hpolls hchild (hrunning child hchild)
  have hwaits := fun child hchild ↦
    waits_of_isStopped hnodup hpolls hterminates hchild (hrunning child hchild)
  refine ⟨hpolls, hterminates, hwaits, (forall_killed_iff hnodup).mp fun child hstale ↦ ?_⟩
  obtain ⟨hchild, hwait⟩ := mem_staleChildren.mp hstale
  have hpolled := notMem_trace_select_pollRunning hnodup hchild
  have hterminated := notMem_trace_each_terminate child (runningChildren children)
  have hwaited := fun hmem ↦ mem_trace_select_waitStale hnodup hchild hmem
  have hnever : ¬∃ code, child.2.wait = .ok code := by
    rintro ⟨code, hcode⟩
    simp [isStale, hcode] at hwait
  have hseen := (hrunning child hchild).of_running hchild
  simp only [trace_stopChildren hpolls hterminates hwaits, List.mem_append, hpolled, hterminated,
    false_or] at hseen
  -- the child is seen in its own round of the last loop, which starts with the kill
  have hlast : .exited child.1 ∈ (Traced.each forceStop (staleChildren children)).trace ∨
      .killed child.1 ∈ (Traced.each forceStop (staleChildren children)).trace := by
    tauto
  rcases hlast with hexited | hkilled
  · obtain ⟨other, hother, hmem, hsub⟩ := Traced.mem_trace_each hexited
    rw [← exited_mem_forceStop hmem]
    exact hsub (killed_mem_forceStop.mpr rfl)
  · exact hkilled

end Shutdown

/-! ### A whole run -/

theorem map_fst_spawnAll (spawn : Nat → List String → Except DaemonError ManagedRuntimeProcess)
    (command : List String) (n : Nat) (components : List String) :
    (spawnAll spawn command n components).1.map Prod.fst =
      List.range' n (spawnAll spawn command n components).1.length := by
  induction components generalizing n with
  | nil => rfl
  | cons component components ih =>
    cases h : spawn n (command ++ [component]) with
    | error e => simp [spawnAll, h]
    | ok process => simp [spawnAll, h, ih, List.range'_succ]

/-- The children of a run have distinct positions. -/
theorem nodup_children : ((children world command components).map Prod.fst).Nodup := by
  rw [children, map_fst_spawnAll]
  exact List.nodup_range'

/-- A round sees only a child exit whose poll returns a code. -/
theorem mem_trace_pollRound {round : Nat} {children : List Child} {event : DaemonEvent}
    (h : event ∈ (pollRound round children).trace) :
    ∃ child ∈ children, event = .exited child.1 ∧ ∃ code, child.2.poll round = .ok (some code) := by
  induction children with
  | nil => cases h
  | cons child children ih =>
    rcases Traced.mem_trace_bind.mp h with hpoll | ⟨_ | code, -, hrest⟩
    · rcases hanswer : child.2.poll round with e | (_ | code)
      · simp [hanswer, poll, Traced.act] at hpoll
      · simp [hanswer, poll, Traced.act] at hpoll
      · refine ⟨child, by simp, ?_, code, hanswer⟩
        simpa [hanswer, poll, Traced.act] using hpoll
    · obtain ⟨other, hother, hevent⟩ := ih hrest
      exact ⟨other, by simp [hother], hevent⟩
    · cases hrest

/-- The supervision sees only a child exit whose poll returns a code. -/
theorem mem_trace_supervise {pause : Nat → Except DaemonError Unit} {children : List Child}
    {rounds round : Nat} {event : DaemonEvent}
    (h : event ∈ (supervise pause children rounds round).trace) :
    ∃ child ∈ children, event = .exited child.1 ∧
      ∃ round code, child.2.poll round = .ok (some code) := by
  induction rounds generalizing round with
  | zero => cases h
  | succ rounds ih =>
    rcases Traced.mem_trace_bind.mp h with hround | ⟨_ | code, -, hrest⟩
    · obtain ⟨child, hchild, hevent, code, hcode⟩ := mem_trace_pollRound hround
      exact ⟨child, hchild, hevent, round, code, hcode⟩
    · rcases Traced.mem_trace_bind.mp hrest with hpause | ⟨-, -, hlater⟩
      · cases hpause
      · exact ih hlater
    · cases hrest

theorem mem_trace_body {event : DaemonEvent} (h : event ∈ (body world command components).trace) :
    ∃ child ∈ children world command components, event = .spawned child.1 ∨
      event = .exited child.1 ∧ ∃ round code, child.2.poll round = .ok (some code) := by
  rcases Traced.mem_trace_bind.mp h with hspawn | ⟨-, -, hsupervise⟩
  · obtain ⟨child, hchild, rfl⟩ := List.mem_map.mp hspawn
    exact ⟨child, hchild, .inl rfl⟩
  · obtain ⟨child, hchild, hevent⟩ := mem_trace_supervise hsupervise
    exact ⟨child, hchild, .inr hevent⟩

theorem spawned_mem_body {child : Child} (h : child ∈ children world command components) :
    .spawned child.1 ∈ (body world command components).trace :=
  Traced.mem_trace_bind.mpr (.inl (List.mem_map.mpr ⟨child, h, rfl⟩))

theorem trace_serve : (serve world command components).trace =
    (body world command components).trace ++
      (stopChildren (children world command components)).trace := by
  rw [serve, Traced.trace_tryFinally, Traced.trace_mapError]

/-- A shutdown spawns nothing. -/
theorem spawned_notMem_stopChildren {children : List Child} {n : Nat} :
    .spawned n ∉ (stopChildren children).trace := by
  have hpoll : ∀ m answer, DaemonEvent.spawned n ∉ (poll m answer).trace := by
    rintro m (e | (_ | code)) <;> simp [poll, Traced.act]
  have hwait : ∀ m answer, DaemonEvent.spawned n ∉ (wait m answer).trace := by
    rintro m (e | code) <;> simp [wait, Traced.act]
  intro h
  rcases Traced.mem_trace_bind.mp h with hselect | ⟨running, -, h⟩
  · obtain ⟨child, -, hmem⟩ := Traced.mem_trace_select hselect
    exact hpoll _ _ (trace_pollRunning child ▸ hmem)
  rcases Traced.mem_trace_bind.mp h with hterminate | ⟨-, -, h⟩
  · obtain ⟨child, -, hmem, -⟩ := Traced.mem_trace_each hterminate
    simp at hmem
  rcases Traced.mem_trace_bind.mp h with hselect | ⟨stale, -, h⟩
  · obtain ⟨child, -, hmem⟩ := Traced.mem_trace_select hselect
    exact hwait _ _ hmem
  · obtain ⟨child, -, hmem, -⟩ := Traced.mem_trace_each h
    rw [forceStop, Traced.trace_mapError] at hmem
    rcases Traced.mem_trace_bind.mp hmem with hkill | ⟨-, -, hmem⟩
    · simp [Traced.act] at hkill
    · rcases Traced.mem_trace_bind.mp hmem with hforced | ⟨-, -, hdone⟩
      · exact hwait _ _ hforced
      · cases hdone

/-- The children of a run are those that are spawned in it. -/
theorem exists_child_of_spawned {n : Nat}
    (h : .spawned n ∈ (serve world command components).trace) :
    ∃ child ∈ children world command components, child.1 = n := by
  rw [trace_serve, List.mem_append] at h
  obtain ⟨child, hchild, hevent⟩ := mem_trace_body (h.resolve_right spawned_notMem_stopChildren)
  exact ⟨child, hchild, by simpa [eq_comm] using hevent⟩

/-- **No orphans.** When `serve` returns or raises, every child that it spawned has been observed to
exit or was sent kill, if no failure makes the shutdown skip a child; and only then, for processes
that keep their return code. The supervisor has no other protection: the first stale child whose
kill or whose last wait fails ends the shutdown. -/
theorem leavesNoOrphan_serve (world : Surroundings) (command components : List String) :
    (StopsEach (children world command components) →
        LeavesNoOrphan (serve world command components).trace) ∧
      ((∀ child ∈ children world command components, KeepsReturnCode child) →
        LeavesNoOrphan (serve world command components).trace →
          StopsEach (children world command components)) := by
  constructor
  · intro hstops n hspawned
    obtain ⟨child, hchild, rfl⟩ := exists_child_of_spawned hspawned
    simp only [trace_serve, List.mem_append]
    have hstopped := stopped_of_stopsEach nodup_children hstops hchild
    tauto
  · intro hkeeps h
    refine stopsEach_of_isStopped nodup_children fun child hchild ↦ ?_
    have hspawned : .spawned child.1 ∈ (serve world command components).trace := by
      rw [trace_serve]
      exact List.mem_append_left _ (spawned_mem_body hchild)
    have hseen := h child.1 hspawned
    simp only [trace_serve, List.mem_append] at hseen
    rcases hseen with (hbody | hstop) | (hbody | hstop)
    · obtain ⟨other, hother, hevent | ⟨hevent, round, code, hcode⟩⟩ := mem_trace_body hbody
      · cases hevent
      · obtain rfl : child = other :=
          eq_of_fst_eq nodup_children hchild hother (DaemonEvent.exited.inj hevent)
        exact .inl (hkeeps child hchild round code hcode)
    · exact .inr (.inl hstop)
    · obtain ⟨other, -, hevent | ⟨hevent, -⟩⟩ := mem_trace_body hbody
      · cases hevent
      · cases hevent
    · exact .inr (.inr hstop)

/-! ### Two stale children -/

/-- A process that runs until it is killed, and does not exit in time after that. -/
def staleProcess : ManagedRuntimeProcess where
  poll _ := .ok none
  finalPoll := .ok none
  terminate := .ok ()
  wait := .error .timeoutExpired
  kill := .ok ()
  forcedWait := .error .timeoutExpired

/-- The stop event is set before the first round. -/
def staleSurroundings : Surroundings where
  spawn _ _ := .ok staleProcess
  rounds := 0
  pause _ := .ok ()

/-- **An orphan.** Of two stale children the second one is never killed. -/
theorem not_leavesNoOrphan_serve_stale :
    ¬LeavesNoOrphan (serve staleSurroundings ["runtime"] ["api", "execution-worker"]).trace := by
  intro h
  have hspawned := h 1 (by decide)
  revert hspawned
  decide

/-- With one stale child there is no orphan, and the condition holds. -/
theorem leavesNoOrphan_serve_stale :
    LeavesNoOrphan (serve staleSurroundings ["runtime"] ["api"]).trace ∧
      StopsEach (children staleSurroundings ["runtime"] ["api"]) := by
  have hchildren : ∀ child ∈ children staleSurroundings ["runtime"] ["api"],
      child.2 = staleProcess := by
    simp [children, spawnAll, staleSurroundings]
  have hrunning : ∀ child ∈ runningChildren (children staleSurroundings ["runtime"] ["api"]),
      child.2 = staleProcess := fun child hchild ↦ hchildren child (mem_runningChildren.mp hchild).1
  have hstops : StopsEach (children staleSurroundings ["runtime"] ["api"]) :=
    ⟨fun child hchild ↦ ⟨none, by rw [hchildren child hchild]; rfl⟩,
      fun child hchild ↦ .inl (by rw [hrunning child hchild]; rfl),
      fun child hchild ↦ .inr (.inl (by rw [hrunning child hchild]; rfl)),
      by simp [staleChildren, runningChildren, children, spawnAll, staleSurroundings, staleProcess,
        isRunning, isStale]⟩
  have hkeeps :
      ∀ child ∈ children staleSurroundings ["runtime"] ["api"], KeepsReturnCode child := by
    intro child hchild round code hcode
    rw [hchildren child hchild] at hcode
    cases hcode
  have h := (leavesNoOrphan_serve staleSurroundings ["runtime"] ["api"]).1 hstops
  exact ⟨h, (leavesNoOrphan_serve staleSurroundings ["runtime"] ["api"]).2 hkeeps h⟩

end Blackcell.Bootstrap.Daemon
