import Blackcell.Foundation.Checked
import Blackcell.Foundation.StrEnum
import Blackcell.Foundation.Traced
import Mathlib.Data.List.Range

/-!
# Bounded subprocesses

The runner starts a process in a group of its own, lets one thread drain each of its two pipes, and
watches the process until it exits, is canceled or runs out of time; in the last two cases it
terminates the group. It then gives the drains time to end. If one of them does not, the group is
killed; otherwise the result is what the drains captured, provided that it was not too much.

What the operating system does is part of the input: the answers to the reads of both pipes, how
many reads each drain has done when the runner looks at it, the answers to the polls, and those to
the signals. The deadline is the number of the round in which the runner finds that it has passed.

## Main definitions

* `Drain.after` : the state of a drain after some reads.
* `BoundedProcess.watch`, `BoundedProcess.terminateProcessGroup`, `BoundedProcess.run`.
* `BoundedProcess.Delivers` : a pipe that is read to its end, and its content.
* `BoundedProcess.Closed` : what the ending of a run promises.
* `BoundedProcess.StaysClosed` : the runs that keep the promise.

## Main results

* `Drain.after_spec` : a drain has the first bytes of what it read.
* `BoundedProcess.captures_of_collect` : a result has the whole content of both pipes.
* `BoundedProcess.closed_run_iff` : exactly the runs of `StaysClosed` end as promised.
-/

namespace Blackcell.Adapters

/-! ### Captures -/

/-- `BoundedProcessFailureCode`. -/
inductive BoundedProcessFailureCode
  | invalidInvocation
  | spawnFailed
  | canceled
  | timedOut
  | outputTooLarge
  | outputIncomplete
  deriving DecidableEq

instance : StrEnum BoundedProcessFailureCode where
  value
    | .invalidInvocation => "invalid-process-invocation"
    | .spawnFailed => "process-spawn-failed"
    | .canceled => "process-canceled"
    | .timedOut => "process-timed-out"
    | .outputTooLarge => "process-output-too-large"
    | .outputIncomplete => "process-output-incomplete"
  members :=
    [.invalidInvocation, .spawnFailed, .canceled, .timedOut, .outputTooLarge, .outputIncomplete]
  mem_members a := by cases a <;> decide
  nodup_values := by decide

/-- What a run raises: a `BoundedProcessError`, a `TypeError`, or another exception. -/
inductive ProcessFailure
  | bounded (code : BoundedProcessFailureCode)
  | typeError
  | other
  deriving DecidableEq

/-- The bytes of a stream. -/
abbrev Bytes := List UInt8

/-- `BoundedStreamCapture`: a complete capture has a total, an incomplete one has none. -/
structure BoundedStreamCapture where
  captured : Bytes
  totalBytes : Option Nat
  complete : Bool
  total_of_complete : complete = true → ∃ total, totalBytes = some total ∧ captured.length ≤ total
  total_of_incomplete : complete = false → totalBytes = none

/-- `BoundedProcessResult`. -/
structure BoundedProcessResult where
  returnCode : Int
  stdout : BoundedStreamCapture
  stderr : BoundedStreamCapture

/-! ### Drains -/

/-- The answer to a read of a pipe: a chunk, which is empty at the end of the stream, or an
exception. -/
inductive ReadAnswer
  | chunk (bytes : Bytes)
  | raises

/-- The state of a `_DrainCollector` and of its thread. -/
structure Drain where
  captured : Bytes
  total : Nat
  complete : Bool
  ended : Bool
  captured_le : captured.length ≤ total

namespace Drain

/-- `_DrainCollector.__init__`. -/
def start : Drain := ⟨[], 0, false, false, le_rfl⟩

/-- One round of `_DrainCollector.drain`. -/
def read (limit : Nat) (d : Drain) : ReadAnswer → Drain
  | .chunk [] => { d with complete := true, ended := true }
  | .chunk bytes =>
    { d with
      total := d.total + bytes.length
      captured := d.captured ++ bytes.take (limit - d.captured.length)
      captured_le := by
        have := d.captured_le
        simp only [List.length_append, List.length_take]
        omega }
  | .raises => { d with complete := false, ended := true }

/-- The drain of a pipe after `n` reads. -/
def after (limit : Nat) (reads : Nat → ReadAnswer) : Nat → Drain
  | 0 => start
  | n + 1 =>
    if (after limit reads n).ended then after limit reads n
    else (after limit reads n).read limit (reads n)

/-- `_DrainCollector.snapshot`. -/
def snapshot (d : Drain) : BoundedStreamCapture where
  captured := d.captured
  totalBytes := if d.complete then some d.total else none
  complete := d.complete
  total_of_complete h := ⟨d.total, if_pos h, d.captured_le⟩
  total_of_incomplete h := if_neg (by simp [h])

end Drain

namespace BoundedProcess

/-- The content of the reads before the `n`-th one. -/
def content (reads : Nat → ReadAnswer) (n : Nat) : Bytes :=
  (List.range n).flatMap fun i ↦
    match reads i with
    | .chunk bytes => bytes
    | .raises => []

theorem content_succ (reads : Nat → ReadAnswer) (n : Nat) :
    content reads (n + 1) = content reads n ++
      match reads n with
      | .chunk bytes => bytes
      | .raises => [] := by
  simp [content, List.range_succ]

/-- The pipe is read to its end, and `whole` is all that it delivers. -/
def Delivers (reads : Nat → ReadAnswer) (whole : Bytes) : Prop :=
  ∃ n, (∀ i < n, ∃ bytes, reads i = .chunk bytes ∧ bytes ≠ []) ∧ reads n = .chunk [] ∧
    whole = content reads n

end BoundedProcess

namespace Drain

open BoundedProcess

/-- **What a drain has captured.** After any number of reads, it has counted all bytes that it read,
and kept as many of the first ones as the limit allows; it is complete only at the end of the
stream. -/
theorem after_spec (limit : Nat) (reads : Nat → ReadAnswer) (n : Nat) :
    ∃ m ≤ n, (∀ i < m, ∃ bytes, reads i = .chunk bytes ∧ bytes ≠ []) ∧
      (after limit reads n).captured = (content reads m).take limit ∧
      (after limit reads n).total = (content reads m).length ∧
      ((after limit reads n).ended = false → m = n ∧ (after limit reads n).complete = false) ∧
      ((after limit reads n).complete = true → reads m = .chunk []) := by
  induction n with
  | zero => exact ⟨0, le_rfl, by simp, by simp [after, start, content], rfl, by simp [after, start],
      by simp [after, start]⟩
  | succ n ih =>
    obtain ⟨m, hm, hchunks, hcaptured, htotal, hrunning, hcomplete⟩ := ih
    by_cases hended : (after limit reads n).ended = true
    · refine ⟨m, by omega, hchunks, ?_⟩
      simp only [after, hended, if_true]
      exact ⟨hcaptured, htotal, by simp, hcomplete⟩
    · obtain ⟨rfl, hdone⟩ := hrunning (by simpa using hended)
      simp only [after, hended, Bool.false_eq_true, if_false]
      cases hread : reads m with
      | raises => exact ⟨m, by omega, hchunks, hcaptured, htotal, by simp [Drain.read],
          by simp [Drain.read]⟩
      | chunk bytes =>
        cases bytes with
        | nil => exact ⟨m, by omega, hchunks, hcaptured, htotal, by simp [Drain.read],
            fun _ ↦ hread⟩
        | cons b bytes =>
          refine ⟨m + 1, le_rfl, fun i hi ↦ ?_, ?_, ?_, by simp [Drain.read, hdone], ?_⟩
          · rcases Nat.lt_succ_iff_lt_or_eq.mp hi with hlt | rfl
            · exact hchunks i hlt
            · exact ⟨b :: bytes, hread, by simp⟩
          · simp only [Drain.read, hcaptured, content_succ, hread, List.take_append,
              List.length_take]
            congr 2
            omega
          · simp only [Drain.read, htotal, content_succ, hread, List.length_append]
          · simp [Drain.read, hdone]

end Drain

namespace BoundedProcess

/-! ### The process group -/

/-- What happens to the process group: it is started, its leader is seen to have exited, it is sent
`SIGTERM` or `SIGKILL`, or it is seen to have no process left. -/
inductive GroupEvent
  | started
  | exited
  | terminated
  | killed
  | gone
  deriving DecidableEq

/-- The answer to `os.killpg`: the signal is delivered, there is no such group, or it is refused. -/
inductive SignalAnswer
  | delivered
  | absent
  | refused
  deriving DecidableEq

/-- The answers while the group is being terminated: to the signal, to the probes of the group
after it, of which there are `patience + 1`, and whether the leader is reaped in time. -/
structure Signalling where
  answer : SignalAnswer
  probe : Nat → SignalAnswer
  patience : Nat
  reaped : Bool

/-- A computation of the runner. -/
abbrev Run := Traced GroupEvent ProcessFailure

/-- `raise BoundedProcessError(code)`. -/
def failWith {α : Type} (code : BoundedProcessFailureCode) : Run α :=
  .act [] (.error (.bounded code))

/-- `_wait_for_process_group_exit`, from the `k`-th probe on. -/
def waitForProcessGroupExit (probe : Nat → SignalAnswer) : Nat → Nat → Run Bool
  | patience, k =>
    match probe k with
    | .absent => .act [.gone] (.ok true)
    | .refused => failWith .outputIncomplete
    | .delivered =>
      match patience with
      | 0 => .act [] (.ok false)
      | patience + 1 => waitForProcessGroupExit probe patience (k + 1)

/-- `_reap_process_leader`. -/
def reapProcessLeader (signalling : Signalling) : Run Unit :=
  if signalling.reaped then .act [] (.ok ()) else failWith .outputIncomplete

/-- `_terminate_process_group(process, force=...)`: `event` is what the signal does, and
`escalate` what is done when the group outlasts it. -/
def signalProcessGroup (event : GroupEvent) (signalling : Signalling) (escalate : Run Unit) :
    Run Unit :=
  match signalling.answer with
  | .absent => (Traced.act [.gone] (.ok ())).bind fun _ ↦ reapProcessLeader signalling
  | .refused => failWith .outputIncomplete
  | .delivered =>
    (Traced.act [event] (.ok ())).bind fun _ ↦
      (waitForProcessGroupExit signalling.probe signalling.patience 0).bind fun
        | true => reapProcessLeader signalling
        | false => escalate

/-- `_terminate_process_group(process, force=True)`. -/
def killProcessGroup (signalling : Signalling) : Run Unit :=
  signalProcessGroup .killed signalling (failWith .outputIncomplete)

/-- `_terminate_process_group(process)`. -/
def terminateProcessGroup (terminate kill : Signalling) : Run Unit :=
  signalProcessGroup .terminated terminate (killProcessGroup kill)

/-! ### Invocations -/

/-- The answer to `os.fstat`: success, `OSError`, or `OverflowError`. -/
inductive FstatAnswer
  | success
  | osError
  | overflow

/-- The answer to `cancel_requested`. -/
inductive CancelAnswer
  | requested (value : Bool)
  | notBool
  | raises

/-- The arguments of a run. The timeout is finite, or absent when it is not. -/
structure Invocation where
  argv : List String
  cwdIsDir : Bool
  timeoutSeconds : Option Rat
  stdoutLimitBytes : Int
  stderrLimitBytes : Int
  environment : Option (List (String × String))
  cancelRequested : Option (Nat → CancelAnswer)
  passFds : List Int

/-- A text without NUL. -/
def hasNoNul (s : String) : Bool := s.toList.all fun c ↦ c.toNat ≠ 0

/-- `_MAX_CAPTURE_BYTES`. -/
def maxCaptureBytes : Int := 16 * 1024 * 1024

/-- The checks of `_validate_invocation` before `os.fstat`. -/
def isValidInvocation (inv : Invocation) : Bool :=
  !inv.argv.isEmpty && inv.argv.all (fun token ↦ !token.isEmpty && hasNoNul token) &&
    inv.cwdIsDir &&
    inv.timeoutSeconds.any (fun t ↦ 0 < t && t ≤ 600) &&
    [inv.stdoutLimitBytes, inv.stderrLimitBytes].all
      (fun limit ↦ 1 ≤ limit && limit ≤ maxCaptureBytes) &&
    (inv.environment.getD []).all
      (fun kv ↦ !kv.1.isEmpty && hasNoNul kv.1 && hasNoNul kv.2) &&
    decide inv.passFds.Nodup && inv.passFds.all (fun fd ↦ 0 ≤ fd)

/-- `os.fstat` of each descriptor that is passed on. -/
def checkDescriptors (fstat : Int → FstatAnswer) : List Int → Except ProcessFailure Unit
  | [] => .ok ()
  | fd :: fds =>
    match fstat fd with
    | .success => checkDescriptors fstat fds
    | .osError => .error (.bounded .invalidInvocation)
    | .overflow => .error .other

/-- `_validate_invocation`. -/
def validateInvocation (inv : Invocation) (fstat : Int → FstatAnswer) :
    Except ProcessFailure Unit :=
  if isValidInvocation inv then checkDescriptors fstat inv.passFds
  else .error (.bounded .invalidInvocation)

/-! ### Runs -/

/-- The answer to `subprocess.Popen`: a process, `OSError`, or another exception. -/
inductive SpawnAnswer
  | started
  | osError
  | raises
  deriving DecidableEq

/-- A pipe: the answers to its reads, and how many reads its drain has done when the runner looks
whether it has ended. -/
structure Pipe where
  reads : Nat → ReadAnswer
  seen : Nat

/-- What the operating system answers during a run. The runner finds in round `deadline` that the
deadline has passed; `leftover` tells whether the group has other processes left when its leader has
exited by itself. -/
structure Surroundings where
  fstat : Int → FstatAnswer
  spawn : SpawnAnswer
  stdout : Pipe
  stderr : Pipe
  poll : Nat → Option Int
  deadline : Nat
  terminate : Signalling
  kill : Signalling
  force : Signalling
  leftover : Bool

/-- How the watch over the process ends. -/
inductive WatchEnd
  | exited (code : Int)
  | cancellationFailed
  | canceled
  | timedOut
  deriving DecidableEq

variable (inv : Invocation) (os : Surroundings)

/-- The drains of both pipes, when the runner looks at them. -/
def stdoutDrain : Drain :=
  .after inv.stdoutLimitBytes.toNat os.stdout.reads os.stdout.seen

@[inherit_doc stdoutDrain]
def stderrDrain : Drain :=
  .after inv.stderrLimitBytes.toNat os.stderr.reads os.stderr.seen

/-- Terminate the group, and end the watch. -/
def stopWatch (result : WatchEnd) : Run WatchEnd :=
  (terminateProcessGroup os.terminate os.kill).bind fun _ ↦ .done result

/-- One round of the watch, up to the look at the clock. -/
def watchRound (round : Nat) (next : Run WatchEnd) : Run WatchEnd :=
  match os.poll round with
  | some code => .act [.exited] (.ok (.exited code))
  | none =>
    match inv.cancelRequested with
    | none => next
    | some cancelRequested =>
      match cancelRequested round with
      | .requested true => stopWatch os .canceled
      | .requested false => next
      | .notBool => stopWatch os .cancellationFailed
      | .raises => stopWatch os .cancellationFailed

/-- The watch over the process, from a round on. The wait at the end of a round only lets time pass:
the next round polls again. -/
def watch : Nat → Nat → Run WatchEnd
  | 0, round => watchRound inv os round (stopWatch os .timedOut)
  | left + 1, round => watchRound inv os round (watch left (round + 1))

/-- The failure of a run whose process did not exit by itself. -/
def WatchEnd.failure : WatchEnd → BoundedProcessFailureCode
  | exited _ => .outputIncomplete
  | cancellationFailed => .outputIncomplete
  | canceled => .canceled
  | timedOut => .timedOut

/-- `total_bytes > limit`, which is a `TypeError` for the total of an incomplete capture. -/
def checkTotal (capture : BoundedStreamCapture) (limit : Int) : Except ProcessFailure Unit :=
  match capture.totalBytes with
  | none => .error .typeError
  | some total => if limit < total then .error (.bounded .outputTooLarge) else .ok ()

/-- The result of a process that exited by itself. -/
def collect (code : Int) : Except ProcessFailure BoundedProcessResult := do
  checkTotal (stdoutDrain inv os).snapshot inv.stdoutLimitBytes
  checkTotal (stderrDrain inv os).snapshot inv.stderrLimitBytes
  return ⟨code, (stdoutDrain inv os).snapshot, (stderrDrain inv os).snapshot⟩

/-- What follows the watch. -/
def finish (result : WatchEnd) : Run BoundedProcessResult :=
  if (stdoutDrain inv os).ended ∧ (stderrDrain inv os).ended then
    match result with
    | .exited code => .act [] (collect inv os code)
    | stopped => failWith stopped.failure
  else
    (killProcessGroup os.force).bind fun _ ↦ failWith result.failure

/-- `BoundedProcessRunner.run`. -/
def run : Run BoundedProcessResult :=
  (Traced.act [] (validateInvocation inv os.fstat)).bind fun _ ↦
    match os.spawn with
    | .osError => failWith .spawnFailed
    | .raises => .act [] (.error .other)
    | .started => (Traced.act [.started] (.ok ())).bind fun _ ↦
        (watch inv os os.deadline 0).bind (finish inv os)

/-! ### What the ending of a run promises -/

/-- The group is terminated: it was seen to have no process left, or was killed, or its leader
exited by itself and left no other process. -/
def GroupTerminated (trace : List GroupEvent) : Prop :=
  .gone ∈ trace ∨ .killed ∈ trace ∨ .exited ∈ trace ∧ os.leftover = false

/-- The result has the whole content of both pipes, which is within the limits. -/
structure Captures (result : BoundedProcessResult) : Prop where
  stdout_complete : result.stdout.complete = true
  stderr_complete : result.stderr.complete = true
  stdout_delivers : Delivers os.stdout.reads result.stdout.captured
  stderr_delivers : Delivers os.stderr.reads result.stderr.captured
  stdout_le : (result.stdout.captured.length : Int) ≤ inv.stdoutLimitBytes
  stderr_le : (result.stderr.captured.length : Int) ≤ inv.stderrLimitBytes

/-- A run returns only what it captured in full, and otherwise raises a `BoundedProcessError` and
leaves no process behind. -/
structure Closed (ending : Run BoundedProcessResult) : Prop where
  captures : ∀ result, ending.result = .ok result → Captures inv os result
  raises : ∀ e, ending.result = .error e → ∃ code, e = .bounded code
  terminates : ∀ e, ending.result = .error e → .started ∈ ending.trace →
    GroupTerminated os ending.trace

/-- The watch goes on after its look at `cancel_requested`. -/
def GoesOn (round : Nat) : Prop :=
  ∀ cancelRequested, inv.cancelRequested = some cancelRequested →
    cancelRequested round = .requested false

/-- The process exits by itself: a poll tells its return code before a cancellation or the deadline
ends the watch. -/
def ExitsFrom (left round : Nat) : Prop :=
  ∃ k ≤ left, (os.poll (round + k)).isSome = true ∧
    ∀ j < k, os.poll (round + j) = none ∧ GoesOn inv (round + j)

/-- What the last probe of a group finds. -/
def lastProbe (probe : Nat → SignalAnswer) : Nat → Nat → SignalAnswer
  | 0, k => probe k
  | patience + 1, k =>
    match probe k with
    | .delivered => lastProbe probe patience (k + 1)
    | answer => answer

/-- The signals end the group: none of those that are needed is refused. -/
def StopsGroup (terminate kill : Signalling) : Prop :=
  terminate.answer = .absent ∨
    terminate.answer = .delivered ∧
      (lastProbe terminate.probe terminate.patience 0 = .absent ∨
        lastProbe terminate.probe terminate.patience 0 = .delivered ∧ kill.answer ≠ .refused)

/-- Both drains have ended when the runner looks at them. -/
def DrainsEnd : Prop := (stdoutDrain inv os).ended = true ∧ (stderrDrain inv os).ended = true

/-- No read failed, unless the standard output was too large already. -/
def ReadsWell : Prop :=
  (stdoutDrain inv os).complete = true ∧
    (inv.stdoutLimitBytes < (stdoutDrain inv os).total ∨ (stderrDrain inv os).complete = true)

/-- There is too much output. -/
def TooLarge : Prop :=
  inv.stdoutLimitBytes < (stdoutDrain inv os).total ∨
    inv.stderrLimitBytes < (stderrDrain inv os).total

/-- The invocation is accepted and the process is started. -/
def Starts : Prop := validateInvocation inv os.fstat = .ok () ∧ os.spawn = .started

/-- The runs that keep the promise. The preparations raise nothing unexpected; when the process
exits by itself and both drains end, no read failed, unless the standard output was too large
already, and too much output leaves no process behind; and the signals that the runner needs are not
refused. -/
structure StaysClosed : Prop where
  prepares : validateInvocation inv os.fstat ≠ .error .other
  spawns : validateInvocation inv os.fstat = .ok () → os.spawn ≠ .raises
  reads : Starts inv os → ExitsFrom inv os os.deadline 0 → DrainsEnd inv os → ReadsWell inv os
  alone : Starts inv os → ExitsFrom inv os os.deadline 0 → DrainsEnd inv os → TooLarge inv os →
    os.leftover = false
  forced : Starts inv os → ExitsFrom inv os os.deadline 0 → ¬DrainsEnd inv os →
    os.force.answer ≠ .refused ∨ os.leftover = false
  stops : Starts inv os → ¬ExitsFrom inv os os.deadline 0 → StopsGroup os.terminate os.kill

/-! ### Signals -/

theorem waitForProcessGroupExit_eq (probe : Nat → SignalAnswer) (patience k : Nat) :
    waitForProcessGroupExit probe patience k =
      match lastProbe probe patience k with
      | .absent => .act [.gone] (.ok true)
      | .refused => failWith .outputIncomplete
      | .delivered => .act [] (.ok false) := by
  induction patience generalizing k with
  | zero => cases h : probe k <;> simp [waitForProcessGroupExit, lastProbe, h]
  | succ patience ih =>
    cases h : probe k <;> simp [waitForProcessGroupExit, lastProbe, h, ih]

/-- The group has no process left, or was sent `SIGKILL`. -/
def Ended (trace : List GroupEvent) : Prop := .gone ∈ trace ∨ .killed ∈ trace

/-- What the termination of a group does: it raises nothing but a `BoundedProcessError`, does not
see the leader exit by itself, ends the group if the condition holds, and only then returns. -/
structure Terminates (run : Run Unit) (condition : Prop) : Prop where
  raises : ∀ e, run.result = .error e → e = .bounded .outputIncomplete
  exited : .exited ∉ run.trace
  ended : Ended run.trace ↔ condition
  returns : ∀ u, run.result = .ok u → condition

theorem Terminates.congr {run : Run Unit} {p q : Prop} (h : Terminates run p) (hpq : p ↔ q) :
    Terminates run q :=
  ⟨h.raises, h.exited, h.ended.trans hpq, fun u hu ↦ hpq.mp (h.returns u hu)⟩

/-- Raise a failure after the termination of the group. -/
theorem Terminates.bind_failWith (α : Type) {run : Run Unit} {condition : Prop}
    (h : Terminates run condition) (code : BoundedProcessFailureCode) :
    ∃ code', (run.bind fun _ ↦ (failWith code : Run α)) =
      ⟨run.trace, .error (.bounded code')⟩ := by
  cases hresult : run.result with
  | ok u => exact ⟨code, by simp [Traced.bind, hresult, failWith, Traced.act]⟩
  | error e => exact ⟨.outputIncomplete, by simp [Traced.bind, hresult, h.raises e hresult]⟩

theorem terminates_failWith : Terminates (failWith .outputIncomplete) False :=
  ⟨by simp [failWith, Traced.act], by simp [failWith, Traced.act],
    by simp [Ended, failWith, Traced.act], by simp [failWith, Traced.act]⟩

/-- The stages of the termination of a group. -/
theorem terminates_signalProcessGroup (event : GroupEvent) (signalling : Signalling)
    {escalate : Run Unit} {condition : Prop} (hevent : event ≠ .exited ∧ event ≠ .gone)
    (h : Terminates escalate condition) :
    Terminates (signalProcessGroup event signalling escalate)
      (signalling.answer = .absent ∨ signalling.answer = .delivered ∧ (event = .killed ∨
        lastProbe signalling.probe signalling.patience 0 = .absent ∨
          lastProbe signalling.probe signalling.patience 0 = .delivered ∧ condition)) := by
  obtain ⟨hraises, hexited, hended, hreturns⟩ := h
  have hne : GroupEvent.exited ≠ event ∧ GroupEvent.gone ≠ event := ⟨hevent.1.symm, hevent.2.symm⟩
  cases hanswer : signalling.answer with
  | absent =>
    constructor <;> cases hreaped : signalling.reaped <;>
      simp [signalProcessGroup, hanswer, hreaped, reapProcessLeader, failWith, Traced.act,
        Traced.bind, Ended]
  | refused =>
    constructor <;> simp [signalProcessGroup, hanswer, failWith, Traced.act, Ended]
  | delivered =>
    have hwait := waitForProcessGroupExit_eq signalling.probe signalling.patience 0
    cases hprobe : lastProbe signalling.probe signalling.patience 0 with
    | absent =>
      rw [hprobe] at hwait
      constructor <;> cases hreaped : signalling.reaped <;>
        simp [signalProcessGroup, hanswer, hwait, hreaped, reapProcessLeader, failWith, Traced.act,
          Traced.bind, Ended, hne]
    | refused =>
      rw [hprobe] at hwait
      constructor <;>
        simp [signalProcessGroup, hanswer, hwait, failWith, Traced.act, Traced.bind, Ended, hne,
          eq_comm]
    | delivered =>
      rw [hprobe] at hwait
      have hsignal : signalProcessGroup event signalling escalate =
          ⟨event :: escalate.trace, escalate.result⟩ := by
        simp [signalProcessGroup, hanswer, hwait, Traced.act, Traced.bind]
      rw [hsignal]
      refine ⟨hraises, by simp [hexited, hne], ?_, fun u hu ↦ by simp [hreturns u hu]⟩
      simp only [Ended, List.mem_cons, hne, false_or] at hended ⊢
      simp only [reduceCtorEq, true_and, false_or, ← hended]
      tauto

theorem terminates_killProcessGroup (signalling : Signalling) :
    Terminates (killProcessGroup signalling) (signalling.answer ≠ .refused) := by
  have h := terminates_signalProcessGroup .killed signalling (by decide) terminates_failWith
  refine h.congr ?_
  cases signalling.answer <;> simp

/-- **The termination of a group** ends it exactly if none of the signals that it needs is refused.
-/
theorem terminates_terminateProcessGroup (terminate kill : Signalling) :
    Terminates (terminateProcessGroup terminate kill) (StopsGroup terminate kill) := by
  have h := terminates_signalProcessGroup .terminated terminate (by decide)
    (terminates_killProcessGroup kill)
  exact h.congr (by simp [StopsGroup])

/-! ### The watch -/

variable {inv os}

/-- What a round does when the process runs and the watch goes on. -/
theorem watchRound_of_goesOn {round : Nat} {next : Run WatchEnd} (hpoll : os.poll round = none)
    (hgoes : GoesOn inv round) : watchRound inv os round next = next := by
  cases hcancel : inv.cancelRequested with
  | none => simp [watchRound, hpoll, hcancel]
  | some cancelRequested =>
    simp [watchRound, hpoll, hcancel, hgoes cancelRequested hcancel]

/-- What a round does when it stops the watch. -/
theorem watchRound_of_not_goesOn {round : Nat} {next : Run WatchEnd}
    (hpoll : os.poll round = none) (hstops : ¬GoesOn inv round) :
    ∃ result, (∀ code, result ≠ .exited code) ∧
      watchRound inv os round next = stopWatch os result := by
  cases hcancel : inv.cancelRequested with
  | none =>
    refine absurd (fun cancelRequested h ↦ ?_) hstops
    rw [hcancel] at h
    cases h
  | some cancelRequested =>
    rcases hanswer : cancelRequested round with (_ | _) | _ | _
    · refine absurd (fun cancelRequested' h ↦ ?_) hstops
      rw [hcancel] at h
      cases h
      exact hanswer
    · exact ⟨.canceled, by simp, by simp [watchRound, hpoll, hcancel, hanswer]⟩
    · exact ⟨.cancellationFailed, by simp, by simp [watchRound, hpoll, hcancel, hanswer]⟩
    · exact ⟨.cancellationFailed, by simp, by simp [watchRound, hpoll, hcancel, hanswer]⟩

theorem exitsFrom_of_poll {left round : Nat} (h : (os.poll round).isSome = true) :
    ExitsFrom inv os left round :=
  ⟨0, Nat.zero_le _, h, by simp⟩

theorem not_exitsFrom_of_stops {left round : Nat} (hpoll : os.poll round = none)
    (hstops : ¬GoesOn inv round) : ¬ExitsFrom inv os left round := by
  rintro ⟨_ | k, -, hexit, hbefore⟩
  · simp [hpoll] at hexit
  · exact hstops (hbefore 0 (Nat.succ_pos k)).2

theorem exitsFrom_succ {left round : Nat} (hpoll : os.poll round = none)
    (hgoes : GoesOn inv round) :
    ExitsFrom inv os (left + 1) round ↔ ExitsFrom inv os left (round + 1) := by
  constructor
  · rintro ⟨_ | k, hk, hexit, hbefore⟩
    · simp [hpoll] at hexit
    · refine ⟨k, Nat.le_of_succ_le_succ hk, by rwa [Nat.add_right_comm], fun j hj ↦ ?_⟩
      have := hbefore (j + 1) (Nat.succ_lt_succ hj)
      rwa [← Nat.add_assoc, Nat.add_right_comm] at this
  · rintro ⟨k, hk, hexit, hbefore⟩
    refine ⟨k + 1, Nat.succ_le_succ hk, by rwa [← Nat.add_assoc, Nat.add_right_comm], ?_⟩
    rintro (_ | j) hj
    · exact ⟨hpoll, hgoes⟩
    · have := hbefore j (Nat.lt_of_succ_lt_succ hj)
      rwa [← Nat.add_assoc, Nat.add_right_comm]

/-- **How the watch ends.** The process exits by itself, or the watch terminates the group. -/
theorem watch_cases (left round : Nat) :
    (ExitsFrom inv os left round ∧
        ∃ code, watch inv os left round = .act [.exited] (.ok (.exited code))) ∨
      (¬ExitsFrom inv os left round ∧ ∃ result, (∀ code, result ≠ .exited code) ∧
        watch inv os left round = stopWatch os result) := by
  induction left generalizing round with
  | zero =>
    cases hpoll : os.poll round with
    | some code =>
      exact .inl ⟨exitsFrom_of_poll (by simp [hpoll]), code, by simp [watch, watchRound, hpoll]⟩
    | none =>
      right
      by_cases hgoes : GoesOn inv round
      · refine ⟨?_, .timedOut, by simp, watchRound_of_goesOn hpoll hgoes⟩
        rintro ⟨k, hk, hexit, -⟩
        obtain rfl : k = 0 := Nat.le_zero.mp hk
        simp [hpoll] at hexit
      · exact ⟨not_exitsFrom_of_stops hpoll hgoes, watchRound_of_not_goesOn hpoll hgoes⟩
  | succ left ih =>
    cases hpoll : os.poll round with
    | some code =>
      exact .inl ⟨exitsFrom_of_poll (by simp [hpoll]), code, by simp [watch, watchRound, hpoll]⟩
    | none =>
      by_cases hgoes : GoesOn inv round
      · rw [exitsFrom_succ hpoll hgoes, watch, watchRound_of_goesOn hpoll hgoes]
        exact ih (round + 1)
      · exact .inr ⟨not_exitsFrom_of_stops hpoll hgoes, watchRound_of_not_goesOn hpoll hgoes⟩

/-! ### Results -/

/-- A complete drain within its limit has the whole content of its pipe. -/
theorem delivers_of_complete {limit : Int} {pipe : Pipe}
    (hcomplete : (Drain.after limit.toNat pipe.reads pipe.seen).complete = true)
    (hlimit : ((Drain.after limit.toNat pipe.reads pipe.seen).total : Int) ≤ limit) :
    Delivers pipe.reads (Drain.after limit.toNat pipe.reads pipe.seen).captured ∧
      ((Drain.after limit.toNat pipe.reads pipe.seen).captured.length : Int) ≤ limit := by
  obtain ⟨m, -, hchunks, hcaptured, htotal, -, hend⟩ :=
    Drain.after_spec limit.toNat pipe.reads pipe.seen
  have hwhole : (Drain.after limit.toNat pipe.reads pipe.seen).captured = content pipe.reads m := by
    rw [hcaptured, List.take_of_length_le]
    omega
  exact ⟨⟨m, hchunks, hend hcomplete, hwhole⟩, by rw [hwhole]; omega⟩

theorem checkTotal_of_incomplete {d : Drain} {limit : Int} (h : d.complete = false) :
    checkTotal d.snapshot limit = .error .typeError := by
  simp [checkTotal, Drain.snapshot, h]

theorem checkTotal_of_complete {d : Drain} {limit : Int} (h : d.complete = true) :
    checkTotal d.snapshot limit =
      if limit < d.total then .error (.bounded .outputTooLarge) else .ok () := by
  simp [checkTotal, Drain.snapshot, h]

/-- The check of a drain: it is complete and within the limit. -/
theorem checkTotal_eq_ok {d : Drain} {limit : Int} :
    checkTotal d.snapshot limit = .ok () ↔ d.complete = true ∧ (d.total : Int) ≤ limit := by
  cases h : d.complete with
  | false => simp [checkTotal_of_incomplete h]
  | true => simp [checkTotal_of_complete h]

/-- **Results are whole.** A result has the whole content of both pipes, within the limits. -/
theorem captures_of_collect {code : Int} {result : BoundedProcessResult}
    (h : collect inv os code = .ok result) : Captures inv os result := by
  simp only [collect, Checked.bind_eq_ok, Checked.pure_eq_ok] at h
  obtain ⟨⟨⟩, hout, ⟨⟩, herr, rfl⟩ := h
  obtain ⟨houtComplete, houtLimit⟩ := checkTotal_eq_ok.mp hout
  obtain ⟨herrComplete, herrLimit⟩ := checkTotal_eq_ok.mp herr
  exact ⟨houtComplete, herrComplete, (delivers_of_complete houtComplete houtLimit).1,
    (delivers_of_complete herrComplete herrLimit).1,
    (delivers_of_complete houtComplete houtLimit).2,
    (delivers_of_complete herrComplete herrLimit).2⟩

/-- The result of a process that exited by itself: a failed read is a `TypeError`. -/
theorem collect_cases (code : Int) :
    (¬ReadsWell inv os ∧ collect inv os code = .error .typeError) ∨
      (ReadsWell inv os ∧ TooLarge inv os ∧
        collect inv os code = .error (.bounded .outputTooLarge)) ∨
      (ReadsWell inv os ∧ ¬TooLarge inv os ∧ ∃ result, collect inv os code = .ok result) := by
  unfold collect ReadsWell TooLarge
  cases hout : (stdoutDrain inv os).complete with
  | false => exact .inl ⟨by simp, by rw [checkTotal_of_incomplete hout]; rfl⟩
  | true =>
    rw [checkTotal_of_complete hout]
    by_cases hlarge : inv.stdoutLimitBytes < (stdoutDrain inv os).total
    · exact .inr (.inl ⟨by simp [hlarge], .inl hlarge, by rw [if_pos hlarge]; rfl⟩)
    · rw [if_neg hlarge, Checked.ok_bind]
      cases herr : (stderrDrain inv os).complete with
      | false => exact .inl ⟨by simp [hlarge], by rw [checkTotal_of_incomplete herr]; rfl⟩
      | true =>
        rw [checkTotal_of_complete herr]
        by_cases hlarge' : inv.stderrLimitBytes < (stderrDrain inv os).total
        · exact .inr (.inl ⟨by simp, .inr hlarge', by rw [if_pos hlarge']; rfl⟩)
        · exact .inr (.inr ⟨by simp, by tauto, _, by rw [if_neg hlarge']; rfl⟩)

/-! ### Runs -/

theorem validateInvocation_error {fstat : Int → FstatAnswer} {e : ProcessFailure}
    (h : validateInvocation inv fstat = .error e) :
    e = .bounded .invalidInvocation ∨ e = .other := by
  have hcheck : ∀ fds, checkDescriptors fstat fds = .error e →
      e = .bounded .invalidInvocation ∨ e = .other := by
    intro fds hfds
    induction fds with
    | nil => cases hfds
    | cons fd fds ih =>
      cases hfd : fstat fd with
      | success => exact ih (by simpa [checkDescriptors, hfd] using hfds)
      | osError => exact .inl (by simpa [checkDescriptors, hfd, eq_comm] using hfds)
      | overflow => exact .inr (by simpa [checkDescriptors, hfd, eq_comm] using hfds)
  unfold validateInvocation at h
  split_ifs at h with hvalid
  · exact hcheck _ h
  · exact .inl (by simpa [eq_comm] using h)

/-- A run that raises after it has started the process. -/
theorem closed_of_error {ending : Run BoundedProcessResult} {e : ProcessFailure}
    (he : ending.result = .error e) (hstarted : .started ∈ ending.trace) :
    Closed inv os ending ↔ (∃ code, e = .bounded code) ∧ GroupTerminated os ending.trace := by
  constructor
  · exact fun h ↦ ⟨h.raises e he, h.terminates e he hstarted⟩
  · rintro ⟨hcode, hterminated⟩
    refine ⟨by simp [he], ?_, fun _ _ _ ↦ hterminated⟩
    rintro e' he'
    obtain rfl : e = e' := by simpa [he] using he'
    exact hcode

/-- The process exits by itself. -/
theorem closed_run_of_exits (hstarts : Starts inv os) {code : Int}
    (hwatch : watch inv os os.deadline 0 = .act [.exited] (.ok (.exited code))) :
    Closed inv os (run inv os) ↔
      (DrainsEnd inv os → ReadsWell inv os) ∧
        (DrainsEnd inv os → TooLarge inv os → os.leftover = false) ∧
        (¬DrainsEnd inv os → os.force.answer ≠ .refused ∨ os.leftover = false) := by
  have hrun : run inv os = ⟨.started :: .exited :: (finish inv os (.exited code)).trace,
      (finish inv os (.exited code)).result⟩ := by
    simp [run, hstarts.1, hstarts.2, hwatch, Traced.act, Traced.bind]
  rw [hrun]
  by_cases hdrains : DrainsEnd inv os
  · have hfinish : finish inv os (.exited code) = .act [] (collect inv os code) := if_pos hdrains
    rw [hfinish]
    rcases @collect_cases inv os code with
      ⟨hreads, hcollect⟩ | ⟨hreads, hlarge, hcollect⟩ | ⟨hreads, hlarge, result, hcollect⟩
    · rw [closed_of_error (by simp [Traced.act, hcollect]; rfl) (by simp)]
      simp [hdrains, hreads]
    · rw [closed_of_error (by simp [Traced.act, hcollect]; rfl) (by simp)]
      simp [hdrains, hreads, hlarge, GroupTerminated, Traced.act]
    · simp only [hdrains, hreads, hlarge, Traced.act, hcollect]
      refine iff_of_true ⟨?_, by simp, by simp⟩ (by simp)
      rintro result' hresult
      exact captures_of_collect (hcollect.trans hresult)
  · have hterminates := terminates_killProcessGroup os.force
    obtain ⟨code', hkill⟩ :=
      hterminates.bind_failWith BoundedProcessResult (WatchEnd.exited code).failure
    have hfinish : finish inv os (.exited code) = ⟨(killProcessGroup os.force).trace,
        .error (.bounded code')⟩ := (if_neg hdrains).trans hkill
    have hended := hterminates.ended
    rw [hfinish, closed_of_error rfl (by simp)]
    simp only [Ended] at hended
    simp [hdrains, GroupTerminated, ← hended, or_assoc]

/-- A run whose watch terminated the group raises a `BoundedProcessError`. -/
theorem finish_of_stops {result : WatchEnd} (hresult : ∀ code, result ≠ .exited code) :
    ∃ code, (finish inv os result).result = .error (.bounded code) := by
  by_cases hdrains : DrainsEnd inv os
  · refine ⟨result.failure, ?_⟩
    have hfinish : finish inv os result = failWith result.failure := by
      cases result with
      | exited code => exact absurd rfl (hresult code)
      | cancellationFailed => exact if_pos hdrains
      | canceled => exact if_pos hdrains
      | timedOut => exact if_pos hdrains
    rw [hfinish]
    rfl
  · obtain ⟨code, hkill⟩ :=
      (terminates_killProcessGroup os.force).bind_failWith BoundedProcessResult result.failure
    have hfinish : finish inv os result = ⟨(killProcessGroup os.force).trace,
        .error (.bounded code)⟩ := (if_neg hdrains).trans hkill
    exact ⟨code, by rw [hfinish]⟩

/-- The watch terminates the group. -/
theorem closed_run_of_stops (hstarts : Starts inv os) {result : WatchEnd}
    (hresult : ∀ code, result ≠ .exited code)
    (hwatch : watch inv os os.deadline 0 = stopWatch os result) :
    Closed inv os (run inv os) ↔ StopsGroup os.terminate os.kill := by
  obtain ⟨hraises, hexited, hended, hreturns⟩ :=
    terminates_terminateProcessGroup os.terminate os.kill
  have hrun : run inv os = ⟨.started :: ((stopWatch os result).bind (finish inv os)).trace,
      ((stopWatch os result).bind (finish inv os)).result⟩ := by
    simp [run, hstarts.1, hstarts.2, hwatch, Traced.act, Traced.bind]
  rw [hrun]
  cases hterminate : (terminateProcessGroup os.terminate os.kill).result with
  | error e =>
    have hstop : (stopWatch os result).bind (finish inv os) =
        ⟨(terminateProcessGroup os.terminate os.kill).trace, .error e⟩ := by
      simp [stopWatch, Traced.bind, hterminate]
    rw [hstop, closed_of_error rfl (by simp), ← hended]
    simp [hraises e hterminate, GroupTerminated, Ended, hexited]
  | ok u =>
    obtain ⟨code, hcode⟩ := @finish_of_stops inv os result hresult
    have hstop : (stopWatch os result).bind (finish inv os) =
        ⟨(terminateProcessGroup os.terminate os.kill).trace ++ (finish inv os result).trace,
          .error (.bounded code)⟩ := by
      simp [stopWatch, Traced.bind, Traced.done, hterminate, hcode]
    have hstops := hreturns u hterminate
    rw [hstop, closed_of_error rfl (by simp)]
    refine iff_of_true ⟨⟨code, rfl⟩, ?_⟩ hstops
    rcases hended.mpr hstops with hgone | hkilled
    · exact .inl (by simp [hgone])
    · exact .inr (.inl (by simp [hkilled]))

/-- **Closed runs.** A run returns only the whole content of both pipes, and otherwise raises a
`BoundedProcessError` with the process group terminated, exactly if it is one of `StaysClosed`. The
result itself is always whole; what goes wrong is that a failed read raises a `TypeError`, that the
group of a process with too much output is not terminated, and that a signal is refused. -/
theorem closed_run_iff (inv : Invocation) (os : Surroundings) :
    Closed inv os (run inv os) ↔ StaysClosed inv os := by
  cases hvalid : validateInvocation inv os.fstat with
  | error e =>
    have hstarts : ¬Starts inv os := fun h ↦ by simp [h.1] at hvalid
    have hrun : run inv os = ⟨[], .error e⟩ := by simp [run, hvalid, Traced.act, Traced.bind]
    rw [hrun]
    constructor
    · intro h
      obtain ⟨code, hcode⟩ := h.raises e rfl
      exact ⟨by simp [hvalid, hcode], by simp [hvalid], by simp [hstarts], by simp [hstarts],
        by simp [hstarts], by simp [hstarts]⟩
    · intro h
      rcases validateInvocation_error hvalid with rfl | rfl
      · exact ⟨by simp, by simp, by simp⟩
      · exact absurd hvalid h.prepares
  | ok u =>
    cases hspawn : os.spawn with
    | osError =>
      have hstarts : ¬Starts inv os := fun h ↦ by simp [h.2] at hspawn
      have hrun : run inv os = ⟨[], .error (.bounded .spawnFailed)⟩ := by
        simp [run, hvalid, hspawn, failWith, Traced.act, Traced.bind]
      rw [hrun]
      exact iff_of_true ⟨by simp, by simp, by simp⟩ ⟨by simp [hvalid], by simp [hspawn],
        by simp [hstarts], by simp [hstarts], by simp [hstarts], by simp [hstarts]⟩
    | raises =>
      have hrun : run inv os = ⟨[], .error .other⟩ := by
        simp [run, hvalid, hspawn, Traced.act, Traced.bind]
      rw [hrun]
      refine iff_of_false (fun h ↦ ?_) fun h ↦ h.spawns hvalid hspawn
      obtain ⟨code, hcode⟩ := h.raises .other rfl
      cases hcode
    | started =>
      have hstarts : Starts inv os := ⟨hvalid, hspawn⟩
      have hprepares : validateInvocation inv os.fstat ≠ .error .other := by simp [hvalid]
      have hspawns : validateInvocation inv os.fstat = .ok () → os.spawn ≠ .raises := by
        simp [hspawn]
      rcases @watch_cases inv os os.deadline 0 with
        ⟨hexits, code, hwatch⟩ | ⟨hexits, result, hresult, hwatch⟩
      · rw [closed_run_of_exits hstarts hwatch]
        constructor
        · rintro ⟨hreads, halone, hforced⟩
          exact ⟨hprepares, hspawns, fun _ _ ↦ hreads, fun _ _ ↦ halone, fun _ _ ↦ hforced,
            fun _ h ↦ absurd hexits h⟩
        · exact fun h ↦ ⟨h.reads hstarts hexits, h.alone hstarts hexits, h.forced hstarts hexits⟩
      · rw [closed_run_of_stops hstarts hresult hwatch]
        constructor
        · exact fun h ↦ ⟨hprepares, hspawns, fun _ h' ↦ absurd h' hexits,
            fun _ h' ↦ absurd h' hexits, fun _ h' ↦ absurd h' hexits, fun _ _ ↦ h⟩
        · exact fun h ↦ h.stops hstarts hexits

/-! ### A failed read -/

/-- The invocation of a program without arguments. -/
def plainInvocation : Invocation where
  argv := ["true"]
  cwdIsDir := true
  timeoutSeconds := some 10
  stdoutLimitBytes := 100
  stderrLimitBytes := 100
  environment := none
  cancelRequested := none
  passFds := []

/-- Signals that are answered at once. -/
def plainSignalling : Signalling := ⟨.absent, fun _ ↦ .absent, 0, true⟩

/-- The process exits with success, and the read of its standard output fails. -/
def failedReadSurroundings : Surroundings where
  fstat _ := .success
  spawn := .started
  stdout := ⟨fun _ ↦ .raises, 1⟩
  stderr := ⟨fun _ ↦ .chunk [], 1⟩
  poll _ := some 0
  deadline := 0
  terminate := plainSignalling
  kill := plainSignalling
  force := plainSignalling
  leftover := false

/-- **A failed read** of a process that exits by itself is no failure of the runner: the comparison
of the missing total raises a `TypeError`. -/
theorem not_closed_run_failedRead :
    ¬Closed plainInvocation failedReadSurroundings
      (run plainInvocation failedReadSurroundings) := by
  intro h
  have hrun : (run plainInvocation failedReadSurroundings).result = .error .typeError := by rfl
  obtain ⟨code, hcode⟩ := h.raises .typeError hrun
  cases hcode

end BoundedProcess

end Blackcell.Adapters
