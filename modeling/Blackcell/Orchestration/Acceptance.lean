import Blackcell.Kernel.Bytes
import Blackcell.Kernel.Canonical
import Blackcell.Kernel.Event

/-!
# Acceptance commands

The values of `orchestration/acceptance.py`: a command that checks the work of a node, and its result
with the streams that it wrote. Both are structures that carry what their constructors demand.

## Main definitions

* `AcceptanceCommand`, `AcceptanceResult` : the values.
* `commandFromMapping`, `resultFromMapping` : their readers, those of `orchestration/replay.py`.
-/

namespace Blackcell.Orchestration.Acceptance

open Blackcell.Kernel

/-- `ACCEPTANCE_COMMAND_SCHEMA`. -/
def acceptanceCommandSchema : String := "blackcell.acceptance-command/v1"

/-- `ACCEPTANCE_RESULT_SCHEMA`. -/
def acceptanceResultSchema : String := "blackcell.acceptance-result/v1"

/-- `ACCEPTANCE_STREAM_SCHEMA`. -/
def acceptanceStreamSchema : String := "blackcell.acceptance-stream/v1"

/-- `MAX_ACCEPTANCE_TIMEOUT_SECONDS`. -/
def maxAcceptanceTimeoutSeconds : ℕ := 600

/-- `MAX_ACCEPTANCE_STREAM_BYTES`. -/
def maxAcceptanceStreamBytes : ℕ := 16 * 1024 * 1024

/-- `is_acceptance_check_id`. -/
def isAcceptanceCheckId (s : String) : Bool := isIdentifier ['.', '_', '-'] s && s.length ≤ 120

/-- `is_acceptance_executable_alias`. -/
def isAcceptanceExecutableAlias (s : String) : Bool :=
  isIdentifier ['.', '_', '+', '-'] s && s.length ≤ 64

/-- A finite number of seconds, at most the longest timeout. No Boolean is one. -/
def isAcceptanceTimeout (v : JsonValue) : Bool :=
  v.bool? = none && v.numeric?.any fun t : ℚ ↦ 0 < t && t ≤ maxAcceptanceTimeoutSeconds

/-! ### Commands -/

/-- What the constructor of `AcceptanceCommand` demands. -/
def IsAcceptanceCommand (checkId : String) (argv : List String) (expectedExitCode : ℤ)
    (timeoutSeconds : JsonValue) (stdoutLimitBytes stderrLimitBytes : ℤ) : Prop :=
  isAcceptanceCheckId checkId ∧ (1 ≤ argv.length ∧ argv.length ≤ 32) ∧
    (∀ name ∈ argv.head?, isAcceptanceExecutableAlias name) ∧
    (∀ token ∈ argv, token ≠ "" ∧ token.length ≤ 2048 ∧ '\x00' ∉ token.toList) ∧
    (0 ≤ expectedExitCode ∧ expectedExitCode ≤ 255) ∧ isAcceptanceTimeout timeoutSeconds ∧
    ∀ limit ∈ [stdoutLimitBytes, stderrLimitBytes], 1 ≤ limit ∧ limit ≤ maxAcceptanceStreamBytes

instance (checkId : String) (argv : List String) (expectedExitCode : ℤ) (timeoutSeconds : JsonValue)
    (stdoutLimitBytes stderrLimitBytes : ℤ) :
    Decidable (IsAcceptanceCommand checkId argv expectedExitCode timeoutSeconds stdoutLimitBytes
      stderrLimitBytes) :=
  inferInstanceAs (Decidable (_ ∧ _ ∧ _ ∧ _ ∧ _ ∧ _ ∧ _))

/-- `AcceptanceCommand`. -/
structure AcceptanceCommand where
  checkId : String
  argv : List String
  expectedExitCode : ℤ
  timeoutSeconds : JsonValue
  stdoutLimitBytes : ℤ
  stderrLimitBytes : ℤ
  isCommand : IsAcceptanceCommand checkId argv expectedExitCode timeoutSeconds stdoutLimitBytes
    stderrLimitBytes

namespace AcceptanceCommand

/-- `AcceptanceCommand(...)`. -/
def create (checkId : String) (argv : List String) (expectedExitCode : ℤ) (timeoutSeconds : JsonValue)
    (stdoutLimitBytes stderrLimitBytes : ℤ) : Option AcceptanceCommand :=
  if h : IsAcceptanceCommand checkId argv expectedExitCode timeoutSeconds stdoutLimitBytes
      stderrLimitBytes then
    some ⟨checkId, argv, expectedExitCode, timeoutSeconds, stdoutLimitBytes, stderrLimitBytes, h⟩
  else none

variable (c : AcceptanceCommand)

/-- `acceptance_command_payload`. -/
def payload : Mapping := [
  ("schema_version", .str acceptanceCommandSchema),
  ("check_id", .str c.checkId),
  ("argv", .ofTexts c.argv),
  ("expected_exit_code", .int c.expectedExitCode),
  ("timeout_seconds", c.timeoutSeconds),
  ("stdout_limit_bytes", .int c.stdoutLimitBytes),
  ("stderr_limit_bytes", .int c.stderrLimitBytes)]

/-- `digest`. -/
def digest (H : Host) : String := H.jsonDigest (.object c.payload)

end AcceptanceCommand

/-! ### Results -/

/-- What the constructor of `AcceptanceResult` demands. -/
def IsAcceptanceResult (checkId commandDigest worktreeSpecDigest isolationPolicyDigest
    inspectionBeforeDigest inspectionAfterDigest : String) (returnCode expectedExitCode : ℤ)
    (passed : Bool) : Prop :=
  isAcceptanceCheckId checkId ∧
    (∀ s ∈ [commandDigest, worktreeSpecDigest, isolationPolicyDigest, inspectionBeforeDigest,
      inspectionAfterDigest], isHexDigest s) ∧
    (0 ≤ returnCode ∧ returnCode ≤ 255) ∧ (0 ≤ expectedExitCode ∧ expectedExitCode ≤ 255) ∧
    (passed = true ↔ returnCode = expectedExitCode)

instance (checkId commandDigest worktreeSpecDigest isolationPolicyDigest inspectionBeforeDigest
    inspectionAfterDigest : String) (returnCode expectedExitCode : ℤ) (passed : Bool) :
    Decidable (IsAcceptanceResult checkId commandDigest worktreeSpecDigest isolationPolicyDigest
      inspectionBeforeDigest inspectionAfterDigest returnCode expectedExitCode passed) :=
  inferInstanceAs (Decidable (_ ∧ _ ∧ _ ∧ _ ∧ _))

/-- `AcceptanceResult`, with the captured bytes of its streams. -/
structure AcceptanceResult where
  checkId : String
  commandDigest : String
  worktreeSpecDigest : String
  isolationPolicyDigest : String
  inspectionBeforeDigest : String
  inspectionAfterDigest : String
  returnCode : ℤ
  expectedExitCode : ℤ
  passed : Bool
  stdout : List UInt8
  stderr : List UInt8
  isResult : IsAcceptanceResult checkId commandDigest worktreeSpecDigest isolationPolicyDigest
    inspectionBeforeDigest inspectionAfterDigest returnCode expectedExitCode passed

/-- The digest of some bytes. -/
def streamDigest (D : BytesDigest) (data : List UInt8) : String := D.bytesDigest ⟨data.toArray⟩

/-- A stream in `acceptance_result_payload`. -/
def streamPayload (D : BytesDigest) (data : List UInt8) : Mapping := [
  ("schema_version", .str acceptanceStreamSchema),
  ("size_bytes", .int data.length),
  ("digest", .str (streamDigest D data))]

namespace AcceptanceResult

variable (r : AcceptanceResult)

/-- `acceptance_result_payload`. -/
def payload (D : BytesDigest) : Mapping := [
  ("schema_version", .str acceptanceResultSchema),
  ("check_id", .str r.checkId),
  ("command_digest", .str r.commandDigest),
  ("worktree_spec_digest", .str r.worktreeSpecDigest),
  ("isolation_policy_digest", .str r.isolationPolicyDigest),
  ("inspection_before_digest", .str r.inspectionBeforeDigest),
  ("inspection_after_digest", .str r.inspectionAfterDigest),
  ("return_code", .int r.returnCode),
  ("expected_exit_code", .int r.expectedExitCode),
  ("passed", .bool r.passed),
  ("stdout", .object (streamPayload D r.stdout)),
  ("stderr", .object (streamPayload D r.stderr))]

/-- `digest`. -/
def digest (H : Host) (D : BytesDigest) : String := H.jsonDigest (.object (r.payload D))

end AcceptanceResult

/-! ### Readers -/

/-- A condition of a reader. -/
def readerGuard (p : Prop) [Decidable p] : Option PUnit := if p then some ⟨⟩ else none

/-- `_string_tuple`. -/
def stringTuple (v : JsonValue) : Option (List String) := do
  let items ← v.items?
  items.mapM (·.text?)

/-- `_string`, for a text that is not empty. -/
def nonemptyText (v : JsonValue) : Option String := v.text?.filter (· ≠ "")

/-- `_command_from_mapping`, `none` when it raises. -/
def commandFromMapping (value : Mapping) : Option AcceptanceCommand := do
  readerGuard (value.exact ["schema_version", "check_id", "argv", "expected_exit_code",
    "timeout_seconds", "stdout_limit_bytes", "stderr_limit_bytes"])
  readerGuard (value.get "schema_version" = .str acceptanceCommandSchema)
  let checkId ← nonemptyText (value.get "check_id")
  let argv ← stringTuple (value.get "argv")
  let expectedExitCode ← (value.get "expected_exit_code").int?
  let stdoutLimitBytes ← (value.get "stdout_limit_bytes").int?
  let stderrLimitBytes ← (value.get "stderr_limit_bytes").int?
  AcceptanceCommand.create checkId argv expectedExitCode (value.get "timeout_seconds")
    stdoutLimitBytes stderrLimitBytes

/-- The part of `_result_from_mapping` about one stream. -/
def streamFromMapping (D : BytesDigest) (v : JsonValue) (data : List UInt8) : Option PUnit := do
  let raw ← v.fields?
  readerGuard (raw.exact ["schema_version", "size_bytes", "digest"])
  readerGuard (raw.get "schema_version" = .str acceptanceStreamSchema)
  readerGuard ((raw.get "size_bytes").numeric? = some (data.length : ℚ))
  readerGuard (raw.get "digest" = .str (streamDigest D data))

/-- `_result_from_mapping`, `none` when it raises. -/
def resultFromMapping (D : BytesDigest) (value : Mapping) (stdout stderr : List UInt8) :
    Option AcceptanceResult := do
  readerGuard (value.exact ["schema_version", "check_id", "command_digest", "worktree_spec_digest",
    "isolation_policy_digest", "inspection_before_digest", "inspection_after_digest", "return_code",
    "expected_exit_code", "passed", "stdout", "stderr"])
  readerGuard (value.get "schema_version" = .str acceptanceResultSchema)
  streamFromMapping D (value.get "stdout") stdout
  streamFromMapping D (value.get "stderr") stderr
  let passed ← (value.get "passed").bool?
  let checkId ← nonemptyText (value.get "check_id")
  let commandDigest ← nonemptyText (value.get "command_digest")
  let worktreeSpecDigest ← nonemptyText (value.get "worktree_spec_digest")
  let isolationPolicyDigest ← nonemptyText (value.get "isolation_policy_digest")
  let inspectionBeforeDigest ← nonemptyText (value.get "inspection_before_digest")
  let inspectionAfterDigest ← nonemptyText (value.get "inspection_after_digest")
  let returnCode ← (value.get "return_code").int?
  let expectedExitCode ← (value.get "expected_exit_code").int?
  if h : IsAcceptanceResult checkId commandDigest worktreeSpecDigest isolationPolicyDigest
      inspectionBeforeDigest inspectionAfterDigest returnCode expectedExitCode passed then
    some ⟨checkId, commandDigest, worktreeSpecDigest, isolationPolicyDigest, inspectionBeforeDigest,
      inspectionAfterDigest, returnCode, expectedExitCode, passed, stdout, stderr, h⟩
  else none

end Blackcell.Orchestration.Acceptance
