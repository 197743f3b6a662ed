import Blackcell.Foundation.StrEnum
import Blackcell.Kernel.Canonical
import Blackcell.Kernel.Event
import Mathlib.Algebra.Group.Int.Defs

/-!
# The outcomes of nodes

The values of `orchestration/execution_artifacts.py`: the outcome of a node, with links to the artifacts
that it left. Each of them is a structure that carries what its constructor demands.

## Main definitions

* `ExecutionArtifactLink`, `CheckArtifacts`, `NodeOutcomeManifest` : the values.
* `nodeOutcomePayload`, `nodeOutcomeFromMapping` : the document of an outcome, and its reader.
-/

namespace Blackcell.Orchestration.ExecutionArtifacts

open Blackcell.Kernel

/-- `ExecutionArtifactContractFailureCode`. -/
inductive ExecutionArtifactContractFailureCode where
  | invalidOutcome | unsupportedOutcomeSchema
  deriving DecidableEq, Repr

/-- A step of a constructor or of a reader. -/
abbrev Outcome := Except ExecutionArtifactContractFailureCode

/-- `NODE_OUTCOME_SCHEMA`. -/
def nodeOutcomeSchema : String := "node-outcome/v2"

/-- `_IDENTIFIER.fullmatch`. -/
def isOutcomeIdentifier (s : String) : Bool := isIdentifier ['.', '_', '-'] s

/-- A printable ASCII character other than the space. -/
def isTokenChar (c : Char) : Bool := 0x21 ≤ c.toNat && c.toNat ≤ 0x7e

/-- A token of at most `maximum` characters. -/
def isToken (maximum : ℕ) (s : String) : Bool :=
  s ≠ "" && s.length ≤ maximum && (chars s).all isTokenChar

/-! ### Links -/

/-- What the constructor of `ExecutionArtifactLink` demands. -/
def IsLink (digest : String) (sizeBytes : ℤ) (mediaType : String) (encoding : Option String) : Prop :=
  isHexDigest digest ∧ (0 ≤ sizeBytes ∧ sizeBytes ≤ 2 ^ 63 - 1) ∧ isToken 256 mediaType ∧
    ∀ s ∈ encoding, isToken 64 s

instance (digest : String) (sizeBytes : ℤ) (mediaType : String) (encoding : Option String) :
    Decidable (IsLink digest sizeBytes mediaType encoding) :=
  inferInstanceAs (Decidable (_ ∧ _ ∧ _ ∧ _))

/-- `ExecutionArtifactLink`. -/
structure ExecutionArtifactLink where
  digest : String
  sizeBytes : ℤ
  mediaType : String
  encoding : Option String
  isLink : IsLink digest sizeBytes mediaType encoding
  deriving DecidableEq

/-- `ExecutionArtifactLink(...)`. -/
def ExecutionArtifactLink.create (digest : String) (sizeBytes : ℤ) (mediaType : String)
    (encoding : Option String) : Outcome ExecutionArtifactLink :=
  if h : IsLink digest sizeBytes mediaType encoding then
    .ok ⟨digest, sizeBytes, mediaType, encoding, h⟩
  else .error .invalidOutcome

/-- `_link_payload`. -/
def ExecutionArtifactLink.payload (link : ExecutionArtifactLink) : JsonValue := .object [
  ("digest", .str link.digest),
  ("size_bytes", .int link.sizeBytes),
  ("media_type", .str link.mediaType),
  ("encoding", .ofText? link.encoding)]

/-- `_optional_link_payload`. -/
def optionalLinkPayload (link : Option ExecutionArtifactLink) : JsonValue :=
  (link.map (·.payload)).getD .null

/-! ### Checks -/

/-- What the constructor of `CheckArtifacts` demands. -/
def IsCheckArtifacts (checkId commandDigest resultDigest : String)
    (command result : ExecutionArtifactLink) : Prop :=
  isOutcomeIdentifier checkId ∧ isHexDigest commandDigest ∧ isHexDigest resultDigest ∧
    command.digest = commandDigest ∧ result.digest = resultDigest

instance (checkId commandDigest resultDigest : String) (command result : ExecutionArtifactLink) :
    Decidable (IsCheckArtifacts checkId commandDigest resultDigest command result) :=
  inferInstanceAs (Decidable (_ ∧ _ ∧ _ ∧ _ ∧ _))

/-- `CheckArtifacts`. -/
structure CheckArtifacts where
  checkId : String
  commandDigest : String
  resultDigest : String
  passed : Bool
  command : ExecutionArtifactLink
  result : ExecutionArtifactLink
  stdout : ExecutionArtifactLink
  stderr : ExecutionArtifactLink
  isArtifacts : IsCheckArtifacts checkId commandDigest resultDigest command result
  deriving DecidableEq

/-- `CheckArtifacts(...)`. -/
def CheckArtifacts.create (checkId commandDigest resultDigest : String) (passed : Bool)
    (command result stdout stderr : ExecutionArtifactLink) : Outcome CheckArtifacts :=
  if h : IsCheckArtifacts checkId commandDigest resultDigest command result then
    .ok ⟨checkId, commandDigest, resultDigest, passed, command, result, stdout, stderr, h⟩
  else .error .invalidOutcome

/-- `_check_payload`. -/
def CheckArtifacts.payload (check : CheckArtifacts) : JsonValue := .object [
  ("check_id", .str check.checkId),
  ("command_digest", .str check.commandDigest),
  ("result_digest", .str check.resultDigest),
  ("passed", .bool check.passed),
  ("command_artifact", check.command.payload),
  ("result_artifact", check.result.payload),
  ("stdout_artifact", check.stdout.payload),
  ("stderr_artifact", check.stderr.payload)]

/-! ### Outcomes -/

/-- The statuses of an outcome. -/
inductive OutcomeStatus where
  | succeeded | failed | canceled
  deriving DecidableEq, Repr

instance : StrEnum OutcomeStatus where
  value
    | .succeeded => "succeeded"
    | .failed => "failed"
    | .canceled => "canceled"
  members := [.succeeded, .failed, .canceled]
  mem_members a := by cases a <;> decide
  nodup_values := by decide

/-- What the constructor of `NodeOutcomeManifest` demands of the texts and numbers. -/
def IsOutcomeIdentity (runId nodeId : String) (attempt fencingToken : ℤ)
    (leaseDigest worktreeSpecDigest baseCommit : String) (headCommit failureCode : Option String)
    (checks : List CheckArtifacts) : Prop :=
  (isOutcomeIdentifier runId ∧ isOutcomeIdentifier nodeId) ∧ (1 ≤ attempt ∧ 1 ≤ fencingToken) ∧
    isHexDigest leaseDigest ∧ isHexDigest worktreeSpecDigest ∧ isCommit baseCommit ∧
    (∀ head ∈ headCommit, isCommit head) ∧ (∀ code ∈ failureCode, isOutcomeIdentifier code) ∧
    (checks.map (·.checkId)).Nodup

instance (runId nodeId : String) (attempt fencingToken : ℤ)
    (leaseDigest worktreeSpecDigest baseCommit : String) (headCommit failureCode : Option String)
    (checks : List CheckArtifacts) :
    Decidable (IsOutcomeIdentity runId nodeId attempt fencingToken leaseDigest worktreeSpecDigest
      baseCommit headCommit failureCode checks) :=
  inferInstanceAs (Decidable (_ ∧ _ ∧ _ ∧ _ ∧ _ ∧ _ ∧ _ ∧ _))

/-- The artifacts of a change: its context, its proposal, the answer of the provider and its effect. -/
structure ChangeArtifacts where
  context : Option ExecutionArtifactLink
  proposal : Option ExecutionArtifactLink
  provider : Option ExecutionArtifactLink
  effect : Option ExecutionArtifactLink
  deriving DecidableEq

namespace ChangeArtifacts

variable (a : ChangeArtifacts)

/-- The links, in order. -/
def links : List (Option ExecutionArtifactLink) := [a.context, a.proposal, a.provider, a.effect]

/-- An artifact comes with those that it was made from. -/
def Chained : Prop :=
  (a.proposal.isSome → a.context.isSome) ∧
    (a.provider.isSome → a.context.isSome ∧ a.proposal.isSome) ∧
    (a.effect.isSome → a.context.isSome ∧ a.proposal.isSome ∧ a.provider.isSome)

instance : Decidable a.Chained := inferInstanceAs (Decidable (_ ∧ _ ∧ _))

end ChangeArtifacts

/-- What the constructor of `NodeOutcomeManifest` demands for a status. -/
def IsOutcome (status : OutcomeStatus) (headCommit failureCode : Option String)
    (repositoryWrite : Bool) (artifacts : ChangeArtifacts) (checks : List CheckArtifacts) : Prop :=
  artifacts.Chained ∧
    (status = .succeeded → failureCode = none ∧ headCommit.isSome ∧ checks ≠ [] ∧
      (∀ check ∈ checks, check.passed) ∧
      (repositoryWrite = true ↔ ∀ link ∈ artifacts.links, link.isSome)) ∧
    (status = .failed → failureCode.any (· ≠ "")) ∧
    (status = .canceled → failureCode = none) ∧
    (repositoryWrite = false → ∀ link ∈ artifacts.links, link = none)

instance (status : OutcomeStatus) (headCommit failureCode : Option String)
    (repositoryWrite : Bool) (artifacts : ChangeArtifacts) (checks : List CheckArtifacts) :
    Decidable (IsOutcome status headCommit failureCode repositoryWrite artifacts checks) :=
  inferInstanceAs (Decidable (_ ∧ _ ∧ _ ∧ _ ∧ _))

/-- `NodeOutcomeManifest`. -/
structure NodeOutcomeManifest where
  runId : String
  nodeId : String
  attempt : ℤ
  fencingToken : ℤ
  leaseDigest : String
  worktreeSpecDigest : String
  baseCommit : String
  headCommit : Option String
  repositoryWrite : Bool
  status : OutcomeStatus
  failureCode : Option String
  artifacts : ChangeArtifacts
  checks : List CheckArtifacts
  isIdentity : IsOutcomeIdentity runId nodeId attempt fencingToken leaseDigest worktreeSpecDigest
    baseCommit headCommit failureCode checks
  isOutcome : IsOutcome status headCommit failureCode repositoryWrite artifacts checks
  deriving DecidableEq

namespace NodeOutcomeManifest

/-- `NodeOutcomeManifest(...)`. -/
def create (runId nodeId : String) (attempt fencingToken : ℤ)
    (leaseDigest worktreeSpecDigest baseCommit : String) (headCommit : Option String)
    (repositoryWrite : Bool) (status : OutcomeStatus) (failureCode : Option String)
    (artifacts : ChangeArtifacts) (checks : List CheckArtifacts) : Outcome NodeOutcomeManifest :=
  if h : IsOutcomeIdentity runId nodeId attempt fencingToken leaseDigest worktreeSpecDigest baseCommit
      headCommit failureCode checks ∧
      IsOutcome status headCommit failureCode repositoryWrite artifacts checks then
    .ok ⟨runId, nodeId, attempt, fencingToken, leaseDigest, worktreeSpecDigest, baseCommit,
      headCommit, repositoryWrite, status, failureCode, artifacts, checks, h.1, h.2⟩
  else .error .invalidOutcome

variable (m : NodeOutcomeManifest)

/-- `node_outcome_payload`. -/
def payload : Mapping := [
  ("schema_version", .str nodeOutcomeSchema),
  ("run_id", .str m.runId),
  ("node_id", .str m.nodeId),
  ("attempt", .int m.attempt),
  ("fencing_token", .int m.fencingToken),
  ("lease_digest", .str m.leaseDigest),
  ("worktree_spec_digest", .str m.worktreeSpecDigest),
  ("base_commit", .str m.baseCommit),
  ("head_commit", .ofText? m.headCommit),
  ("repository_write", .bool m.repositoryWrite),
  ("status", .str (StrEnum.value m.status)),
  ("failure_code", .ofText? m.failureCode),
  ("context_artifact", optionalLinkPayload m.artifacts.context),
  ("proposal_artifact", optionalLinkPayload m.artifacts.proposal),
  ("provider_artifact", optionalLinkPayload m.artifacts.provider),
  ("effect_artifact", optionalLinkPayload m.artifacts.effect),
  ("checks", .list (m.checks.map (·.payload)))]

/-- `digest`. -/
def digest (H : Host) : String := H.jsonDigest (.object m.payload)

end NodeOutcomeManifest

/-! ### Readers -/

/-- A condition of a reader. -/
def demandOutcome (p : Prop) [Decidable p] : Outcome PUnit := Checked.require p .invalidOutcome

/-- A value of a reader. -/
def presentOutcome {α : Type} (x : Option α) : Outcome α := Checked.ofOption x .invalidOutcome

/-- An optional text. -/
def optionalText (v : JsonValue) : Outcome (Option String) :=
  match v with
  | .null => .ok none
  | .str s => .ok (some s)
  | _ => .error .invalidOutcome

/-- `_link_from_mapping`. -/
def linkFromMapping (v : JsonValue) : Outcome ExecutionArtifactLink := do
  let raw ← presentOutcome v.fields?
  demandOutcome (raw.exact ["digest", "size_bytes", "media_type", "encoding"])
  let digest ← presentOutcome (raw.get "digest").text?
  let sizeBytes ← presentOutcome (raw.get "size_bytes").int?
  let mediaType ← presentOutcome (raw.get "media_type").text?
  let encoding ← optionalText (raw.get "encoding")
  ExecutionArtifactLink.create digest sizeBytes mediaType encoding

/-- `_optional_link_from_mapping`. -/
def optionalLinkFromMapping (v : JsonValue) : Outcome (Option ExecutionArtifactLink) :=
  if v = .null then .ok none else some <$> linkFromMapping v

/-- `_check_from_mapping`. -/
def checkFromMapping (v : JsonValue) : Outcome CheckArtifacts := do
  let raw ← presentOutcome v.fields?
  demandOutcome (raw.exact ["check_id", "command_digest", "result_digest", "passed",
    "command_artifact", "result_artifact", "stdout_artifact", "stderr_artifact"])
  let checkId ← presentOutcome (raw.get "check_id").text?
  let commandDigest ← presentOutcome (raw.get "command_digest").text?
  let resultDigest ← presentOutcome (raw.get "result_digest").text?
  let passed ← presentOutcome (raw.get "passed").bool?
  let command ← linkFromMapping (raw.get "command_artifact")
  let result ← linkFromMapping (raw.get "result_artifact")
  let stdout ← linkFromMapping (raw.get "stdout_artifact")
  let stderr ← linkFromMapping (raw.get "stderr_artifact")
  CheckArtifacts.create checkId commandDigest resultDigest passed command result stdout stderr

/-- The keys of the document of an outcome. -/
def outcomeKeys : List String := ["schema_version", "run_id", "node_id", "attempt", "fencing_token",
  "lease_digest", "worktree_spec_digest", "base_commit", "head_commit", "repository_write", "status",
  "failure_code", "context_artifact", "proposal_artifact", "provider_artifact", "effect_artifact",
  "checks"]

/-- `node_outcome_from_mapping`. -/
def nodeOutcomeFromMapping (value : Mapping) : Outcome NodeOutcomeManifest := do
  demandOutcome (value.exact outcomeKeys)
  Checked.require (value.get "schema_version" = .str nodeOutcomeSchema)
    ExecutionArtifactContractFailureCode.unsupportedOutcomeSchema
  let rawChecks ← presentOutcome (value.get "checks").items?
  let checks ← rawChecks.mapM checkFromMapping
  let runId ← presentOutcome (value.get "run_id").text?
  let nodeId ← presentOutcome (value.get "node_id").text?
  let attempt ← presentOutcome (value.get "attempt").int?
  let fencingToken ← presentOutcome (value.get "fencing_token").int?
  let leaseDigest ← presentOutcome (value.get "lease_digest").text?
  let specDigest ← presentOutcome (value.get "worktree_spec_digest").text?
  let baseCommit ← presentOutcome (value.get "base_commit").text?
  let headCommit ← optionalText (value.get "head_commit")
  let repositoryWrite ← presentOutcome (value.get "repository_write").bool?
  let rawStatus ← presentOutcome (value.get "status").text?
  let status ← presentOutcome (StrEnum.ofValue? rawStatus)
  let failureCode ← optionalText (value.get "failure_code")
  let context ← optionalLinkFromMapping (value.get "context_artifact")
  let proposal ← optionalLinkFromMapping (value.get "proposal_artifact")
  let provider ← optionalLinkFromMapping (value.get "provider_artifact")
  let effect ← optionalLinkFromMapping (value.get "effect_artifact")
  NodeOutcomeManifest.create runId nodeId attempt fencingToken leaseDigest specDigest baseCommit
    headCommit repositoryWrite status failureCode ⟨context, proposal, provider, effect⟩ checks

end Blackcell.Orchestration.ExecutionArtifacts
