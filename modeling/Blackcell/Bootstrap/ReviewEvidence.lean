import Blackcell.Bootstrap.ReviewCandidates
import Blackcell.Orchestration.ChangeContext
import Blackcell.Orchestration.ExecutionArtifacts
import Blackcell.Orchestration.Review.Excerpts

/-!
# The evidence of a review

How `orchestration/replay.py` makes the context of a review from the artifacts of a run. The artifacts of
each node are read and checked against what is expected of the node; then an excerpt of each of them is
taken, all within one cap, which depends on the number of the items.

The store of artifacts is given by what it answers. An issue of the verification is the failure that
`build_review_context_from_artifacts` reports for it.

## Main definitions

* `ArtifactSession` : the reads of artifacts.
* `VerifiedNodeMaterial`, `verifyNode`, `verifyRunMaterials` : the artifacts of nodes, checked.
* `evidenceItemCount`, `evidenceForNode`, `assembleNodes` : the evidence of nodes.
* `buildReviewContext` : `build_review_context_from_artifacts`.
-/

namespace Blackcell.Bootstrap

open Blackcell.Kernel Blackcell.Orchestration Blackcell.Orchestration.Review
open Blackcell.Interfaces.Http (PlanEffect)
open Blackcell.Orchestration.Acceptance (AcceptanceCommand AcceptanceResult commandFromMapping
  resultFromMapping)
open Blackcell.Orchestration.Changes (ChangeContext ChangeProposal FileChange TextOperation
  changeProposalFromMapping contextFromMapping effectMatches)
open Blackcell.Orchestration.ExecutionArtifacts (CheckArtifacts ExecutionArtifactLink
  NodeOutcomeManifest nodeOutcomeFromMapping)

/-- `ReplayArtifactRole`. -/
inductive ReplayArtifactRole where
  | outcome | context | proposal | provider | effect | checkCommand | checkResult | checkStdout
  | checkStderr
  deriving DecidableEq, Repr

instance : StrEnum ReplayArtifactRole where
  value
    | .outcome => "outcome"
    | .context => "context"
    | .proposal => "proposal"
    | .provider => "provider"
    | .effect => "effect"
    | .checkCommand => "check-command"
    | .checkResult => "check-result"
    | .checkStdout => "check-stdout"
    | .checkStderr => "check-stderr"
  members := [.outcome, .context, .proposal, .provider, .effect, .checkCommand, .checkResult,
    .checkStdout, .checkStderr]
  mem_members a := by cases a <;> decide
  nodup_values := by decide

/-- What a session reads from the store of artifacts, where each read is made once for a node, a role
and a check. -/
structure ArtifactSession (D : BytesDigest) where
  /-- The service has a store of artifacts. -/
  available : Bool
  /-- `read_digest`: the bytes of the outcome of a node and a link to them, with the mapping that
  `_canonical_mapping` makes of the bytes. -/
  readOutcome : String → String → Option (List UInt8 × ExecutionArtifactLink × Mapping)
  /-- `read_link`, with the mapping that `_canonical_mapping` makes of the bytes. -/
  readMapping : String → ReplayArtifactRole → Option String → ExecutionArtifactLink →
    Option (List UInt8 × Mapping)
  /-- `read_link`, for a stream. -/
  readStream : String → ReplayArtifactRole → Option String → ExecutionArtifactLink →
    Option (List UInt8)
  /-- `_provider_from_mapping` raises nothing. -/
  readsProvider : Mapping → ChangeProposal D → Bool

/-! ### Materials -/

/-- `_VerifiedCheckMaterial`. -/
structure VerifiedCheckMaterial where
  command : AcceptanceCommand
  resultDigest : String
  passed : Bool
  recorded : CheckArtifacts
  commandBytes : List UInt8
  resultBytes : List UInt8
  stdout : ReviewExcerptSource
  stderr : ReviewExcerptSource

/-- `_VerifiedNodeMaterial`. -/
structure VerifiedNodeMaterial (repr : FiniteFloat → String) (D : BytesDigest) where
  expectation : ReplayNodeExpectation
  manifest : NodeOutcomeManifest
  outcomeLink : ExecutionArtifactLink
  outcomeBytes : List UInt8
  context : Option (ChangeContext repr D)
  proposal : Option (ChangeProposal D)
  effect : Option ReviewExcerptSource
  checks : List VerifiedCheckMaterial

/-- A value that is read, or an issue. -/
def readable {α : Type} (x : Option α) : Assembly α := Checked.ofOption x .artifactsNotVerified

/-- A condition of the verification, or an issue. -/
def verified (p : Prop) [Decidable p] : Assembly PUnit := Checked.require p .artifactsNotVerified

/-- A value that the definition of the run demands. -/
def defined {α : Type} (x : Option α) : Assembly α := Checked.ofOption x .definitionMismatch

/-- `_manifest_matches`. -/
def manifestMatches (manifest : NodeOutcomeManifest) (e : ReplayNodeExpectation) (runId : String) :
    Bool :=
  let checkIds := manifest.checks.map (·.checkId)
  let declaredCheckIds := e.checks.map (·.checkId)
  let context := manifest.artifacts.context.map (·.digest)
  ["succeeded", "failed", "canceled"].contains e.status && manifest.runId = runId &&
  manifest.nodeId = e.nodeId && manifest.attempt = e.attempt &&
  manifest.fencingToken = e.fencingToken && some manifest.leaseDigest = e.leaseDigest &&
  some manifest.worktreeSpecDigest = e.worktreeSpecDigest && some manifest.baseCommit = e.baseCommit &&
  manifest.repositoryWrite = e.repositoryWrite && StrEnum.value manifest.status = e.status &&
  manifest.failureCode = e.failureCode && checkIds.isPrefixOf declaredCheckIds &&
  (if e.status = "succeeded" then
    manifest.headCommit = e.headCommit && checkIds = declaredCheckIds
  else manifest.headCommit = none || manifest.headCommit = e.headCommit) &&
  (if e.repositoryWrite && e.status = "succeeded" then
    context.isSome && context = e.providerContextDigest
  else e.providerContextDigest = none || context = none || context = e.providerContextDigest)

section Verification

variable (H : Host) (repr : FiniteFloat → String) {D : BytesDigest} (S : ArtifactSession D)

/-- `_verify_context`. -/
def verifyContext (e : ReplayNodeExpectation) (link : ExecutionArtifactLink) :
    Assembly (ChangeContext repr D) := do
  let (_, raw) ← readable (S.readMapping e.nodeId .context none link)
  let context ← readable (contextFromMapping repr D raw)
  verified (context.digest H = link.digest ∧ context.objective = e.objective ∧
    context.constraints = e.constraints ∧ some context.baseCommit = e.baseCommit ∧
    context.allowedPaths = e.allowedPaths ∧ context.maxChangedPaths = e.maxChangedPaths)
  return context

/-- `_verify_proposal`. -/
def verifyProposal (e : ReplayNodeExpectation) (link : ExecutionArtifactLink)
    (context : ChangeContext repr D) : Assembly (ChangeProposal D) := do
  let (_, raw) ← readable (S.readMapping e.nodeId .proposal none link)
  let proposal ← readable (changeProposalFromMapping repr D raw)
  verified (proposal.digest H = link.digest ∧ proposal.evidenceDigest = context.digest H)
  return proposal

/-- `_verify_provider`. -/
def verifyProvider (e : ReplayNodeExpectation) (link : ExecutionArtifactLink)
    (proposal : ChangeProposal D) : Assembly PUnit := do
  let (_, raw) ← readable (S.readMapping e.nodeId .provider none link)
  verified (S.readsProvider raw proposal ∧ H.jsonDigest (.object raw) = link.digest)

/-- `_verify_effect`. -/
def verifyEffect (e : ReplayNodeExpectation) (link : ExecutionArtifactLink)
    (context : ChangeContext repr D) (proposal : ChangeProposal D) : Assembly ReviewExcerptSource := do
  let (data, raw) ← readable (S.readMapping e.nodeId .effect none link)
  verified (effectMatches H e.worktreeSpecDigest e.leaseDigest e.baseCommit context proposal raw)
  reviewExcerptSource data false

/-- The result of a check is the one that is expected and recorded. -/
def ResultMatches (e : ReplayNodeExpectation) (expected : ReplayCheckExpectation)
    (recorded : CheckArtifacts) (command : AcceptanceCommand) (result : AcceptanceResult) : Prop :=
  result.digest H D = recorded.resultDigest ∧ result.checkId = expected.checkId ∧
    result.commandDigest = command.digest H ∧
    some result.worktreeSpecDigest = e.worktreeSpecDigest ∧
    result.expectedExitCode = expected.expectedExitCode ∧ result.passed = recorded.passed ∧
    result.stdout.length ≤ command.stdoutLimitBytes ∧ result.stderr.length ≤ command.stderrLimitBytes

instance (e : ReplayNodeExpectation) (expected : ReplayCheckExpectation) (recorded : CheckArtifacts)
    (command : AcceptanceCommand) (result : AcceptanceResult) :
    Decidable (ResultMatches H (D := D) e expected recorded command result) :=
  inferInstanceAs (Decidable (_ ∧ _ ∧ _ ∧ _ ∧ _ ∧ _ ∧ _ ∧ _))

/-- `_verify_check`. -/
def verifyCheck (e : ReplayNodeExpectation) (expected : ReplayCheckExpectation)
    (recorded : CheckArtifacts) : Assembly VerifiedCheckMaterial := do
  let (commandBytes, rawCommand) ←
    readable (S.readMapping e.nodeId .checkCommand (some expected.checkId) recorded.command)
  let command ← readable (commandFromMapping rawCommand)
  verified (command.digest H = recorded.commandDigest ∧ command.checkId = expected.checkId ∧
    command.argv = expected.argv ∧ command.expectedExitCode = expected.expectedExitCode ∧
    command.timeoutSeconds.equals expected.timeoutSeconds)
  let (resultBytes, rawResult) ←
    readable (S.readMapping e.nodeId .checkResult (some expected.checkId) recorded.result)
  let stdout ← readable (S.readStream e.nodeId .checkStdout (some expected.checkId) recorded.stdout)
  let stderr ← readable (S.readStream e.nodeId .checkStderr (some expected.checkId) recorded.stderr)
  let result ← readable (resultFromMapping D rawResult stdout stderr)
  verified (ResultMatches H (D := D) e expected recorded command result)
  let stdoutSource ← reviewExcerptSource stdout true
  let stderrSource ← reviewExcerptSource stderr true
  return ⟨command, result.digest H D, result.passed, recorded, commandBytes, resultBytes,
    stdoutSource, stderrSource⟩

/-- `_verify_node`. -/
def verifyNode (runId : String) (e : ReplayNodeExpectation) :
    Assembly (VerifiedNodeMaterial repr D) := do
  let digest ← readable e.resultDigest
  let (outcomeBytes, outcomeLink, raw) ← readable (S.readOutcome e.nodeId digest)
  let manifest ← (nodeOutcomeFromMapping raw).mapError fun _ ↦
    ReviewEvidenceFailureCode.artifactsNotVerified
  verified (manifest.digest H = digest ∧ manifestMatches manifest e runId)
  let context ← manifest.artifacts.context.mapM (verifyContext H repr S e)
  let proposal ← manifest.artifacts.proposal.mapM fun link ↦ do
    let context ← readable context
    verifyProposal H repr S e link context
  let _ ← manifest.artifacts.provider.mapM fun link ↦ do
    let proposal ← readable proposal
    verifyProvider H S e link proposal
  let effect ← manifest.artifacts.effect.mapM fun link ↦ do
    let context ← readable context
    let proposal ← readable proposal
    verifyEffect H repr S e link context proposal
  let checks ← (e.checks.zip manifest.checks).mapM fun pair ↦ verifyCheck H S e pair.1 pair.2
  return ⟨e, manifest, outcomeLink, outcomeBytes, context, proposal, effect, checks⟩

/-- The nodes whose artifacts are verified. -/
def requiredNodes (nodes : List ReplayNodeExpectation) : List ReplayNodeExpectation :=
  nodes.filter fun e ↦ e.resultDigest.isSome || ["succeeded", "failed", "canceled"].contains e.status

/-- `_verify_run_materials`, when its report is that of a verified run. -/
def verifyRunMaterials (runId : String) (nodes : List ReplayNodeExpectation) :
    Assembly (List (VerifiedNodeMaterial repr D)) := do
  verified (requiredNodes nodes ≠ [] ∧ S.available)
  (requiredNodes nodes).mapM (verifyNode H repr S runId)

end Verification

/-! ### Evidence -/

section Evidence

variable {repr : FiniteFloat → String} {D : BytesDigest}

/-- The evidence items of an operation. -/
def operationItemCount (change : FileChange D) : ℕ := if change.operation = .replace then 3 else 2

/-- `_review_evidence_item_count`. -/
def evidenceItemCount (m : VerifiedNodeMaterial repr D) : Assembly ℕ := do
  let count := 1 + 4 * m.checks.length
  if m.expectation.repositoryWrite then
    let proposal ← defined m.proposal
    return count + (proposal.operations.map operationItemCount).sum
  else return count

/-- `_append_review_evidence`, for what is kept of an artifact. -/
def appendReviewEvidence (kind : ReviewEvidenceKind) (nodeId artifactDigest : String)
    (source : ReviewExcerptSource) (path checkId : Option String) (operation : Option TextOperation)
    (cap : ℕ) : Assembly ReviewEvidence := do
  let excerpt ← boundedReviewExcerpt source cap
  (ReviewEvidence.create kind nodeId artifactDigest excerpt 1 path checkId operation).mapError
    fun _ ↦ .definitionMismatch

/-- `_append_review_evidence`, for the bytes of a text. -/
def appendTextEvidence (kind : ReviewEvidenceKind) (nodeId artifactDigest : String)
    (data : List UInt8) (path checkId : Option String) (operation : Option TextOperation) (cap : ℕ) :
    Assembly ReviewEvidence := do
  let source ← reviewExcerptSource data false
  appendReviewEvidence kind nodeId artifactDigest source path checkId operation cap

/-- What the evidence of a change is taken from. -/
structure ChangeMaterial (repr : FiniteFloat → String) (D : BytesDigest) where
  context : ChangeContext repr D
  proposal : ChangeProposal D
  effect : ReviewExcerptSource
  contextDigest : String
  proposalDigest : String
  effectDigest : String

/-- The change of a node that writes. -/
def changeMaterial (m : VerifiedNodeMaterial repr D) : Option (ChangeMaterial repr D) := do
  let context ← m.context
  let proposal ← m.proposal
  let contextLink ← m.manifest.artifacts.context
  let proposalLink ← m.manifest.artifacts.proposal
  let effectLink ← m.manifest.artifacts.effect
  let effect ← m.effect
  return ⟨context, proposal, effect, contextLink.digest, proposalLink.digest, effectLink.digest⟩

/-- The evidence of the content of a file that an operation is about. -/
def contentEvidence (kind : ReviewEvidenceKind) (nodeId artifactDigest : String)
    (content : Option String) (cap : ℕ) (change : FileChange D) : Assembly (List ReviewEvidence) := do
  let text ← defined content
  let evidence ← appendTextEvidence kind nodeId artifactDigest (utf8 text) (some change.path) none
    (some change.operation) cap
  return [evidence]

/-- The evidence of what an operation replaces or deletes. -/
def beforeEvidence (nodeId : String) (c : ChangeMaterial repr D) (cap : ℕ) (change : FileChange D) :
    Assembly (List ReviewEvidence) :=
  if change.operation = .create then .ok []
  else contentEvidence .sourceBefore nodeId c.contextDigest (c.context.before change.path) cap change

/-- The evidence of what an operation writes. -/
def afterEvidence (nodeId : String) (c : ChangeMaterial repr D) (cap : ℕ) (change : FileChange D) :
    Assembly (List ReviewEvidence) :=
  if change.operation = .delete then .ok []
  else contentEvidence .sourceAfter nodeId c.proposalDigest change.content cap change

/-- The evidence of an operation. -/
def operationEvidence (nodeId : String) (c : ChangeMaterial repr D) (cap : ℕ)
    (change : FileChange D) : Assembly (List ReviewEvidence) := do
  let before ← beforeEvidence nodeId c cap change
  let after ← afterEvidence nodeId c cap change
  let effect ← appendReviewEvidence .effect nodeId c.effectDigest c.effect (some change.path) none
    (some change.operation) cap
  return before ++ after ++ [effect]

/-- The evidence of the operations of a node that writes. -/
def changeEvidence (m : VerifiedNodeMaterial repr D) (cap : ℕ) : Assembly (List ReviewEvidence) :=
  if m.expectation.repositoryWrite then do
    let c ← defined (changeMaterial m)
    let evidence ← c.proposal.operations.mapM (operationEvidence m.expectation.nodeId c cap)
    return evidence.flatten
  else .ok []

/-- The evidence of a check. -/
def checkEvidence (nodeId : String) (cap : ℕ) (check : VerifiedCheckMaterial) :
    Assembly (List ReviewEvidence) := do
  let checkId := some check.command.checkId
  let command ← appendTextEvidence .checkCommand nodeId check.recorded.command.digest
    check.commandBytes none checkId none cap
  let result ← appendTextEvidence .checkResult nodeId check.recorded.result.digest
    check.resultBytes none checkId none cap
  let stdout ← appendReviewEvidence .checkStdout nodeId check.recorded.stdout.digest check.stdout
    none checkId none cap
  let stderr ← appendReviewEvidence .checkStderr nodeId check.recorded.stderr.digest check.stderr
    none checkId none cap
  return [command, result, stdout, stderr]

/-- `_review_evidence_for_node`. -/
def evidenceForNode (m : VerifiedNodeMaterial repr D) (cap : ℕ) : Assembly (List ReviewEvidence) := do
  let outcome ← appendTextEvidence .outcome m.expectation.nodeId m.outcomeLink.digest m.outcomeBytes
    none none none cap
  let changes ← changeEvidence m cap
  let checks ← m.checks.mapM (checkEvidence m.expectation.nodeId cap)
  return outcome :: (changes ++ checks.flatten)

/-- The check of a node of the plan. -/
def reviewCheckOf (check : VerifiedCheckMaterial) : Except ReviewContractFailureCode ReviewCheck :=
  ReviewCheck.create check.command.checkId check.command.argv check.command.expectedExitCode
    check.recorded.commandDigest check.resultDigest check.passed

/-- A node of the plan. -/
def reviewNodeOf (m : VerifiedNodeMaterial repr D) :
    Except ReviewContractFailureCode ReviewPlanNode := do
  let checks ← m.checks.mapM reviewCheckOf
  ReviewPlanNode.create m.expectation.nodeId m.expectation.objective m.expectation.dependsOn
    m.expectation.effects m.expectation.allowedPaths m.expectation.maxChangedPaths checks

/-- The nodes of the plan, each with its evidence. -/
def assembleNodes (materials : List (VerifiedNodeMaterial repr D)) (cap : ℕ) :
    Assembly (List (ReviewPlanNode × List ReviewEvidence)) :=
  materials.mapM fun m ↦ do
    let node ← (reviewNodeOf m).mapError fun _ ↦ ReviewEvidenceFailureCode.definitionMismatch
    let evidence ← evidenceForNode m cap
    return (node, evidence)

/-! ### The context -/

/-- The artifacts of a node in the order in which they are read. -/
def materialArtifacts (m : VerifiedNodeMaterial repr D) :
    List (ReplayArtifactRole × Option String × ExecutionArtifactLink) :=
  let a := m.manifest.artifacts
  [(.outcome, none, m.outcomeLink)] ++
    ([(.context, a.context), (.proposal, a.proposal), (.provider, a.provider),
      (.effect, a.effect)] : List (ReplayArtifactRole × Option ExecutionArtifactLink)).filterMap
      (fun entry ↦ entry.2.map fun link ↦ (entry.1, none, link)) ++
    (m.expectation.checks.zip m.manifest.checks).flatMap fun pair ↦
      [(.checkCommand, some pair.1.checkId, pair.2.command),
        (.checkResult, some pair.1.checkId, pair.2.result),
        (.checkStdout, some pair.1.checkId, pair.2.stdout),
        (.checkStderr, some pair.1.checkId, pair.2.stderr)]

/-- An artifact in the payload of `_report`. -/
def artifactPayload (nodeId : String)
    (artifact : ReplayArtifactRole × Option String × ExecutionArtifactLink) : JsonValue := .object [
  ("node_id", .str nodeId),
  ("role", .str (StrEnum.value artifact.1)),
  ("check_id", .ofText? artifact.2.1),
  ("digest", .str artifact.2.2.digest),
  ("size_bytes", .int artifact.2.2.sizeBytes),
  ("media_type", .str artifact.2.2.mediaType),
  ("encoding", .ofText? artifact.2.2.encoding),
  ("verified", .bool true)]

/-- The evidence digest of the report of a verified run. -/
def replayEvidenceDigest (H : Host) (materials : List (VerifiedNodeMaterial repr D)) : String :=
  H.jsonDigest (.object [
    ("status", .str "verified"),
    ("artifacts", .list (materials.flatMap fun m ↦
      (materialArtifacts m).map (artifactPayload m.expectation.nodeId))),
    ("findings", .list [])])

/-- What the artifacts of a run must agree with before its evidence is taken. -/
def IsDefinition (request : ReviewContextRequest) (materials : List (VerifiedNodeMaterial repr D)) :
    Prop :=
  materials.length = request.nodes.length ∧ (∀ e ∈ request.nodes, e.status = "succeeded") ∧
    (request.requireExactConstraints → ∀ e ∈ request.nodes, e.constraints = request.constraints) ∧
    (∀ e ∈ request.nodes, e.repositoryWrite = e.effects.contains PlanEffect.repositoryWrite) ∧
    (∀ e ∈ request.nodes, e.dependsOn = [] → e.baseCommit = some request.baseCommit) ∧
    (∀ m ∈ materials, m.checks ≠ []) ∧ ∀ m ∈ materials, ∀ check ∈ m.checks, check.passed

instance (request : ReviewContextRequest) (materials : List (VerifiedNodeMaterial repr D)) :
    Decidable (IsDefinition request materials) :=
  inferInstanceAs (Decidable (_ ∧ _ ∧ _ ∧ _ ∧ _ ∧ _ ∧ _))

/-- A condition of the budget. -/
def affordable (p : Prop) [Decidable p] : Assembly PUnit := Checked.require p .evidenceBudgetExceeded

/-- The number of items of some nodes. -/
def itemCount (materials : List (VerifiedNodeMaterial repr D)) : Assembly ℕ :=
  List.sum <$> materials.mapM evidenceItemCount

/-- The nodes and the evidence, within the budget. -/
def assembleEvidence (materials : List (VerifiedNodeMaterial repr D)) :
    Assembly (List ReviewPlanNode × List ReviewEvidence) := do
  let count ← itemCount materials
  affordable (1 ≤ count ∧ count ≤ maxReviewEvidenceItems)
  affordable (1 ≤ maximumExcerptBytes count)
  let assembled ← assembleNodes materials (maximumExcerptBytes count)
  let evidence := assembled.flatMap (·.2)
  affordable (evidence.length = count ∧ excerptBytes evidence ≤ maxReviewEvidenceBytes)
  return (assembled.map (·.1), evidence)

/-- The context of the review of verified materials. -/
def contextOfMaterials (H : Host) (request : ReviewContextRequest)
    (materials : List (VerifiedNodeMaterial repr D)) : Assembly (ReviewContext H repr) := do
  Checked.require (IsDefinition request materials) .definitionMismatch
  let (nodes, evidence) ← assembleEvidence materials
  let acceptance ← (ReviewAcceptance.create repr request.runId request.projectId request.intentId
    request.planId request.objective request.constraints request.baseCommit nodes).mapError
    fun _ ↦ ReviewEvidenceFailureCode.definitionMismatch
  (ReviewContext.create H acceptance request.stateDigest (replayEvidenceDigest H materials) evidence
    reviewContextSchema).mapError fun _ ↦ .definitionMismatch

/-- `build_review_context_from_artifacts`. -/
def buildReviewContext (H : Host) (repr : FiniteFloat → String) (S : ArtifactSession D)
    (request : ReviewContextRequest) : Assembly (ReviewContext H repr) := do
  let materials ← verifyRunMaterials H repr S request.runId request.nodes
  contextOfMaterials H request materials

end Evidence

end Blackcell.Bootstrap
