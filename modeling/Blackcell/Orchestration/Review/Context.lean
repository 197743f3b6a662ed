import Blackcell.Interfaces.Contracts
import Blackcell.Orchestration.Changes

/-!
# The context of a review

The values of `orchestration/review.py` that a reviewer is shown: what was accepted, and the evidence
of what was done. Each of them is a structure that carries what its constructor demands; the nodes of
an acceptance and the evidence of a context are sorted by their identifiers.

## Main definitions

* `ReviewCheck`, `ReviewPlanNode`, `ReviewAcceptance` : what was accepted.
* `ReviewEvidence` : an excerpt of an artifact.
* `ReviewContext` : both.

## Main results

* `pairwise_insertionSort_key` : sorting by a text puts values in order.
* `countLines_le` : a text has no more lines than characters.
-/

namespace Blackcell.Orchestration.Review

open Blackcell.Kernel
open Blackcell.Interfaces.Http (PlanEffect)
open Blackcell.Orchestration.Changes (TextOperation)

/-- `ReviewContractFailureCode`. -/
inductive ReviewContractFailureCode where
  | invalidContext | invalidProposal | admissionRejected
  deriving DecidableEq, Repr

/-- `REVIEW_ACCEPTANCE_SCHEMA`. -/
def reviewAcceptanceSchema : String := "review-acceptance/v1"

/-- `REVIEW_CONTEXT_SCHEMA`. -/
def reviewContextSchema : String := "review-context/v2"

/-- `_PRIOR_REVIEW_CONTEXT_SCHEMA`. -/
def priorReviewContextSchema : String := "review-context/v1"

/-- `_MAX_OBJECTIVE_BYTES`. -/
def maxObjectiveBytes : ℕ := 8 * 1024

/-- `_MAX_TEXT_BYTES`. -/
def maxTextBytes : ℕ := 4 * 1024

/-- `_MAX_CONSTRAINTS`, `_MAX_NODES` and `_MAX_CHECKS`. -/
def maxConstraints : ℕ := 64

@[inherit_doc maxConstraints]
def maxNodes : ℕ := 64

@[inherit_doc maxConstraints]
def maxChecks : ℕ := 64

/-- `_MAX_ARGV`. -/
def maxArgv : ℕ := 32

/-- `_MAX_ARG_BYTES`. -/
def maxArgBytes : ℕ := 2 * 1024

/-- `_MAX_PATHS`. -/
def maxPaths : ℕ := 256

/-- `MAX_REVIEW_EVIDENCE_ITEMS`. -/
def maxReviewEvidenceItems : ℕ := 128

/-- `_MAX_EVIDENCE_EXCERPT_BYTES`. -/
def maxEvidenceExcerptBytes : ℕ := 32 * 1024

/-- `_MAX_EVIDENCE_BYTES`. -/
def maxEvidenceBytes : ℕ := 512 * 1024

/-- `_MAX_ACCEPTANCE_BYTES`. -/
def maxAcceptanceBytes : ℕ := 2 * 1024 * 1024

/-- `MAX_REVIEW_CONTEXT_BYTES`. -/
def maxReviewContextBytes : ℕ := 3 * 1024 * 1024

/-- `_MAX_LINE`. -/
def maxLine : ℕ := 10000000

/-! ### Vocabulary -/

instance : StrEnum PlanEffect where
  value
    | .repositoryRead => "repository-read"
    | .repositoryWrite => "repository-write"
    | .process => "process"
    | .network => "network"
  members := [.repositoryRead, .repositoryWrite, .process, .network]
  mem_members a := by cases a <;> decide
  nodup_values := by decide

/-- The dimensions of an epistemic assessment: `EpistemicDimension`. -/
inductive EpistemicDimension where
  | evidenceGrounding | counterevidence | acceptanceCoverage | causalOverreach | scopeChallenge
  | uncertainty | provenanceFreshness | independentCorroboration | orderSensitivity
  deriving DecidableEq, Repr

instance : StrEnum EpistemicDimension where
  value
    | .evidenceGrounding => "evidence-grounding"
    | .counterevidence => "counterevidence"
    | .acceptanceCoverage => "acceptance-coverage"
    | .causalOverreach => "causal-overreach"
    | .scopeChallenge => "scope-challenge"
    | .uncertainty => "uncertainty"
    | .provenanceFreshness => "provenance-freshness"
    | .independentCorroboration => "independent-corroboration"
    | .orderSensitivity => "order-sensitivity"
  members := [.evidenceGrounding, .counterevidence, .acceptanceCoverage, .causalOverreach,
    .scopeChallenge, .uncertainty, .provenanceFreshness, .independentCorroboration,
    .orderSensitivity]
  mem_members a := by cases a <;> decide
  nodup_values := by decide

/-- `_PRIOR_EPISTEMIC_DIMENSIONS`. -/
def priorEpistemicDimensions : List EpistemicDimension :=
  [.evidenceGrounding, .counterevidence, .acceptanceCoverage, .causalOverreach, .scopeChallenge,
    .uncertainty]

/-- `EpistemicDisposition`. -/
inductive EpistemicDisposition where
  | supported | concern | unknown | notApplicable
  deriving DecidableEq, Repr

instance : StrEnum EpistemicDisposition where
  value
    | .supported => "supported"
    | .concern => "concern"
    | .unknown => "unknown"
    | .notApplicable => "not-applicable"
  members := [.supported, .concern, .unknown, .notApplicable]
  mem_members a := by cases a <;> decide
  nodup_values := by decide

/-- `ReviewFindingCategory`. -/
inductive ReviewFindingCategory where
  | correctness | weakenedTest | alteredExpectedOutput | hiddenShortcut | suppressedFailure
  | scopeDrift
  deriving DecidableEq, Repr

instance : StrEnum ReviewFindingCategory where
  value
    | .correctness => "correctness"
    | .weakenedTest => "weakened-test"
    | .alteredExpectedOutput => "altered-expected-output"
    | .hiddenShortcut => "hidden-shortcut"
    | .suppressedFailure => "suppressed-failure"
    | .scopeDrift => "scope-drift"
  members := [.correctness, .weakenedTest, .alteredExpectedOutput, .hiddenShortcut,
    .suppressedFailure, .scopeDrift]
  mem_members a := by cases a <;> decide
  nodup_values := by decide

/-! ### Texts and paths -/

/-- `_IDENTIFIER.fullmatch`. -/
def isReviewIdentifier (s : String) : Bool := isIdentifier ['.', '_', '-'] s

/-- A text that `_bounded_text` accepts. -/
def isReviewText (maximum : ℕ) (s : String) : Bool :=
  !isBlank s && !s.toList.contains '\x00' && s.utf8ByteSize ≤ maximum

/-- Values that `_unique_identifiers` accepts. -/
def UniqueIdentifiers (maximum : ℕ) (values : List String) : Prop :=
  values.length ≤ maximum ∧ values.Nodup ∧ ∀ value ∈ values, isReviewIdentifier value

instance (maximum : ℕ) (values : List String) : Decidable (UniqueIdentifiers maximum values) :=
  inferInstanceAs (Decidable (_ ∧ _ ∧ _))

/-- A path that `_repository_path` accepts: that of `orchestration/changes.py`, with the root of the
repository apart. -/
def isReviewPath (allowRoot : Bool) (s : String) : Bool :=
  Changes.isRepositoryPath s && (allowRoot || s ≠ ".")

/-- `_path_allowed`. -/
def pathAllowed (path : String) (allowedPaths : List String) : Bool :=
  allowedPaths.any fun allowed ↦ allowed = "." || (pathParts allowed).isPrefixOf (pathParts path)

/-- The line boundaries of `str.splitlines`. -/
def isLineBoundary (c : Char) : Bool :=
  (10 ≤ c.toNat && c.toNat ≤ 13) || (28 ≤ c.toNat && c.toNat ≤ 30) ||
    [0x85, 0x2028, 0x2029].contains c.toNat

/-- `len(text.splitlines())`, where a line may be open. -/
def countLines : Bool → List Char → ℕ
  | pending, [] => if pending then 1 else 0
  | _, '\r' :: '\n' :: cs => countLines false cs + 1
  | _, c :: cs => if isLineBoundary c then countLines false cs + 1 else countLines true cs

/-- A text has no more lines than characters. -/
theorem countLines_le (pending : Bool) (cs : List Char) :
    countLines pending cs ≤ cs.length + if pending then 1 else 0 := by
  fun_induction countLines pending cs with
  | case1 => simp
  | case2 => simp
  | case3 pending cs ih =>
    simp only [List.length_cons, Bool.false_eq_true, if_false] at ih ⊢
    omega
  | case4 pending c cs _ hboundary ih =>
    simp only [List.length_cons, Bool.false_eq_true, if_false] at ih ⊢
    omega
  | case5 pending c cs _ hboundary ih =>
    simp only [List.length_cons, if_true] at ih ⊢
    omega

/-- Sorting by a text puts the values in order. -/
theorem pairwise_insertionSort_key {α : Type} (key : α → String) (l : List α) :
    (l.insertionSort fun a b ↦ key a ≤ key b).Pairwise fun a b ↦ key a ≤ key b := by
  have htotal : Std.Total fun a b : α ↦ key a ≤ key b := ⟨fun _ _ ↦ le_total _ _⟩
  have htrans : IsTrans α fun a b ↦ key a ≤ key b := ⟨fun _ _ _ ↦ le_trans⟩
  exact List.pairwise_insertionSort _ _

/-! ### What was accepted -/

/-- What the constructor of `ReviewCheck` demands. -/
def IsReviewCheck (checkId : String) (argv : List String) (expectedExitCode : ℤ)
    (commandDigest resultDigest : String) : Prop :=
  isReviewIdentifier checkId ∧ (1 ≤ argv.length ∧ argv.length ≤ maxArgv) ∧
    (∀ token ∈ argv, token ≠ "" ∧ '\x00' ∉ token.toList ∧ token.utf8ByteSize ≤ maxArgBytes) ∧
    (0 ≤ expectedExitCode ∧ expectedExitCode ≤ 255) ∧ isHexDigest commandDigest ∧
    isHexDigest resultDigest

instance (checkId : String) (argv : List String) (expectedExitCode : ℤ)
    (commandDigest resultDigest : String) :
    Decidable (IsReviewCheck checkId argv expectedExitCode commandDigest resultDigest) :=
  inferInstanceAs (Decidable (_ ∧ _ ∧ _ ∧ _ ∧ _ ∧ _))

/-- `ReviewCheck`. -/
structure ReviewCheck where
  checkId : String
  argv : List String
  expectedExitCode : ℤ
  commandDigest : String
  resultDigest : String
  passed : Bool
  isCheck : IsReviewCheck checkId argv expectedExitCode commandDigest resultDigest

/-- `ReviewCheck(...)`. -/
def ReviewCheck.create (checkId : String) (argv : List String) (expectedExitCode : ℤ)
    (commandDigest resultDigest : String) (passed : Bool) :
    Except ReviewContractFailureCode ReviewCheck :=
  if h : IsReviewCheck checkId argv expectedExitCode commandDigest resultDigest then
    .ok ⟨checkId, argv, expectedExitCode, commandDigest, resultDigest, passed, h⟩
  else .error .invalidContext

/-- What the constructor of `ReviewPlanNode` demands of what the node does. The effects are members of
their type. -/
def IsReviewScope (effects : List PlanEffect) (allowedPaths : List String) (maxChangedFiles : ℕ) :
    Prop :=
  effects ≠ [] ∧ effects.Nodup ∧ allowedPaths.length ≤ maxPaths ∧
    (∀ path ∈ allowedPaths, isReviewPath true path) ∧ allowedPaths.Nodup ∧
    maxChangedFiles ≤ 10000 ∧ (PlanEffect.repositoryWrite ∈ effects ↔ allowedPaths ≠ []) ∧
    (PlanEffect.repositoryWrite ∈ effects ↔ 0 < maxChangedFiles)

instance (effects : List PlanEffect) (allowedPaths : List String) (maxChangedFiles : ℕ) :
    Decidable (IsReviewScope effects allowedPaths maxChangedFiles) :=
  inferInstanceAs (Decidable (_ ∧ _ ∧ _ ∧ _ ∧ _ ∧ _ ∧ _ ∧ _))

/-- What the constructor of `ReviewPlanNode` demands of the checks. -/
def IsReviewChecks (checks : List ReviewCheck) : Prop :=
  (1 ≤ checks.length ∧ checks.length ≤ maxChecks) ∧ (checks.map (·.checkId)).Nodup

instance (checks : List ReviewCheck) : Decidable (IsReviewChecks checks) :=
  inferInstanceAs (Decidable (_ ∧ _))

/-- What the constructor of `ReviewPlanNode` demands. -/
def IsReviewPlanNode (nodeId objective : String) (dependsOn : List String)
    (effects : List PlanEffect) (allowedPaths : List String) (maxChangedFiles : ℕ)
    (checks : List ReviewCheck) : Prop :=
  isReviewIdentifier nodeId ∧ isReviewText maxTextBytes objective ∧
    UniqueIdentifiers maxNodes dependsOn ∧ nodeId ∉ dependsOn ∧
    IsReviewScope effects allowedPaths maxChangedFiles ∧ IsReviewChecks checks

instance (nodeId objective : String) (dependsOn : List String) (effects : List PlanEffect)
    (allowedPaths : List String) (maxChangedFiles : ℕ) (checks : List ReviewCheck) :
    Decidable (IsReviewPlanNode nodeId objective dependsOn effects allowedPaths maxChangedFiles
      checks) :=
  inferInstanceAs (Decidable (_ ∧ _ ∧ _ ∧ _ ∧ _ ∧ _))

/-- `ReviewPlanNode`, whose paths are sorted. -/
structure ReviewPlanNode where
  nodeId : String
  objective : String
  dependsOn : List String
  effects : List PlanEffect
  allowedPaths : List String
  maxChangedFiles : ℕ
  checks : List ReviewCheck
  isNode : IsReviewPlanNode nodeId objective dependsOn effects allowedPaths maxChangedFiles checks
  sorted : allowedPaths.Pairwise (· ≤ ·)

/-- `ReviewPlanNode(...)`. -/
def ReviewPlanNode.create (nodeId objective : String) (dependsOn : List String)
    (effects : List PlanEffect) (allowedPaths : List String) (maxChangedFiles : ℕ)
    (checks : List ReviewCheck) : Except ReviewContractFailureCode ReviewPlanNode :=
  let paths := allowedPaths.insertionSort fun a b ↦ a ≤ b
  if h : IsReviewPlanNode nodeId objective dependsOn effects paths maxChangedFiles checks then
    .ok ⟨nodeId, objective, dependsOn, effects, paths, maxChangedFiles, checks, h,
      pairwise_insertionSort_key id allowedPaths⟩
  else .error .invalidContext

/-- `"repository-write" in node.effects`. -/
def ReviewPlanNode.writes (node : ReviewPlanNode) : Bool := .repositoryWrite ∈ node.effects

/-- `_has_dependency_cycle`, whose loop ends after as many rounds as there are nodes. -/
def hasDependencyCycle : ℕ → List (String × List String) → Bool
  | 0, remaining => remaining ≠ []
  | rounds + 1, remaining =>
    let ready := (remaining.filter fun entry ↦ entry.2 = []).map (·.1)
    if remaining = [] then false
    else if ready = [] then true
    else hasDependencyCycle rounds ((remaining.filter fun entry ↦ entry.1 ∉ ready).map fun entry ↦
      (entry.1, entry.2.filter (· ∉ ready)))

/-- The dependencies of some nodes have no cycle. -/
def DependenciesEnd (nodes : List ReviewPlanNode) : Prop :=
  hasDependencyCycle nodes.length (nodes.map fun node ↦ (node.nodeId, node.dependsOn)) = false

instance (nodes : List ReviewPlanNode) : Decidable (DependenciesEnd nodes) :=
  inferInstanceAs (Decidable (_ = _))

/-- A check in `review_acceptance_payload`. -/
def ReviewCheck.payload (check : ReviewCheck) : JsonValue := .object [
  ("check_id", .str check.checkId),
  ("argv", .ofTexts check.argv),
  ("expected_exit_code", .int check.expectedExitCode),
  ("command_digest", .str check.commandDigest),
  ("result_digest", .str check.resultDigest),
  ("passed", .bool check.passed)]

/-- A node in `review_acceptance_payload`. -/
def ReviewPlanNode.payload (node : ReviewPlanNode) : JsonValue := .object [
  ("node_id", .str node.nodeId),
  ("objective", .str node.objective),
  ("depends_on", .ofTexts node.dependsOn),
  ("effects", .ofTexts (node.effects.map StrEnum.value)),
  ("allowed_paths", .ofTexts node.allowedPaths),
  ("max_changed_files", .int node.maxChangedFiles),
  ("checks", .list (node.checks.map (·.payload)))]

/-- `review_acceptance_payload`. -/
def reviewAcceptancePayload (runId projectId intentId planId objective : String)
    (constraints : List String) (baseCommit : String) (nodes : List ReviewPlanNode) : JsonValue :=
  .object [
    ("schema_version", .str reviewAcceptanceSchema),
    ("run_id", .str runId),
    ("project_id", .str projectId),
    ("intent_id", .str intentId),
    ("plan_id", .str planId),
    ("objective", .str objective),
    ("constraints", .ofTexts constraints),
    ("base_commit", .str baseCommit),
    ("nodes", .list (nodes.map (·.payload)))]

/-- What the constructor of `ReviewAcceptance` demands of the nodes. -/
def IsReviewNodes (nodes : List ReviewPlanNode) : Prop :=
  (1 ≤ nodes.length ∧ nodes.length ≤ maxNodes) ∧ (nodes.map (·.nodeId)).Nodup ∧
    (∀ node ∈ nodes, ∀ d ∈ node.dependsOn, d ∈ nodes.map (·.nodeId)) ∧ DependenciesEnd nodes

instance (nodes : List ReviewPlanNode) : Decidable (IsReviewNodes nodes) :=
  inferInstanceAs (Decidable (_ ∧ _ ∧ _ ∧ _))

/-- What the constructor of `ReviewAcceptance` demands, given `float.__repr__`. -/
def IsReviewAcceptance (repr : FiniteFloat → String)
    (runId projectId intentId planId objective : String) (constraints : List String)
    (baseCommit : String) (nodes : List ReviewPlanNode) : Prop :=
  (∀ s ∈ [runId, projectId, intentId, planId], isReviewIdentifier s) ∧
    isReviewText maxObjectiveBytes objective ∧ constraints.length ≤ maxConstraints ∧
    constraints.Nodup ∧ (∀ s ∈ constraints, isReviewText maxTextBytes s) ∧ isCommit baseCommit ∧
    IsReviewNodes nodes ∧
    (reviewAcceptancePayload runId projectId intentId planId objective constraints baseCommit
      nodes).byteSize repr ≤ maxAcceptanceBytes

instance (repr : FiniteFloat → String) (runId projectId intentId planId objective : String)
    (constraints : List String) (baseCommit : String) (nodes : List ReviewPlanNode) :
    Decidable (IsReviewAcceptance repr runId projectId intentId planId objective constraints
      baseCommit nodes) :=
  inferInstanceAs (Decidable (_ ∧ _ ∧ _ ∧ _ ∧ _ ∧ _ ∧ _ ∧ _))

/-- `ReviewAcceptance`, whose nodes are sorted by their identifiers. -/
structure ReviewAcceptance (repr : FiniteFloat → String) where
  runId : String
  projectId : String
  intentId : String
  planId : String
  objective : String
  constraints : List String
  baseCommit : String
  nodes : List ReviewPlanNode
  isAcceptance : IsReviewAcceptance repr runId projectId intentId planId objective constraints
    baseCommit nodes
  sorted : nodes.Pairwise fun node node' ↦ node.nodeId ≤ node'.nodeId

namespace ReviewAcceptance

/-- `ReviewAcceptance(...)`. -/
def create (repr : FiniteFloat → String) (runId projectId intentId planId objective : String)
    (constraints : List String) (baseCommit : String) (nodes : List ReviewPlanNode) :
    Except ReviewContractFailureCode (ReviewAcceptance repr) :=
  let sorted := nodes.insertionSort fun node node' ↦ node.nodeId ≤ node'.nodeId
  if h : IsReviewAcceptance repr runId projectId intentId planId objective constraints baseCommit
      sorted then
    .ok ⟨runId, projectId, intentId, planId, objective, constraints, baseCommit, sorted, h,
      pairwise_insertionSort_key (·.nodeId) nodes⟩
  else .error .invalidContext

variable {repr : FiniteFloat → String} (a : ReviewAcceptance repr)

/-- `review_acceptance_payload`. -/
def payload : JsonValue :=
  reviewAcceptancePayload a.runId a.projectId a.intentId a.planId a.objective a.constraints
    a.baseCommit a.nodes

/-- `digest`. -/
def digest (H : Host) : String := H.jsonDigest a.payload

end ReviewAcceptance

/-! ### Evidence -/

/-- `ReviewEvidenceKind`. -/
inductive ReviewEvidenceKind where
  | sourceBefore | sourceAfter | effect | checkCommand | checkResult | checkStdout | checkStderr
  | outcome
  deriving DecidableEq, Repr

instance : StrEnum ReviewEvidenceKind where
  value
    | .sourceBefore => "source-before"
    | .sourceAfter => "source-after"
    | .effect => "effect"
    | .checkCommand => "check-command"
    | .checkResult => "check-result"
    | .checkStdout => "check-stdout"
    | .checkStderr => "check-stderr"
    | .outcome => "outcome"
  members := [.sourceBefore, .sourceAfter, .effect, .checkCommand, .checkResult, .checkStdout,
    .checkStderr, .outcome]
  mem_members a := by cases a <;> decide
  nodup_values := by decide

/-- The evidence is about a file. -/
def ReviewEvidenceKind.isSource : ReviewEvidenceKind → Bool
  | .sourceBefore | .sourceAfter | .effect => true
  | _ => false

/-- The evidence is about a check. -/
def ReviewEvidenceKind.isCheck : ReviewEvidenceKind → Bool
  | .checkCommand | .checkResult | .checkStdout | .checkStderr => true
  | _ => false

/-- `end_line`: the last line of an excerpt. -/
def excerptEndLine (excerpt : String) (startLine : ℕ) : ℕ :=
  startLine + max 1 (countLines false excerpt.toList) - 1

/-- What the constructor of `ReviewEvidence` demands of what the evidence is about. -/
def IsReviewSubject (kind : ReviewEvidenceKind) (path checkId : Option String)
    (operation : Option TextOperation) : Prop :=
  (∀ id ∈ checkId, isReviewIdentifier id) ∧ (∀ p ∈ path, isReviewPath false p) ∧
    kind.isSource = path.isSome ∧ kind.isSource = operation.isSome ∧
    kind.isCheck = checkId.isSome ∧ (kind = .sourceBefore → operation ≠ some .create) ∧
    (kind = .sourceAfter → operation ≠ some .delete)

instance (kind : ReviewEvidenceKind) (path checkId : Option String)
    (operation : Option TextOperation) : Decidable (IsReviewSubject kind path checkId operation) :=
  inferInstanceAs (Decidable (_ ∧ _ ∧ _ ∧ _ ∧ _ ∧ _ ∧ _))

/-- What the constructor of `ReviewEvidence` demands of an excerpt. -/
def IsReviewExcerpt (excerpt : String) (startLine : ℕ) : Prop :=
  '\x00' ∉ excerpt.toList ∧ excerpt.utf8ByteSize ≤ maxEvidenceExcerptBytes ∧
    (1 ≤ startLine ∧ startLine ≤ maxLine) ∧ excerptEndLine excerpt startLine ≤ maxLine

instance (excerpt : String) (startLine : ℕ) : Decidable (IsReviewExcerpt excerpt startLine) :=
  inferInstanceAs (Decidable (_ ∧ _ ∧ _ ∧ _))

/-- What the constructor of `ReviewEvidence` demands. -/
def IsReviewEvidence (kind : ReviewEvidenceKind) (nodeId artifactDigest excerpt : String)
    (startLine : ℕ) (path checkId : Option String) (operation : Option TextOperation) : Prop :=
  isReviewIdentifier nodeId ∧ isHexDigest artifactDigest ∧
    IsReviewSubject kind path checkId operation ∧ IsReviewExcerpt excerpt startLine

instance (kind : ReviewEvidenceKind) (nodeId artifactDigest excerpt : String) (startLine : ℕ)
    (path checkId : Option String) (operation : Option TextOperation) :
    Decidable (IsReviewEvidence kind nodeId artifactDigest excerpt startLine path checkId operation) :=
  inferInstanceAs (Decidable (_ ∧ _ ∧ _ ∧ _))

/-- `ReviewEvidence`. -/
structure ReviewEvidence where
  kind : ReviewEvidenceKind
  nodeId : String
  artifactDigest : String
  excerpt : String
  startLine : ℕ
  path : Option String
  checkId : Option String
  operation : Option TextOperation
  isEvidence : IsReviewEvidence kind nodeId artifactDigest excerpt startLine path checkId operation

namespace ReviewEvidence

/-- `ReviewEvidence(...)`. -/
def create (kind : ReviewEvidenceKind) (nodeId artifactDigest excerpt : String) (startLine : ℕ)
    (path checkId : Option String) (operation : Option TextOperation) :
    Except ReviewContractFailureCode ReviewEvidence :=
  if h : IsReviewEvidence kind nodeId artifactDigest excerpt startLine path checkId operation then
    .ok ⟨kind, nodeId, artifactDigest, excerpt, startLine, path, checkId, operation, h⟩
  else .error .invalidContext

variable (e : ReviewEvidence)

/-- `end_line`. -/
def endLine : ℕ := excerptEndLine e.excerpt e.startLine

/-- The value that is digested for `evidence_id`. -/
def document : Mapping := [
  ("kind", .str (StrEnum.value e.kind)),
  ("node_id", .str e.nodeId),
  ("artifact_digest", .str e.artifactDigest),
  ("operation", .ofText? (e.operation.map StrEnum.value)),
  ("path", .ofText? e.path),
  ("check_id", .ofText? e.checkId),
  ("start_line", .int e.startLine),
  ("end_line", .int e.endLine),
  ("excerpt", .str e.excerpt)]

/-- `evidence_id`. -/
def evidenceId (H : Host) : String := H.jsonDigest (.object e.document)

/-- Evidence in `review_context_payload`. -/
def payload (H : Host) : JsonValue := .object (("evidence_id", .str (e.evidenceId H)) :: e.document)

end ReviewEvidence

/-! ### The context -/

section Context

variable (H : Host) (repr : FiniteFloat → String)

/-- `_context_dimensions`, for a supported schema. -/
def contextDimensions (schemaVersion : String) : List EpistemicDimension :=
  if schemaVersion = reviewContextSchema then StrEnum.members else priorEpistemicDimensions

/-- `review_context_payload`. -/
def reviewContextPayload {repr : FiniteFloat → String} (acceptance : ReviewAcceptance repr)
    (stateDigest artifactEvidenceDigest : String) (evidence : List ReviewEvidence)
    (schemaVersion : String) : JsonValue := .object [
  ("schema_version", .str schemaVersion),
  ("acceptance_digest", .str (acceptance.digest H)),
  ("acceptance", acceptance.payload),
  ("state_digest", .str stateDigest),
  ("artifact_evidence_digest", .str artifactEvidenceDigest),
  ("review_categories",
    .ofTexts ((StrEnum.members : List ReviewFindingCategory).map StrEnum.value)),
  ("epistemic_dimensions", .ofTexts ((contextDimensions schemaVersion).map StrEnum.value)),
  ("epistemic_dispositions",
    .ofTexts ((StrEnum.members : List EpistemicDisposition).map StrEnum.value)),
  ("evidence", .list (evidence.map (·.payload H)))]

/-- The evidence is about a node of the acceptance, a path of it, and a check of it. -/
def IsAbout (nodes : List ReviewPlanNode) (e : ReviewEvidence) : Prop :=
  ∃ node ∈ nodes, node.nodeId = e.nodeId ∧ (∀ path ∈ e.path, pathAllowed path node.allowedPaths) ∧
    ∀ id ∈ e.checkId, id ∈ node.checks.map (·.checkId)

instance (nodes : List ReviewPlanNode) (e : ReviewEvidence) : Decidable (IsAbout nodes e) :=
  inferInstanceAs (Decidable (∃ node ∈ nodes, _ ∧ _ ∧ _))

/-- The bytes of some excerpts. -/
def excerptBytes (evidence : List ReviewEvidence) : ℕ :=
  (evidence.map fun e ↦ e.excerpt.utf8ByteSize).sum

/-- What the constructor of `ReviewContext` demands. -/
def IsReviewContext {repr : FiniteFloat → String} (acceptance : ReviewAcceptance repr)
    (stateDigest artifactEvidenceDigest : String) (evidence : List ReviewEvidence)
    (schemaVersion : String) : Prop :=
  schemaVersion ∈ [reviewContextSchema, priorReviewContextSchema] ∧ isHexDigest stateDigest ∧
    isHexDigest artifactEvidenceDigest ∧
    (1 ≤ evidence.length ∧ evidence.length ≤ maxReviewEvidenceItems) ∧
    excerptBytes evidence ≤ maxEvidenceBytes ∧ (evidence.map (·.evidenceId H)).Nodup ∧
    (∀ e ∈ evidence, IsAbout acceptance.nodes e) ∧
    (reviewContextPayload H acceptance stateDigest artifactEvidenceDigest evidence
      schemaVersion).byteSize repr ≤ maxReviewContextBytes

instance {repr : FiniteFloat → String} (acceptance : ReviewAcceptance repr)
    (stateDigest artifactEvidenceDigest : String) (evidence : List ReviewEvidence)
    (schemaVersion : String) :
    Decidable (IsReviewContext H acceptance stateDigest artifactEvidenceDigest evidence
      schemaVersion) :=
  inferInstanceAs (Decidable (_ ∧ _ ∧ _ ∧ _ ∧ _ ∧ _ ∧ _ ∧ _))

/-- `ReviewContext`, whose evidence is sorted by its identifiers. -/
structure ReviewContext where
  acceptance : ReviewAcceptance repr
  stateDigest : String
  artifactEvidenceDigest : String
  evidence : List ReviewEvidence
  schemaVersion : String
  isContext : IsReviewContext H acceptance stateDigest artifactEvidenceDigest evidence schemaVersion
  sorted : evidence.Pairwise fun e e' ↦ e.evidenceId H ≤ e'.evidenceId H

/-- The order of evidence. -/
def sortedEvidence (evidence : List ReviewEvidence) : List ReviewEvidence :=
  evidence.insertionSort fun e e' ↦ e.evidenceId H ≤ e'.evidenceId H

namespace ReviewContext

variable {H repr}

/-- `ReviewContext(...)`. -/
def create (H : Host) (acceptance : ReviewAcceptance repr)
    (stateDigest artifactEvidenceDigest : String) (evidence : List ReviewEvidence)
    (schemaVersion : String) : Except ReviewContractFailureCode (ReviewContext H repr) :=
  if h : IsReviewContext H acceptance stateDigest artifactEvidenceDigest (sortedEvidence H evidence)
      schemaVersion then
    .ok ⟨acceptance, stateDigest, artifactEvidenceDigest, sortedEvidence H evidence, schemaVersion, h,
      pairwise_insertionSort_key (·.evidenceId H) evidence⟩
  else .error .invalidContext

variable (c : ReviewContext H repr)

/-- `review_context_payload`. -/
def payload : JsonValue :=
  reviewContextPayload H c.acceptance c.stateDigest c.artifactEvidenceDigest c.evidence
    c.schemaVersion

/-- `digest`. -/
def digest : String := H.jsonDigest c.payload

end ReviewContext

end Context

end Blackcell.Orchestration.Review
