import Blackcell.Orchestration.Acceptance
import Blackcell.Orchestration.Review.Context

/-!
# The context of a change

The part of `orchestration/changes.py` that a provider is shown before it proposes a change, and the
readers of `orchestration/replay.py` for it and for the artifacts of a change. The paths and the files
of a context are sorted.

## Main definitions

* `ExecutionEvidenceFile`, `ChangeContext` : the values.
* `contextFromMapping`, `changeProposalFromMapping`, `effectMatches` : what is read of the artifacts of a
  change.
-/

namespace Blackcell.Orchestration.Changes

open Blackcell.Kernel
open Blackcell.Orchestration.Acceptance (readerGuard stringTuple nonemptyText)
open Blackcell.Orchestration.Review (pairwise_insertionSort_key)

/-- `CHANGE_CONTEXT_SCHEMA`. -/
def changeContextSchema : String := "change-context/v1"

/-- `MAX_CHANGE_CONTEXT_BYTES`. -/
def maxChangeContextBytes : ℕ := 16 * 1024 * 1024

/-- `_policy_path` raises nothing. -/
def isPolicyPath (s : String) : Bool := s = "." || isRepositoryPath s

/-- `ExecutionEvidenceFile`. -/
structure ExecutionEvidenceFile (D : BytesDigest) where
  path : String
  content : String
  contentDigest : String
  isFile : isRepositoryPath path ∧ isBoundedUtf8 content (256 * 1024) true ∧
    contentDigest = D.bytesDigest content.toUTF8

/-- `ExecutionEvidenceFile(...)`, `none` when it raises. -/
def ExecutionEvidenceFile.create (D : BytesDigest) (path content contentDigest : String) :
    Option (ExecutionEvidenceFile D) :=
  if h : isRepositoryPath path ∧ isBoundedUtf8 content (256 * 1024) true ∧
      contentDigest = D.bytesDigest content.toUTF8 then
    some ⟨path, content, contentDigest, h⟩
  else none

/-- `change_context_payload`. -/
def changeContextPayload {D : BytesDigest} (objective : String) (constraints : List String)
    (baseCommit : String) (allowedPaths : List String) (maxChangedPaths : ℤ)
    (files : List (ExecutionEvidenceFile D)) : JsonValue := .object [
  ("schema_version", .str changeContextSchema),
  ("objective", .str objective),
  ("constraints", .ofTexts constraints),
  ("base_commit", .str baseCommit),
  ("allowed_paths", .ofTexts allowedPaths),
  ("max_changed_paths", .int maxChangedPaths),
  ("files", .list (files.map fun file ↦ .object [
    ("path", .str file.path),
    ("content", .str file.content),
    ("content_digest", .str file.contentDigest)]))]

/-- What the constructor of `ChangeContext` demands, once it has sorted. -/
def IsChangeContext (repr : FiniteFloat → String) {D : BytesDigest} (objective : String)
    (constraints : List String) (baseCommit : String) (allowedPaths : List String)
    (maxChangedPaths : ℤ) (files : List (ExecutionEvidenceFile D)) : Prop :=
  isBoundedUtf8 objective (8 * 1024) false ∧
    (constraints.length ≤ 64 ∧ constraints.Nodup ∧
      ∀ s ∈ constraints, isBoundedUtf8 s (2 * 1024) false) ∧
    isCommit baseCommit ∧
    (allowedPaths.length ≤ 256 ∧ allowedPaths.Nodup ∧ ∀ s ∈ allowedPaths, isPolicyPath s) ∧
    (0 ≤ maxChangedPaths ∧ maxChangedPaths ≤ 10000) ∧
    (files.length ≤ 64 ∧ (files.map (·.path)).Nodup) ∧
    (files.map (·.content.utf8ByteSize)).sum ≤ 1024 * 1024 ∧
    (changeContextPayload objective constraints baseCommit allowedPaths maxChangedPaths
      files).byteSize repr ≤ maxChangeContextBytes

instance (repr : FiniteFloat → String) {D : BytesDigest} (objective : String)
    (constraints : List String) (baseCommit : String) (allowedPaths : List String)
    (maxChangedPaths : ℤ) (files : List (ExecutionEvidenceFile D)) :
    Decidable (IsChangeContext repr objective constraints baseCommit allowedPaths maxChangedPaths
      files) :=
  inferInstanceAs (Decidable (_ ∧ _ ∧ _ ∧ _ ∧ _ ∧ _ ∧ _ ∧ _))

/-- `ChangeContext`. -/
structure ChangeContext (repr : FiniteFloat → String) (D : BytesDigest) where
  objective : String
  constraints : List String
  baseCommit : String
  allowedPaths : List String
  maxChangedPaths : ℤ
  files : List (ExecutionEvidenceFile D)
  isContext : IsChangeContext repr objective constraints baseCommit allowedPaths maxChangedPaths files
  sorted : allowedPaths.Pairwise (· ≤ ·) ∧ files.Pairwise fun file file' ↦ file.path ≤ file'.path

namespace ChangeContext

/-- `ChangeContext(...)`, `none` when it raises. -/
def create (repr : FiniteFloat → String) {D : BytesDigest} (objective : String)
    (constraints : List String) (baseCommit : String) (allowedPaths : List String)
    (maxChangedPaths : ℤ) (files : List (ExecutionEvidenceFile D)) : Option (ChangeContext repr D) :=
  let paths := allowedPaths.insertionSort fun a b ↦ a ≤ b
  let sortedFiles := files.insertionSort fun a b ↦ a.path ≤ b.path
  if h : IsChangeContext repr objective constraints baseCommit paths maxChangedPaths sortedFiles then
    some ⟨objective, constraints, baseCommit, paths, maxChangedPaths, sortedFiles, h,
      pairwise_insertionSort_key id allowedPaths, pairwise_insertionSort_key (·.path) files⟩
  else none

variable {repr : FiniteFloat → String} {D : BytesDigest} (c : ChangeContext repr D)

/-- `change_context_payload`. -/
def payload : JsonValue :=
  changeContextPayload c.objective c.constraints c.baseCommit c.allowedPaths c.maxChangedPaths c.files

/-- `digest`. -/
def digest (H : Host) : String := H.jsonDigest c.payload

/-- `before`: the content of each file by its path. -/
def before (path : String) : Option String :=
  (c.files.find? fun file ↦ file.path = path).map (·.content)

end ChangeContext

/-! ### Readers -/

section Readers

variable (repr : FiniteFloat → String) (D : BytesDigest)

/-- A file of `_context_from_mapping`. -/
def fileFromMapping (v : JsonValue) : Option (ExecutionEvidenceFile D) := do
  let raw ← v.fields?
  readerGuard (raw.exact ["path", "content", "content_digest"])
  let path ← nonemptyText (raw.get "path")
  let content ← (raw.get "content").text?
  let contentDigest ← nonemptyText (raw.get "content_digest")
  ExecutionEvidenceFile.create D path content contentDigest

/-- `_context_from_mapping`, `none` when it raises. -/
def contextFromMapping (value : Mapping) : Option (ChangeContext repr D) := do
  readerGuard (value.exact ["schema_version", "objective", "constraints", "base_commit",
    "allowed_paths", "max_changed_paths", "files"])
  readerGuard (value.get "schema_version" = .str changeContextSchema)
  let constraints ← stringTuple (value.get "constraints")
  let allowedPaths ← stringTuple (value.get "allowed_paths")
  let rawFiles ← (value.get "files").items?
  let files ← rawFiles.mapM (fileFromMapping D)
  let objective ← nonemptyText (value.get "objective")
  let baseCommit ← nonemptyText (value.get "base_commit")
  let maxChangedPaths ← (value.get "max_changed_paths").int?
  ChangeContext.create repr objective constraints baseCommit allowedPaths maxChangedPaths files

/-- A field that holds a text or nothing. -/
def optionalTextField (v : JsonValue) : Option (Option String) :=
  if v = .null then some none else some <$> v.text?

/-- An operation of `change_proposal_from_mapping`. -/
def operationFromMapping (v : JsonValue) : Option (FileChange D) := do
  let raw ← v.fields?
  readerGuard (raw.exact ["operation", "path", "expected_digest", "content"])
  let rawOperation ← (raw.get "operation").text?
  let operation ← StrEnum.ofValue? rawOperation
  let path ← (raw.get "path").text?
  let expectedDigest ← optionalTextField (raw.get "expected_digest")
  let content ← optionalTextField (raw.get "content")
  (FileChange.create D operation path expectedDigest content).toOption

/-- `change_proposal_from_mapping`, `none` when it raises. -/
def changeProposalFromMapping (value : Mapping) : Option (ChangeProposal D) := do
  readerGuard (value.exact ["schema_version", "proposal_id", "evidence_digest", "operations",
    "summary"])
  let rawOperations ← (value.get "operations").items?
  readerGuard (1 ≤ rawOperations.length ∧ rawOperations.length ≤ 256)
  let operations ← rawOperations.mapM (operationFromMapping D)
  readerGuard (value.get "schema_version" = .str changeProposalSchemaVersion)
  let proposalId ← (value.get "proposal_id").text?
  let evidenceDigest ← (value.get "evidence_digest").text?
  let summary ← (value.get "summary").text?
  (ChangeProposal.create repr proposalId evidenceDigest operations summary).toOption

variable {repr D}

/-- The effect that `_effect_matches` expects of an operation. -/
def effectOf (change : FileChange D) (raw : Mapping) : Prop :=
  raw.exact ["operation", "path", "before_digest", "after_digest"] ∧
    raw.get "operation" = .str (StrEnum.value change.operation) ∧
    raw.get "path" = .str change.path ∧
    raw.get "before_digest" = .ofText?
      (if change.operation = .create then none else change.expectedDigest) ∧
    raw.get "after_digest" = .ofText? (if change.operation = .delete then none
      else change.content.map fun text ↦ D.bytesDigest text.toUTF8)

instance (change : FileChange D) (raw : Mapping) : Decidable (effectOf change raw) :=
  inferInstanceAs (Decidable (_ ∧ _ ∧ _ ∧ _ ∧ _))

/-- `_effect_matches`, for the worktree, the lease and the base of an expectation. -/
def effectMatches (H : Host) (worktreeSpecDigest leaseDigest baseCommit : Option String)
    (context : ChangeContext repr D) (proposal : ChangeProposal D) (value : Mapping) : Bool :=
  value.exact ["schema_version", "status", "worktree_spec_digest", "lease_digest", "evidence_digest",
    "proposal_digest", "head_commit", "effects", "changed_paths"] &&
  value.get "schema_version" = .str "execution-text-change-result/v1" &&
  value.get "status" = .str "applied" &&
  value.get "worktree_spec_digest" = .ofText? worktreeSpecDigest &&
  value.get "lease_digest" = .ofText? leaseDigest &&
  value.get "evidence_digest" = .str (context.digest H) &&
  value.get "proposal_digest" = .str (proposal.digest H) &&
  value.get "head_commit" = .ofText? baseCommit &&
  stringTuple (value.get "changed_paths") = some (proposal.operations.map (·.path)) &&
  (value.get "effects").items?.any fun effects ↦
    effects.length = proposal.operations.length &&
      (effects.zip proposal.operations).all fun (raw, change) ↦
        raw.fields?.any fun fields ↦ effectOf change fields

end Readers

end Blackcell.Orchestration.Changes
