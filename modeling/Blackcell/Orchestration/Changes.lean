import Blackcell.Adapters.Worktree
import Blackcell.Kernel.Bytes
import Blackcell.Kernel.Encoding

/-!
# Proposals of text changes

The values of `orchestration/changes.py` that a text change is made of. A change and a proposal are
structures that carry what their constructors demand: the operations of a proposal are sorted by their
paths, and no two of them are about one path.

## Main definitions

* `FileChange`, `ChangeProposal` : the values, with `create` for their constructors.

## Main results

* `FileChange.target_inj` : the components of the path of a change determine the path.
* `ChangeProposal.nodup_targets` : no two operations are about one file.
-/

namespace Blackcell.Orchestration.Changes

open Blackcell.Kernel

/-- `ChangeContractFailureCode`, as far as the values of this file raise it. -/
inductive ChangeContractFailureCode where
  | invalidProposal
  deriving DecidableEq, Repr

/-- `CHANGE_PROPOSAL_SCHEMA_VERSION`. -/
def changeProposalSchemaVersion : String := "change-proposal/v1"

/-- `MAX_CHANGE_PROPOSAL_BYTES`. -/
def maxChangeProposalBytes : Nat := 32 * 1024 * 1024

/-- `MAX_TEXT_CHANGE_RESULT_BYTES`. -/
def maxTextChangeResultBytes : Nat := 16 * 1024 * 1024

/-- `TextOperation`. -/
inductive TextOperation where
  | create | replace | delete
  deriving DecidableEq, Repr

instance : StrEnum TextOperation where
  value
    | .create => "create"
    | .replace => "replace"
    | .delete => "delete"
  members := [.create, .replace, .delete]
  mem_members a := by cases a <;> decide
  nodup_values := by decide

/-- `_repository_path` raises nothing. -/
def isRepositoryPath (s : String) : Bool :=
  s ≠ "" && s.length ≤ 4096 && !s.toList.contains '\x00' && !s.toList.contains '\\' &&
    !Adapters.Worktree.isAbsolute s && Adapters.Worktree.asPosix s = s &&
    !(pathParts s).contains ".." && !(pathParts s).contains ".git"

/-- `_bounded_utf8` raises nothing. -/
def isBoundedUtf8 (s : String) (maximum : Nat) (allowEmpty : Bool) : Bool :=
  (allowEmpty || !isBlank s) && !s.toList.contains '\x00' && s.utf8ByteSize ≤ maximum

/-! ### Changes -/

/-- The digest and the content that an operation comes with. -/
def IsOperation (operation : TextOperation) (expectedDigest content : Option String) : Prop :=
  match operation with
  | .create => expectedDigest = none ∧ content.isSome
  | .replace => expectedDigest.any isHexDigest ∧ content.isSome
  | .delete => expectedDigest.any isHexDigest ∧ content = none

instance (operation : TextOperation) (expectedDigest content : Option String) :
    Decidable (IsOperation operation expectedDigest content) := by
  cases operation <;> exact inferInstanceAs (Decidable (_ ∧ _))

/-- The content of an operation is bounded, and it is not what it replaces. -/
def IsContent (D : BytesDigest) (operation : TextOperation)
    (expectedDigest content : Option String) : Prop :=
  ∀ text ∈ content, isBoundedUtf8 text (1024 * 1024) true ∧
    (operation = .replace → expectedDigest ≠ some (D.bytesDigest text.toUTF8))

instance (D : BytesDigest) (operation : TextOperation) (expectedDigest content : Option String) :
    Decidable (IsContent D operation expectedDigest content) := by
  cases content with
  | none => exact isTrue nofun
  | some text =>
    exact decidable_of_iff (isBoundedUtf8 text (1024 * 1024) true ∧
      (operation = .replace → expectedDigest ≠ some (D.bytesDigest text.toUTF8)))
      (by simp [IsContent])

/-- `FileChange`. -/
structure FileChange (D : BytesDigest) where
  operation : TextOperation
  path : String
  expectedDigest : Option String
  content : Option String
  isPath : isRepositoryPath path
  isOperation : IsOperation operation expectedDigest content
  isContent : IsContent D operation expectedDigest content

namespace FileChange

variable {D : BytesDigest}

/-- `FileChange(...)`. -/
def create (D : BytesDigest) (operation : TextOperation) (path : String)
    (expectedDigest content : Option String) :
    Except ChangeContractFailureCode (FileChange D) :=
  if h : isRepositoryPath path ∧ IsOperation operation expectedDigest content ∧
      IsContent D operation expectedDigest content then
    .ok ⟨operation, path, expectedDigest, content, h.1, h.2.1, h.2.2⟩
  else .error .invalidProposal

variable (c : FileChange D)

/-- The components that joining `path.split("/")` to a root appends to it: none, for the path of the
root itself. -/
def target : List String := pathParts c.path

/-- The document of a change. -/
def payload : JsonValue := .object [
  ("operation", .str (StrEnum.value c.operation)),
  ("path", .str c.path),
  ("expected_digest", .ofText? c.expectedDigest),
  ("content", .ofText? c.content)]

variable {c} {c' : FileChange D}

/-- A path is what its components make of it. -/
theorem path_eq (c : FileChange D) :
    c.path = if c.target = [] then "." else "/".intercalate c.target := by
  have hpath := c.isPath
  simp only [isRepositoryPath, Bool.and_eq_true, Bool.not_eq_true', decide_eq_true_eq] at hpath
  obtain ⟨⟨⟨⟨-, hrelative⟩, hposix⟩, -⟩, -⟩ := hpath
  have hroot : pathRoot c.path = "" := by simpa [Adapters.Worktree.isAbsolute] using hrelative
  rw [Adapters.Worktree.asPosix, hroot] at hposix
  by_cases hparts : pathParts c.path = []
  · simpa [target, hparts] using hposix.symm
  · simpa [target, hparts] using hposix.symm

/-- **Targets.** The components of a path determine the path. -/
theorem target_inj : c.target = c'.target ↔ c.path = c'.path := by
  refine ⟨fun h ↦ ?_, fun h ↦ by rw [target, target, h]⟩
  rw [c.path_eq, c'.path_eq, h]

theorem length_path_le (c : FileChange D) : c.path.length ≤ 4096 := by
  have hpath := c.isPath
  simp only [isRepositoryPath, Bool.and_eq_true, decide_eq_true_eq] at hpath
  exact hpath.1.1.1.1.1.1.2

end FileChange

/-! ### Proposals -/

/-- The bytes of the contents of some changes. -/
def contentBytes {D : BytesDigest} (operations : List (FileChange D)) : Nat :=
  (operations.map fun c ↦ (c.content.getD "").utf8ByteSize).sum

/-- The operations of a proposal: a few of them, sorted by their distinct paths. -/
structure IsOperations {D : BytesDigest} (operations : List (FileChange D)) : Prop where
  length : 1 ≤ operations.length ∧ operations.length ≤ 256
  sorted : (operations.map (·.path)).Pairwise (· ≤ ·)
  nodup : (operations.map (·.path)).Nodup
  bounded : contentBytes operations ≤ 4 * 1024 * 1024

/-- `change_proposal_payload`. -/
def changeProposalPayload {D : BytesDigest} (proposalId evidenceDigest : String)
    (operations : List (FileChange D)) (summary : String) : JsonValue := .object [
  ("schema_version", .str changeProposalSchemaVersion),
  ("proposal_id", .str proposalId),
  ("evidence_digest", .str evidenceDigest),
  ("operations", .list (operations.map (·.payload))),
  ("summary", .str summary)]

/-- The texts of a proposal. -/
def IsProposal (proposalId evidenceDigest summary : String) : Prop :=
  isIdentifier ['.', '_', ':', '-'] proposalId ∧ isHexDigest evidenceDigest ∧
    isBoundedUtf8 summary (4 * 1024) false

instance (proposalId evidenceDigest summary : String) :
    Decidable (IsProposal proposalId evidenceDigest summary) :=
  inferInstanceAs (Decidable (_ ∧ _ ∧ _))

/-- `ChangeProposal`. -/
structure ChangeProposal (D : BytesDigest) where
  proposalId : String
  evidenceDigest : String
  operations : List (FileChange D)
  summary : String
  isProposal : IsProposal proposalId evidenceDigest summary
  isOperations : IsOperations operations

/-- Sorting the operations that the constructor accepts. -/
theorem isOperations_insertionSort {D : BytesDigest} {operations : List (FileChange D)}
    (hlength : 1 ≤ operations.length ∧ operations.length ≤ 256)
    (hnodup : (operations.map (·.path)).Nodup)
    (hbounded : contentBytes operations ≤ 4 * 1024 * 1024) :
    IsOperations (operations.insertionSort fun c c' ↦ c.path ≤ c'.path) where
  length := by rwa [List.length_insertionSort]
  sorted := by
    have htotal : Std.Total fun c c' : FileChange D ↦ c.path ≤ c'.path := ⟨fun _ _ ↦ le_total _ _⟩
    have htrans : IsTrans (FileChange D) fun c c' ↦ c.path ≤ c'.path := ⟨fun _ _ _ ↦ le_trans⟩
    exact List.pairwise_map.mpr (List.pairwise_insertionSort _ _)
  nodup := (((List.perm_insertionSort _ _).map _).nodup_iff).mpr hnodup
  bounded := by
    rw [contentBytes, ((List.perm_insertionSort _ operations).map _).sum_nat]
    exact hbounded

namespace ChangeProposal

variable {D : BytesDigest}

/-- `ChangeProposal(...)`, given `float.__repr__`. -/
def create (repr : FiniteFloat → String) (proposalId evidenceDigest : String)
    (operations : List (FileChange D)) (summary : String) :
    Except ChangeContractFailureCode (ChangeProposal D) :=
  let sorted := operations.insertionSort fun c c' ↦ c.path ≤ c'.path
  if h : IsProposal proposalId evidenceDigest summary ∧
      ((1 ≤ operations.length ∧ operations.length ≤ 256) ∧ (operations.map (·.path)).Nodup ∧
        contentBytes operations ≤ 4 * 1024 * 1024) ∧
      (changeProposalPayload proposalId evidenceDigest sorted summary).byteSize repr ≤
        maxChangeProposalBytes then
    .ok ⟨proposalId, evidenceDigest, sorted, summary, h.1,
      isOperations_insertionSort h.2.1.1 h.2.1.2.1 h.2.1.2.2⟩
  else .error .invalidProposal

variable (p : ChangeProposal D)

/-- `digest`. -/
def digest (H : Host) : String :=
  H.jsonDigest (changeProposalPayload p.proposalId p.evidenceDigest p.operations p.summary)

/-- No two operations are about one file. -/
theorem nodup_targets : (p.operations.map (·.target)).Nodup := by
  have hnodup := p.isOperations.nodup
  rw [List.Nodup, List.pairwise_map] at hnodup ⊢
  exact hnodup.imp fun hne htarget ↦ hne (FileChange.target_inj.mp htarget)

end ChangeProposal

end Blackcell.Orchestration.Changes
