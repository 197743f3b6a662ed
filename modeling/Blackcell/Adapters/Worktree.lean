import Blackcell.Foundation.Checked
import Blackcell.Kernel.Digest
import Blackcell.Orchestration.RunLifecycle.Fold

/-!
# Worktrees of attempts

The identities of `adapters/execution/worktree.py`: the lease under which an attempt runs, and the
specification of its checkout. The digest of the lease enters the specification, and the digest of
the specification names the directory and the branch of the checkout. The file system is consulted
when a specification is built, and its answers are a parameter.

## Main definitions

* `WorktreeLeaseIdentity`, `WorktreeExecutionSpec` : the identities, with what their constructors
  demand.
* `WorktreeExecutionSpec.worktreePath`, `WorktreeExecutionSpec.branchName` : the names of the
  checkout.

## Main results

* `WorktreeLeaseIdentity.digest_inj` : the digest of a lease determines the lease.
* `WorktreeExecutionSpec.lease_eq_of_worktreePath`, `WorktreeExecutionSpec.lease_eq_of_branchName` :
  each of the two names of a checkout determines the lease.
-/

namespace Blackcell.Adapters.Worktree

open Blackcell.Kernel

/-- `WorktreeFailureCode`, as far as the values of this file and their readers raise it. -/
inductive WorktreeFailureCode where
  | invalidSpec | invalidRepository | invalidIsolationRoot | invalidGitOutput
  deriving DecidableEq, Repr

/-- `WORKTREE_LEASE_SCHEMA`. -/
def worktreeLeaseSchema : String := "blackcell.worktree-lease/v1"

/-- `WORKTREE_SPEC_SCHEMA`. -/
def worktreeSpecSchema : String := "blackcell.worktree-spec/v1"

/-! ### Leases -/

/-- `_IDENTIFIER.fullmatch`. -/
def isLeaseIdentifier (s : String) : Bool := isIdentifier ['.', '_', '-'] s

/-- `WorktreeLeaseIdentity`. -/
@[ext]
structure WorktreeLeaseIdentity where
  runId : String
  nodeId : String
  attempt : Nat
  fencingToken : Nat
  workerId : String
  identifiers : isLeaseIdentifier runId ∧ isLeaseIdentifier nodeId ∧ isLeaseIdentifier workerId
  positive : 1 ≤ attempt ∧ 1 ≤ fencingToken
  deriving DecidableEq

namespace WorktreeLeaseIdentity

/-- `WorktreeLeaseIdentity(...)`. -/
def create (runId nodeId : String) (attempt fencingToken : Nat) (workerId : String) :
    Except WorktreeFailureCode WorktreeLeaseIdentity :=
  if h : (isLeaseIdentifier runId ∧ isLeaseIdentifier nodeId ∧ isLeaseIdentifier workerId) ∧
      1 ≤ attempt ∧ 1 ≤ fencingToken then
    .ok ⟨runId, nodeId, attempt, fencingToken, workerId, h.1, h.2⟩
  else .error .invalidSpec

variable (H : Host) (l : WorktreeLeaseIdentity)

/-- The document of a lease. -/
def document : Mapping := [
  ("schema_version", .str worktreeLeaseSchema),
  ("run_id", .str l.runId),
  ("node_id", .str l.nodeId),
  ("attempt", .int l.attempt),
  ("fencing_token", .int l.fencingToken),
  ("worker_id", .str l.workerId)]

/-- `digest`. -/
def digest : String := H.jsonDigest (.object l.document)

variable {H l} {l' : WorktreeLeaseIdentity}

@[simp] theorem create_eq_ok {runId nodeId : String} {attempt fencingToken : Nat}
    {workerId : String} : create runId nodeId attempt fencingToken workerId = .ok l ↔
      l.runId = runId ∧ l.nodeId = nodeId ∧ l.attempt = attempt ∧ l.fencingToken = fencingToken ∧
        l.workerId = workerId := by
  unfold create
  split
  · constructor
    · rintro ⟨⟩
      exact ⟨rfl, rfl, rfl, rfl, rfl⟩
    · rintro ⟨rfl, rfl, rfl, rfl, rfl⟩
      rfl
  · rename_i h
    simp only [reduceCtorEq, false_iff]
    rintro ⟨rfl, rfl, rfl, rfl, rfl⟩
    exact h ⟨l.identifiers, l.positive⟩

theorem nodup_keys_document : (Mapping.keys l.document).Nodup := by
  simp [Mapping.keys, document]

/-- **Leases.** The digest of a lease determines the lease. -/
theorem digest_inj {S : Set JsonValue} (hfree : H.CollisionFreeOn S) (hl : .object l.document ∈ S)
    (hl' : .object l'.document ∈ S) (h : l.digest H = l'.digest H) : l = l' := by
  have hget := hfree.get_eq nodup_keys_document hl hl' h
  have hrun : l.runId = l'.runId := by
    simpa [document, Mapping.get_cons, JsonValue.canonical] using hget "run_id"
  have hnode : l.nodeId = l'.nodeId := by
    simpa [document, Mapping.get_cons, JsonValue.canonical] using hget "node_id"
  have hattempt : l.attempt = l'.attempt := by
    refine Int.ofNat.inj ?_
    simpa [document, Mapping.get_cons, JsonValue.canonical] using hget "attempt"
  have hfence : l.fencingToken = l'.fencingToken := by
    refine Int.ofNat.inj ?_
    simpa [document, Mapping.get_cons, JsonValue.canonical] using hget "fencing_token"
  have hworker : l.workerId = l'.workerId := by
    simpa [document, Mapping.get_cons, JsonValue.canonical] using hget "worker_id"
  exact WorktreeLeaseIdentity.ext hrun hnode hattempt hfence hworker

end WorktreeLeaseIdentity

/-! ### The file system -/

/-- The answers of the file system about absolute paths. -/
structure FileSystem where
  /-- `Path.is_symlink`. -/
  isSymlink : String → Bool
  /-- `Path.resolve(strict=True)`, `none` when it raises. -/
  resolve : String → Option String
  /-- `Path.is_dir`. -/
  isDir : String → Bool
  /-- `Path.exists`. -/
  exists? : String → Bool
  /-- `_require_owner_directory` raises nothing. -/
  isOwnerDirectory : String → Bool

/-- `Path.is_absolute`. -/
def isAbsolute (path : String) : Bool := pathRoot path ≠ ""

/-- `Path.parent`. -/
def pathParent (path : String) : String :=
  pathRoot path ++ "/".intercalate (pathParts path).dropLast

/-- `Path.name`. -/
def pathName (path : String) : String := (pathParts path).getLast?.getD ""

/-- `Path.as_posix`. -/
def asPosix (path : String) : String :=
  if pathRoot path = "" ∧ pathParts path = [] then "."
  else pathRoot path ++ "/".intercalate (pathParts path)

/-- `Path.is_relative_to`. -/
def isRelativeTo (path other : String) : Bool :=
  pathRoot path = pathRoot other && (pathParts other).isPrefixOf (pathParts path)

/-- `_canonical_repository_root`. -/
def canonicalRepositoryRoot (fs : FileSystem) (path : String) :
    Except WorktreeFailureCode String := do
  Checked.require (isAbsolute path ∧ ¬fs.isSymlink path) WorktreeFailureCode.invalidRepository
  let resolved ← Checked.ofOption (fs.resolve path) WorktreeFailureCode.invalidRepository
  Checked.require (resolved = path ∧ fs.isDir resolved) WorktreeFailureCode.invalidRepository
  pure resolved

/-- The root of the checkouts, once it is known to exist or not. -/
def resolveIsolationRoot (fs : FileSystem) (path : String) : Except WorktreeFailureCode String :=
  if fs.exists? path then do
    let resolved ← Checked.ofOption (fs.resolve path) WorktreeFailureCode.invalidIsolationRoot
    Checked.require (fs.isOwnerDirectory resolved) WorktreeFailureCode.invalidIsolationRoot
    pure resolved
  else do
    let parent ← Checked.ofOption (fs.resolve (pathParent path))
      WorktreeFailureCode.invalidIsolationRoot
    Checked.require (fs.isDir parent ∧ pathJoin parent (pathName path) = path)
      WorktreeFailureCode.invalidIsolationRoot
    pure path

/-- `_canonical_isolation_root`. -/
def canonicalIsolationRoot (fs : FileSystem) (path : String) :
    Except WorktreeFailureCode String := do
  Checked.require (isAbsolute path ∧ ¬fs.isSymlink path) WorktreeFailureCode.invalidIsolationRoot
  let resolved ← resolveIsolationRoot fs path
  Checked.require (resolved = path) WorktreeFailureCode.invalidIsolationRoot
  pure resolved

/-! ### Specifications -/

/-- A path that `_normalize_repository_path` accepts. -/
def isRepositoryPath (s : String) : Bool :=
  s ≠ "" && s.length ≤ 4096 && !s.toList.contains '\x00' && !s.toList.contains '\\' &&
    !isAbsolute s && asPosix s = s && !(pathParts s).contains ".." &&
    !(pathParts s).contains ".git"

/-- A path that `_normalize_policy_path` accepts. -/
def isPolicyPath (s : String) : Bool := s = "." || isRepositoryPath s

/-- The sorted tuple of the paths that an attempt may change. -/
structure IsPolicy (paths : List String) : Prop where
  length : paths.length ≤ 256
  policy : ∀ p ∈ paths, isPolicyPath p
  nodup : paths.Nodup
  sorted : paths.Pairwise (· ≤ ·)

/-- `WorktreeExecutionSpec`. -/
structure WorktreeExecutionSpec where
  lease : WorktreeLeaseIdentity
  repositoryRoot : String
  isolationRoot : String
  baseCommit : String
  allowedPaths : List String
  maxChangedPaths : Nat
  separate : ¬(isRelativeTo repositoryRoot isolationRoot ∨ isRelativeTo isolationRoot repositoryRoot)
  isBase : isCommit baseCommit
  isPolicy : IsPolicy allowedPaths
  bounded : maxChangedPaths ≤ 10000

/-- Sorting the paths that the constructor accepts. -/
theorem isPolicy_insertionSort {paths : List String} (hlength : paths.length ≤ 256)
    (hpolicy : ∀ p ∈ paths, isPolicyPath p) (hnodup : paths.Nodup) :
    IsPolicy (paths.insertionSort (· ≤ ·)) where
  length := by rwa [List.length_insertionSort]
  policy p hp := hpolicy p ((List.mem_insertionSort _).mp hp)
  nodup := (List.perm_insertionSort _ _).nodup_iff.mpr hnodup
  sorted := List.pairwise_insertionSort _ _

namespace WorktreeExecutionSpec

/-- `WorktreeExecutionSpec(...)`. -/
def create (fs : FileSystem) (lease : WorktreeLeaseIdentity)
    (repositoryRoot isolationRoot baseCommit : String) (allowedPaths : List String)
    (maxChangedPaths : Nat) : Except WorktreeFailureCode WorktreeExecutionSpec := do
  let repositoryRoot ← canonicalRepositoryRoot fs repositoryRoot
  let isolationRoot ← canonicalIsolationRoot fs isolationRoot
  if separate : ¬(isRelativeTo repositoryRoot isolationRoot ∨
      isRelativeTo isolationRoot repositoryRoot) then
    if h : isCommit baseCommit ∧ (allowedPaths.length ≤ 256 ∧ (∀ p ∈ allowedPaths, isPolicyPath p) ∧
        allowedPaths.Nodup) ∧ maxChangedPaths ≤ 10000 then
      pure ⟨lease, repositoryRoot, isolationRoot, baseCommit, allowedPaths.insertionSort (· ≤ ·),
        maxChangedPaths, separate, h.1, isPolicy_insertionSort h.2.1.1 h.2.1.2.1 h.2.1.2.2, h.2.2⟩
    else .error .invalidSpec
  else .error .invalidIsolationRoot

variable (H : Host) (s : WorktreeExecutionSpec)

/-- The document of a specification. -/
def document : Mapping := [
  ("schema_version", .str worktreeSpecSchema),
  ("lease_digest", .str (s.lease.digest H)),
  ("repository_root", .str s.repositoryRoot),
  ("isolation_root", .str s.isolationRoot),
  ("base_commit", .str s.baseCommit),
  ("allowed_paths", .ofTexts s.allowedPaths),
  ("max_changed_paths", .int s.maxChangedPaths)]

/-- `digest`. -/
def digest : String := H.jsonDigest (.object (s.document H))

/-- `worktree_path`. -/
def worktreePath : String :=
  pathJoin s.isolationRoot ("worktree-" ++ withoutDigestPrefix (s.digest H))

/-- `branch_name`. -/
def branchName : String :=
  "blackcell/execution-worktree/" ++ withoutDigestPrefix (s.digest H)

variable {H s} {s' : WorktreeExecutionSpec}

/-- A specification that was built has the given lease and base commit. -/
theorem of_create {fs : FileSystem} {lease : WorktreeLeaseIdentity}
    {repositoryRoot isolationRoot baseCommit : String} {allowedPaths : List String}
    {maxChangedPaths : Nat} (h : create fs lease repositoryRoot isolationRoot baseCommit
      allowedPaths maxChangedPaths = .ok s) : s.lease = lease ∧ s.baseCommit = baseCommit := by
  simp only [create, Checked.bind_eq_ok] at h
  obtain ⟨root, -, isolation, -, h⟩ := h
  split at h
  · split at h
    · rw [← Checked.pure_eq_ok.mp h]
      exact ⟨rfl, rfl⟩
    · cases h
  · cases h

theorem nodup_keys_document : (Mapping.keys (s.document H)).Nodup := by
  simp [Mapping.keys, document]

/-- The digest of a specification determines the digest of its lease. -/
theorem lease_digest_eq_of_digest {S : Set JsonValue} (hfree : H.CollisionFreeOn S)
    (hs : .object (s.document H) ∈ S) (hs' : .object (s'.document H) ∈ S)
    (h : s.digest H = s'.digest H) : s.lease.digest H = s'.lease.digest H := by
  have hget := hfree.get_eq nodup_keys_document hs hs' h "lease_digest"
  simpa [document, Mapping.get_cons, JsonValue.canonical] using hget

/-- A joined path ends in the joined name. -/
theorem exists_pathJoin_eq (root name : String) : ∃ front, pathJoin root name = front ++ name := by
  have hjoin : ∀ parts : List String, ∃ front, "/".intercalate (parts ++ [name]) = front ++ name := by
    intro parts
    induction parts with
    | nil => exact ⟨"", by simp⟩
    | cons part parts ih =>
      obtain ⟨front, hfront⟩ := ih
      refine ⟨part ++ "/" ++ front, ?_⟩
      rw [List.cons_append, String.intercalate_cons_of_ne_nil (by simp), hfront]
      simp [String.append_assoc]
  obtain ⟨front, hfront⟩ := hjoin (pathParts root)
  exact ⟨pathRoot root ++ front, by rw [pathJoin, hfront, String.append_assoc]⟩

/-- The digits of a digest are all of it. -/
theorem digest_eq_of_digits
    (h : withoutDigestPrefix (s.digest H) = withoutDigestPrefix (s'.digest H)) :
    s.digest H = s'.digest H := by
  unfold digest at h ⊢
  exact Host.withoutDigestPrefix_inj.mp h

theorem length_digits (H : Host) (s : WorktreeExecutionSpec) :
    (withoutDigestPrefix (s.digest H)).toList.length = 64 := by
  have hhex := isHex_iff.mp (H.hexdigest_isHex (JsonValue.object (s.document H)).canonical)
  rw [digest, Host.withoutDigestPrefix_jsonDigest, String.length_toList, hhex.1]

/-- The directory of a checkout determines the digest of the specification: the digits are what its
name ends in, whatever the root of the checkouts is. -/
theorem digest_eq_of_worktreePath (h : s.worktreePath H = s'.worktreePath H) :
    s.digest H = s'.digest H := by
  obtain ⟨front, hfront⟩ := exists_pathJoin_eq s.isolationRoot
    ("worktree-" ++ withoutDigestPrefix (s.digest H))
  obtain ⟨front', hfront'⟩ := exists_pathJoin_eq s'.isolationRoot
    ("worktree-" ++ withoutDigestPrefix (s'.digest H))
  rw [worktreePath, worktreePath, hfront, hfront'] at h
  have hlist := congrArg String.toList h
  simp only [String.toList_append, ← List.append_assoc] at hlist
  have hdigits := (List.append_inj' hlist (by rw [length_digits, length_digits])).2
  exact digest_eq_of_digits (String.toList_injective hdigits)

/-- The branch of a checkout determines the digest of the specification. -/
theorem digest_eq_of_branchName (h : s.branchName H = s'.branchName H) :
    s.digest H = s'.digest H := by
  unfold branchName at h
  have hlist := String.ext_iff.mp h
  rw [String.toList_append, String.toList_append] at hlist
  have hdigits := (List.append_inj' hlist (by rw [length_digits, length_digits])).2
  exact digest_eq_of_digits (String.toList_injective hdigits)

end WorktreeExecutionSpec

end Blackcell.Adapters.Worktree
