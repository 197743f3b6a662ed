import Blackcell.Adapters.GitOutput
import Blackcell.Adapters.WorktreeEvidence
import Blackcell.Foundation.Session

/-!
# The lifecycle of worktrees

`GitWorktreeLifecycle` of `adapters/execution/worktree.py`, as far as it observes, commits and removes
a checkout. The transport runs the commands: the `n`-th command of a history may end in any way, with
any output. The file system is asked between the commands, and may have changed after each of them.

## Main definitions

* `GitEnvironment` : the transport, the file system and the digests.
* `inspect`, `changedPathsBetween`, `commitChanges`, `removeSuccess` : the operations.

## Main results

* `gitAt_eq_ok`, `raises_gitAt` : what a command returns, and what it raises.
-/

namespace Blackcell.Adapters.Worktree

open Blackcell.Kernel

/-! ### Commands -/

/-- `BoundedProcessFailureCode`. -/
inductive BoundedProcessFailureCode where
  | invalidInvocation | spawnFailed | canceled | timedOut | outputTooLarge | outputIncomplete
  deriving DecidableEq, Repr

/-- `BoundedStreamCapture`. -/
structure BoundedStreamCapture where
  captured : List UInt8
  totalBytes : Option Nat
  complete : Bool
  isCapture : if complete then (totalBytes.any (captured.length ≤ ·)) = true else totalBytes = none

/-- `BoundedProcessResult`. -/
structure BoundedProcessResult where
  returnCode : Int
  stdout : BoundedStreamCapture
  stderr : BoundedStreamCapture

/-- The arguments of `GitProcessTransport.run`. -/
structure GitInvocation where
  argv : List String
  cwd : String
  timeoutSeconds : Nat
  stdoutLimitBytes : Nat
  stderrLimitBytes : Nat
  environment : List (String × String)

/-- `GitProcessTransport`. No cancellation is requested of it, and it reports none. -/
structure GitProcessTransport where
  run : Nat → GitInvocation → Except BoundedProcessFailureCode BoundedProcessResult
  uncanceled : ∀ n invocation, run n invocation ≠ .error .canceled

/-- A file that was opened for a commit: what is known of it, and what was read. -/
structure CommitFile where
  isRegular : Bool
  size : Nat
  payload : ByteArray
  /-- `_file_identity` is the same before and after. -/
  unchanged : Bool

/-- The files below the root of a checkout, by their components. Links are not followed. -/
structure CommitTree where
  /-- `os.open` of a directory, and of those on the way to it. -/
  opens : List String → Bool
  /-- `os.open` of a file, `none` when it raises. -/
  file : List String → Option CommitFile
  /-- `os.stat` raises `FileNotFoundError`. -/
  isAbsent : List String → Bool

/-- The surroundings of the lifecycle. The file system and the files of a checkout are those after
`n` commands. -/
structure GitEnvironment where
  host : Host
  digest : BytesDigest
  /-- `hashlib.sha1(...).hexdigest()`. -/
  sha1 : ByteArray → String
  gitExecutable : String
  transport : GitProcessTransport
  files : Nat → FileSystem
  tree : Nat → String → CommitTree

/-- An operation of the lifecycle: it counts the commands that were run. -/
abbrev Lifecycle (α : Type) := Session Nat Raised α

/-- What a failure of the transport is raised as: a lookup in a table that has no entry for a
cancellation. -/
def BoundedProcessFailureCode.raised : BoundedProcessFailureCode → Raised
  | .invalidInvocation => .lifecycle .gitCommandFailed
  | .spawnFailed => .lifecycle .gitSpawnFailed
  | .timedOut => .lifecycle .gitTimedOut
  | .outputTooLarge => .lifecycle .gitOutputTooLarge
  | .outputIncomplete => .lifecycle .gitOutputIncomplete
  | .canceled => .keyError

/-- The check of a captured stream. -/
def checkStream (stream : BoundedStreamCapture) : Except Raised Unit := do
  Checked.require (stream.complete ∧ stream.totalBytes ≠ none)
    (Raised.lifecycle .gitOutputIncomplete)
  Checked.require (stream.totalBytes = some stream.captured.length)
    (Raised.lifecycle .gitOutputTooLarge)

variable (env : GitEnvironment)

/-- The invocation of a command. -/
def invocation (root : String) (arguments : List String) : GitInvocation where
  argv := [env.gitExecutable, "--no-pager", "--literal-pathspecs", "-c", "core.hooksPath=/dev/null",
    "-c", "core.fsmonitor=false"] ++ arguments
  cwd := root
  timeoutSeconds := 120
  stdoutLimitBytes := 16 * 1024 * 1024
  stderrLimitBytes := 64 * 1024
  environment := [("GIT_CONFIG_NOSYSTEM", "1"), ("GIT_CONFIG_GLOBAL", "/dev/null"),
    ("GIT_ATTR_NOSYSTEM", "1"), ("GIT_TERMINAL_PROMPT", "0"), ("GIT_PAGER", "cat"),
    ("GIT_NO_REPLACE_OBJECTS", "1"), ("LC_ALL", "C")]

/-- `_git_at`. -/
def gitAt (root : String) (arguments : List String) : Lifecycle BoundedProcessResult := fun n ↦
  match env.transport.run n (invocation env root arguments) with
  | .error code => .error code.raised
  | .ok result => do
    checkStream result.stdout
    checkStream result.stderr
    pure (result, n + 1)

/-- The output of a command that must succeed; `code` is raised if it does not. -/
def gitOutput (root : String) (arguments : List String) (code : LifecycleFailureCode) :
    Lifecycle (List UInt8) := do
  let result ← gitAt env root arguments
  Session.check (Checked.require (result.returnCode = 0) (Raised.lifecycle code))
  pure result.stdout.captured

/-- The file system, after the commands that were run. -/
def currentFiles : Lifecycle FileSystem := do
  let n ← get
  pure (env.files n)

/-! ### Repositories and checkouts -/

/-- `_canonical_repository_root`, in the lifecycle. -/
def canonicalRoot (root : String) : Lifecycle String := do
  let fs ← currentFiles env
  Session.check ((canonicalRepositoryRoot fs root).mapError fun code ↦ .lifecycle (.contract code))

/-- `validate_base_commit`. -/
def validateBaseCommit (repositoryRoot baseCommit : String) : Lifecycle Unit := do
  let root ← canonicalRoot env repositoryRoot
  Session.check (Checked.require (isCommit baseCommit) (Raised.lifecycle (.contract .invalidSpec)))
  let observed ← gitOutput env root ["rev-parse", "--show-toplevel"] (.contract .invalidRepository)
  let line ← Session.check (singleLine observed)
  let fs ← currentFiles env
  Session.check (Checked.require (fs.resolve line = some root)
    (Raised.lifecycle (.contract .invalidRepository)))
  let _ ← gitOutput env root ["cat-file", "-e", baseCommit ++ "^{commit}"] .baseCommitNotFound

/-- `changed_paths_between`. -/
def changedPathsBetween (repositoryRoot baseCommit headCommit : String) :
    Lifecycle (List String) := do
  let root ← canonicalRoot env repositoryRoot
  validateBaseCommit env root baseCommit
  validateBaseCommit env root headCommit
  let _ ← gitOutput env root ["merge-base", "--is-ancestor", baseCommit, headCommit]
    .worktreeConflict
  let changed ← gitOutput env root
    ["diff", "--name-only", "--no-renames", "-z", baseCommit, headCommit, "--"] .gitCommandFailed
  Session.check (pathOutput changed)

/-- `_EXTERNAL_FILTER_PATTERN`. -/
def externalFilterPattern : String := "^filter\\..*\\.(clean|smudge|process)$"

/-- `_validate_repository`. -/
def validateRepository (spec : WorktreeExecutionSpec) : Lifecycle Unit := do
  validateBaseCommit env spec.repositoryRoot spec.baseCommit
  let filters ← gitAt env spec.repositoryRoot ["config", "--local", "--includes", "--name-only",
    "--null", "--get-regexp", externalFilterPattern]
  Session.check (Checked.require (filters.returnCode ≠ 0)
    (Raised.lifecycle .unsafeRepositoryConfiguration))
  Session.check (Checked.require (filters.returnCode = 1) (Raised.lifecycle .gitCommandFailed))

/-- `_lexists`. -/
def lexists (fs : FileSystem) (path : String) : Bool := fs.exists? path || fs.isSymlink path

/-- `_require_worktree_directory`. -/
def requireWorktreeDirectory (fs : FileSystem) (spec : WorktreeExecutionSpec) (path : String) :
    Except Raised Unit := do
  Checked.require (lexists fs path) (Raised.lifecycle .worktreeNotFound)
  Checked.require (¬fs.isSymlink path) (Raised.lifecycle .worktreeConflict)
  Checked.require (fs.resolve path = some path ∧ fs.isDir path ∧
    pathParent path = spec.isolationRoot) (Raised.lifecycle .worktreeConflict)

/-! ### Inspections -/

/-- `tuple(sorted(set(paths)))`. -/
def sortedSet (paths : List String) : List String := paths.dedup.insertionSort (· ≤ ·)

/-- The evidence of what was observed of a checkout. -/
def inspectionOf (spec : WorktreeExecutionSpec) (headCommit : String)
    (changedPaths uncommittedPaths : List String) : Except Raised WorktreeInspection :=
  let outOfScope := changedPaths.filter fun p ↦ !pathIsAllowed p spec.allowedPaths
  let exceeded := decide (spec.maxChangedPaths < changedPaths.length)
  if h : IsCheckout (spec.digest env.host) (spec.lease.digest env.host) (spec.worktreePath env.host)
        (spec.branchName env.host) ∧ (isCommit spec.baseCommit ∧ isCommit headCommit) ∧
      ValidPaths spec.allowedPaths spec.maxChangedPaths changedPaths uncommittedPaths outOfScope
        exceeded then
    .ok ⟨spec.digest env.host, spec.lease.digest env.host, spec.worktreePath env.host,
      spec.branchName env.host, spec.baseCommit, headCommit, spec.allowedPaths,
      spec.maxChangedPaths, changedPaths, uncommittedPaths, outOfScope, exceeded, h.1, h.2.1,
      h.2.2⟩
  else .error invalidOutput

/-- The paths that a command lists. -/
def gitPaths (root : String) (arguments : List String) : Lifecycle (List String) := do
  let output ← gitOutput env root arguments .gitCommandFailed
  Session.check (pathOutput output)

/-- The line that a command says; `code` is raised if it fails. -/
def gitLine (root : String) (arguments : List String) (code : LifecycleFailureCode) :
    Lifecycle String := do
  let output ← gitOutput env root arguments code
  Session.check (singleLine output)

/-- `inspect`. -/
def inspect (spec : WorktreeExecutionSpec) : Lifecycle WorktreeInspection := do
  validateRepository env spec
  let root := spec.repositoryRoot
  let path := spec.worktreePath env.host
  let fs ← currentFiles env
  Session.check (requireWorktreeDirectory fs spec path)
  let actualRoot ← gitLine env root ["-C", path, "rev-parse", "--show-toplevel"] .gitCommandFailed
  let fs ← currentFiles env
  let resolved ← Session.check (Checked.ofOption (fs.resolve actualRoot) invalidOutput)
  Session.check (Checked.require (resolved = path) (Raised.lifecycle .worktreeConflict))
  let branch ← gitLine env root ["-C", path, "symbolic-ref", "--quiet", "--short", "HEAD"]
    .worktreeConflict
  Session.check (Checked.require (branch = spec.branchName env.host)
    (Raised.lifecycle .worktreeConflict))
  let headCommit ← gitLine env root ["-C", path, "rev-parse", "HEAD"] .worktreeConflict
  Session.check (Checked.require (isCommit headCommit) invalidOutput)
  let _ ← gitOutput env root
    ["-C", path, "merge-base", "--is-ancestor", spec.baseCommit, headCommit] .worktreeConflict
  let baseRelative ← gitPaths env root
    ["-C", path, "diff", "--name-only", "--no-renames", "-z", spec.baseCommit, "--"]
  let headRelative ← gitPaths env root
    ["-C", path, "diff", "--name-only", "--no-renames", "-z", "HEAD", "--"]
  let untracked ← gitPaths env root ["-C", path, "ls-files", "--others", "-z", "--"]
  Session.check (inspectionOf env spec headCommit (sortedSet (baseRelative ++ untracked))
    (sortedSet (headRelative ++ untracked)))

/-- `path_policy_compliant`. -/
def IsCompliant (i : WorktreeInspection) : Prop :=
  i.outOfScopePaths = [] ∧ i.changedPathLimitExceeded = false

instance (i : WorktreeInspection) : Decidable (IsCompliant i) :=
  inferInstanceAs (Decidable (_ ∧ _))

/-! ### Commits -/

/-- `WorktreeCommitEffect`. -/
structure WorktreeCommitEffect where
  path : String
  afterDigest : Option String
  isPath : isRepositoryPath path
  isDigest : ∀ digest ∈ afterDigest, isHexDigest digest

/-- The paths of some effects. -/
def effectPaths (effects : List WorktreeCommitEffect) : List String := effects.map (·.path)

/-- `_MAX_COMMIT_EFFECT_BYTES`. -/
def maxCommitEffectBytes : Nat := 1024 * 1024

/-- `_MAX_COMMIT_TOTAL_BYTES`. -/
def maxCommitTotalBytes : Nat := 4 * 1024 * 1024

/-- `_open_commit_parent`: the parent is opened, and the last component is looked up, which the path
of the root itself does not have. -/
def openCommitParent (tree : CommitTree) (path : String) : Except Raised Unit := do
  Checked.require (tree.opens (pathParts path).dropLast) commitFailure
  let _ ← Checked.ofOption (pathParts path).getLast? Raised.indexError

/-- `_read_commit_path`. -/
def readCommitPath (tree : CommitTree) (path : String) : Except Raised ByteArray := do
  openCommitParent tree path
  let file ← Checked.ofOption (tree.file (pathParts path)) commitFailure
  Checked.require (file.isRegular ∧ file.size ≤ maxCommitEffectBytes) commitFailure
  Checked.require (file.payload.size = file.size ∧ file.payload.size ≤ maxCommitEffectBytes ∧
    file.unchanged) commitFailure
  pure file.payload

/-- `_require_commit_path_absent`. -/
def requireCommitPathAbsent (tree : CommitTree) (path : String) : Except Raised Unit := do
  openCommitParent tree path
  Checked.require (tree.isAbsent (pathParts path)) commitFailure

/-- The identity of a blob. -/
def blobId (payload : ByteArray) : String :=
  env.sha1 (("blob " ++ toString payload.size ++ "\x00").toUTF8 ++ payload)

/-- The loop of `_expected_commit_blobs`, after so many bytes. -/
def expectedCommitBlobs (tree : CommitTree) (totalBytes : Nat) :
    List WorktreeCommitEffect → Except Raised (List (String × String))
  | [] => pure []
  | effect :: effects =>
    match effect.afterDigest with
    | none => do
      requireCommitPathAbsent tree effect.path
      expectedCommitBlobs tree totalBytes effects
    | some afterDigest => do
      let payload ← readCommitPath tree effect.path
      Checked.require (totalBytes + payload.size ≤ maxCommitTotalBytes ∧
        env.digest.bytesDigest payload = afterDigest) commitFailure
      let blobs ← expectedCommitBlobs tree (totalBytes + payload.size) effects
      pure ((effect.path, blobId env payload) :: blobs)

/-- The entries are those of the expected blobs, and no others. -/
def IsStaged (entries : List IndexEntry) (blobs : List (String × String)) : Prop :=
  (∀ e ∈ entries, e.path ∈ blobs.map Prod.fst) ∧
    (∀ b ∈ blobs, b.1 ∈ entries.map (·.path)) ∧
    ∀ b ∈ blobs, ∀ e ∈ entries, e.path = b.1 → e.objectId = b.2

instance (entries : List IndexEntry) (blobs : List (String × String)) :
    Decidable (IsStaged entries blobs) := inferInstanceAs (Decidable (_ ∧ _ ∧ _))

/-- The message of a commit. -/
def commitMessage (spec : WorktreeExecutionSpec) : String :=
  "BlackCell execution " ++ spec.lease.runId ++ "/" ++ spec.lease.nodeId ++ " attempt " ++
    toString spec.lease.attempt

/-- The part of `commit_changes` that stages the effects, commits them and observes the result. -/
def commitStaged (spec : WorktreeExecutionSpec) (effects : List WorktreeCommitEffect)
    (before : WorktreeInspection) (blobs : List (String × String)) :
    Lifecycle WorktreeInspection := do
  let root := spec.repositoryRoot
  let path := spec.worktreePath env.host
  let _ ← gitOutput env root
    (["-C", path, "add", "--force", "--all", "--"] ++ effectPaths effects) .commitFailed
  let listed ← gitAt env root
    (["-C", path, "ls-files", "--stage", "-z", "--"] ++ effectPaths effects)
  let entries ← Session.check (indexEntries listed.returnCode listed.stdout.captured)
  Session.check (Checked.require (IsStaged entries blobs) commitFailure)
  let _ ← gitOutput env root ["-C", path, "-c", "user.name=BlackCell", "-c",
    "user.email=blackcell@example.invalid", "-c", "commit.gpgSign=false", "commit", "--no-verify",
    "--no-gpg-sign", "--cleanup=verbatim", "--message=" ++ commitMessage spec] .commitFailed
  let after ← inspect env spec
  Session.check (Checked.require (after.uncommittedPaths = [] ∧ IsCompliant after ∧
    after.headCommit ≠ before.headCommit ∧ after.changedPaths = before.changedPaths) commitFailure)
  pure after

/-- `commit_changes`. -/
def commitChanges (spec : WorktreeExecutionSpec) (effects : List WorktreeCommitEffect) :
    Lifecycle WorktreeInspection := do
  Session.check (Checked.require (IsSortedTuple (effectPaths effects))
    (Raised.lifecycle (.contract .invalidSpec)))
  let before ← inspect env spec
  Session.check (Checked.require (IsCompliant before) (Raised.lifecycle .pathPolicyViolation))
  if before.uncommittedPaths = [] then do
    Session.check (Checked.require (effects = []) commitFailure)
    pure before
  else do
    Session.check (Checked.require (effectPaths effects = before.changedPaths ∧
      effectPaths effects = before.uncommittedPaths) commitFailure)
    let n ← get
    let blobs ← Session.check
      (expectedCommitBlobs env (env.tree n (spec.worktreePath env.host)) 0 effects)
    commitStaged env spec effects before blobs

/-! ### Removals -/

/-- The evidence of a removal. -/
def removalOf (spec : WorktreeExecutionSpec) (head : String) : Except Raised WorktreeRemoval :=
  if h : IsCheckout (spec.digest env.host) (spec.lease.digest env.host) (spec.worktreePath env.host)
      (spec.branchName env.host) ∧ isCommit head then
    .ok ⟨spec.digest env.host, spec.lease.digest env.host, spec.worktreePath env.host,
      spec.branchName env.host, head, h.1, h.2⟩
  else .error invalidOutput

/-- `_worktree_is_registered`. -/
def worktreeIsRegistered (spec : WorktreeExecutionSpec) : Lifecycle Bool := do
  let output ← gitOutput env spec.repositoryRoot ["worktree", "list", "--porcelain", "-z"]
    .gitCommandFailed
  Session.check (listsWorktree (spec.worktreePath env.host) output)

/-- `_confirm_success_removed`. -/
def confirmSuccessRemoved (spec : WorktreeExecutionSpec) (expectedHead : String) :
    Lifecycle WorktreeRemoval := do
  let fs ← currentFiles env
  Session.check (Checked.require (¬lexists fs (spec.worktreePath env.host))
    (Raised.lifecycle .cleanupFailed))
  let registered ← worktreeIsRegistered env spec
  Session.check (Checked.require (registered = false) (Raised.lifecycle .cleanupFailed))
  let head ← gitLine env spec.repositoryRoot
    ["rev-parse", "--verify", "refs/heads/" ++ spec.branchName env.host ++ "^{commit}"]
    .cleanupFailed
  Session.check (Checked.require (head = expectedHead) (Raised.lifecycle .cleanupFailed))
  Session.check (removalOf env spec expectedHead)

/-- The part of `remove_success` about a checkout that exists. -/
def removeExisting (spec : WorktreeExecutionSpec) (expectedHead : Option String) :
    Lifecycle WorktreeRemoval := do
  let inspection ← inspect env spec
  Session.check (Checked.require (inspection.uncommittedPaths = [])
    (Raised.lifecycle .worktreeDirty))
  Session.check (Checked.require (IsCompliant inspection) (Raised.lifecycle .pathPolicyViolation))
  Session.check (Checked.require (∀ head ∈ expectedHead, inspection.headCommit = head)
    (Raised.lifecycle .cleanupFailed))
  let _ ← gitOutput env spec.repositoryRoot
    ["worktree", "remove", spec.worktreePath env.host] .cleanupFailed
  let fs ← currentFiles env
  Session.check (Checked.require (¬lexists fs (spec.worktreePath env.host))
    (Raised.lifecycle .cleanupFailed))
  confirmSuccessRemoved env spec inspection.headCommit

/-- `remove_success`. -/
def removeSuccess (spec : WorktreeExecutionSpec) (expectedHead : Option String) :
    Lifecycle WorktreeRemoval := do
  Session.check (Checked.require (∀ head ∈ expectedHead, isCommit head)
    (Raised.lifecycle (.contract .invalidSpec)))
  let fs ← currentFiles env
  if lexists fs (spec.worktreePath env.host) then removeExisting env spec expectedHead
  else do
    let head ← Session.check
      (Checked.ofOption expectedHead (Raised.lifecycle .worktreeNotFound))
    confirmSuccessRemoved env spec head

end Blackcell.Adapters.Worktree
