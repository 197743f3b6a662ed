import Blackcell.Adapters.GitEvidence
import Blackcell.Foundation.Metered

/-!
# The commands of the lifecycle

The operations of `GitWorktreeLifecycle`, over any monad in which commands can be run and the files
of the host can be looked at. Over sessions they are the operations of `Adapters.GitWorktree`. Over
metered computations they count the commands that they run, also when they fail, and stay within the
numbers that the constants of `adapters/execution/worktree.py` declare.

## Main definitions

* `GitPort` : running a command, and looking at the files between the commands.
* `GitPort.inspect`, `GitPort.commitChanges` : the operations over a port.
* `metered`, `createWorktree` : the port that counts the commands, and the creation of a checkout.

## Main results

* `inspect_session`, `commitChanges_session` : the operations over sessions.
* `takes_inspect`, `takes_createWorktree`, `takes_commitChanges` : the numbers of commands.
-/

namespace Blackcell.Adapters.Worktree

open Blackcell.Kernel

/-- `GIT_WORKTREE_COMMAND_TIMEOUT_SECONDS`. -/
def gitWorktreeCommandTimeoutSeconds : ℕ := 120

/-- `MAX_GIT_WORKTREE_CREATE_COMMANDS`. -/
def maxGitWorktreeCreateCommands : ℕ := 15

/-- `MAX_GIT_WORKTREE_INSPECT_COMMANDS`. -/
def maxGitWorktreeInspectCommands : ℕ := 10

/-- `MAX_GIT_WORKTREE_COMMIT_COMMANDS`. -/
def maxGitWorktreeCommitCommands : ℕ := 23

/-! ### Ports -/

/-- What the lifecycle asks of its surroundings. -/
structure GitPort (m : Type → Type) where
  gitAt (root : String) (arguments : List String) : m BoundedProcessResult
  currentFiles : m FileSystem
  currentTree (path : String) : m CommitTree
  check {α : Type} (x : Except Raised α) : m α

namespace GitPort

variable {m : Type → Type} [Monad m] (port : GitPort m) (env : GitEnvironment)

/-- The output of a command that must succeed; `code` is raised if it does not. -/
def gitOutput (root : String) (arguments : List String) (code : LifecycleFailureCode) :
    m (List UInt8) := do
  let result ← port.gitAt root arguments
  port.check (Checked.require (result.returnCode = 0) (Raised.lifecycle code))
  pure result.stdout.captured

/-- The paths that a command lists. -/
def gitPaths (root : String) (arguments : List String) : m (List String) := do
  let output ← port.gitOutput root arguments .gitCommandFailed
  port.check (pathOutput output)

/-- The line that a command says; `code` is raised if it fails. -/
def gitLine (root : String) (arguments : List String) (code : LifecycleFailureCode) :
    m String := do
  let output ← port.gitOutput root arguments code
  port.check (singleLine output)

/-- `_canonical_repository_root`, in the lifecycle. -/
def canonicalRoot (root : String) : m String := do
  let fs ← port.currentFiles
  port.check ((canonicalRepositoryRoot fs root).mapError fun code ↦ .lifecycle (.contract code))

/-- `validate_base_commit`. -/
def validateBaseCommit (repositoryRoot baseCommit : String) : m Unit := do
  let root ← port.canonicalRoot repositoryRoot
  port.check (Checked.require (isCommit baseCommit) (Raised.lifecycle (.contract .invalidSpec)))
  let observed ← port.gitOutput root ["rev-parse", "--show-toplevel"] (.contract .invalidRepository)
  let line ← port.check (singleLine observed)
  let fs ← port.currentFiles
  port.check (Checked.require (fs.resolve line = some root)
    (Raised.lifecycle (.contract .invalidRepository)))
  let _ ← port.gitOutput root ["cat-file", "-e", baseCommit ++ "^{commit}"] .baseCommitNotFound

/-- `_validate_repository`. -/
def validateRepository (spec : WorktreeExecutionSpec) : m Unit := do
  port.validateBaseCommit spec.repositoryRoot spec.baseCommit
  let filters ← port.gitAt spec.repositoryRoot ["config", "--local", "--includes", "--name-only",
    "--null", "--get-regexp", externalFilterPattern]
  port.check (Checked.require (filters.returnCode ≠ 0)
    (Raised.lifecycle .unsafeRepositoryConfiguration))
  port.check (Checked.require (filters.returnCode = 1) (Raised.lifecycle .gitCommandFailed))

/-- `inspect`. -/
def inspect (spec : WorktreeExecutionSpec) : m WorktreeInspection := do
  port.validateRepository spec
  let root := spec.repositoryRoot
  let path := spec.worktreePath env.host
  let fs ← port.currentFiles
  port.check (requireWorktreeDirectory fs spec path)
  let actualRoot ← port.gitLine root ["-C", path, "rev-parse", "--show-toplevel"] .gitCommandFailed
  let fs ← port.currentFiles
  let resolved ← port.check (Checked.ofOption (fs.resolve actualRoot) invalidOutput)
  port.check (Checked.require (resolved = path) (Raised.lifecycle .worktreeConflict))
  let branch ← port.gitLine root ["-C", path, "symbolic-ref", "--quiet", "--short", "HEAD"]
    .worktreeConflict
  port.check (Checked.require (branch = spec.branchName env.host)
    (Raised.lifecycle .worktreeConflict))
  let headCommit ← port.gitLine root ["-C", path, "rev-parse", "HEAD"] .worktreeConflict
  port.check (Checked.require (isCommit headCommit) invalidOutput)
  let _ ← port.gitOutput root
    ["-C", path, "merge-base", "--is-ancestor", spec.baseCommit, headCommit] .worktreeConflict
  let baseRelative ← port.gitPaths root
    ["-C", path, "diff", "--name-only", "--no-renames", "-z", spec.baseCommit, "--"]
  let headRelative ← port.gitPaths root
    ["-C", path, "diff", "--name-only", "--no-renames", "-z", "HEAD", "--"]
  let untracked ← port.gitPaths root ["-C", path, "ls-files", "--others", "-z", "--"]
  port.check (inspectionOf env spec headCommit (sortedSet (baseRelative ++ untracked))
    (sortedSet (headRelative ++ untracked)))

/-- The part of `commit_changes` that stages the effects, commits them and observes the result. -/
def commitStaged (spec : WorktreeExecutionSpec) (effects : List WorktreeCommitEffect)
    (before : WorktreeInspection) (blobs : List (String × String)) : m WorktreeInspection := do
  let root := spec.repositoryRoot
  let path := spec.worktreePath env.host
  let _ ← port.gitOutput root
    (["-C", path, "add", "--force", "--all", "--"] ++ effectPaths effects) .commitFailed
  let listed ← port.gitAt root
    (["-C", path, "ls-files", "--stage", "-z", "--"] ++ effectPaths effects)
  let entries ← port.check (indexEntries listed.returnCode listed.stdout.captured)
  port.check (Checked.require (IsStaged entries blobs) commitFailure)
  let _ ← port.gitOutput root ["-C", path, "-c", "user.name=BlackCell", "-c",
    "user.email=blackcell@example.invalid", "-c", "commit.gpgSign=false", "commit", "--no-verify",
    "--no-gpg-sign", "--cleanup=verbatim", "--message=" ++ commitMessage spec] .commitFailed
  let after ← port.inspect env spec
  port.check (Checked.require (after.uncommittedPaths = [] ∧ IsCompliant after ∧
    after.headCommit ≠ before.headCommit ∧ after.changedPaths = before.changedPaths) commitFailure)
  pure after

/-- The part of `commit_changes` about a checkout that is not clean. -/
def commitDirty (spec : WorktreeExecutionSpec) (effects : List WorktreeCommitEffect)
    (before : WorktreeInspection) : m WorktreeInspection := do
  port.check (Checked.require (effectPaths effects = before.changedPaths ∧
    effectPaths effects = before.uncommittedPaths) commitFailure)
  let tree ← port.currentTree (spec.worktreePath env.host)
  let blobs ← port.check (expectedCommitBlobs env tree 0 effects)
  port.commitStaged env spec effects before blobs

/-- `commit_changes`. -/
def commitChanges (spec : WorktreeExecutionSpec) (effects : List WorktreeCommitEffect) :
    m WorktreeInspection := do
  port.check (Checked.require (IsSortedTuple (effectPaths effects))
    (Raised.lifecycle (.contract .invalidSpec)))
  let before ← port.inspect env spec
  port.check (Checked.require (IsCompliant before) (Raised.lifecycle .pathPolicyViolation))
  if before.uncommittedPaths = [] then do
    port.check (Checked.require (effects = []) commitFailure)
    pure before
  else port.commitDirty env spec effects before

end GitPort

/-! ### Sessions -/

/-- The port of sessions. -/
def session (env : GitEnvironment) : GitPort (Session ℕ Raised) where
  gitAt := Worktree.gitAt env
  currentFiles := Worktree.currentFiles env
  currentTree path := do
    let n ← get
    pure (env.tree n path)
  check := Session.check

section

variable (env : GitEnvironment) (spec : WorktreeExecutionSpec)

/-- An inspection over sessions. -/
theorem inspect_session : (session env).inspect env spec = Worktree.inspect env spec := rfl

/-- A commit over sessions. -/
theorem commitChanges_session (effects : List WorktreeCommitEffect) :
    (session env).commitChanges env spec effects = Worktree.commitChanges env spec effects := by
  rfl

/-! ### Metered computations -/

/-- The port that counts the commands. -/
def metered (env : GitEnvironment) : GitPort (Metered ℕ Raised) where
  gitAt root arguments := .step fun n ↦ ((Worktree.gitAt env root arguments n).map Prod.fst, n + 1)
  currentFiles := .step fun n ↦ (.ok (env.files n), n)
  currentTree path := .step fun n ↦ (.ok (env.tree n path), n)
  check := Metered.check

/-- The metered computation does what the session does. -/
def Agrees {α : Type} (x : Metered ℕ Raised α) (y : Session ℕ Raised α) : Prop :=
  ∀ n, y n = (x.exec n).1.map fun a ↦ (a, (x.exec n).2)

section Agreement

variable {env} {spec} {α β : Type} {root : String} {arguments : List String}
  {code : LifecycleFailureCode}

theorem Agrees.bind {x : Metered ℕ Raised α} {y : Session ℕ Raised α}
    {f : α → Metered ℕ Raised β} {g : α → Session ℕ Raised β} (h : Agrees x y)
    (hf : ∀ a, Agrees (f a) (g a)) : Agrees (x >>= f) (y >>= g) := by
  intro n
  change (y n >>= fun p ↦ g p.1 p.2) = _
  rw [h n]
  rcases hr : x.exec n with ⟨e | a, n'⟩
  · rw [Metered.exec_bind_of_error hr]
    rfl
  · rw [Metered.exec_bind_of_ok hr]
    exact hf a n'

theorem agrees_check (x : Except Raised α) : Agrees ((metered env).check x) (Session.check x) :=
  fun _ ↦ rfl

theorem agrees_pure (a : α) : Agrees (pure a) (pure a) := fun _ ↦ rfl

theorem agrees_currentFiles : Agrees (metered env).currentFiles (currentFiles env) := fun _ ↦ rfl

theorem agrees_currentTree {path : String} :
    Agrees ((metered env).currentTree path) ((session env).currentTree path) := fun _ ↦ rfl

theorem agrees_gitAt : Agrees ((metered env).gitAt root arguments) (gitAt env root arguments) := by
  intro n
  change _ = ((gitAt env root arguments n).map Prod.fst).map fun a ↦ (a, n + 1)
  rcases hr : gitAt env root arguments n with e | ⟨result, n'⟩
  · rfl
  · rw [(gitAt_eq_ok.mp hr).1]
    rfl

theorem agrees_gitOutput :
    Agrees ((metered env).gitOutput root arguments code) (gitOutput env root arguments code) :=
  Agrees.bind agrees_gitAt fun _ ↦ (agrees_check _).bind fun _ ↦ agrees_pure _

theorem agrees_gitLine :
    Agrees ((metered env).gitLine root arguments code) (gitLine env root arguments code) :=
  Agrees.bind agrees_gitOutput fun _ ↦ agrees_check _

theorem agrees_gitPaths :
    Agrees ((metered env).gitPaths root arguments) (gitPaths env root arguments) :=
  Agrees.bind agrees_gitOutput fun _ ↦ agrees_check _

theorem agrees_canonicalRoot :
    Agrees ((metered env).canonicalRoot root) (canonicalRoot env root) :=
  Agrees.bind agrees_currentFiles fun _ ↦ agrees_check _

theorem agrees_validateBaseCommit {commit : String} : Agrees
    ((metered env).validateBaseCommit root commit) (validateBaseCommit env root commit) := by
  refine Agrees.bind agrees_canonicalRoot fun root ↦ (agrees_check _).bind fun _ ↦ ?_
  refine Agrees.bind agrees_gitOutput fun observed ↦ (agrees_check _).bind fun line ↦ ?_
  refine Agrees.bind agrees_currentFiles fun fs ↦ (agrees_check _).bind fun _ ↦ ?_
  exact Agrees.bind agrees_gitOutput fun _ ↦ agrees_pure _

theorem agrees_validateRepository :
    Agrees ((metered env).validateRepository spec) (validateRepository env spec) := by
  refine Agrees.bind agrees_validateBaseCommit fun _ ↦ Agrees.bind agrees_gitAt fun filters ↦ ?_
  exact (agrees_check _).bind fun _ ↦ agrees_check _

/-- A metered inspection observes what the session observes. -/
theorem agrees_inspect : Agrees ((metered env).inspect env spec) (inspect env spec) := by
  refine Agrees.bind agrees_validateRepository fun _ ↦ Agrees.bind agrees_currentFiles fun fs ↦ ?_
  refine (agrees_check _).bind fun _ ↦ Agrees.bind agrees_gitLine fun actualRoot ↦ ?_
  refine Agrees.bind agrees_currentFiles fun fs ↦ (agrees_check _).bind fun resolved ↦ ?_
  refine (agrees_check _).bind fun _ ↦ Agrees.bind agrees_gitLine fun branch ↦ ?_
  refine (agrees_check _).bind fun _ ↦ Agrees.bind agrees_gitLine fun head ↦ ?_
  refine (agrees_check _).bind fun _ ↦ Agrees.bind agrees_gitOutput fun _ ↦ ?_
  refine Agrees.bind agrees_gitPaths fun base ↦ Agrees.bind agrees_gitPaths fun head ↦ ?_
  exact Agrees.bind agrees_gitPaths fun untracked ↦ agrees_check _

theorem agrees_commitStaged {effects : List WorktreeCommitEffect} {before : WorktreeInspection}
    {blobs : List (String × String)} :
    Agrees ((metered env).commitStaged env spec effects before blobs)
      (commitStaged env spec effects before blobs) := by
  refine Agrees.bind agrees_gitOutput fun _ ↦ Agrees.bind agrees_gitAt fun listed ↦ ?_
  refine (agrees_check _).bind fun entries ↦ (agrees_check _).bind fun _ ↦ ?_
  refine Agrees.bind agrees_gitOutput fun _ ↦ Agrees.bind agrees_inspect fun after ↦ ?_
  exact (agrees_check _).bind fun _ ↦ agrees_pure _

/-- A metered commit does what the session does. -/
theorem agrees_commitChanges {effects : List WorktreeCommitEffect} : Agrees
    ((metered env).commitChanges env spec effects) (commitChanges env spec effects) := by
  rw [← commitChanges_session]
  refine (agrees_check _).bind fun _ ↦ Agrees.bind agrees_inspect fun before ↦ ?_
  refine (agrees_check _).bind fun _ ↦ ?_
  split
  · exact (agrees_check _).bind fun _ ↦ agrees_pure _
  · refine (agrees_check _).bind fun _ ↦ Agrees.bind agrees_currentTree fun tree ↦ ?_
    exact (agrees_check _).bind fun blobs ↦ agrees_commitStaged

end Agreement

/-- What `lstat` says of the isolation root. -/
structure RootMetadata where
  isDirectory : Bool
  isOwned : Bool
  isPrivate : Bool

/-- The surroundings of the creation of a checkout: `none` where `mkdir` or `lstat` of the isolation
root raises, after `n` commands. -/
structure CheckoutEnvironment extends GitEnvironment where
  isolationRoot : ℕ → Option RootMetadata

/-- `_prepare_isolation_root`. -/
def prepareIsolationRoot (metadata : Option RootMetadata) : Except Raised Unit := do
  let metadata ← Checked.ofOption metadata (Raised.lifecycle (.contract .invalidIsolationRoot))
  Checked.require (metadata.isDirectory ∧ metadata.isOwned ∧ metadata.isPrivate)
    (Raised.lifecycle (.contract .invalidIsolationRoot))

/-- `_branch_exists`. -/
def branchExists : Metered ℕ Raised Bool := do
  let result ← (metered env).gitAt spec.repositoryRoot
    ["show-ref", "--verify", "--quiet", "refs/heads/" ++ spec.branchName env.host]
  .check (Checked.require (result.returnCode = 0 ∨ result.returnCode = 1)
    (Raised.lifecycle .gitCommandFailed))
  pure (result.returnCode = 0)

/-- The arguments of the command that adds a checkout. -/
def addArguments (exists? : Bool) : List String :=
  if exists? then ["worktree", "add", spec.worktreePath env.host, spec.branchName env.host]
  else ["worktree", "add", "--no-track", "-b", spec.branchName env.host,
    spec.worktreePath env.host, spec.baseCommit]

/-- A failure of an inspection, after a failed addition: any failure of the lifecycle is a conflict.
-/
def conflictOf : Raised → Raised
  | .lifecycle _ => .lifecycle .worktreeConflict
  | e => e

/-- The inspection after a failed addition. -/
def inspectConflict : Metered ℕ Raised WorktreeInspection :=
  tryCatch ((metered env).inspect env spec) fun e ↦ throw (conflictOf e)

/-- The part of `create` that adds the checkout. -/
def addWorktree : Metered ℕ Raised WorktreeInspection := do
  let exists? ← branchExists env spec
  let result ← (metered env).gitAt spec.repositoryRoot (addArguments env spec exists?)
  let fs ← (metered env).currentFiles
  if result.returnCode = 0 then (metered env).inspect env spec
  else if lexists fs (spec.worktreePath env.host) then inspectConflict env spec
  else throw (.lifecycle .worktreeConflict)

end

/-- `create`. -/
def createWorktree (env : CheckoutEnvironment) (spec : WorktreeExecutionSpec) :
    Metered ℕ Raised WorktreeInspection := do
  (metered env.toGitEnvironment).validateRepository spec
  let root ← (.step fun n ↦ (.ok (env.isolationRoot n), n) : Metered ℕ Raised (Option RootMetadata))
  .check (prepareIsolationRoot root)
  let fs ← (metered env.toGitEnvironment).currentFiles
  if lexists fs (spec.worktreePath env.host) then
    (metered env.toGitEnvironment).inspect env.toGitEnvironment spec
  else addWorktree env.toGitEnvironment spec

/-! ### The numbers of commands -/

/-- The number of commands that a computation runs is bounded. -/
abbrev Runs {α : Type} (n : ℕ) (x : Metered ℕ Raised α) : Prop := x.Takes id n n

section Commands

variable {env : GitEnvironment} {spec : WorktreeExecutionSpec} {root : String}
  {arguments : List String} {code : LifecycleFailureCode}

theorem takes_gitAt : Runs 1 ((metered env).gitAt root arguments) :=
  Metered.takes_step fun _ ↦ Nat.le_refl _

theorem takes_currentFiles : Runs 0 (metered env).currentFiles :=
  Metered.takes_step fun _ ↦ Nat.le_refl _

theorem takes_currentTree {path : String} : Runs 0 ((metered env).currentTree path) :=
  Metered.takes_step fun _ ↦ Nat.le_refl _

theorem takes_check {α : Type} {n : ℕ} (x : Except Raised α) : Runs n ((metered env).check x) :=
  Metered.takes_check x

theorem takes_gitOutput : Runs 1 ((metered env).gitOutput root arguments code) :=
  (takes_gitAt).then (Nat.le_refl _) fun _ ↦ (takes_check _).free fun _ ↦ Metered.takes_pure _

theorem takes_gitLine : Runs 1 ((metered env).gitLine root arguments code) :=
  (takes_gitOutput).then (Nat.le_refl _) fun _ ↦ takes_check _

theorem takes_gitPaths : Runs 1 ((metered env).gitPaths root arguments) :=
  (takes_gitOutput).then (Nat.le_refl _) fun _ ↦ takes_check _

theorem takes_validateBaseCommit {commit : String} :
    Runs 2 ((metered env).validateBaseCommit root commit) := by
  refine ((takes_currentFiles).free fun _ ↦ takes_check _).free fun root ↦ ?_
  refine (takes_check _).free fun _ ↦ (takes_gitOutput).then (by decide) fun observed ↦ ?_
  refine (takes_check _).free fun line ↦ (takes_currentFiles).free fun fs ↦ ?_
  exact (takes_check _).free fun _ ↦ (takes_gitOutput).then (by decide) fun _ ↦ Metered.takes_pure _

theorem takes_validateRepository : Runs 3 ((metered env).validateRepository spec) := by
  refine (takes_validateBaseCommit).then (by decide) fun _ ↦ (takes_gitAt).then (by decide) fun _ ↦ ?_
  exact (takes_check _).free fun _ ↦ takes_check _

/-- **Inspections.** An inspection runs at most ten commands. -/
theorem takes_inspect : Runs maxGitWorktreeInspectCommands ((metered env).inspect env spec) := by
  refine (takes_validateRepository).then (by decide) fun _ ↦ (takes_currentFiles).free fun fs ↦ ?_
  refine (takes_check _).free fun _ ↦ (takes_gitLine).then (by decide) fun actualRoot ↦ ?_
  refine (takes_currentFiles).free fun fs ↦ (takes_check _).free fun _ ↦ ?_
  refine (takes_check _).free fun _ ↦ ?_
  refine (takes_gitLine).then (by decide) fun branch ↦ (takes_check _).free fun _ ↦ ?_
  refine (takes_gitLine).then (by decide) fun head ↦ (takes_check _).free fun _ ↦ ?_
  refine (takes_gitOutput).then (by decide) fun _ ↦ (takes_gitPaths).then (by decide) fun _ ↦ ?_
  refine (takes_gitPaths).then (by decide) fun _ ↦ ?_
  exact (takes_gitPaths).then (by decide) fun _ ↦ takes_check _

theorem takes_commitStaged {effects : List WorktreeCommitEffect} {before : WorktreeInspection}
    {blobs : List (String × String)} :
    Runs 13 ((metered env).commitStaged env spec effects before blobs) := by
  refine (takes_gitOutput).then (by decide) fun _ ↦ (takes_gitAt).then (by decide) fun _ ↦ ?_
  refine (takes_check _).free fun _ ↦ (takes_check _).free fun _ ↦ ?_
  refine (takes_gitOutput).then (by decide) fun _ ↦ (takes_inspect).then (by decide) fun _ ↦ ?_
  exact (takes_check _).free fun _ ↦ Metered.takes_pure _

/-- **Commits.** A commit runs at most as many commands as two inspections and three more. -/
theorem takes_commitChanges {effects : List WorktreeCommitEffect} :
    Runs maxGitWorktreeCommitCommands ((metered env).commitChanges env spec effects) := by
  refine (takes_check _).free fun _ ↦ (takes_inspect).then (by decide) fun before ↦ ?_
  refine (takes_check _).free fun _ ↦ ?_
  split
  · exact (takes_check _).free fun _ ↦ Metered.takes_pure _
  · refine (takes_check _).free fun _ ↦ (takes_currentTree).free fun _ ↦ ?_
    exact (takes_check _).free fun _ ↦ takes_commitStaged

/-- A commit without effects only inspects: it refuses a checkout that is not clean. -/
theorem takes_commitChanges_nil :
    Runs maxGitWorktreeInspectCommands ((metered env).commitChanges env spec []) := by
  refine (takes_check _).free fun _ ↦ (takes_inspect).then (by decide) fun before ↦ ?_
  refine (takes_check _).free fun _ ↦ ?_
  split
  · exact (takes_check _).free fun _ ↦ Metered.takes_pure _
  · rename_i hdirty
    have hrefused : (Checked.require (effectPaths [] = before.changedPaths ∧
        effectPaths [] = before.uncommittedPaths) commitFailure : Except Raised Unit) =
          .error commitFailure := if_neg fun h ↦ hdirty h.2.symm
    rw [GitPort.commitDirty]
    change Runs _ (Metered.check _ >>= _)
    rw [hrefused]
    exact Metered.takes_refused _

theorem takes_branchExists : Runs 1 (branchExists env spec) :=
  (takes_gitAt).then (Nat.le_refl _) fun _ ↦ (Metered.takes_check _).free fun _ ↦ Metered.takes_pure _

theorem takes_inspectConflict : Runs maxGitWorktreeInspectCommands (inspectConflict env spec) :=
  (takes_inspect.recover fun e ↦ Metered.takes_throw (m := 0) (n := 0) _).mono
    (by decide) (by decide)

theorem takes_addWorktree : Runs 12 (addWorktree env spec) := by
  refine (takes_branchExists).then (by decide) fun _ ↦ (takes_gitAt).then (by decide) fun result ↦ ?_
  refine (takes_currentFiles).free fun fs ↦ ?_
  split
  · exact takes_inspect
  · split
    · exact takes_inspectConflict
    · exact Metered.takes_throw _

/-- **Creations.** The creation of a checkout runs at most fifteen commands. -/
theorem takes_createWorktree {env : CheckoutEnvironment} :
    Runs maxGitWorktreeCreateCommands (createWorktree env spec) := by
  refine (takes_validateRepository).then (by decide) fun _ ↦ ?_
  refine Metered.Takes.free (Metered.takes_step fun _ ↦ Nat.le_refl _) fun root ↦ ?_
  refine (Metered.takes_check _).free fun _ ↦ (takes_currentFiles).free fun fs ↦ ?_
  split
  · exact takes_inspect.mono (by decide) (by decide)
  · exact takes_addWorktree

end Commands

end Blackcell.Adapters.Worktree
