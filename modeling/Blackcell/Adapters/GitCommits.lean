import Blackcell.Adapters.GitEvidence

/-!
# Commits and removals

A commit is admitted when the effects are the changed paths, the files are those that the effects
declare, and the index holds their blobs and nothing else. The path of the root of a checkout is a
normalised path, but it has no last component: an effect for it lets an exception of the language
escape, where everything else fails closed.

## Main definitions

* `Expected` : the blobs that the files of some effects have.
* `Committed`, `Removed` : what the outputs of a commit and of a removal denote.
* `MeetsRoot` : a commit comes to an effect for the path of the root.

## Main results

* `commitChanges_eq_ok`, `removeSuccess_eq_ok` : the operations return what the outputs denote.
* `failsClosed_iff` : the operations fail closed exactly if no commit comes to the root.
-/

namespace Blackcell.Adapters.Worktree

open Blackcell.Kernel

variable (env : GitEnvironment)

/-! ### Expected blobs -/

/-- The parent of a path can be opened, and the path has a last component. -/
def OpensParent (tree : CommitTree) (path : String) : Prop :=
  tree.opens (pathParts path).dropLast ∧ pathParts path ≠ []

/-- A regular file stands at a path, with this content. -/
def StandsAt (tree : CommitTree) (path : String) (payload : ByteArray) : Prop :=
  OpensParent tree path ∧ ∃ file, tree.file (pathParts path) = some file ∧ file.isRegular ∧
    file.size ≤ maxCommitEffectBytes ∧ file.payload.size = file.size ∧ file.unchanged ∧
    file.payload = payload

/-- The files of some effects have these blobs: a deleted file is absent, any other has a content
with the digest of its effect. -/
inductive Expected (tree : CommitTree) :
    Nat → List WorktreeCommitEffect → List (String × String) → Prop
  | nil {totalBytes} : Expected tree totalBytes [] []
  | deleted {totalBytes effect effects blobs} (digest : effect.afterDigest = none)
    (parent : OpensParent tree effect.path) (absent : tree.isAbsent (pathParts effect.path))
    (rest : Expected tree totalBytes effects blobs) :
    Expected tree totalBytes (effect :: effects) blobs
  | written {totalBytes effect effects blobs payload} (stands : StandsAt tree effect.path payload)
    (digest : effect.afterDigest = some (env.digest.bytesDigest payload))
    (bounded : totalBytes + payload.size ≤ maxCommitTotalBytes)
    (rest : Expected tree (totalBytes + payload.size) effects blobs) :
    Expected tree totalBytes (effect :: effects) ((effect.path, blobId env payload) :: blobs)

section Blobs

variable {env} {tree : CommitTree} {totalBytes : Nat} {effects : List WorktreeCommitEffect}
  {blobs : List (String × String)} {path : String}

theorem openCommitParent_eq_ok {u : Unit} :
    openCommitParent tree path = .ok u ↔ OpensParent tree path := by
  simp only [openCommitParent, Checked.bind_eq_ok, Checked.require_eq_ok, Checked.exists_unit,
    Checked.ofOption_eq_ok, Checked.pure_eq_ok, OpensParent]
  refine and_congr_right fun _ ↦ ⟨?_, fun hne ↦ ⟨_, List.getLast?_eq_some_getLast hne, trivial⟩⟩
  rintro ⟨name, hname, -⟩ hnil
  simp [hnil] at hname

theorem readCommitPath_eq_ok {payload : ByteArray} :
    readCommitPath tree path = .ok payload ↔ StandsAt tree path payload := by
  simp only [readCommitPath, Checked.bind_eq_ok, openCommitParent_eq_ok, Checked.exists_unit,
    Checked.ofOption_eq_ok, Checked.require_eq_ok, Checked.pure_eq_ok, StandsAt]
  refine and_congr_right fun _ ↦ exists_congr fun file ↦ and_congr_right fun _ ↦ ?_
  constructor
  · rintro ⟨⟨hregular, hsize⟩, ⟨heq, -, hunchanged⟩, hpayload⟩
    exact ⟨hregular, hsize, heq, hunchanged, hpayload⟩
  · rintro ⟨hregular, hsize, heq, hunchanged, hpayload⟩
    exact ⟨⟨hregular, hsize⟩, ⟨heq, heq ▸ hsize, hunchanged⟩, hpayload⟩

theorem requireCommitPathAbsent_eq_ok {u : Unit} : requireCommitPathAbsent tree path = .ok u ↔
    OpensParent tree path ∧ tree.isAbsent (pathParts path) := by
  simp only [requireCommitPathAbsent, Checked.bind_eq_ok, openCommitParent_eq_ok,
    Checked.exists_unit, Checked.require_eq_ok]

/-- **Blobs.** The blobs of some effects are computed exactly if their files stand. -/
theorem expectedCommitBlobs_eq_ok : expectedCommitBlobs env tree totalBytes effects = .ok blobs ↔
    Expected env tree totalBytes effects blobs := by
  induction effects generalizing totalBytes blobs with
  | nil =>
    rw [expectedCommitBlobs, Checked.pure_eq_ok]
    constructor
    · rintro rfl
      exact .nil
    · rintro ⟨⟩
      rfl
  | cons effect effects ih =>
    rw [expectedCommitBlobs]
    cases hdigest : effect.afterDigest with
    | none =>
      simp only [Checked.bind_eq_ok, requireCommitPathAbsent_eq_ok, Checked.exists_unit, ih]
      constructor
      · rintro ⟨⟨hparent, habsent⟩, hrest⟩
        exact .deleted hdigest hparent habsent hrest
      · intro h
        cases h with
        | deleted digest parent absent rest => exact ⟨⟨parent, absent⟩, rest⟩
        | written stands digest => simp [hdigest] at digest
    | some afterDigest =>
      simp only [Checked.bind_eq_ok, readCommitPath_eq_ok, Checked.require_eq_ok,
        Checked.exists_unit, Checked.pure_eq_ok, ih]
      constructor
      · rintro ⟨payload, hstands, ⟨hbounded, rfl⟩, blobs', hrest, rfl⟩
        exact .written hstands hdigest hbounded hrest
      · intro h
        cases h with
        | deleted digest => simp [hdigest] at digest
        | written stands digest bounded rest =>
          rw [hdigest, Option.some.injEq] at digest
          exact ⟨_, stands, ⟨bounded, digest.symm⟩, _, rest, rfl⟩

/-- Only the path of the root has no component. -/
theorem pathParts_eq_nil (h : isRepositoryPath path = true) : pathParts path = [] ↔ path = "." := by
  obtain ⟨-, -, -, -, hrelative, hposix, -⟩ := isRepositoryPath_iff.mp h
  constructor
  · intro hnil
    have hroot : pathRoot path = "" := by simpa [isAbsolute] using hrelative
    rw [asPosix, if_pos ⟨hroot, hnil⟩] at hposix
    exact hposix.symm
  · rintro rfl
    decide

/-- The computation of the blobs meets an effect for the path of the root. -/
def MeetsRootAt (env : GitEnvironment) (tree : CommitTree) (totalBytes : Nat)
    (effects : List WorktreeCommitEffect) : Prop :=
  tree.opens [] ∧ ∃ earlier effect later blobs, effects = earlier ++ effect :: later ∧
    effect.path = "." ∧ Expected env tree totalBytes earlier blobs

/-- What a check of a file of a commit raises. -/
def RaisesAt (tree : CommitTree) (path : String) (e : Raised) : Prop :=
  e = commitFailure ∨ e = .indexError ∧ tree.opens [] ∧ pathParts path = []

theorem raises_openCommitParent : Checked.Raises (RaisesAt tree path) (openCommitParent tree path) := by
  unfold openCommitParent
  intro e he
  by_cases hopens : tree.opens (pathParts path).dropLast
  · rw [Checked.require_bind_of_true hopens] at he
    cases hparts : pathParts path with
    | nil =>
      rw [hparts] at he hopens
      exact .inr ⟨(Except.error.inj he).symm, hopens, hparts⟩
    | cons part parts =>
      rw [hparts, List.getLast?_eq_some_getLast (List.cons_ne_nil _ _)] at he
      cases he
  · rw [Checked.require, if_neg hopens] at he
    exact .inl (Except.error.inj he).symm

theorem raises_readCommitPath : Checked.Raises (RaisesAt tree path) (readCommitPath tree path) := by
  refine Checked.raises_bind raises_openCommitParent fun _ ↦ ?_
  refine Checked.raises_bind (Checked.raises_ofOption (.inl rfl)) fun _ ↦ ?_
  refine Checked.raises_bind (Checked.raises_require (.inl rfl)) fun _ ↦ ?_
  exact Checked.raises_bind (Checked.raises_require (.inl rfl)) fun _ ↦ Checked.raises_ok _

theorem raises_requireCommitPathAbsent :
    Checked.Raises (RaisesAt tree path) (requireCommitPathAbsent tree path) :=
  Checked.raises_bind raises_openCommitParent fun _ ↦ Checked.raises_require (.inl rfl)

/-- The first effect is for the path of the root. -/
theorem meetsRootAt_cons {effect : WorktreeCommitEffect} (hopens : tree.opens [] = true)
    (hnil : pathParts effect.path = []) : MeetsRootAt env tree totalBytes (effect :: effects) :=
  ⟨hopens, [], effect, effects, [], rfl, (pathParts_eq_nil effect.isPath).mp hnil, .nil⟩

/-- **Blobs.** The computation of the blobs raises a failure of the commit, or it meets an effect
for the path of the root. -/
theorem raises_expectedCommitBlobs : Checked.Raises
    (fun e ↦ e = commitFailure ∨ e = .indexError ∧ MeetsRootAt env tree totalBytes effects)
    (expectedCommitBlobs env tree totalBytes effects) := by
  induction effects generalizing totalBytes with
  | nil => exact Checked.raises_ok _
  | cons effect effects ih =>
    rw [expectedCommitBlobs]
    cases hdigest : effect.afterDigest with
    | none =>
      intro e he
      cases habsent : requireCommitPathAbsent tree effect.path with
      | error e' =>
        rw [habsent] at he
        obtain rfl := Except.error.inj he
        exact (raises_requireCommitPathAbsent _ habsent).imp id fun ⟨heq, hopens, hnil⟩ ↦
          ⟨heq, meetsRootAt_cons hopens hnil⟩
      | ok =>
        rw [habsent] at he
        obtain ⟨hparent, hisAbsent⟩ := requireCommitPathAbsent_eq_ok.mp habsent
        refine (ih e he).imp id fun ⟨heq, hopens, earlier, root, later, blobs, hsplit, hroot,
          hexpected⟩ ↦ ⟨heq, hopens, effect :: earlier, root, later, blobs, ?_, hroot,
            .deleted hdigest hparent hisAbsent hexpected⟩
        rw [hsplit, List.cons_append]
    | some afterDigest =>
      intro e he
      cases hread : readCommitPath tree effect.path with
      | error e' =>
        rw [hread] at he
        obtain rfl := Except.error.inj he
        exact (raises_readCommitPath _ hread).imp id fun ⟨heq, hopens, hnil⟩ ↦
          ⟨heq, meetsRootAt_cons hopens hnil⟩
      | ok payload =>
        rw [hread] at he
        dsimp only at he
        rw [Checked.ok_bind] at he
        by_cases hfits : totalBytes + payload.size ≤ maxCommitTotalBytes ∧
            env.digest.bytesDigest payload = afterDigest
        · rw [Checked.require_bind_of_true hfits] at he
          have hrest : expectedCommitBlobs env tree (totalBytes + payload.size) effects =
              .error e := by
            cases hrest : expectedCommitBlobs env tree (totalBytes + payload.size) effects with
            | error e' =>
              rw [hrest] at he
              rw [Except.error.inj he]
            | ok blobs =>
              rw [hrest] at he
              cases he
          refine (ih e hrest).imp id fun ⟨heq, hopens, earlier, root, later, blobs, hsplit, hroot,
            hexpected⟩ ↦ ⟨heq, hopens, effect :: earlier, root, later, _, ?_, hroot,
              .written (readCommitPath_eq_ok.mp hread) (hfits.2 ▸ hdigest) hfits.1 hexpected⟩
          rw [hsplit, List.cons_append]
        · rw [Checked.require, if_neg hfits] at he
          exact .inl (Except.error.inj he).symm

/-- An effect for the path of the root lets an exception of the language escape. -/
theorem expectedCommitBlobs_of_meetsRootAt (h : MeetsRootAt env tree totalBytes effects) :
    expectedCommitBlobs env tree totalBytes effects = .error .indexError := by
  obtain ⟨hopens, earlier, effect, later, blobs, rfl, hroot, hexpected⟩ := h
  have hnil : pathParts "." = [] := by decide
  have hparent : openCommitParent tree effect.path = .error .indexError := by
    rw [openCommitParent, hroot, hnil, List.dropLast_nil, Checked.require_bind_of_true hopens]
    rfl
  induction hexpected with
  | nil =>
    rw [List.nil_append, expectedCommitBlobs]
    cases effect.afterDigest with
    | none => simp only [requireCommitPathAbsent, hparent, Checked.error_bind]
    | some afterDigest => simp only [readCommitPath, hparent, Checked.error_bind]
  | deleted digest parent absent rest ih =>
    have habsent := requireCommitPathAbsent_eq_ok (u := ()).mpr ⟨parent, absent⟩
    rw [List.cons_append, expectedCommitBlobs, digest]
    simp only [habsent, Checked.ok_bind, ih]
  | written stands digest bounded rest ih =>
    rw [List.cons_append, expectedCommitBlobs, digest]
    simp only [readCommitPath_eq_ok.mpr stands, Checked.ok_bind]
    rw [Checked.require_bind_of_true ⟨bounded, trivial⟩, ih, Checked.error_bind]

end Blobs

/-! ### Commits -/

/-- The commands from the `n`-th on denote what a commit left, before the `n'`-th: the checkout was
clean and there was nothing to commit, or the effects were committed. -/
inductive Committed (spec : WorktreeExecutionSpec) (effects : List WorktreeCommitEffect) (n : Nat) :
    WorktreeInspection → Nat → Prop
  | unchanged {i} (none : effects = []) (inspected : Inspected env spec n i)
    (compliant : IsCompliant i) (clean : i.uncommittedPaths = []) :
    Committed spec effects n i (n + 10)
  | committed {before i blobs entries output} (sorted : IsSortedTuple (effectPaths effects))
    (inspectedBefore : Inspected env spec n before) (compliantBefore : IsCompliant before)
    (dirty : before.uncommittedPaths ≠ [])
    (changed : effectPaths effects = before.changedPaths)
    (uncommitted : effectPaths effects = before.uncommittedPaths)
    (expected : Expected env (env.tree (n + 10) (spec.worktreePath env.host)) 0 effects blobs)
    (added : Succeeded env spec.repositoryRoot (["-C", spec.worktreePath env.host, "add", "--force",
      "--all", "--"] ++ effectPaths effects) (n + 10))
    (listed : Exited env spec.repositoryRoot (["-C", spec.worktreePath env.host, "ls-files",
      "--stage", "-z", "--"] ++ effectPaths effects) (n + 11) 0 output)
    (lists : ListsEntries output entries) (staged : IsStaged entries blobs)
    (recorded : Succeeded env spec.repositoryRoot ["-C", spec.worktreePath env.host, "-c",
      "user.name=BlackCell", "-c", "user.email=blackcell@example.invalid", "-c",
      "commit.gpgSign=false", "commit", "--no-verify", "--no-gpg-sign", "--cleanup=verbatim",
      "--message=" ++ commitMessage spec] (n + 12))
    (inspected : Inspected env spec (n + 13) i) (compliant : IsCompliant i)
    (clean : i.uncommittedPaths = []) (head : i.headCommit ≠ before.headCommit)
    (paths : i.changedPaths = before.changedPaths) : Committed spec effects n i (n + 23)

section Commits

variable {env} {spec : WorktreeExecutionSpec} {effects : List WorktreeCommitEffect} {n n' : Nat}
  {i : WorktreeInspection}

/-- **Commits.** A commit returns what the outputs denote: nothing was to be committed, or exactly
the effects were. -/
theorem commitChanges_eq_ok :
    commitChanges env spec effects n = .ok (i, n') ↔ Committed env spec effects n i n' := by
  simp only [commitChanges, Session.bind_eq_ok, Session.check_eq_ok, Checked.require_eq_ok,
    inspect_eq_ok]
  constructor
  · rintro ⟨_, _, ⟨hsorted, rfl⟩, before, _, ⟨rfl, hbefore⟩, _, _, ⟨hcompliant, rfl⟩, h⟩
    split at h
    · rename_i hclean
      simp only [Session.bind_eq_ok, Session.check_eq_ok, Checked.require_eq_ok,
        Session.pure_eq_ok] at h
      obtain ⟨_, _, ⟨hnone, rfl⟩, rfl, rfl⟩ := h
      exact .unchanged hnone hbefore hcompliant hclean
    · rename_i hdirty
      simp only [Session.bind_eq_ok, Session.check_eq_ok, Checked.require_eq_ok, Session.get_eq_ok,
        expectedCommitBlobs_eq_ok, commitStaged, gitOutput_eq_ok, gitAt_eq_ok, indexEntries_eq_ok,
        inspect_eq_ok, Session.pure_eq_ok] at h
      obtain ⟨_, _, ⟨⟨hchanged, huncommitted⟩, rfl⟩, _, _, ⟨rfl, rfl⟩, h⟩ := h
      obtain ⟨blobs, _, ⟨hexpected, rfl⟩, _, _, ⟨rfl, hadded⟩, h⟩ := h
      obtain ⟨result, _, ⟨rfl, hrun, hout, herr⟩, entries, _, h⟩ := h
      obtain ⟨⟨⟨hcode, hentries⟩, rfl⟩, _, _, ⟨hstaged, rfl⟩, _, h⟩ := h
      obtain ⟨_, ⟨rfl, hrecorded⟩, after, _, ⟨rfl, hafter⟩, _, h⟩ := h
      obtain ⟨_, ⟨⟨hclean, hcompliant', hhead, hpaths⟩, rfl⟩, rfl, rfl⟩ := h
      exact .committed hsorted hbefore hcompliant hdirty hchanged huncommitted hexpected
        ⟨_, hadded⟩ ⟨result, hrun, hout, herr, hcode, rfl⟩ hentries hstaged ⟨_, hrecorded⟩ hafter
        hcompliant' hclean hhead hpaths
  · intro h
    cases h with
    | unchanged none inspected compliant clean =>
      subst none
      refine ⟨⟨⟩, _, ⟨⟨List.nodup_nil, List.Pairwise.nil⟩, rfl⟩, i, _, ⟨rfl, inspected⟩, ⟨⟩, _,
        ⟨compliant, rfl⟩, ?_⟩
      rw [if_pos clean]
      simp only [Session.bind_eq_ok, Session.check_eq_ok, Checked.require_eq_ok, Session.pure_eq_ok]
      exact ⟨⟨⟩, _, ⟨trivial, rfl⟩, trivial, rfl⟩
    | @committed before _ blobs entries output sorted inspectedBefore compliantBefore dirty changed
        uncommitted expected added listed lists staged recorded inspected compliant clean head
        paths =>
      refine ⟨⟨⟩, _, ⟨sorted, rfl⟩, before, _, ⟨rfl, inspectedBefore⟩, ⟨⟩, _,
        ⟨compliantBefore, rfl⟩, ?_⟩
      rw [if_neg dirty]
      obtain ⟨_, hadded⟩ := added
      obtain ⟨result, hrun, hout, herr, hcode, rfl⟩ := listed
      obtain ⟨_, hrecorded⟩ := recorded
      simp only [Session.bind_eq_ok, Session.check_eq_ok, Checked.require_eq_ok, Session.get_eq_ok,
        expectedCommitBlobs_eq_ok, commitStaged, gitOutput_eq_ok, gitAt_eq_ok, indexEntries_eq_ok,
        inspect_eq_ok, Session.pure_eq_ok]
      exact ⟨⟨⟩, _, ⟨⟨changed, uncommitted⟩, rfl⟩, _, _, ⟨rfl, rfl⟩, blobs, _, ⟨expected, rfl⟩, _, _,
        ⟨rfl, hadded⟩, result, _, ⟨rfl, hrun, hout, herr⟩, entries, _, ⟨⟨hcode, lists⟩, rfl⟩, ⟨⟩, _,
        ⟨staged, rfl⟩, _, _, ⟨rfl, hrecorded⟩, i, _, ⟨rfl, inspected⟩, ⟨⟩, _,
        ⟨⟨clean, compliant, head, paths⟩, rfl⟩, rfl, rfl⟩

end Commits

/-! ### Removals -/

/-- The commands from the `n`-th on confirm that a checkout is gone, and that its branch is at a
commit. -/
structure Confirmed (spec : WorktreeExecutionSpec) (head : String) (n : Nat) : Prop where
  absent : lexists (env.files n) (spec.worktreePath env.host) = false
  unregistered : ∃ output, Exited env spec.repositoryRoot
    ["worktree", "list", "--porcelain", "-z"] n 0 output ∧
    ListsOthers output (spec.worktreePath env.host)
  branch : SaysLine env spec.repositoryRoot
    ["rev-parse", "--verify", "refs/heads/" ++ spec.branchName env.host ++ "^{commit}"] (n + 1) head

/-- The evidence is about the checkout of a specification, whose branch is at a commit. -/
structure Retains (spec : WorktreeExecutionSpec) (head : String) (r : WorktreeRemoval) : Prop where
  specDigest : r.specDigest = spec.digest env.host
  leaseDigest : r.leaseDigest = spec.lease.digest env.host
  worktreePath : r.worktreePath = spec.worktreePath env.host
  branchName : r.branchName = spec.branchName env.host
  head : r.retainedHeadCommit = head

/-- The commands from the `n`-th on denote a removal, before the `n'`-th: the checkout was gone, or it
was clean, and was removed. -/
inductive Removed (spec : WorktreeExecutionSpec) (expectedHead : Option String) (n : Nat)
    (r : WorktreeRemoval) : Nat → Prop
  | gone {head} (absent : lexists (env.files n) (spec.worktreePath env.host) = false)
    (expected : expectedHead = some head) (confirmed : Confirmed env spec head n)
    (retains : Retains env spec head r) : Removed spec expectedHead n r (n + 2)
  | removed {i} (isCommit : ∀ head ∈ expectedHead, isCommit head)
    (present : lexists (env.files n) (spec.worktreePath env.host) = true)
    (inspected : Inspected env spec n i) (clean : i.uncommittedPaths = [])
    (compliant : IsCompliant i) (expected : ∀ head ∈ expectedHead, i.headCommit = head)
    (removed : Succeeded env spec.repositoryRoot
      ["worktree", "remove", spec.worktreePath env.host] (n + 10))
    (confirmed : Confirmed env spec i.headCommit (n + 11))
    (retains : Retains env spec i.headCommit r) : Removed spec expectedHead n r (n + 13)

section Removals

variable {env} {spec : WorktreeExecutionSpec} {head : String} {expectedHead : Option String}
  {n n' : Nat} {r : WorktreeRemoval}

theorem removalOf_eq_ok : removalOf env spec head = .ok r ↔ Retains env spec head r := by
  unfold removalOf
  constructor
  · intro h
    split at h
    · obtain rfl := Except.ok.inj h
      exact ⟨rfl, rfl, rfl, rfl, rfl⟩
    · cases h
  · obtain ⟨specDigest, leaseDigest, worktreePath, branchName, retained, isCheckout, isHead⟩ := r
    rintro ⟨rfl, rfl, rfl, rfl, rfl⟩
    exact dif_pos ⟨isCheckout, isHead⟩

theorem confirmSuccessRemoved_eq_ok : confirmSuccessRemoved env spec head n = .ok (r, n') ↔
    n' = n + 2 ∧ Confirmed env spec head n ∧ Retains env spec head r := by
  simp only [confirmSuccessRemoved, worktreeIsRegistered, Session.bind_eq_ok, currentFiles_eq_ok,
    Session.check_eq_ok, Checked.require_eq_ok, gitOutput_eq_ok, gitLine_eq_ok, removalOf_eq_ok]
  constructor
  · rintro ⟨_, _, ⟨rfl, rfl⟩, _, _, ⟨habsent, rfl⟩, h⟩
    obtain ⟨_, _, ⟨output, _, ⟨rfl, hlisted⟩, hlist, rfl⟩, h⟩ := h
    obtain ⟨_, _, ⟨rfl, rfl⟩, _, _, ⟨rfl, hbranch⟩, h⟩ := h
    obtain ⟨_, _, ⟨rfl, rfl⟩, hretains, rfl⟩ := h
    exact ⟨rfl, ⟨Bool.not_eq_true _ ▸ habsent, ⟨output, hlisted, listsWorktree_eq_false.mp hlist⟩,
      hbranch⟩, hretains⟩
  · rintro ⟨rfl, ⟨habsent, ⟨output, hlisted, hlist⟩, hbranch⟩, hretains⟩
    exact ⟨_, _, ⟨rfl, rfl⟩, ⟨⟩, _, ⟨by simp [habsent], rfl⟩, false, _, ⟨output, _, ⟨rfl, hlisted⟩,
      listsWorktree_eq_false.mpr hlist, rfl⟩, ⟨⟩, _, ⟨rfl, rfl⟩, _, _, ⟨rfl, hbranch⟩, ⟨⟩, _,
      ⟨rfl, rfl⟩, hretains, rfl⟩

/-- **Removals.** A removal is returned exactly if the outputs denote it. -/
theorem removeSuccess_eq_ok : removeSuccess env spec expectedHead n = .ok (r, n') ↔
    Removed env spec expectedHead n r n' := by
  simp only [removeSuccess, Session.bind_eq_ok, Session.check_eq_ok, Checked.require_eq_ok,
    currentFiles_eq_ok]
  constructor
  · rintro ⟨_, _, ⟨hcommit, rfl⟩, _, _, ⟨rfl, rfl⟩, h⟩
    split at h
    · rename_i hpresent
      simp only [removeExisting, Session.bind_eq_ok, inspect_eq_ok, Session.check_eq_ok,
        Checked.require_eq_ok, gitOutput_eq_ok, currentFiles_eq_ok,
        confirmSuccessRemoved_eq_ok] at h
      obtain ⟨i, _, ⟨rfl, hinspected⟩, _, _, ⟨hclean, rfl⟩, h⟩ := h
      obtain ⟨_, _, ⟨hcompliant, rfl⟩, _, _, ⟨hexpected, rfl⟩, h⟩ := h
      obtain ⟨_, _, ⟨rfl, hremoved⟩, _, _, ⟨rfl, rfl⟩, h⟩ := h
      obtain ⟨_, _, ⟨-, rfl⟩, rfl, hconfirmed, hretains⟩ := h
      exact .removed hcommit hpresent hinspected hclean hcompliant hexpected ⟨_, hremoved⟩ hconfirmed
        hretains
    · rename_i habsent
      simp only [Session.bind_eq_ok, Session.check_eq_ok, Checked.ofOption_eq_ok,
        confirmSuccessRemoved_eq_ok] at h
      obtain ⟨head, _, ⟨hexpected, rfl⟩, rfl, hconfirmed, hretains⟩ := h
      exact .gone hconfirmed.absent hexpected hconfirmed hretains
  · intro h
    cases h with
    | @gone head absent expected confirmed retains =>
      have hcommit : ∀ head ∈ expectedHead, isCommit head := by
        rintro head' hmem
        rw [expected, Option.mem_some_iff] at hmem
        rw [← hmem, ← retains.head]
        exact r.isHead
      refine ⟨⟨⟩, _, ⟨hcommit, rfl⟩, _, _, ⟨rfl, rfl⟩, ?_⟩
      rw [if_neg (by simp [absent])]
      simp only [Session.bind_eq_ok, Session.check_eq_ok, Checked.ofOption_eq_ok,
        confirmSuccessRemoved_eq_ok]
      exact ⟨head, _, ⟨expected, rfl⟩, rfl, confirmed, retains⟩
    | @removed i isCommit present inspected clean compliant expected removed confirmed retains =>
      refine ⟨⟨⟩, _, ⟨isCommit, rfl⟩, _, _, ⟨rfl, rfl⟩, ?_⟩
      rw [if_pos present]
      simp only [removeExisting, Session.bind_eq_ok, inspect_eq_ok, Session.check_eq_ok,
        Checked.require_eq_ok, gitOutput_eq_ok, currentFiles_eq_ok, confirmSuccessRemoved_eq_ok]
      obtain ⟨_, hremoved⟩ := removed
      exact ⟨i, _, ⟨rfl, inspected⟩, ⟨⟩, _, ⟨clean, rfl⟩, ⟨⟩, _, ⟨compliant, rfl⟩, ⟨⟩, _,
        ⟨expected, rfl⟩, _, _, ⟨rfl, hremoved⟩, _, _, ⟨rfl, rfl⟩, ⟨⟩, _,
        ⟨by simp [confirmed.absent], rfl⟩, rfl, confirmed, retains⟩

end Removals

/-! ### Failing closed -/

/-- A `WorktreeLifecycleError`. -/
def IsLifecycle (e : Raised) : Prop := ∃ code, e = .lifecycle code

theorem isLifecycle (code : LifecycleFailureCode) : IsLifecycle (.lifecycle code) := ⟨code, rfl⟩

section Errors

variable {env} {root : String} {arguments : List String} {code : LifecycleFailureCode}
  {spec : WorktreeExecutionSpec}

theorem raises_require {p : Prop} [Decidable p] {code : LifecycleFailureCode} :
    Session.Raises IsLifecycle (σ := Nat)
      (Session.check (Checked.require p (Raised.lifecycle code))) :=
  Session.raises_check (Checked.raises_require ⟨code, rfl⟩)

theorem raises_singleLine (payload : List UInt8) :
    Checked.Raises IsLifecycle (singleLine payload) := by
  refine Checked.raises_bind (Checked.raises_ofOption ⟨_, rfl⟩) fun _ ↦ ?_
  exact Checked.raises_bind (Checked.raises_require ⟨_, rfl⟩) fun _ ↦ Checked.raises_ok _

theorem raises_pathOutput (payload : List UInt8) :
    Checked.Raises IsLifecycle (pathOutput payload) := by
  refine Checked.raises_bind (Checked.raises_ofOption ⟨_, rfl⟩) fun records ↦ ?_
  refine Checked.raises_mapM (fun _ ↦ ?_) records
  refine Checked.raises_bind (Checked.raises_require ⟨_, rfl⟩) fun _ ↦ ?_
  refine Checked.raises_bind (Checked.raises_ofOption ⟨_, rfl⟩) fun _ ↦ ?_
  exact Checked.raises_bind (Checked.raises_require ⟨_, rfl⟩) fun _ ↦ Checked.raises_ok _

theorem raises_readIndexEntry (raw : List UInt8) :
    Checked.Raises IsLifecycle (readIndexEntry raw) := by
  refine Checked.raises_bind (Checked.raises_ofOption ⟨_, rfl⟩) fun parts ↦ ?_
  dsimp only
  split
  · refine Checked.raises_bind (Checked.raises_ofOption ⟨_, rfl⟩) fun _ ↦ ?_
    refine Checked.raises_bind (Checked.raises_ofOption ⟨_, rfl⟩) fun _ ↦ ?_
    refine Checked.raises_bind (Checked.raises_ofOption ⟨_, rfl⟩) fun _ ↦ ?_
    refine Checked.raises_bind (Checked.raises_ofOption ⟨_, rfl⟩) fun _ ↦ ?_
    refine Checked.raises_bind (Checked.raises_require ⟨_, rfl⟩) fun _ ↦ ?_
    exact Checked.raises_bind (Checked.raises_require ⟨_, rfl⟩) fun _ ↦ Checked.raises_ok _
  · exact Checked.raises_error ⟨_, rfl⟩

theorem raises_indexEntries (returnCode : Int) (payload : List UInt8) :
    Checked.Raises IsLifecycle (indexEntries returnCode payload) := by
  refine Checked.raises_bind (Checked.raises_require ⟨_, rfl⟩) fun _ ↦ ?_
  refine Checked.raises_bind (Checked.raises_ofOption ⟨_, rfl⟩) fun records ↦ ?_
  generalize ([] : List IndexEntry) = entries
  induction records generalizing entries with
  | nil => exact Checked.raises_ok _
  | cons raw records ih =>
    refine Checked.raises_bind (raises_readIndexEntry raw) fun _ ↦ ?_
    exact Checked.raises_bind (Checked.raises_require ⟨_, rfl⟩) fun _ ↦ ih _

theorem raises_listsWorktree (target : String) (payload : List UInt8) :
    Checked.Raises IsLifecycle (listsWorktree target payload) := by
  refine Checked.raises_bind (Checked.raises_require ⟨_, rfl⟩) fun _ ↦ ?_
  refine Checked.raises_bind (Checked.raises_ofOption ⟨_, rfl⟩) fun records ↦ ?_
  generalize false = observed
  induction records generalizing observed with
  | nil =>
    cases observed with
    | true => exact Checked.raises_ok _
    | false => exact Checked.raises_error ⟨_, rfl⟩
  | cons raw records ih =>
    rw [findWorktree]
    cases worktreeRecord? raw with
    | none => exact ih observed
    | some rawPath =>
      refine Checked.raises_bind (Checked.raises_ofOption ⟨_, rfl⟩) fun path ↦ ?_
      refine Checked.raises_bind (Checked.raises_require ⟨_, rfl⟩) fun _ ↦ ?_
      split
      · exact Checked.raises_ok _
      · exact ih true

/-- **Commands.** A command fails closed, since the transport reports no cancellation. -/
theorem raises_gitAt : Session.Raises IsLifecycle (gitAt env root arguments) := by
  intro n
  unfold gitAt
  cases hrun : env.transport.run n (invocation env root arguments) with
  | error failure =>
    refine Checked.raises_error ?_
    cases failure with
    | canceled => exact absurd hrun (env.transport.uncanceled n _)
    | _ => exact ⟨_, rfl⟩
  | ok result =>
    have hstream : ∀ stream, Checked.Raises IsLifecycle (checkStream stream) := fun stream ↦
      Checked.raises_bind (Checked.raises_require ⟨_, rfl⟩) fun _ ↦
        Checked.raises_require ⟨_, rfl⟩
    exact Checked.raises_bind (hstream _) fun _ ↦ Checked.raises_bind (hstream _) fun _ ↦
      Checked.raises_ok _

theorem raises_gitOutput : Session.Raises IsLifecycle (gitOutput env root arguments code) :=
  Session.raises_bind raises_gitAt fun _ ↦ Session.raises_bind raises_require fun _ ↦
    Session.raises_pure _

theorem raises_gitLine : Session.Raises IsLifecycle (gitLine env root arguments code) :=
  Session.raises_bind raises_gitOutput fun _ ↦ Session.raises_check (raises_singleLine _)

theorem raises_gitPaths : Session.Raises IsLifecycle (gitPaths env root arguments) :=
  Session.raises_bind raises_gitOutput fun _ ↦ Session.raises_check (raises_pathOutput _)

theorem raises_currentFiles : Session.Raises IsLifecycle (currentFiles env) :=
  Session.raises_bind Session.raises_get fun _ ↦ Session.raises_pure _

theorem raises_canonicalRoot : Session.Raises IsLifecycle (canonicalRoot env root) := by
  refine Session.raises_bind raises_currentFiles fun fs ↦ Session.raises_check ?_
  intro e he
  cases hroot : canonicalRepositoryRoot fs root with
  | ok r =>
    rw [hroot] at he
    cases he
  | error code =>
    rw [hroot] at he
    exact ⟨_, (Except.error.inj he).symm⟩

theorem raises_validateBaseCommit {commit : String} :
    Session.Raises IsLifecycle (validateBaseCommit env root commit) := by
  refine Session.raises_bind raises_canonicalRoot fun _ ↦ ?_
  refine Session.raises_bind raises_require fun _ ↦ ?_
  refine Session.raises_bind raises_gitOutput fun _ ↦ ?_
  refine Session.raises_bind (Session.raises_check (raises_singleLine _)) fun _ ↦ ?_
  refine Session.raises_bind raises_currentFiles fun _ ↦ ?_
  refine Session.raises_bind raises_require fun _ ↦ ?_
  exact Session.raises_bind raises_gitOutput fun _ ↦ Session.raises_pure _

theorem raises_changedPathsBetween {base head : String} :
    Session.Raises IsLifecycle (changedPathsBetween env root base head) := by
  refine Session.raises_bind raises_canonicalRoot fun _ ↦ ?_
  refine Session.raises_bind raises_validateBaseCommit fun _ ↦ ?_
  refine Session.raises_bind raises_validateBaseCommit fun _ ↦ ?_
  refine Session.raises_bind raises_gitOutput fun _ ↦ ?_
  exact Session.raises_bind raises_gitOutput fun _ ↦ Session.raises_check (raises_pathOutput _)

theorem raises_inspect : Session.Raises IsLifecycle (inspect env spec) := by
  refine Session.raises_bind ?_ fun _ ↦ ?_
  · refine Session.raises_bind raises_validateBaseCommit fun _ ↦ ?_
    refine Session.raises_bind raises_gitAt fun _ ↦ ?_
    exact Session.raises_bind raises_require fun _ ↦ raises_require
  refine Session.raises_bind raises_currentFiles fun _ ↦ ?_
  refine Session.raises_bind (Session.raises_check ?_) fun _ ↦ ?_
  · refine Checked.raises_bind (Checked.raises_require ⟨_, rfl⟩) fun _ ↦ ?_
    refine Checked.raises_bind (Checked.raises_require ⟨_, rfl⟩) fun _ ↦ ?_
    exact Checked.raises_require ⟨_, rfl⟩
  refine Session.raises_bind raises_gitLine fun _ ↦ ?_
  refine Session.raises_bind raises_currentFiles fun _ ↦ ?_
  refine Session.raises_bind (Session.raises_check (Checked.raises_ofOption ⟨_, rfl⟩)) fun _ ↦ ?_
  refine Session.raises_bind raises_require fun _ ↦ ?_
  refine Session.raises_bind raises_gitLine fun _ ↦ ?_
  refine Session.raises_bind raises_require fun _ ↦ ?_
  refine Session.raises_bind raises_gitLine fun _ ↦ ?_
  refine Session.raises_bind raises_require fun _ ↦ ?_
  refine Session.raises_bind raises_gitOutput fun _ ↦ ?_
  refine Session.raises_bind raises_gitPaths fun _ ↦ ?_
  refine Session.raises_bind raises_gitPaths fun _ ↦ ?_
  refine Session.raises_bind raises_gitPaths fun _ ↦ Session.raises_check ?_
  unfold inspectionOf
  dsimp only
  split
  · exact Checked.raises_ok _
  · exact Checked.raises_error ⟨_, rfl⟩

theorem raises_confirmSuccessRemoved {head : String} :
    Session.Raises IsLifecycle (confirmSuccessRemoved env spec head) := by
  refine Session.raises_bind raises_currentFiles fun _ ↦ ?_
  refine Session.raises_bind raises_require fun _ ↦ ?_
  refine Session.raises_bind (Session.raises_bind raises_gitOutput fun _ ↦
    Session.raises_check (raises_listsWorktree _ _)) fun _ ↦ ?_
  refine Session.raises_bind raises_require fun _ ↦ ?_
  refine Session.raises_bind raises_gitLine fun _ ↦ ?_
  refine Session.raises_bind raises_require fun _ ↦ Session.raises_check ?_
  unfold removalOf
  split
  · exact Checked.raises_ok _
  · exact Checked.raises_error ⟨_, rfl⟩

theorem raises_removeSuccess {expectedHead : Option String} :
    Session.Raises IsLifecycle (removeSuccess env spec expectedHead) := by
  refine Session.raises_bind raises_require fun _ ↦ ?_
  refine Session.raises_bind raises_currentFiles fun fs ↦ ?_
  split
  · refine Session.raises_bind raises_inspect fun _ ↦ ?_
    refine Session.raises_bind raises_require fun _ ↦ ?_
    refine Session.raises_bind raises_require fun _ ↦ ?_
    refine Session.raises_bind raises_require fun _ ↦ ?_
    refine Session.raises_bind raises_gitOutput fun _ ↦ ?_
    refine Session.raises_bind raises_currentFiles fun _ ↦ ?_
    exact Session.raises_bind raises_require fun _ ↦ raises_confirmSuccessRemoved
  · exact Session.raises_bind (Session.raises_check (Checked.raises_ofOption ⟨_, rfl⟩)) fun _ ↦
      raises_confirmSuccessRemoved

theorem raises_commitStaged {effects : List WorktreeCommitEffect} {before : WorktreeInspection}
    {blobs : List (String × String)} :
    Session.Raises IsLifecycle (commitStaged env spec effects before blobs) := by
  refine Session.raises_bind raises_gitOutput fun _ ↦ ?_
  refine Session.raises_bind raises_gitAt fun _ ↦ ?_
  refine Session.raises_bind (Session.raises_check (raises_indexEntries _ _)) fun _ ↦ ?_
  refine Session.raises_bind raises_require fun _ ↦ ?_
  refine Session.raises_bind raises_gitOutput fun _ ↦ ?_
  refine Session.raises_bind raises_inspect fun _ ↦ ?_
  exact Session.raises_bind raises_require fun _ ↦ Session.raises_pure _

end Errors

/-- A commit comes to an effect for the path of the root: the outputs denote a checkout within its
policy, in which exactly the paths of the effects are changed and uncommitted, and the files of the
earlier effects stand. -/
def MeetsRoot (spec : WorktreeExecutionSpec) (effects : List WorktreeCommitEffect) (n : Nat) : Prop :=
  ∃ before, IsSortedTuple (effectPaths effects) ∧ Inspected env spec n before ∧ IsCompliant before ∧
    effectPaths effects = before.changedPaths ∧ effectPaths effects = before.uncommittedPaths ∧
    MeetsRootAt env (env.tree (n + 10) (spec.worktreePath env.host)) 0 effects

/-- An operation returns only what the outputs denote, and otherwise raises a
`WorktreeLifecycleError`. -/
def FailsClosed {α : Type} (denotes : α → Nat → Prop) (x : Except Raised (α × Nat)) : Prop :=
  (∀ a n', x = .ok (a, n') → denotes a n') ∧ ∀ e, x = .error e → IsLifecycle e

section Closed

variable {env} {spec : WorktreeExecutionSpec} {effects : List WorktreeCommitEffect} {n : Nat}

/-- **Commits.** A commit raises a `WorktreeLifecycleError`, or it comes to the root. -/
theorem raises_commitChanges : Checked.Raises
    (fun e ↦ IsLifecycle e ∨ e = .indexError ∧ MeetsRoot env spec effects n)
    (commitChanges env spec effects n) := by
  have hclosed : ∀ {α : Type} {x : Lifecycle α} {n' : Nat}, Session.Raises IsLifecycle x →
      Checked.Raises (fun e ↦ IsLifecycle e ∨ e = .indexError ∧ MeetsRoot env spec effects n) (x n') :=
    fun hx e he ↦ .inl (hx _ e he)
  refine Session.raises_bind_at (hclosed raises_require) fun _ m hsorted ↦ ?_
  rw [Session.check_eq_ok, Checked.require_eq_ok] at hsorted
  obtain ⟨hsorted, hm⟩ := hsorted
  subst m
  refine Session.raises_bind_at (hclosed raises_inspect) fun before _ hbefore ↦ ?_
  obtain ⟨rfl, hinspected⟩ := inspect_eq_ok.mp hbefore
  refine Session.raises_bind_at (hclosed raises_require) fun _ _ hcompliant ↦ ?_
  rw [Session.check_eq_ok, Checked.require_eq_ok] at hcompliant
  obtain ⟨hcompliant, rfl⟩ := hcompliant
  split
  · exact hclosed (Session.raises_bind raises_require fun _ ↦ Session.raises_pure _)
  · refine Session.raises_bind_at (hclosed raises_require) fun _ _ hpaths ↦ ?_
    rw [Session.check_eq_ok, Checked.require_eq_ok] at hpaths
    obtain ⟨⟨hchanged, huncommitted⟩, rfl⟩ := hpaths
    refine Session.raises_bind_at (hclosed Session.raises_get) fun _ _ hget ↦ ?_
    obtain ⟨rfl, rfl⟩ := Session.get_eq_ok.mp hget
    refine Session.raises_bind_at ?_ fun _ _ _ ↦ hclosed raises_commitStaged
    -- Only the computation of the blobs can come to the root.
    intro e he
    cases hblobs : expectedCommitBlobs env (env.tree (n + 10) (spec.worktreePath env.host)) 0
        effects with
    | ok blobs =>
      rw [Session.check, hblobs] at he
      cases he
    | error e' =>
      rw [Session.check, hblobs] at he
      obtain rfl := Except.error.inj he
      exact (raises_expectedCommitBlobs _ hblobs).imp (fun heq ↦ ⟨_, heq⟩) fun h ↦
        ⟨h.1, before, hsorted, hinspected, hcompliant, hchanged, huncommitted, h.2⟩

/-- A commit that comes to the root lets an exception of the language escape. -/
theorem commitChanges_of_meetsRoot (h : MeetsRoot env spec effects n) :
    commitChanges env spec effects n = .error .indexError := by
  obtain ⟨before, hsorted, hinspected, hcompliant, hchanged, huncommitted, hroot⟩ := h
  have hblobs := expectedCommitBlobs_of_meetsRootAt hroot
  have hdirty : before.uncommittedPaths ≠ [] := by
    obtain ⟨-, earlier, effect, later, -, rfl, -⟩ := hroot
    rw [← huncommitted]
    simp [effectPaths]
  have hstep : ∀ {α β : Type} {x : Lifecycle α} {f : α → Lifecycle β} {a : α} {m m' : Nat},
      x m = .ok (a, m') → (x >>= f) m = f a m' := by
    intro α β x f a m m' hx
    change (x m >>= fun p ↦ f p.1 p.2) = _
    rw [hx]
    rfl
  have hrequire : ∀ {p : Prop} [Decidable p] {e : Raised} {m : Nat}, p →
      (Session.check (Checked.require p e) : Lifecycle PUnit) m = .ok (⟨⟩, m) := fun hp ↦
    Session.check_eq_ok.mpr ⟨Checked.require_eq_ok.mpr hp, rfl⟩
  rw [commitChanges, hstep (hrequire hsorted), hstep (inspect_eq_ok.mpr ⟨rfl, hinspected⟩),
    hstep (hrequire hcompliant), if_neg hdirty, hstep (hrequire ⟨hchanged, huncommitted⟩),
    hstep (Session.get_eq_ok.mpr ⟨rfl, rfl⟩)]
  change ((Session.check _ : Lifecycle _) _ >>= fun p ↦ commitStaged _ _ _ _ p.1 p.2) = _
  rw [Session.check, hblobs]
  rfl

/-- **Evidence.** The readers accept exactly the terminated, normalised entries, and the operations
either raise a `WorktreeLifecycleError` or return what the outputs of their commands denote, exactly
if no commit comes to an effect for the path of the root. -/
theorem failsClosed_iff (env : GitEnvironment) (spec : WorktreeExecutionSpec)
    (effects : List WorktreeCommitEffect) (root base head : String) (expectedHead : Option String)
    (n : Nat) :
    (FailsClosed (fun i _ ↦ Inspected env spec n i) (inspect env spec n) ∧
      FailsClosed (fun paths _ ↦ ChangedBetween env root base head n paths)
        (changedPathsBetween env root base head n) ∧
      FailsClosed (Committed env spec effects n) (commitChanges env spec effects n) ∧
      FailsClosed (Removed env spec expectedHead n) (removeSuccess env spec expectedHead n) ∧
      (∀ payload paths, pathOutput payload = .ok paths ↔ Lists payload paths) ∧
      ∀ returnCode payload entries, indexEntries returnCode payload = .ok entries ↔
        returnCode = 0 ∧ ListsEntries payload entries) ↔
    ¬MeetsRoot env spec effects n := by
  constructor
  · rintro ⟨-, -, ⟨-, hcommit⟩, -⟩ hroot
    obtain ⟨code, hcode⟩ := hcommit _ (commitChanges_of_meetsRoot hroot)
    cases hcode
  · intro hroot
    refine ⟨⟨fun _ _ h ↦ (inspect_eq_ok.mp h).2, raises_inspect n⟩,
      ⟨fun _ _ h ↦ (changedPathsBetween_eq_ok.mp h).2, raises_changedPathsBetween n⟩,
      ⟨fun _ _ h ↦ commitChanges_eq_ok.mp h, fun e he ↦ ?_⟩,
      ⟨fun _ _ h ↦ removeSuccess_eq_ok.mp h, raises_removeSuccess n⟩,
      fun _ _ ↦ pathOutput_eq_ok, fun _ _ _ ↦ indexEntries_eq_ok⟩
    exact (raises_commitChanges e he).resolve_right fun h ↦ hroot h.2

end Closed

/-! ### A commit of the root -/

namespace Sample

/-- The lease of an attempt. -/
def lease : WorktreeLeaseIdentity :=
  ⟨"run-1", "task-1", 1, 1, "worker-1", by decide, by decide⟩

/-- A specification whose policy admits every path. -/
def spec : WorktreeExecutionSpec where
  lease := lease
  repositoryRoot := "/srv/repository"
  isolationRoot := "/srv/worktrees"
  baseCommit := "0000000000000000000000000000000000000000"
  allowedPaths := ["."]
  maxChangedPaths := 16
  separate := by decide
  isBase := by decide
  isPolicy := ⟨by decide, by decide, by decide, by decide⟩
  bounded := by decide

def leaseHex : { s : String // isHex 64 s = true } :=
  hexText 0x989df4f22d7178efa792b43b91a64b67880a61ef0979a4205602da97d87b0739

/-- SHA-256 on the documents of the lease and of the specification. -/
def host : Host := .ofTables [
  (.object [("attempt", .int 1), ("fencing_token", .int 1), ("node_id", .str "task-1"),
    ("run_id", .str "run-1"), ("schema_version", .str worktreeLeaseSchema),
    ("worker_id", .str "worker-1")], leaseHex),
  (.object [("allowed_paths", .list [.str "."]),
    ("base_commit", .str "0000000000000000000000000000000000000000"),
    ("isolation_root", .str "/srv/worktrees"), ("lease_digest", .str (digestPrefix ++ leaseHex.1)),
    ("max_changed_paths", .int 16), ("repository_root", .str "/srv/repository"),
    ("schema_version", .str worktreeSpecSchema)],
    hexText 0xb159116497bb6e972dc6613d82ae407ffa06ce0fe2d064090fce8e6aa71123f3)] [] []

/-- An output that was captured as a whole. -/
def capture (output : List UInt8) : BoundedStreamCapture :=
  ⟨output, some output.length, true, by simp⟩

/-- The output of a command that returns. -/
def returns (returnCode : Int) (output : List UInt8) : BoundedProcessResult :=
  ⟨returnCode, capture output, capture []⟩

/-- What the commands of an inspection answer when the path of the root is changed. -/
def answer : Nat → BoundedProcessResult
  | 0 => returns 0 (utf8 "/srv/repository\n")
  | 2 => returns 1 []
  | 3 => returns 0 (utf8 (spec.worktreePath host ++ "\n"))
  | 4 => returns 0 (utf8 (spec.branchName host ++ "\n"))
  | 5 => returns 0 (utf8 "1111111111111111111111111111111111111111\n")
  | 7 | 8 => returns 0 (utf8 ".\x00")
  | _ => returns 0 []

/-- The surroundings in which the root of the checkout is reported as deleted. -/
def environment : GitEnvironment where
  host := host
  digest := ⟨fun _ ↦ leaseHex.1, fun _ ↦ leaseHex.2⟩
  sha1 _ := "0000000000000000000000000000000000000000"
  gitExecutable := "/usr/bin/git"
  transport := ⟨fun n _ ↦ .ok (answer n), nofun⟩
  files _ := ⟨fun _ ↦ false, some, fun _ ↦ true, fun _ ↦ true, fun _ ↦ true⟩
  tree _ _ := ⟨fun _ ↦ true, fun _ ↦ none, fun _ ↦ true⟩

/-- The effect of deleting the root. -/
def deletion : WorktreeCommitEffect := ⟨".", none, by decide, nofun⟩

/-- An exception of the language escapes. -/
def escapes {α : Type} : Except Raised α → Bool
  | .error .indexError => true
  | _ => false

theorem escapes_commitChanges :
    escapes (commitChanges environment spec [deletion] 0) = true := by
  decide +kernel

end Sample

/-- A commit whose only effect deletes the root of the checkout, which the outputs report as changed,
raises an exception of the language. -/
theorem not_always_failsClosed : ¬ ∀ (env : GitEnvironment) (spec : WorktreeExecutionSpec)
    (effects : List WorktreeCommitEffect) (n : Nat),
    FailsClosed (Committed env spec effects n) (commitChanges env spec effects n) := by
  intro h
  have hescapes := Sample.escapes_commitChanges
  have hclosed := (h Sample.environment Sample.spec [Sample.deletion] 0).2
  cases hx : commitChanges Sample.environment Sample.spec [Sample.deletion] 0 with
  | ok r =>
    rw [hx] at hescapes
    cases hescapes
  | error e =>
    obtain ⟨code, rfl⟩ := hclosed e hx
    rw [hx] at hescapes
    cases hescapes

end Blackcell.Adapters.Worktree
