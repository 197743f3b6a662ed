import Blackcell.Adapters.Worktree
import Blackcell.Foundation.Records

/-!
# Durable evidence of worktrees

The readers of `adapters/execution/worktree.py` that restore a specification, an inspection and a
removal from the payload of an event. An inspection and a removal are structures that carry what
their constructors demand.

## Main definitions

* `WorktreeInspection`, `WorktreeRemoval` : what was observed of a checkout, and that it was removed.
* `specFromMapping`, `inspectionFromMapping`, `removalFromMapping` : the readers.

## Main results

* `of_specFromMapping` : the node and the base commit of a specification are those of its payload.
* `of_inspectionFromMapping` : the commits and the lease of an inspection are those of its payload.
-/

namespace Blackcell.Adapters.Worktree

open Blackcell.Kernel

/-! ### Inspections and removals -/

/-- `_path_is_allowed`. -/
def pathIsAllowed (path : String) (allowedPaths : List String) : Bool :=
  allowedPaths.any fun allowed ↦ allowed = "." || path = allowed ||
    (allowed ++ "/").toList.isPrefixOf path.toList

/-- `paths == tuple(sorted(set(paths)))`. -/
def IsSortedTuple (paths : List String) : Prop := paths.Nodup ∧ paths.Pairwise (· ≤ ·)

instance (paths : List String) : Decidable (IsSortedTuple paths) :=
  inferInstanceAs (Decidable (_ ∧ _))

/-- The names of a checkout in the evidence about it. -/
def IsCheckout (specDigest leaseDigest worktreePath branchName : String) : Prop :=
  isHexDigest specDigest ∧ isHexDigest leaseDigest ∧ isAbsolute worktreePath ∧
    "blackcell/execution-worktree/".toList.isPrefixOf branchName.toList

instance (specDigest leaseDigest worktreePath branchName : String) :
    Decidable (IsCheckout specDigest leaseDigest worktreePath branchName) :=
  inferInstanceAs (Decidable (_ ∧ _ ∧ _ ∧ _))

/-- What the constructor of an inspection demands of its paths. -/
def ValidPaths (allowedPaths : List String) (maxChangedPaths : Nat)
    (changedPaths uncommittedPaths outOfScopePaths : List String)
    (changedPathLimitExceeded : Bool) : Prop :=
  (IsSortedTuple allowedPaths ∧ IsSortedTuple changedPaths ∧ IsSortedTuple uncommittedPaths ∧
    IsSortedTuple outOfScopePaths) ∧
  (∀ p ∈ changedPaths, isRepositoryPath p) ∧ (∀ p ∈ uncommittedPaths, isRepositoryPath p) ∧
  (∀ p ∈ allowedPaths, isPolicyPath p) ∧ maxChangedPaths ≤ 10000 ∧
  outOfScopePaths = changedPaths.filter (fun p ↦ !pathIsAllowed p allowedPaths) ∧
  (changedPathLimitExceeded = true ↔ maxChangedPaths < changedPaths.length)

instance (allowedPaths : List String) (maxChangedPaths : Nat)
    (changedPaths uncommittedPaths outOfScopePaths : List String)
    (changedPathLimitExceeded : Bool) :
    Decidable (ValidPaths allowedPaths maxChangedPaths changedPaths uncommittedPaths
      outOfScopePaths changedPathLimitExceeded) :=
  inferInstanceAs (Decidable (_ ∧ _ ∧ _ ∧ _ ∧ _ ∧ _ ∧ _))

/-- `WorktreeInspection`. -/
structure WorktreeInspection where
  specDigest : String
  leaseDigest : String
  worktreePath : String
  branchName : String
  baseCommit : String
  headCommit : String
  allowedPaths : List String
  maxChangedPaths : Nat
  changedPaths : List String
  uncommittedPaths : List String
  outOfScopePaths : List String
  changedPathLimitExceeded : Bool
  isCheckout : IsCheckout specDigest leaseDigest worktreePath branchName
  commits : isCommit baseCommit ∧ isCommit headCommit
  validPaths : ValidPaths allowedPaths maxChangedPaths changedPaths uncommittedPaths
    outOfScopePaths changedPathLimitExceeded

/-- `WorktreeRemoval`. -/
structure WorktreeRemoval where
  specDigest : String
  leaseDigest : String
  worktreePath : String
  branchName : String
  retainedHeadCommit : String
  isCheckout : IsCheckout specDigest leaseDigest worktreePath branchName
  isHead : isCommit retainedHeadCommit

/-! ### Readers -/

section Readers

variable (code : WorktreeFailureCode)

/-- `_payload_text`. -/
def payloadText (v : JsonValue) : Except WorktreeFailureCode String := Checked.ofOption v.text? code

/-- `_payload_integer`, of a number that must not be negative. -/
def payloadNat (v : JsonValue) : Except WorktreeFailureCode Nat := do
  let n ← Checked.ofOption v.int? code
  Checked.require (0 ≤ n) code
  pure n.toNat

/-- `_payload_text_sequence`. -/
def payloadTextSequence (v : JsonValue) : Except WorktreeFailureCode (List String) := do
  let items ← Checked.ofOption v.items? code
  items.mapM (payloadText code)

/-- `_payload_boolean`. -/
def payloadBoolean (v : JsonValue) : Except WorktreeFailureCode Bool := Checked.ofOption v.bool? code

end Readers

/-- The keys of the document of a specification, with its lease. -/
def specKeys : List String := ["schema_version", "lease_digest", "lease", "repository_root",
  "isolation_root", "base_commit", "allowed_paths", "max_changed_paths"]

/-- The lease of a specification. -/
def leaseFromMapping (raw : Mapping) : Except WorktreeFailureCode WorktreeLeaseIdentity := do
  let runId ← payloadText .invalidSpec (raw.get "run_id")
  let nodeId ← payloadText .invalidSpec (raw.get "node_id")
  let attempt ← payloadNat .invalidSpec (raw.get "attempt")
  let fencingToken ← payloadNat .invalidSpec (raw.get "fencing_token")
  let workerId ← payloadText .invalidSpec (raw.get "worker_id")
  WorktreeLeaseIdentity.create runId nodeId attempt fencingToken workerId

/-- `worktree_execution_spec_from_mapping`. -/
def specFromMapping (H : Host) (fs : FileSystem) (value : Mapping) :
    Except WorktreeFailureCode WorktreeExecutionSpec := do
  Checked.require (value.exact specKeys) WorktreeFailureCode.invalidSpec
  let rawLease ← Checked.ofOption (value.get "lease").fields? WorktreeFailureCode.invalidSpec
  Checked.require (rawLease.exact ["schema_version", "run_id", "node_id", "attempt",
    "fencing_token", "worker_id"]) WorktreeFailureCode.invalidSpec
  let rawAllowed ← Checked.ofOption (value.get "allowed_paths").items?
    WorktreeFailureCode.invalidSpec
  Checked.require (rawLease.get "schema_version" = .str worktreeLeaseSchema ∧
    value.get "schema_version" = .str worktreeSpecSchema) WorktreeFailureCode.invalidSpec
  let allowedPaths ← rawAllowed.mapM (payloadText .invalidSpec)
  let lease ← leaseFromMapping rawLease
  Checked.require (value.get "lease_digest" = .str (lease.digest H)) WorktreeFailureCode.invalidSpec
  let repositoryRoot ← payloadText .invalidSpec (value.get "repository_root")
  let isolationRoot ← payloadText .invalidSpec (value.get "isolation_root")
  let baseCommit ← payloadText .invalidSpec (value.get "base_commit")
  let maxChangedPaths ← payloadNat .invalidSpec (value.get "max_changed_paths")
  WorktreeExecutionSpec.create fs lease (asPosix repositoryRoot) (asPosix isolationRoot) baseCommit
    allowedPaths maxChangedPaths

/-- `worktree_inspection_from_mapping`. -/
def inspectionFromMapping (value : Mapping) : Except WorktreeFailureCode WorktreeInspection := do
  Checked.require (value.exact ["schema_version", "spec_digest", "lease_digest", "worktree_path",
    "branch_name", "base_commit", "head_commit", "allowed_paths", "max_changed_paths",
    "changed_paths", "uncommitted_paths", "out_of_scope_paths", "changed_path_limit_exceeded"])
    WorktreeFailureCode.invalidGitOutput
  Checked.require (value.get "schema_version" = .str "blackcell.worktree-inspection/v1")
    WorktreeFailureCode.invalidGitOutput
  let specDigest ← payloadText .invalidGitOutput (value.get "spec_digest")
  let leaseDigest ← payloadText .invalidGitOutput (value.get "lease_digest")
  let worktreePath ← payloadText .invalidGitOutput (value.get "worktree_path")
  let branchName ← payloadText .invalidGitOutput (value.get "branch_name")
  let baseCommit ← payloadText .invalidGitOutput (value.get "base_commit")
  let headCommit ← payloadText .invalidGitOutput (value.get "head_commit")
  let allowedPaths ← payloadTextSequence .invalidGitOutput (value.get "allowed_paths")
  let maxChangedPaths ← payloadNat .invalidGitOutput (value.get "max_changed_paths")
  let changedPaths ← payloadTextSequence .invalidGitOutput (value.get "changed_paths")
  let uncommittedPaths ← payloadTextSequence .invalidGitOutput (value.get "uncommitted_paths")
  let outOfScopePaths ← payloadTextSequence .invalidGitOutput (value.get "out_of_scope_paths")
  let exceeded ← payloadBoolean .invalidGitOutput (value.get "changed_path_limit_exceeded")
  if h : IsCheckout specDigest leaseDigest (asPosix worktreePath) branchName ∧
      (isCommit baseCommit ∧ isCommit headCommit) ∧
      ValidPaths allowedPaths maxChangedPaths changedPaths uncommittedPaths outOfScopePaths
        exceeded then
    pure ⟨specDigest, leaseDigest, asPosix worktreePath, branchName, baseCommit, headCommit,
      allowedPaths, maxChangedPaths, changedPaths, uncommittedPaths, outOfScopePaths, exceeded,
      h.1, h.2.1, h.2.2⟩
  else .error .invalidGitOutput

/-- `worktree_removal_from_mapping`. -/
def removalFromMapping (value : Mapping) : Except WorktreeFailureCode WorktreeRemoval := do
  Checked.require (value.exact ["schema_version", "spec_digest", "lease_digest", "worktree_path",
    "branch_name", "retained_head_commit", "disposition"]) WorktreeFailureCode.invalidGitOutput
  Checked.require (value.get "schema_version" = .str "blackcell.worktree-removal/v1" ∧
    value.get "disposition" = .str "removed") WorktreeFailureCode.invalidGitOutput
  let specDigest ← payloadText .invalidGitOutput (value.get "spec_digest")
  let leaseDigest ← payloadText .invalidGitOutput (value.get "lease_digest")
  let worktreePath ← payloadText .invalidGitOutput (value.get "worktree_path")
  let branchName ← payloadText .invalidGitOutput (value.get "branch_name")
  let retainedHeadCommit ← payloadText .invalidGitOutput (value.get "retained_head_commit")
  if h : IsCheckout specDigest leaseDigest (asPosix worktreePath) branchName ∧
      isCommit retainedHeadCommit then
    pure ⟨specDigest, leaseDigest, asPosix worktreePath, branchName, retainedHeadCommit, h.1, h.2⟩
  else .error .invalidGitOutput

/-! ### What was read -/

@[simp] theorem payloadText_eq_ok {code : WorktreeFailureCode} {v : JsonValue} {s : String} :
    payloadText code v = .ok s ↔ v = .str s := by
  simp [payloadText]

/-- The node and the base commit of a specification are those of its payload. -/
theorem of_specFromMapping {H : Host} {fs : FileSystem} {value : Mapping}
    {s : WorktreeExecutionSpec} (h : specFromMapping H fs value = .ok s) :
    value.get "base_commit" = .str s.baseCommit ∧ ∃ rawLease : Mapping,
      value.get "lease" = .object rawLease ∧ rawLease.get "node_id" = .str s.lease.nodeId := by
  simp only [specFromMapping, leaseFromMapping, Checked.bind_eq_ok, Checked.ofOption_eq_ok,
    JsonValue.fields?_eq_some, payloadText_eq_ok] at h
  obtain ⟨_, -, rawLease, hlease, _, -, _, -, _, -, _, -, lease, ⟨_, -, nodeId, hnode, _, -, _, -,
    _, -, hcreate⟩, _, -, _, -, _, -, baseCommit, hbase, _, -, h⟩ := h
  obtain ⟨rfl, rfl⟩ := WorktreeExecutionSpec.of_create h
  obtain ⟨-, rfl, -⟩ := WorktreeLeaseIdentity.create_eq_ok.mp hcreate
  exact ⟨hbase, rawLease, hlease, hnode⟩

/-- The lease and the commits of an inspection are those of its payload. -/
theorem of_inspectionFromMapping {value : Mapping} {i : WorktreeInspection}
    (h : inspectionFromMapping value = .ok i) : value.get "lease_digest" = .str i.leaseDigest ∧
      value.get "base_commit" = .str i.baseCommit ∧ value.get "head_commit" = .str i.headCommit := by
  simp only [inspectionFromMapping, Checked.bind_eq_ok, payloadText_eq_ok] at h
  obtain ⟨_, -, _, -, _, -, leaseDigest, hlease, _, -, _, -, baseCommit, hbase, headCommit, hhead,
    _, -, _, -, _, -, _, -, _, -, _, -, h⟩ := h
  split at h
  · obtain rfl := Checked.pure_eq_ok.mp h
    exact ⟨hlease, hbase, hhead⟩
  · cases h

/-! ### Paths -/

/-- A text that is one component of a path. -/
def IsComponent (s : String) : Prop := s ≠ "" ∧ s ≠ "." ∧ '/' ∉ s.toList

theorem isComponent_of_mem_pathParts {path part : String} (h : part ∈ pathParts path) :
    IsComponent part := by
  simp only [pathParts, List.mem_filter, List.mem_map, decide_eq_true_eq] at h
  obtain ⟨⟨chars, hchars, rfl⟩, hne, hdot⟩ := h
  exact ⟨hne, hdot, by simpa using Records.notMem_of_mem_splitOn hchars⟩

theorem pathRoot_cases (path : String) :
    pathRoot path = "" ∨ pathRoot path = "/" ∨ pathRoot path = "//" := by
  unfold pathRoot
  split <;> simp

/-- The components of joined components. -/
theorem pathParts_intercalate {parts : List String} (hne : parts ≠ [])
    (h : ∀ part ∈ parts, IsComponent part) : pathParts ("/".intercalate parts) = parts := by
  have hsplit : ("/".intercalate parts).toList.splitOn '/' = parts.map String.toList := by
    rw [String.toList_intercalate]
    refine List.splitOn_intercalate _ (fun chars hchars ↦ ?_) (by simpa using hne)
    obtain ⟨part, hpart, rfl⟩ := List.mem_map.mp hchars
    exact (h part hpart).2.2
  rw [pathParts, hsplit, List.map_map]
  have hid : (String.ofList ∘ String.toList) = id := funext fun s ↦ String.ofList_toList
  rw [hid, List.map_id, List.filter_eq_self]
  exact fun part hpart ↦ by simpa using ⟨(h part hpart).1, (h part hpart).2.1⟩

/-- Leading slashes are no components. -/
theorem pathParts_slash (s : String) : pathParts ("/" ++ s) = pathParts s := by
  simp [pathParts, String.toList_append, List.splitOn_cons_eq_if_modifyHead]

/-- Joined components do not begin with a slash. -/
theorem head_intercalate {part : String} (parts : List String) (h : IsComponent part) :
    ∃ c cs, ("/".intercalate (part :: parts)).toList = c :: cs ∧ c ≠ '/' := by
  obtain ⟨hne, -, hslash⟩ := h
  obtain ⟨c, cs, hchars⟩ := List.exists_cons_of_ne_nil (by simpa using hne : part.toList ≠ [])
  have hc : c ≠ '/' := fun heq ↦ hslash (by rw [hchars, heq]; exact List.mem_cons_self)
  rw [String.toList_intercalate, List.map_cons, hchars]
  cases parts with
  | nil => exact ⟨c, cs, by simp, hc⟩
  | cons part' parts => exact ⟨c, _, by rw [List.map_cons, List.intercalate_cons_cons]; rfl, hc⟩

/-- **Joined paths.** A path that was joined is in normal form. -/
theorem asPosix_pathJoin {root name : String} (h : IsComponent name) :
    asPosix (pathJoin root name) = pathJoin root name := by
  have hparts : ∀ part ∈ pathParts root ++ [name], IsComponent part := fun part hpart ↦
    (List.mem_append.mp hpart).elim isComponent_of_mem_pathParts
      fun hname ↦ List.mem_singleton.mp hname ▸ h
  have hne : pathParts root ++ [name] ≠ [] := by simp
  obtain ⟨part, parts, hsplit⟩ := List.exists_cons_of_ne_nil hne
  obtain ⟨c, cs, hhead, hc⟩ := head_intercalate parts (hparts part (hsplit ▸ List.mem_cons_self))
  rw [← hsplit] at hhead
  have hroot : pathRoot (pathJoin root name) = pathRoot root := by
    rw [pathJoin]
    obtain hr | hr | hr := pathRoot_cases root <;> rw [hr] <;>
      simp [pathRoot, String.toList_append, hhead, hc]
  have hjoined : pathParts (pathJoin root name) = pathParts root ++ [name] := by
    rw [pathJoin]
    obtain hr | hr | hr := pathRoot_cases root
    · rw [hr, String.empty_append, pathParts_intercalate hne hparts]
    · rw [hr, pathParts_slash, pathParts_intercalate hne hparts]
    · rw [hr, show "//" = "/" ++ "/" from rfl, String.append_assoc, pathParts_slash, pathParts_slash,
        pathParts_intercalate hne hparts]
  rw [asPosix, hroot, hjoined, if_neg (by simp), pathJoin]

/-- The path of a checkout is in normal form. -/
theorem WorktreeExecutionSpec.asPosix_worktreePath (H : Host) (s : WorktreeExecutionSpec) :
    asPosix (s.worktreePath H) = s.worktreePath H := by
  have hhex := isHex_iff.mp (H.hexdigest_isHex (JsonValue.object (s.document H)).canonical)
  have hslash : '/' ∉ (withoutDigestPrefix (s.digest H)).toList := by
    rw [WorktreeExecutionSpec.digest, Host.withoutDigestPrefix_jsonDigest]
    exact fun hmem ↦ absurd (hhex.2 _ hmem) (by decide)
  refine asPosix_pathJoin ⟨?_, ?_, ?_⟩
  · intro hempty
    simpa using congrArg String.toList hempty
  · intro hdot
    simpa using congrArg String.toList hdot
  · simpa [String.toList_append] using hslash

/-! ### Payloads -/

namespace WorktreeInspection

variable (i : WorktreeInspection)

/-- `worktree_inspection_payload`. -/
def payload : Mapping := [
  ("schema_version", .str "blackcell.worktree-inspection/v1"),
  ("spec_digest", .str i.specDigest),
  ("lease_digest", .str i.leaseDigest),
  ("worktree_path", .str i.worktreePath),
  ("branch_name", .str i.branchName),
  ("base_commit", .str i.baseCommit),
  ("head_commit", .str i.headCommit),
  ("allowed_paths", .ofTexts i.allowedPaths),
  ("max_changed_paths", .int i.maxChangedPaths),
  ("changed_paths", .ofTexts i.changedPaths),
  ("uncommitted_paths", .ofTexts i.uncommittedPaths),
  ("out_of_scope_paths", .ofTexts i.outOfScopePaths),
  ("changed_path_limit_exceeded", .bool i.changedPathLimitExceeded)]

variable {i}

theorem payloadTextSequence_ofTexts {code : WorktreeFailureCode} (texts : List String) :
    payloadTextSequence code (.ofTexts texts) = .ok texts := by
  have hmap : (texts.map JsonValue.str).mapM (payloadText code) = .ok texts := by
    induction texts with
    | nil => rfl
    | cons text texts ih =>
      rw [List.map_cons, List.mapM_cons, ih]
      rfl
  exact hmap

/-- **Round trip.** The payload of an inspection is read back, if its path is in normal form. -/
theorem inspectionFromMapping_payload (h : asPosix i.worktreePath = i.worktreePath) :
    inspectionFromMapping i.payload = .ok i := by
  have hvalid : IsCheckout i.specDigest i.leaseDigest (asPosix i.worktreePath) i.branchName ∧
      (isCommit i.baseCommit ∧ isCommit i.headCommit) ∧
      ValidPaths i.allowedPaths i.maxChangedPaths i.changedPaths i.uncommittedPaths
        i.outOfScopePaths i.changedPathLimitExceeded :=
    ⟨h.symm ▸ i.isCheckout, i.commits, i.validPaths⟩
  simp only [inspectionFromMapping, Checked.bind_eq_ok, Checked.exists_unit, Checked.require_eq_ok,
    payloadText_eq_ok]
  refine ⟨by simp [Mapping.exact, Mapping.keys, payload], rfl, i.specDigest, rfl, i.leaseDigest, rfl,
    i.worktreePath, rfl, i.branchName, rfl, i.baseCommit, rfl, i.headCommit, rfl, i.allowedPaths,
    payloadTextSequence_ofTexts _, i.maxChangedPaths, rfl, i.changedPaths,
    payloadTextSequence_ofTexts _, i.uncommittedPaths, payloadTextSequence_ofTexts _,
    i.outOfScopePaths, payloadTextSequence_ofTexts _, i.changedPathLimitExceeded, rfl, ?_⟩
  rw [dif_pos hvalid]
  simp [h]

end WorktreeInspection

end Blackcell.Adapters.Worktree
