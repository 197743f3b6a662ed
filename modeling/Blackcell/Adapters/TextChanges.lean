import Blackcell.Adapters.WorktreeEvidence
import Blackcell.Foundation.Compensation
import Blackcell.Orchestration.Changes

/-!
# The execution of text changes

`TextChangeExecutor` of `adapters/execution/text_changes.py`: a proposal is bound to its checkout and
checked against the files, its operations take effect one after the other, and the checkout is
inspected. When an operation or the inspection fails, the operations are undone in reverse order, and
the checkout is inspected again.

The effects on files are a port: the `n`-th effect of a world can fail before or after it has taken
effect, as the surroundings decide. The inspections are a port as well, and may answer anything.

## Main definitions

* `Files`, `FileEffect` : the files of a checkout, and the effects on them.
* `Environment`, `World` : the ports, and what they change.
* `preflight`, `applyAll`, `rollback`, `execute` : the executor.
* `ChangeProposal.declared` : the files with the changes that a proposal declares.

## Main results

* `preflight_spec` : what the plans of a proposal know of the files.
* `applyAll_spec`, `rollback_spec` : what the loops leave of the files.
* `exists_create_eq_ok` : the evidence of a success is always well formed.
* `execute_allOrNothing` : the executor.
* `inspectsWithin_execute` : how often an execution inspects its checkout.
-/

namespace Blackcell.Adapters.TextChanges

open Blackcell.Kernel Blackcell.Orchestration.Changes Blackcell.Adapters.Worktree Compensation

/-! ### Failures and evidence -/

/-- `TextChangeFailureCode`. -/
inductive TextChangeFailureCode where
  | invalidAdmission | worktreeNotFresh | operationLimitExceeded | pathPolicyViolation
  | targetConflict | targetNotRegularText | beforeDigestMismatch | effectFailedRolledBack
  | effectEvidenceMismatch | effectUncertain
  deriving DecidableEq, Repr

/-- `TEXT_CHANGE_RESULT_SCHEMA`. -/
def textChangeResultSchema : String := "execution-text-change-result/v1"

/-- `_is_digest`. -/
def isDigest (H : Host) (s : String) : Bool :=
  hasDigestPrefix s && s.length = 71 && H.parsesBase16 (withoutDigestPrefix s)

/-- `TextChangeAdmission`. -/
structure TextChangeAdmission (H : Host) where
  worktreeSpecDigest : String
  leaseDigest : String
  evidenceDigest : String
  proposalDigest : String
  digests : isDigest H worktreeSpecDigest ∧ isDigest H leaseDigest ∧ isDigest H evidenceDigest ∧
    isDigest H proposalDigest

/-- `TextChangeEffect`. -/
structure TextChangeEffect where
  operation : TextOperation
  path : String
  beforeDigest : Option String
  afterDigest : Option String
  deriving DecidableEq

/-- The document of an effect. -/
def TextChangeEffect.payload (e : TextChangeEffect) : JsonValue := .object [
  ("operation", .str (StrEnum.value e.operation)),
  ("path", .str e.path),
  ("before_digest", .ofText? e.beforeDigest),
  ("after_digest", .ofText? e.afterDigest)]

/-- `text_change_result_payload`. -/
def textChangeResultPayload (worktreeSpecDigest leaseDigest evidenceDigest proposalDigest
    headCommit : String) (effects : List TextChangeEffect) (changedPaths : List String) :
    JsonValue := .object [
  ("schema_version", .str textChangeResultSchema),
  ("status", .str "applied"),
  ("worktree_spec_digest", .str worktreeSpecDigest),
  ("lease_digest", .str leaseDigest),
  ("evidence_digest", .str evidenceDigest),
  ("proposal_digest", .str proposalDigest),
  ("head_commit", .str headCommit),
  ("effects", .list (effects.map (·.payload))),
  ("changed_paths", .ofTexts changedPaths)]

/-- What the constructor of a result demands. -/
def IsResult (H : Host) (worktreeSpecDigest leaseDigest evidenceDigest proposalDigest
    headCommit : String) (effects : List TextChangeEffect) (changedPaths : List String) : Prop :=
  isCommit headCommit ∧ (isDigest H worktreeSpecDigest ∧ isDigest H leaseDigest ∧
    isDigest H evidenceDigest ∧ isDigest H proposalDigest) ∧ effects ≠ [] ∧
    IsSortedTuple changedPaths ∧ effects.map (·.path) = changedPaths

instance (H : Host) (worktreeSpecDigest leaseDigest evidenceDigest proposalDigest
    headCommit : String) (effects : List TextChangeEffect) (changedPaths : List String) :
    Decidable (IsResult H worktreeSpecDigest leaseDigest evidenceDigest proposalDigest headCommit
      effects changedPaths) :=
  inferInstanceAs (Decidable (_ ∧ _ ∧ _ ∧ _ ∧ _))

/-- `TextChangeExecutionResult`. -/
structure TextChangeExecutionResult (H : Host) where
  worktreeSpecDigest : String
  leaseDigest : String
  evidenceDigest : String
  proposalDigest : String
  headCommit : String
  effects : List TextChangeEffect
  changedPaths : List String
  isResult : IsResult H worktreeSpecDigest leaseDigest evidenceDigest proposalDigest headCommit
    effects changedPaths

/-- `TextChangeExecutionResult(...)`, given `float.__repr__`. -/
def TextChangeExecutionResult.create (H : Host) (repr : FiniteFloat → String)
    (worktreeSpecDigest leaseDigest evidenceDigest proposalDigest headCommit : String)
    (effects : List TextChangeEffect) (changedPaths : List String) :
    Except TextChangeFailureCode (TextChangeExecutionResult H) :=
  if h : IsResult H worktreeSpecDigest leaseDigest evidenceDigest proposalDigest headCommit effects
      changedPaths then
    if (textChangeResultPayload worktreeSpecDigest leaseDigest evidenceDigest proposalDigest
        headCommit effects changedPaths).byteSize repr ≤ maxTextChangeResultBytes then
      .ok ⟨worktreeSpecDigest, leaseDigest, evidenceDigest, proposalDigest, headCommit, effects,
        changedPaths, h⟩
    else .error .effectEvidenceMismatch
  else .error .effectEvidenceMismatch

/-! ### Files and effects -/

/-- What stands at a path of a checkout: a regular file with its content and its permissions, or
something else. -/
inductive Entry where
  | file (data : ByteArray) (mode : Nat)
  | directory
  | symlink
  | other
  deriving DecidableEq

/-- The files of a checkout, by the components of their paths. -/
abbrev Files := List String → Option Entry

/-- An effect on a file. -/
inductive FileEffect where
  | create (data : ByteArray) (mode : Nat)
  | replace (data : ByteArray) (mode : Nat)
  | delete
  deriving DecidableEq

namespace FileEffect

/-- What the effect leaves at its path. -/
def entry : FileEffect → Option Entry
  | .create data mode | .replace data mode => some (.file data mode)
  | .delete => none

/-- The file system lets the effect happen: `os.link` does not overwrite, `os.replace` does, and none
of the effects is on a directory. -/
def Allowed (e : FileEffect) (before : Option Entry) : Prop :=
  match e with
  | .create _ _ => before = none
  | .replace _ _ => before ≠ some .directory
  | .delete => before ≠ none ∧ before ≠ some .directory

instance (before : Option Entry) : (e : FileEffect) → Decidable (e.Allowed before)
  | .create _ _ => inferInstanceAs (Decidable (before = none))
  | .replace _ _ => inferInstanceAs (Decidable (before ≠ some .directory))
  | .delete => inferInstanceAs (Decidable (before ≠ none ∧ before ≠ some .directory))

end FileEffect

/-- How an effect fails: before it takes effect, or after. -/
inductive Fault where
  | before | after
  deriving DecidableEq, Repr

/-- The surroundings of an executor: how the `n`-th effect fails, if it does, and what the `n`-th
inspection answers about the files, or raises. -/
structure Environment (ε : Type) where
  host : Host
  digest : BytesDigest
  repr : FiniteFloat → String
  fault : Nat → Option Fault
  inspect : Nat → Files → Except ε WorktreeInspection

/-- The files of the checkout, and the numbers of the effects and the inspections so far. -/
structure World where
  files : Files
  performed : Nat
  inspected : Nat

variable {ε : Type} (env : Environment ε)

/-- Perform an effect; it returns, or it raises. -/
def perform (target : List String) (e : FileEffect) (w : World) : Bool × World :=
  let counted := { w with performed := w.performed + 1 }
  let effected := { counted with files := Function.update w.files target e.entry }
  if e.Allowed (w.files target) then
    match env.fault w.performed with
    | none => (true, effected)
    | some .after => (false, effected)
    | some .before => (false, counted)
  else (false, counted)

/-- Inspect the checkout. -/
def inspect (w : World) : Except ε WorktreeInspection × World :=
  (env.inspect w.inspected w.files, { w with inspected := w.inspected + 1 })

/-! ### The executor -/

/-- `_PlannedEffect`. -/
structure PlannedEffect (D : BytesDigest) where
  change : FileChange D
  before : Option ByteArray
  beforeMode : Option Nat
  after : Option ByteArray

/-- The file of a planned effect. -/
def PlannedEffect.target {D : BytesDigest} (p : PlannedEffect D) : List String := p.change.target

/-- `_MAX_FILE_BYTES`. -/
def maxFileBytes : Nat := 1024 * 1024

/-- `_require_existing_regular_parent`, of the parent of a target: that of the root itself is not
inside the checkout. -/
def requireRegularParent (files : Files) (target : List String) :
    Except TextChangeFailureCode Unit := do
  Checked.require (target ≠ []) TextChangeFailureCode.pathPolicyViolation
  Checked.require (∀ n < target.length, 0 < n → files (target.take n) = some .directory)
    TextChangeFailureCode.targetNotRegularText

/-- `_read_regular_text`. -/
def readRegularText (files : Files) (target : List String) :
    Except TextChangeFailureCode (ByteArray × Nat) :=
  match files target with
  | some (.file data mode) => do
    Checked.require (data.size ≤ maxFileBytes) TextChangeFailureCode.targetNotRegularText
    let text ← Checked.ofOption (String.fromUTF8? data) TextChangeFailureCode.targetNotRegularText
    Checked.require (¬text.toList.contains '\x00') TextChangeFailureCode.targetNotRegularText
    pure (data, mode)
  | _ => .error .targetNotRegularText

/-- One round of the loop of `_preflight`. -/
def planEffect (D : BytesDigest) (allowedPaths : List String) (files : Files) (c : FileChange D) :
    Except TextChangeFailureCode (PlannedEffect D) := do
  Checked.require (pathIsAllowed c.path allowedPaths) TextChangeFailureCode.pathPolicyViolation
  requireRegularParent files c.target
  let after := c.content.map String.toUTF8
  if c.operation = .create then
    Checked.require ((files c.target).isNone) TextChangeFailureCode.targetConflict
    pure ⟨c, none, none, after⟩
  else
    Checked.require ((files c.target).isSome ∧ files c.target ≠ some .symlink)
      TextChangeFailureCode.targetNotRegularText
    let (before, mode) ← readRegularText files c.target
    Checked.require (c.expectedDigest = some (D.bytesDigest before))
      TextChangeFailureCode.beforeDigestMismatch
    pure ⟨c, some before, some mode, after⟩

/-- `_preflight`. -/
def preflight (D : BytesDigest) (spec : WorktreeExecutionSpec) (proposal : ChangeProposal D)
    (files : Files) : Except TextChangeFailureCode (List (PlannedEffect D)) := do
  Checked.require (proposal.operations.length ≤ spec.maxChangedPaths)
    TextChangeFailureCode.operationLimitExceeded
  proposal.operations.mapM (planEffect D spec.allowedPaths files)

/-- `_apply`: it returns, or it raises. -/
def applyEffect (p : PlannedEffect env.digest) (w : World) : Bool × World :=
  match p.change.operation with
  | .create =>
    match p.after with
    | none => (false, w)
    | some data => perform env p.target (.create data 0o644) w
  | .replace =>
    match p.after, p.beforeMode with
    | some data, some mode => perform env p.target (.replace data mode) w
    | _, _ => (false, w)
  | .delete => perform env p.target .delete w

/-- The loop over the planned effects: whether all of them returned, and those that were begun, the
last one first. -/
def applyAll (applied : List (PlannedEffect env.digest)) :
    List (PlannedEffect env.digest) → World → (Bool × List (PlannedEffect env.digest)) × World
  | [], w => ((true, applied), w)
  | p :: plans, w =>
    match applyEffect env p w with
    | (true, w') => applyAll (p :: applied) plans w'
    | (false, w') => ((false, p :: applied), w')

/-- One round of the loop of `_rollback`: it goes on, or the rollback has failed. -/
def rollbackEffect (p : PlannedEffect env.digest) (w : World) : Bool × World :=
  match p.change.operation with
  | .create =>
    match w.files p.target with
    | none => (true, w)
    | some (.file _ _) => perform env p.target .delete w
    | some _ => (false, w)
  | _ =>
    match p.before, p.beforeMode with
    | some data, some mode =>
      match w.files p.target with
      | none => perform env p.target (.create data mode) w
      | some (.file _ _) => perform env p.target (.replace data mode) w
      | some _ => (false, w)
    | _, _ => (false, w)

deriving instance DecidableEq for WorktreeInspection

/-- `_rollback`. -/
def rollback (before : WorktreeInspection) : List (PlannedEffect env.digest) → World → Bool × World
  | [], w =>
    match inspect env w with
    | (.ok after, w') => (after = before, w')
    | (.error _, w') => (false, w')
  | p :: applied, w =>
    match rollbackEffect env p w with
    | (true, w') => rollback before applied w'
    | (false, w') => (false, w')

/-- The failures of an execution: its own, and those of the first inspection. -/
inductive Failure (ε : Type) where
  | code (code : TextChangeFailureCode)
  | lifecycle (error : ε)

/-- The effects are undone, and the failure is reported: with the given code, if the files were
restored for certain. -/
def failWith (before : WorktreeInspection) (code : TextChangeFailureCode)
    (applied : List (PlannedEffect env.digest)) (w : World) :
    Except (Failure ε) (TextChangeExecutionResult env.host) × World :=
  match rollback env before applied w with
  | (true, w') => (.error (.code code), w')
  | (false, w') => (.error (.code .effectUncertain), w')

/-- The inspection after the effects is the expected one. -/
def IsEvidence (before after : WorktreeInspection) (paths : List String) : Prop :=
  after.headCommit = before.headCommit ∧ after.changedPaths = paths ∧
    after.uncommittedPaths = paths ∧ after.outOfScopePaths = [] ∧
    after.changedPathLimitExceeded = false

instance (before after : WorktreeInspection) (paths : List String) :
    Decidable (IsEvidence before after paths) :=
  inferInstanceAs (Decidable (_ ∧ _ ∧ _ ∧ _ ∧ _))

/-- The effect that a result reports for a plan. -/
def PlannedEffect.effect {D : BytesDigest} (p : PlannedEffect D) : TextChangeEffect :=
  ⟨p.change.operation, p.change.path, p.before.map D.bytesDigest, p.after.map D.bytesDigest⟩

/-- The part of `execute` that follows the preflight. -/
def executePlans (spec : WorktreeExecutionSpec) (proposal : ChangeProposal env.digest)
    (before : WorktreeInspection) (plans : List (PlannedEffect env.digest)) (w : World) :
    Except (Failure ε) (TextChangeExecutionResult env.host) × World :=
  match applyAll env [] plans w with
  | ((false, applied), w') => failWith env before .effectFailedRolledBack applied w'
  | ((true, applied), w') =>
    match inspect env w' with
    | (.error _, w'') => failWith env before .effectEvidenceMismatch applied w''
    | (.ok after, w'') =>
      if IsEvidence before after (plans.map (·.change.path)) then
        ((TextChangeExecutionResult.create env.host env.repr (spec.digest env.host)
          (spec.lease.digest env.host) proposal.evidenceDigest (proposal.digest env.host)
          after.headCommit (plans.map (·.effect)) after.changedPaths).mapError .code, w'')
      else failWith env before .effectEvidenceMismatch applied w''

/-- `execute`. -/
def execute (spec : WorktreeExecutionSpec) (proposal : ChangeProposal env.digest)
    (admission : TextChangeAdmission env.host) (w : World) :
    Except (Failure ε) (TextChangeExecutionResult env.host) × World :=
  if admission.worktreeSpecDigest = spec.digest env.host ∧
      admission.leaseDigest = spec.lease.digest env.host ∧
      admission.evidenceDigest = proposal.evidenceDigest ∧
      admission.proposalDigest = proposal.digest env.host then
    match inspect env w with
    | (.error error, w') => (.error (.lifecycle error), w')
    | (.ok before, w') =>
      if before.uncommittedPaths ≠ [] ∨ before.changedPaths ≠ [] then
        (.error (.code .worktreeNotFresh), w')
      else
        match preflight env.digest spec proposal w'.files with
        | .error code => (.error (.code code), w')
        | .ok plans => executePlans env spec proposal before plans w'
  else (.error (.code .invalidAdmission), w)

/-! ### What the preflight knows -/

/-- What a planned effect leaves at its path. -/
def PlannedEffect.entryAfter {D : BytesDigest} (p : PlannedEffect D) : Option Entry :=
  match p.change.operation with
  | .create => p.after.map (.file · 0o644)
  | .replace => p.after.bind fun data ↦ p.beforeMode.map (.file data)
  | .delete => none

/-- A planned effect knows what stands at its path, and what its change is to leave there. -/
structure PlannedEffect.Fits {D : BytesDigest} (files : Files) (p : PlannedEffect D) : Prop where
  after : p.after = p.change.content.map String.toUTF8
  created : p.change.operation = .create → files p.target = none
  existing : p.change.operation ≠ .create → ∃ data mode, files p.target = some (.file data mode) ∧
    p.before = some data ∧ p.beforeMode = some mode ∧
    p.change.expectedDigest = some (D.bytesDigest data)

theorem readRegularText_eq_ok {files : Files} {target : List String} {data : ByteArray} {mode : Nat}
    (h : readRegularText files target = .ok (data, mode)) :
    files target = some (.file data mode) := by
  unfold readRegularText at h
  split at h
  · rename_i heq
    simp only [Checked.bind_eq_ok, Checked.pure_eq_ok] at h
    obtain ⟨_, -, _, -, _, -, h⟩ := h
    obtain ⟨rfl, rfl⟩ := Prod.mk.inj h
    exact heq
  · cases h

theorem planEffect_spec {D : BytesDigest} {allowedPaths : List String} {files : Files}
    {c : FileChange D} {p : PlannedEffect D} (h : planEffect D allowedPaths files c = .ok p) :
    p.change = c ∧ p.Fits files := by
  simp only [planEffect, Checked.bind_eq_ok] at h
  obtain ⟨_, -, _, -, h⟩ := h
  split at h
  · rename_i hcreate
    simp only [Checked.bind_eq_ok, Checked.require_eq_ok, Checked.pure_eq_ok] at h
    obtain ⟨_, hnone, rfl⟩ := h
    exact ⟨rfl, rfl, fun _ ↦ Option.isNone_iff_eq_none.mp hnone, fun hne ↦ absurd hcreate hne⟩
  · rename_i hne
    simp only [Checked.bind_eq_ok, Checked.require_eq_ok, Checked.pure_eq_ok] at h
    obtain ⟨_, -, ⟨data, mode⟩, hread, _, hdigest, rfl⟩ := h
    exact ⟨rfl, rfl, fun hcreate ↦ absurd hcreate hne, fun _ ↦
      ⟨data, mode, readRegularText_eq_ok hread, rfl, rfl, hdigest⟩⟩

/-- **The preflight.** It plans the operations of the proposal in their order, and each plan knows
what stands at its path. -/
theorem preflight_spec {D : BytesDigest} {spec : WorktreeExecutionSpec}
    {proposal : ChangeProposal D} {files : Files} {plans : List (PlannedEffect D)}
    (h : preflight D spec proposal files = .ok plans) :
    plans.map (·.change) = proposal.operations ∧ ∀ p ∈ plans, p.Fits files := by
  simp only [preflight, Checked.bind_eq_ok, Checked.mapM_eq_ok] at h
  obtain ⟨_, -, h⟩ := h
  generalize proposal.operations = operations at h ⊢
  induction h with
  | nil => exact ⟨rfl, nofun⟩
  | cons hplan _ ih =>
    obtain ⟨hchange, hfits⟩ := planEffect_spec hplan
    exact ⟨by rw [List.map_cons, hchange, ih.1], List.forall_mem_cons.mpr ⟨hfits, ih.2⟩⟩

/-! ### What effects leave of the files -/

section Effects

variable {env : Environment ε} {target : List String} {e : FileEffect} {w : World} {f : Files}
  {p : PlannedEffect env.digest} {applied plans : List (PlannedEffect env.digest)}
  {before : WorktreeInspection}

/-- An effect happens or not, and nothing else does; it has happened if it returns. -/
theorem perform_spec :
    ((perform env target e w).2.files = w.files ∨
      (perform env target e w).2.files = Function.update w.files target e.entry) ∧
    ((perform env target e w).1 = true →
      (perform env target e w).2.files = Function.update w.files target e.entry) := by
  unfold perform
  split
  · cases env.fault w.performed with
    | none => exact ⟨.inr rfl, fun _ ↦ rfl⟩
    | some fault => cases fault <;> simp
  · exact ⟨.inl rfl, nofun⟩

variable (env p w) in
/-- What a planned effect leaves: the files as they were, or with the change of the plan, which has
happened if the effect returns. -/
theorem applyEffect_spec :
    ((applyEffect env p w).2.files = w.files ∨
      (applyEffect env p w).2.files = Function.update w.files p.target p.entryAfter) ∧
    ((applyEffect env p w).1 = true →
      (applyEffect env p w).2.files = Function.update w.files p.target p.entryAfter) := by
  unfold applyEffect PlannedEffect.entryAfter
  cases p.change.operation with
  | create =>
    cases p.after with
    | none => exact ⟨.inl rfl, nofun⟩
    | some data => exact perform_spec
  | replace =>
    cases p.after with
    | none => exact ⟨.inl rfl, nofun⟩
    | some data =>
      cases p.beforeMode with
      | none => exact ⟨.inl rfl, nofun⟩
      | some mode => exact perform_spec
  | delete => exact perform_spec

variable (env plans) in
/-- **The effects.** They touch the files of the plans that were begun; all of them have happened, if
all of them return. -/
theorem applyAll_spec (hf : AgreesOff (applied.map (·.target)) w.files f) :
    AgreesOff ((applyAll env applied plans w).1.2.map (·.target)) (applyAll env applied plans w).2.files
      f ∧ (applyAll env applied plans w).1.2 ⊆ applied ++ plans ∧
    ((applyAll env applied plans w).1.1 = true → (applyAll env applied plans w).2.files =
      updateAll w.files (plans.map fun p ↦ (p.target, p.entryAfter))) := by
  induction plans generalizing applied w with
  | nil => exact ⟨hf, by simp [applyAll], fun _ ↦ rfl⟩
  | cons p plans ih =>
    have htouched : AgreesOff ((p :: applied).map (·.target)) (applyEffect env p w).2.files f := by
      have hmore : AgreesOff ((p :: applied).map (·.target)) w.files f :=
        hf.mono (List.subset_cons_self _ _)
      rcases (applyEffect_spec env w p).1 with hsame | heffected
      · rw [hsame]
        exact hmore
      · rw [heffected]
        exact hmore.update (List.mem_cons_self ..) _
    have hreturns := (applyEffect_spec env w p).2
    rw [applyAll]
    generalize applyEffect env p w = r at htouched hreturns
    obtain ⟨returned, w'⟩ := r
    cases returned with
    | true =>
      obtain ⟨hoff, hsub, hall⟩ := ih htouched
      refine ⟨hoff, fun q hq ↦ ?_, fun h ↦ ?_⟩
      · simpa [or_left_comm, or_assoc] using hsub hq
      · rw [hall h, hreturns rfl]
        rfl
    | false => exact ⟨htouched, by simp, nofun⟩

variable (env w) in
/-- An effect that is undone gives the path its first entry back. -/
theorem rollbackEffect_spec (hfits : p.Fits f) (h : (rollbackEffect env p w).1 = true) :
    (rollbackEffect env p w).2.files = Function.update w.files p.target (f p.target) := by
  unfold rollbackEffect at h ⊢
  cases hoperation : p.change.operation with
  | create =>
    rw [hfits.created hoperation]
    simp only [hoperation] at h ⊢
    cases hentry : w.files p.target with
    | none => exact (Function.update_eq_self_iff.mpr hentry.symm).symm
    | some entry =>
      simp only [hentry] at h ⊢
      cases entry with
      | file data mode => exact perform_spec.2 h
      | _ => cases h
  | replace | delete =>
    obtain ⟨data, mode, hfile, hbefore, hmode, -⟩ := hfits.existing (by simp [hoperation])
    rw [hfile]
    simp only [hoperation, hbefore, hmode] at h ⊢
    cases hentry : w.files p.target with
    | none =>
      simp only [hentry] at h ⊢
      exact perform_spec.2 h
    | some entry =>
      simp only [hentry] at h ⊢
      cases entry with
      | file data' mode' => exact perform_spec.2 h
      | _ => cases h

variable (before) in
/-- **The rollback.** A rollback that is certain leaves the files as they were. -/
theorem rollback_spec (hfits : ∀ p ∈ applied, p.Fits f)
    (hf : AgreesOff (applied.map (·.target)) w.files f)
    (h : (rollback env before applied w).1 = true) : (rollback env before applied w).2.files = f := by
  induction applied generalizing w with
  | nil =>
    have hsame : w.files = f := agreesOff_nil.mp hf
    unfold rollback inspect at h ⊢
    cases env.inspect w.inspected w.files <;> exact hsame
  | cons p applied ih =>
    rw [List.forall_mem_cons] at hfits
    have hrestored := rollbackEffect_spec env w hfits.1
    rw [rollback] at h ⊢
    generalize rollbackEffect env p w = r at h hrestored ⊢
    obtain ⟨returned, w'⟩ := r
    cases returned with
    | true =>
      refine ih hfits.2 ?_ h
      rw [hrestored rfl]
      exact hf.restore
    | false => cases h

end Effects

/-! ### The evidence of a success -/

section Evidence

variable {H : Host} {D : BytesDigest} {repr : FiniteFloat → String}

theorem isDigest_jsonDigest (v : JsonValue) : isDigest H (H.jsonDigest v) = true := by
  simp only [isDigest, H.hasDigestPrefix_jsonDigest, H.length_jsonDigest, Bool.true_and,
    Bool.and_eq_true, decide_eq_true_eq, true_and]
  rw [Host.withoutDigestPrefix_jsonDigest]
  exact H.parsesBase16_of_isHex 64 _ (by decide) (H.hexdigest_isHex _)

theorem isDigest_of_isHexDigest {s : String} (h : isHexDigest s = true) : isDigest H s = true := by
  have hlength := length_of_isHexDigest h
  simp only [isHexDigest, Bool.and_eq_true] at h
  simp [isDigest, h.1, hlength, H.parsesBase16_of_isHex 64 _ (by decide) h.2]

/-- The document of an effect is small. -/
theorem byteSize_effect_le (p : PlannedEffect D) : p.effect.payload.byteSize repr ≤ 26000 := by
  have hoperation : textSize (StrEnum.value p.change.operation) ≤ 44 := by
    cases p.change.operation <;> exact (textSize_le _).trans (by decide)
  have hpath := textSize_le p.change.path
  have hlength := p.change.length_path_le
  have hdigest : ∀ data : Option ByteArray,
      (JsonValue.ofText? (data.map D.bytesDigest)).byteSize repr ≤ 428 := by
    intro data
    cases data with
    | none =>
      simp only [Option.map_none, JsonValue.ofText?, JsonValue.byteSize]
      decide
    | some data =>
      have hsize := textSize_le (D.bytesDigest data)
      rw [D.length_bytesDigest] at hsize
      simpa only [Option.map_some, JsonValue.ofText?, JsonValue.byteSize] using hsize
  have hbefore := hdigest p.before
  have hafter := hdigest p.after
  have h1 : textSize "operation" ≤ 56 := textSize_le _
  have h2 : textSize "path" ≤ 26 := textSize_le _
  have h3 : textSize "before_digest" ≤ 80 := textSize_le _
  have h4 : textSize "after_digest" ≤ 74 := textSize_le _
  simp only [TextChangeEffect.payload, PlannedEffect.effect, JsonValue.byteSize,
    JsonValue.fieldsSize]
  omega

variable (repr) in
/-- The document of a result is small enough. -/
theorem byteSize_result_le {worktreeSpecDigest leaseDigest evidenceDigest proposalDigest
    headCommit : String} (plans : List (PlannedEffect D)) (hspec : worktreeSpecDigest.length = 71)
    (hlease : leaseDigest.length = 71) (hevidence : evidenceDigest.length = 71)
    (hproposal : proposalDigest.length = 71) (hhead : headCommit.length = 40)
    (hplans : plans.length ≤ 256) :
    (textChangeResultPayload worktreeSpecDigest leaseDigest evidenceDigest proposalDigest headCommit
      (plans.map (·.effect)) (plans.map (·.change.path))).byteSize repr ≤
      maxTextChangeResultBytes := by
  have hdigest : ∀ s : String, s.length = 71 → textSize s ≤ 428 := by
    intro s hs
    have := textSize_le s
    omega
  have h1 := hdigest _ hspec
  have h2 := hdigest _ hlease
  have h3 := hdigest _ hevidence
  have h4 := hdigest _ hproposal
  have h5 := textSize_le headCommit
  have heffects : JsonValue.itemsSize repr ((plans.map (·.effect)).map (·.payload)) ≤
      256 * 26001 := by
    refine (JsonValue.itemsSize_le (n := 26000) ?_).trans ?_
    · rw [List.map_map, List.forall_mem_map]
      exact fun p _ ↦ byteSize_effect_le p
    · rw [List.length_map, List.length_map]
      exact Nat.mul_le_mul_right _ hplans
  have hpaths : JsonValue.itemsSize repr ((plans.map (·.change.path)).map .str) ≤
      256 * 24579 := by
    refine (JsonValue.itemsSize_le (n := 24578) ?_).trans ?_
    · rw [List.map_map, List.forall_mem_map]
      intro p _
      have := textSize_le p.change.path
      have := p.change.length_path_le
      simp only [Function.comp_apply, JsonValue.byteSize]
      omega
    · rw [List.length_map, List.length_map]
      exact Nat.mul_le_mul_right _ hplans
  have k1 : textSize "schema_version" ≤ 86 := textSize_le _
  have k2 : textSize "status" ≤ 38 := textSize_le _
  have k3 : textSize "worktree_spec_digest" ≤ 122 := textSize_le _
  have k4 : textSize "lease_digest" ≤ 74 := textSize_le _
  have k5 : textSize "evidence_digest" ≤ 92 := textSize_le _
  have k6 : textSize "proposal_digest" ≤ 92 := textSize_le _
  have k7 : textSize "head_commit" ≤ 68 := textSize_le _
  have k8 : textSize "effects" ≤ 44 := textSize_le _
  have k9 : textSize "changed_paths" ≤ 80 := textSize_le _
  have v1 : textSize textChangeResultSchema ≤ 188 := textSize_le _
  have v2 : textSize "applied" ≤ 44 := textSize_le _
  simp only [textChangeResultPayload, JsonValue.ofTexts, JsonValue.byteSize, JsonValue.fieldsSize,
    maxTextChangeResultBytes]
  omega

variable (H repr) in
/-- **Evidence.** The evidence of a success is always well formed: the result of an execution whose
inspection is the expected one can be built. -/
theorem exists_create_eq_ok (spec : WorktreeExecutionSpec) {proposal : ChangeProposal D}
    {plans : List (PlannedEffect D)} (hplans : plans.map (·.change) = proposal.operations)
    {headCommit : String} (hhead : isCommit headCommit) :
    ∃ result, TextChangeExecutionResult.create H repr (spec.digest H) (spec.lease.digest H)
      proposal.evidenceDigest (proposal.digest H) headCommit (plans.map (·.effect))
      (plans.map (·.change.path)) = .ok result := by
  have hpaths : plans.map (·.change.path) = proposal.operations.map (·.path) := by
    rw [← hplans, List.map_map]
    rfl
  have hlength : plans.length = proposal.operations.length := by
    rw [← hplans, List.length_map]
  have hoperations := proposal.isOperations
  have hevidence := proposal.isProposal.2.1
  have hresult : IsResult H (spec.digest H) (spec.lease.digest H) proposal.evidenceDigest
      (proposal.digest H) headCommit (plans.map (·.effect)) (plans.map (·.change.path)) := by
    refine ⟨hhead, ⟨isDigest_jsonDigest _, isDigest_jsonDigest _, isDigest_of_isHexDigest hevidence,
      isDigest_jsonDigest _⟩, fun hnil ↦ ?_, ?_, by simp [PlannedEffect.effect]⟩
    · have := hoperations.length.1
      rw [List.map_eq_nil_iff] at hnil
      rw [← hlength, hnil] at this
      simp at this
    · rw [hpaths]
      exact ⟨hoperations.nodup, hoperations.sorted⟩
  have hcommit : headCommit.length = 40 := (isHex_iff.mp hhead).1
  have hsize := byteSize_result_le repr plans
    (H.length_jsonDigest (.object (spec.document H)))
    (H.length_jsonDigest (.object spec.lease.document)) (length_of_isHexDigest hevidence)
    (H.length_jsonDigest (changeProposalPayload proposal.proposalId proposal.evidenceDigest
      proposal.operations proposal.summary)) hcommit (hlength ▸ hoperations.length.2)
  exact ⟨_, by rw [TextChangeExecutionResult.create, dif_pos hresult]; exact if_pos hsize⟩

end Evidence

/-! ### All or nothing -/

/-- What a change declares to be at its path, when an entry stood there before. -/
def declares {D : BytesDigest} (c : FileChange D) (before : Option Entry) : Option Entry :=
  match c.operation, before with
  | .create, _ => c.content.map fun text ↦ .file text.toUTF8 0o644
  | .replace, some (.file _ mode) => c.content.map fun text ↦ .file text.toUTF8 mode
  | _, _ => none

/-- The files differ from the first ones in exactly the declared operations. -/
structure Applied {D : BytesDigest} (operations : List (FileChange D)) (f f' : Files) : Prop where
  declared : ∀ c ∈ operations, f' c.target = declares c (f c.target)
  differs : ∀ key, f' key ≠ f key ↔ ∃ c ∈ operations, c.target = key

section Execution

variable {env : Environment ε} {w : World} {f : Files} {p : PlannedEffect env.digest}
  {applied plans : List (PlannedEffect env.digest)} {spec : WorktreeExecutionSpec}
  {proposal : ChangeProposal env.digest} {before : WorktreeInspection}
  {code : TextChangeFailureCode}

/-- A planned effect leaves what its change declares. -/
theorem entryAfter_of_fits (hfits : p.Fits f) :
    p.entryAfter = declares p.change (f p.target) := by
  unfold PlannedEffect.entryAfter declares
  rw [hfits.after]
  cases hoperation : p.change.operation with
  | create => rw [Option.map_map]; rfl
  | replace =>
    obtain ⟨data, mode, hfile, -, hmode, -⟩ := hfits.existing (by simp [hoperation])
    cases hcontent : p.change.content <;> simp [hfile, hmode]
  | delete => rfl

/-- A planned effect changes what stands at its path. -/
theorem entryAfter_ne (hfits : p.Fits f) : p.entryAfter ≠ f p.target := by
  have hisOperation := p.change.isOperation
  unfold PlannedEffect.entryAfter
  rw [hfits.after]
  cases hoperation : p.change.operation with
  | create =>
    simp only [hoperation, IsOperation] at hisOperation
    obtain ⟨text, htext⟩ := Option.isSome_iff_exists.mp hisOperation.2
    simp [htext, hfits.created hoperation]
  | replace =>
    obtain ⟨data, mode, hfile, -, hmode, hdigest⟩ := hfits.existing (by simp [hoperation])
    simp only [hoperation, IsOperation] at hisOperation
    obtain ⟨text, htext⟩ := Option.isSome_iff_exists.mp hisOperation.2
    -- The content does not have the digest of what it replaces.
    have hne := (p.change.isContent text htext).2 hoperation
    simp only [htext, hmode, hfile, Option.map_some, Option.bind_some, ne_eq, Option.some.injEq,
      Entry.file.injEq, and_true]
    rintro rfl
    exact hne hdigest
  | delete =>
    obtain ⟨data, mode, hfile, -⟩ := hfits.existing (by simp [hoperation])
    simp [hfile]

/-- The files after the effects of all plans of a proposal. -/
theorem applied_updateAll (hplans : plans.map (·.change) = proposal.operations)
    (hfits : ∀ p ∈ plans, p.Fits f) :
    Applied proposal.operations f (updateAll f (plans.map fun p ↦ (p.target, p.entryAfter))) := by
  have htargets : (plans.map fun p ↦ (p.target, p.entryAfter)).map Prod.fst =
      proposal.operations.map (·.target) := by
    rw [← hplans, List.map_map, List.map_map]
    rfl
  have hnodup : ((plans.map fun p ↦ (p.target, p.entryAfter)).map Prod.fst).Nodup :=
    htargets ▸ proposal.nodup_targets
  have hat : ∀ p ∈ plans,
      updateAll f (plans.map fun p ↦ (p.target, p.entryAfter)) p.target = p.entryAfter :=
    fun p hp ↦ updateAll_of_mem hnodup (List.mem_map_of_mem hp)
  rw [← hplans]
  constructor
  · rw [List.forall_mem_map]
    intro p hp
    exact (hat p hp).trans (entryAfter_of_fits (hfits p hp))
  · intro key
    refine ⟨fun hne ↦ ?_, ?_⟩
    · by_contra hnot
      refine hne (updateAll_of_notMem fun hmem ↦ hnot ?_)
      rw [htargets, ← hplans] at hmem
      exact List.mem_map.mp hmem
    · rintro ⟨c, hc, rfl⟩
      obtain ⟨p, hp, rfl⟩ := List.mem_map.mp hc
      exact (hat p hp).trans_ne (entryAfter_ne (hfits p hp))

/-- How an execution ends after its preflight, with the files `f` at its beginning: it has applied
the proposal, or it reports that the files are the first ones, or that they are uncertain. -/
inductive Ending (operations : List (FileChange env.digest)) (f : Files) :
    Except (Failure ε) (TextChangeExecutionResult env.host) × World → Prop
  | applied {result w'} (files : Applied operations f w'.files) :
    Ending operations f (.ok result, w')
  | restored {code w'} (isCode : code = .effectFailedRolledBack ∨ code = .effectEvidenceMismatch)
    (files : w'.files = f) : Ending operations f (.error (.code code), w')
  | uncertain {w'} : Ending operations f (.error (.code .effectUncertain), w')

/-- A failure is reported with its code only if the files are the first ones. -/
theorem ending_failWith {operations : List (FileChange env.digest)}
    (hcode : code = .effectFailedRolledBack ∨ code = .effectEvidenceMismatch)
    (hfits : ∀ p ∈ applied, p.Fits f) (hf : AgreesOff (applied.map (·.target)) w.files f) :
    Ending operations f (failWith env before code applied w) := by
  have hrestored := rollback_spec before hfits hf
  unfold failWith
  generalize rollback env before applied w = r at hrestored ⊢
  obtain ⟨certain, w'⟩ := r
  cases certain with
  | true => exact .restored hcode (hrestored rfl)
  | false => exact .uncertain

/-- **The effects and their evidence.** They end well, if the plans are those of the proposal. -/
theorem ending_executePlans (hplans : plans.map (·.change) = proposal.operations)
    (hfits : ∀ p ∈ plans, p.Fits w.files) :
    Ending proposal.operations w.files (executePlans env spec proposal before plans w) := by
  obtain ⟨hoff, hsub, hall⟩ := applyAll_spec env plans
    (show AgreesOff (([] : List (PlannedEffect env.digest)).map (·.target)) w.files w.files from
      AgreesOff.refl _ _)
  unfold executePlans
  generalize applyAll env [] plans w = r at hoff hsub hall ⊢
  obtain ⟨⟨returned, applied⟩, w'⟩ := r
  have hfits' : ∀ p ∈ applied, p.Fits w.files := fun p hp ↦ hfits p (by simpa using hsub hp)
  cases returned with
  | false => exact ending_failWith (.inl rfl) hfits' hoff
  | true =>
    simp only [inspect]
    cases env.inspect w'.inspected w'.files with
    | error error => exact ending_failWith (.inr rfl) hfits' hoff
    | ok after =>
      simp only
      split
      · rename_i hevidence
        obtain ⟨result, hresult⟩ := exists_create_eq_ok env.host env.repr spec hplans
          after.commits.2
        rw [hevidence.2.1, hresult]
        refine .applied ?_
        rw [hall rfl]
        exact applied_updateAll hplans hfits
      · exact ending_failWith (.inr rfl) hfits' hoff

/-- **All or nothing.** An execution succeeds with the files changed in exactly the declared
operations. It reports that its effects were rolled back, or that the evidence does not match, only
when the files are the first ones, and it reports every other failure as uncertain, once it has
begun an effect. -/
theorem execute_allOrNothing (env : Environment ε) (spec : WorktreeExecutionSpec)
    (proposal : ChangeProposal env.digest) (admission : TextChangeAdmission env.host) (w : World) :
    (∀ result, (execute env spec proposal admission w).1 = .ok result →
      Applied proposal.operations w.files (execute env spec proposal admission w).2.files) ∧
    (∀ code, code = .effectFailedRolledBack ∨ code = .effectEvidenceMismatch →
      (execute env spec proposal admission w).1 = .error (.code code) →
      (execute env spec proposal admission w).2.files = w.files) ∧
    ∀ failure, (execute env spec proposal admission w).1 = .error failure →
      failure = .code .effectFailedRolledBack ∨ failure = .code .effectEvidenceMismatch ∨
      failure = .code .effectUncertain ∨
      (execute env spec proposal admission w).2.performed = w.performed ∧
        (execute env spec proposal admission w).2.files = w.files := by
  -- Before the first effect, or as the plans end.
  have hcases : (∃ failure, (execute env spec proposal admission w).1 = .error failure ∧
        (execute env spec proposal admission w).2.performed = w.performed ∧
        (execute env spec proposal admission w).2.files = w.files) ∨
      Ending proposal.operations w.files (execute env spec proposal admission w) := by
    unfold execute
    split
    · simp only [inspect]
      cases env.inspect w.inspected w.files with
      | error error => exact .inl ⟨_, rfl, rfl, rfl⟩
      | ok before =>
        simp only
        split
        · exact .inl ⟨_, rfl, rfl, rfl⟩
        · cases hplans : preflight env.digest spec proposal w.files with
          | error code => exact .inl ⟨_, rfl, rfl, rfl⟩
          | ok plans =>
            obtain ⟨hchanges, hfits⟩ := preflight_spec hplans
            exact .inr (ending_executePlans (w := { w with inspected := w.inspected + 1 })
              hchanges hfits)
    · exact .inl ⟨_, rfl, rfl, rfl⟩
  generalize execute env spec proposal admission w = r at hcases ⊢
  obtain ⟨answer, w'⟩ := r
  rcases hcases with ⟨failure, rfl, hperformed, hfiles⟩ | hending
  · exact ⟨nofun, fun _ _ _ ↦ hfiles, fun _ _ ↦ .inr (.inr (.inr ⟨hperformed, hfiles⟩))⟩
  · cases hending with
    | applied files => exact ⟨fun _ _ ↦ files, nofun, nofun⟩
    | restored isCode files =>
      refine ⟨nofun, fun _ _ _ ↦ files, fun failure heq ↦ ?_⟩
      obtain rfl := Except.error.inj heq
      rcases isCode with rfl | rfl <;> simp
    | uncertain =>
      refine ⟨nofun, fun code hcode heq ↦ ?_, fun failure heq ↦ ?_⟩
      · obtain rfl := Failure.code.inj (Except.error.inj heq)
        simp at hcode
      · exact .inr (.inr (.inl (Except.error.inj heq).symm))

end Execution

/-! ### Inspections -/

section Inspections

variable {env : Environment ε} {spec : WorktreeExecutionSpec} {before : WorktreeInspection}
  {w : World}

theorem inspected_perform {target : List String} {e : FileEffect} :
    (perform env target e w).2.inspected = w.inspected := by
  unfold perform
  split
  · cases env.fault w.performed with
    | none => rfl
    | some fault => cases fault <;> rfl
  · rfl

theorem inspected_applyEffect {p : PlannedEffect env.digest} :
    (applyEffect env p w).2.inspected = w.inspected := by
  unfold applyEffect
  split
  · split
    · rfl
    · exact inspected_perform
  · split
    · exact inspected_perform
    · rfl
  · exact inspected_perform

theorem inspected_applyAll {applied plans : List (PlannedEffect env.digest)} :
    (applyAll env applied plans w).2.inspected = w.inspected := by
  induction plans generalizing applied w with
  | nil => rfl
  | cons p plans ih =>
    have heffect : (applyEffect env p w).2.inspected = w.inspected := inspected_applyEffect
    rw [applyAll]
    generalize applyEffect env p w = r at heffect
    obtain ⟨returned, w'⟩ := r
    cases returned with
    | true => exact ih.trans heffect
    | false => exact heffect

theorem inspected_rollbackEffect {p : PlannedEffect env.digest} :
    (rollbackEffect env p w).2.inspected = w.inspected := by
  unfold rollbackEffect
  split
  · split
    · rfl
    · exact inspected_perform
    · rfl
  · split
    · split
      · exact inspected_perform
      · exact inspected_perform
      · rfl
    · rfl

/-- A rollback inspects at most once, at its end. -/
theorem inspected_rollback {applied : List (PlannedEffect env.digest)} :
    (rollback env before applied w).2.inspected ≤ w.inspected + 1 := by
  induction applied generalizing w with
  | nil =>
    unfold rollback inspect
    cases env.inspect w.inspected w.files <;> exact Nat.le_refl _
  | cons p applied ih =>
    have heffect : (rollbackEffect env p w).2.inspected = w.inspected := inspected_rollbackEffect
    rw [rollback]
    generalize rollbackEffect env p w = r at heffect
    obtain ⟨returned, w'⟩ := r
    cases returned with
    | true => exact heffect ▸ ih
    | false => exact heffect.trans_le (Nat.le_succ _)

theorem inspected_failWith {code : TextChangeFailureCode}
    {applied : List (PlannedEffect env.digest)} :
    (failWith env before code applied w).2.inspected ≤ w.inspected + 1 := by
  have hrollback : (rollback env before applied w).2.inspected ≤ w.inspected + 1 :=
    inspected_rollback
  unfold failWith
  generalize rollback env before applied w = r at hrollback
  obtain ⟨restored, w'⟩ := r
  cases restored <;> exact hrollback

/-- The execution from `w` inspects at most twice when it returns, and at most three times. -/
def InspectsWithin (n : Nat)
    (r : Except (Failure ε) (TextChangeExecutionResult env.host) × World) : Prop :=
  (∀ result, r.1 = .ok result → r.2.inspected ≤ n + 2) ∧ r.2.inspected ≤ n + 3

theorem inspectsWithin_of_le {n : Nat}
    {r : Except (Failure ε) (TextChangeExecutionResult env.host) × World}
    (h : r.2.inspected ≤ n + 2) : InspectsWithin n r :=
  ⟨fun _ _ ↦ h, h.trans (Nat.le_succ _)⟩

theorem inspectsWithin_failWith {n : Nat} {code : TextChangeFailureCode}
    {applied : List (PlannedEffect env.digest)} (h : w.inspected ≤ n + 2) :
    InspectsWithin n (failWith env before code applied w) := by
  refine ⟨fun result hresult ↦ ?_, inspected_failWith.trans (by omega)⟩
  unfold failWith at hresult
  generalize rollback env before applied w = r at hresult
  obtain ⟨restored, w'⟩ := r
  cases restored <;> cases hresult

theorem inspectsWithin_executePlans {n : Nat} {proposal : ChangeProposal env.digest}
    {plans : List (PlannedEffect env.digest)} (h : w.inspected = n + 1) :
    InspectsWithin n (executePlans env spec proposal before plans w) := by
  have happlied : (applyAll env [] plans w).2.inspected = n + 1 := inspected_applyAll.trans h
  unfold executePlans
  generalize applyAll env [] plans w = r at happlied
  obtain ⟨⟨returned, applied⟩, w'⟩ := r
  cases returned with
  | false => exact inspectsWithin_failWith (happlied.le.trans (Nat.le_succ _))
  | true =>
    have hinspect : (inspect env w').2.inspected = n + 2 := congrArg (· + 1) happlied
    simp only
    generalize inspect env w' = r at hinspect
    obtain ⟨answer, w''⟩ := r
    cases answer with
    | error e => exact inspectsWithin_failWith hinspect.le
    | ok after =>
      simp only
      split
      · exact inspectsWithin_of_le hinspect.le
      · exact inspectsWithin_failWith hinspect.le

/-- **Inspections.** An execution inspects the checkout before the effects, after them, and after
they were undone. -/
theorem inspectsWithin_execute (env : Environment ε) (spec : WorktreeExecutionSpec)
    (proposal : ChangeProposal env.digest) (admission : TextChangeAdmission env.host) (w : World) :
    InspectsWithin w.inspected (execute env spec proposal admission w) := by
  unfold execute
  split
  · have hinspect : (inspect env w).2.inspected = w.inspected + 1 := rfl
    generalize inspect env w = r at hinspect
    obtain ⟨answer, w'⟩ := r
    cases answer with
    | error e => exact inspectsWithin_of_le (hinspect.le.trans (Nat.le_succ _))
    | ok before =>
      simp only
      split
      · exact inspectsWithin_of_le (hinspect.le.trans (Nat.le_succ _))
      · cases preflight env.digest spec proposal w'.files with
        | error code => exact inspectsWithin_of_le (hinspect.le.trans (Nat.le_succ _))
        | ok plans => exact inspectsWithin_executePlans hinspect
  · exact inspectsWithin_of_le (Nat.le_add_right _ 2)

end Inspections

end Blackcell.Adapters.TextChanges
