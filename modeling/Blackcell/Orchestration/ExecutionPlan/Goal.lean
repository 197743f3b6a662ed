import Blackcell.Orchestration.ExecutionPlan.Contract

/-!
# Goals

The admitted goal of `orchestration/execution_plan.py`, and its verification checks. Both are
structures that carry what their constructors demand, so a goal that the runtime holds is a valid
one; the constructors sort what the source sorts.

## Main definitions

* `VerificationCheck`, `GoalSpec` : the validated values, with `create` for their constructors.
* `goalPayload`, `goalFromPayload` : the durable form of a goal, and its validation when it is read.
* `GoalSpec.digest` : the digest that binds a run to its goal.

## Main results

* `goalFromPayload_goalPayload` : a goal that can be read back from its payload is read as itself.
-/

namespace Blackcell.Orchestration.ExecutionPlan

open Blackcell.Kernel

/-! ### Verification checks -/

/-- What the constructor of a verification check demands. -/
def VerificationCheck.Valid (checkId : String) (argv : List String) (expectedExitCode : Nat) :
    Prop :=
  isPlanIdentifier checkId ∧ 1 ≤ argv.length ∧ argv.length ≤ maxArgv ∧
    (∀ token ∈ argv, token ≠ "" ∧ ¬token.toList.contains '\x00' ∧
      token.utf8ByteSize ≤ maxTokenBytes) ∧
    isSafeExecutable (argv.headD "") ∧ expectedExitCode ≤ 255

instance (checkId : String) (argv : List String) (expectedExitCode : Nat) :
    Decidable (VerificationCheck.Valid checkId argv expectedExitCode) :=
  inferInstanceAs (Decidable (_ ∧ _ ∧ _ ∧ _ ∧ _ ∧ _))

/-- `VerificationCheck`: a host-owned command, and the exit code that it has to end with. -/
@[ext]
structure VerificationCheck where
  checkId : String
  argv : List String
  expectedExitCode : Nat
  valid : VerificationCheck.Valid checkId argv expectedExitCode
  deriving DecidableEq

namespace VerificationCheck

/-- The constructor. -/
def create (checkId : String) (argv : List String) (expectedExitCode : Nat) :
    Contract VerificationCheck :=
  if h : Valid checkId argv expectedExitCode then .ok ⟨checkId, argv, expectedExitCode, h⟩
  else .error .invalidExecutionContract

@[simp] theorem create_eq_ok {checkId : String} {argv : List String} {expectedExitCode : Nat}
    {r : VerificationCheck} : create checkId argv expectedExitCode = .ok r ↔
      r.checkId = checkId ∧ r.argv = argv ∧ r.expectedExitCode = expectedExitCode := by
  unfold create
  split
  · rw [Except.ok.injEq, VerificationCheck.ext_iff]
    simp only [eq_comm]
  · rename_i h
    simp only [reduceCtorEq, false_iff]
    rintro ⟨rfl, rfl, rfl⟩
    exact h r.valid

/-- The durable form of a check. -/
def payload (c : VerificationCheck) : JsonValue :=
  .object [
    ("check_id", .str c.checkId),
    ("argv", .ofTexts c.argv),
    ("expected_exit_code", .int c.expectedExitCode)]

/-- The check that a durable form stands for. -/
def ofPayload (item : JsonValue) : Contract VerificationCheck := do
  let check ← mapping item
  let checkId ← mappingText check "check_id"
  let argv ← textSequence (check.get "argv")
  let expectedExitCode ← mappingInteger check "expected_exit_code"
  create checkId argv expectedExitCode

theorem ofPayload_payload {c r : VerificationCheck} (h : ofPayload c.payload = .ok r) : r = c := by
  simp only [ofPayload, payload, mapping, JsonValue.fields?, Checked.ofOption_some, Checked.ok_bind,
    Checked.bind_eq_ok, mappingText, text_eq_ok, mappingInteger_eq_ok, create_eq_ok] at h
  simp only [Mapping.get_cons, reduceIte, String.reduceEq, JsonValue.str.injEq,
    JsonValue.int.injEq, Int.natCast_inj] at h
  obtain ⟨_, ⟨rfl, -⟩, argv, hargv, _, rfl, hid, hargv', hcode⟩ := h
  exact VerificationCheck.ext hid (hargv'.trans (textSequence_ofTexts hargv)) hcode

end VerificationCheck

/-- A sorted tuple of distinct checks. -/
def IsCheckTuple (checks : List VerificationCheck) : Prop :=
  checks.Pairwise (fun a b ↦ a.checkId ≤ b.checkId) ∧ (checks.map (·.checkId)).Nodup ∧
    1 ≤ checks.length ∧ checks.length ≤ maxChecks

instance (checks : List VerificationCheck) : Decidable (IsCheckTuple checks) :=
  inferInstanceAs (Decidable (_ ∧ _ ∧ _ ∧ _))

/-- `sorted`, on checks. Checks with one identifier are refused where checks are sorted, so the
order of the remaining fields does not matter. -/
def sortedChecks (checks : List VerificationCheck) : List VerificationCheck :=
  checks.insertionSort fun a b ↦ a.checkId ≤ b.checkId

/-- The sorted checks, when there are not too many and they are distinct. -/
def checkTuple (checks : List VerificationCheck) : Contract { checks // IsCheckTuple checks } :=
  Checked.certify IsCheckTuple (sortedChecks checks) .invalidExecutionContract

theorem IsCheckTuple.sortedChecks_eq {checks : List VerificationCheck} (h : IsCheckTuple checks) :
    sortedChecks checks = checks :=
  h.1.insertionSort_eq

/-- The checks of a payload, in its order. -/
def checksOfPayload (v : JsonValue) : Contract (List VerificationCheck) := do
  let items ← sequence v
  items.mapM VerificationCheck.ofPayload

theorem checksOfPayload_payload {checks checks' : List VerificationCheck}
    (h : checksOfPayload (.list (checks.map (·.payload))) = .ok checks') : checks' = checks := by
  simp only [checksOfPayload, Checked.bind_eq_ok, sequence_eq_ok, JsonValue.list.injEq] at h
  obtain ⟨_, rfl, h⟩ := h
  exact Checked.eq_of_mapM_map (fun _ _ ↦ VerificationCheck.ofPayload_payload) h

/-! ### Goals -/

/-- `EXECUTION_GOAL_SCHEMA`. -/
def executionGoalSchema : String := "blackcell.goal/v2"

/-- `GoalSpec`. The schema version of every goal is `EXECUTION_GOAL_SCHEMA`. -/
@[ext]
structure GoalSpec where
  goalId : String
  projectId : String
  intentId : String
  objective : String
  baseCommit : String
  constraints : { texts // IsTextTuple 64 texts }
  allowedPaths : { paths // IsPathTuple paths }
  verificationChecks : { checks // IsCheckTuple checks }
  maxAttempts : Nat
  sameErrorLimit : Nat
  identifiers : isPlanIdentifier goalId ∧ isPlanIdentifier projectId ∧ isPlanIdentifier intentId
  isObjective : isObjective objective
  isCommit : isCommit baseCommit
  attempts : 1 ≤ maxAttempts ∧ maxAttempts ≤ 3 ∧ 1 ≤ sameErrorLimit ∧ sameErrorLimit ≤ 2

namespace GoalSpec

/-- The constructor. -/
def create (schemaVersion goalId projectId intentId objective baseCommit : String)
    (constraints allowedPaths : List String) (verificationChecks : List VerificationCheck)
    (maxAttempts sameErrorLimit : Nat) : Contract GoalSpec := do
  demand (schemaVersion = executionGoalSchema)
  let constraints ← boundedTextTuple constraints 64
  let allowedPaths ← pathTuple allowedPaths
  let verificationChecks ← checkTuple verificationChecks
  if h : (isPlanIdentifier goalId ∧ isPlanIdentifier projectId ∧ isPlanIdentifier intentId) ∧
      ExecutionPlan.isObjective objective ∧ Kernel.isCommit baseCommit ∧
      1 ≤ maxAttempts ∧ maxAttempts ≤ 3 ∧ 1 ≤ sameErrorLimit ∧ sameErrorLimit ≤ 2 then
    pure ⟨goalId, projectId, intentId, objective, baseCommit, constraints, allowedPaths,
      verificationChecks, maxAttempts, sameErrorLimit, h.1, h.2.1, h.2.2.1, h.2.2.2⟩
  else throw .invalidExecutionContract

/-- The constructor keeps its arguments, in their normal forms. -/
theorem create_eq_ok {schemaVersion goalId projectId intentId objective baseCommit : String}
    {constraints allowedPaths : List String} {checks : List VerificationCheck}
    {maxAttempts sameErrorLimit : Nat} {g : GoalSpec}
    (h : create schemaVersion goalId projectId intentId objective baseCommit constraints
      allowedPaths checks maxAttempts sameErrorLimit = .ok g) :
    (g.goalId = goalId ∧ g.projectId = projectId ∧ g.intentId = intentId ∧
      g.objective = objective ∧ g.baseCommit = baseCommit) ∧
    boundedTextTuple constraints 64 = .ok g.constraints ∧
    pathTuple allowedPaths = .ok g.allowedPaths ∧
    checkTuple checks = .ok g.verificationChecks ∧
    g.maxAttempts = maxAttempts ∧ g.sameErrorLimit = sameErrorLimit := by
  simp only [create, Checked.bind_eq_ok, demand_eq_ok, Checked.exists_unit] at h
  obtain ⟨-, c, hc, p, hp, v, hv, h⟩ := h
  split at h
  · obtain rfl := Checked.pure_eq_ok.mp h
    exact ⟨⟨rfl, rfl, rfl, rfl, rfl⟩, hc, hp, hv, rfl, rfl⟩
  · exact absurd h (by simp)

end GoalSpec

/-- `goal_payload`. -/
def goalPayload (goal : GoalSpec) : JsonValue :=
  .object [
    ("schema_version", .str executionGoalSchema),
    ("goal_id", .str goal.goalId),
    ("project_id", .str goal.projectId),
    ("intent_id", .str goal.intentId),
    ("objective", .str goal.objective),
    ("base_commit", .str goal.baseCommit),
    ("constraints", .ofTexts goal.constraints.1),
    ("allowed_paths", .ofTexts goal.allowedPaths.1),
    ("verification_checks", .list (goal.verificationChecks.1.map (·.payload))),
    ("max_attempts", .int goal.maxAttempts),
    ("same_error_limit", .int goal.sameErrorLimit)]

/-- `GoalSpec.digest`. -/
def GoalSpec.digest (H : Host) (goal : GoalSpec) : String := H.jsonDigest (goalPayload goal)

/-- `goal_from_payload`: reconstruct and revalidate a goal from durable event content. -/
def goalFromPayload (value : JsonValue) : Contract GoalSpec := do
  let raw ← mapping value
  demand (raw.exact ["schema_version", "goal_id", "project_id", "intent_id", "objective",
    "base_commit", "constraints", "allowed_paths", "verification_checks", "max_attempts",
    "same_error_limit"])
  let checks ← checksOfPayload (raw.get "verification_checks")
  let schemaVersion ← mappingText raw "schema_version"
  let goalId ← mappingText raw "goal_id"
  let projectId ← mappingText raw "project_id"
  let intentId ← mappingText raw "intent_id"
  let objective ← mappingText raw "objective"
  let baseCommit ← mappingText raw "base_commit"
  let constraints ← textSequence (raw.get "constraints")
  let allowedPaths ← textSequence (raw.get "allowed_paths")
  let maxAttempts ← mappingInteger raw "max_attempts"
  let sameErrorLimit ← mappingInteger raw "same_error_limit"
  GoalSpec.create schemaVersion goalId projectId intentId objective baseCommit constraints
    allowedPaths checks maxAttempts sameErrorLimit

/-- **Reading a goal back.** A goal whose payload is admitted is read as itself. The payload of a
goal is refused when a token of a command is blank, which the constructor allows. -/
theorem goalFromPayload_goalPayload {goal r : GoalSpec}
    (h : goalFromPayload (goalPayload goal) = .ok r) : r = goal := by
  simp only [goalFromPayload, goalPayload, mapping, JsonValue.fields?, Checked.ofOption_some,
    Checked.ok_bind, Checked.bind_eq_ok, demand_eq_ok, Checked.exists_unit, mappingText,
    text_eq_ok, mappingInteger_eq_ok] at h
  simp only [Mapping.get_cons, reduceIte, String.reduceEq, JsonValue.str.injEq,
    JsonValue.int.injEq, Int.natCast_inj] at h
  obtain ⟨-, checks, hchecks, _, ⟨rfl, -⟩, _, ⟨rfl, -⟩, h⟩ := h
  obtain ⟨_, ⟨rfl, -⟩, _, ⟨rfl, -⟩, _, ⟨rfl, -⟩, h⟩ := h
  obtain ⟨_, ⟨rfl, -⟩, constraints, hconstraints, paths, hpaths, _, h⟩ := h
  obtain ⟨rfl, _, rfl, h⟩ := h
  obtain rfl := checksOfPayload_payload hchecks
  obtain rfl := textSequence_ofTexts hconstraints
  obtain rfl := textSequence_ofTexts hpaths
  obtain ⟨⟨hgoal, hproject, hintent, hobjective, hbase⟩, hc, hp, hv, hattempts, hlimit⟩ :=
    GoalSpec.create_eq_ok h
  rw [checkTuple, Checked.certify_eq_ok, goal.verificationChecks.2.sortedChecks_eq] at hv
  exact GoalSpec.ext hgoal hproject hintent hobjective hbase
    (Subtype.ext (goal.constraints.2.eq_of_boundedTextTuple hc))
    (Subtype.ext (goal.allowedPaths.2.eq_of_pathTuple hp)) (Subtype.ext hv) hattempts hlimit

end Blackcell.Orchestration.ExecutionPlan
