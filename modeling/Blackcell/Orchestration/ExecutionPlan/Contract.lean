import Blackcell.Foundation.StrEnum
import Blackcell.Kernel.Event
import Mathlib.Data.List.Dedup
import Mathlib.Data.List.DropRight

/-!
# Contract readers

The vocabulary of `orchestration/execution_plan.py`: the statuses of tasks and runs, the routes of
an attempt, and the readers that admit identifiers, texts and repository paths. A reader that
normalises its input (sorts it, or strips trailing slashes) leaves a normal form alone, which is
what makes the payloads of goals and plans read back.

## Main definitions

* `FailureClass`, `AttemptRoute`, `TaskLifecycleStatus`, `RunLifecycleStatus`.
* `PlanContractError` : the content-free rejections.
* `identifier`, `text`, `sequence`, `mapping`, `repositoryPath`, `pathTuple`, `boundedTextTuple`.

## Main results

* `IsPathTuple.eq_of_pathTuple`, `IsTextTuple.eq_of_boundedTextTuple` : a normal form is read as
  itself.
-/

namespace Blackcell.Orchestration.ExecutionPlan

open Blackcell.Kernel

/-- `FailureClass`. -/
inductive FailureClass where
  | transient | logicBug | contractMismatch | missingDependency | invalidAssumption | policy
  | unclassified
  deriving DecidableEq, Repr

instance : StrEnum FailureClass where
  value
    | .transient => "transient"
    | .logicBug => "logic-bug"
    | .contractMismatch => "contract-mismatch"
    | .missingDependency => "missing-dependency"
    | .invalidAssumption => "invalid-assumption"
    | .policy => "policy"
    | .unclassified => "unclassified"
  members := [.transient, .logicBug, .contractMismatch, .missingDependency, .invalidAssumption,
    .policy, .unclassified]
  mem_members := by intro a; cases a <;> decide
  nodup_values := by decide

/-- `AttemptRoute`. -/
inductive AttemptRoute where
  | succeeded | repairable | replanRequired | blocked | escalated | terminalFailure
  deriving DecidableEq, Repr

instance : StrEnum AttemptRoute where
  value
    | .succeeded => "succeeded"
    | .repairable => "repairable"
    | .replanRequired => "replan-required"
    | .blocked => "blocked"
    | .escalated => "escalated"
    | .terminalFailure => "terminal-failure"
  members := [.succeeded, .repairable, .replanRequired, .blocked, .escalated, .terminalFailure]
  mem_members := by intro a; cases a <;> decide
  nodup_values := by decide

/-- `TaskLifecycleStatus`. -/
inductive TaskLifecycleStatus where
  | pending | ready | running | verifying | succeeded | repairable | replanRequired | blocked
  | canceled | escalated | terminalFailure
  deriving DecidableEq, Repr

instance : StrEnum TaskLifecycleStatus where
  value
    | .pending => "pending"
    | .ready => "ready"
    | .running => "running"
    | .verifying => "verifying"
    | .succeeded => "succeeded"
    | .repairable => "repairable"
    | .replanRequired => "replan-required"
    | .blocked => "blocked"
    | .canceled => "canceled"
    | .escalated => "escalated"
    | .terminalFailure => "terminal-failure"
  members := [.pending, .ready, .running, .verifying, .succeeded, .repairable, .replanRequired,
    .blocked, .canceled, .escalated, .terminalFailure]
  mem_members := by intro a; cases a <;> decide
  nodup_values := by decide

/-- `TaskLifecycleStatus(route.value)`. -/
def AttemptRoute.taskStatus : AttemptRoute → TaskLifecycleStatus
  | .succeeded => .succeeded
  | .repairable => .repairable
  | .replanRequired => .replanRequired
  | .blocked => .blocked
  | .escalated => .escalated
  | .terminalFailure => .terminalFailure

/-- `RunLifecycleStatus`. -/
inductive RunLifecycleStatus where
  | admitted | running | succeeded | replanRequired | replanning | blocked | canceled | escalated
  | terminalFailure
  deriving DecidableEq, Repr

instance : StrEnum RunLifecycleStatus where
  value
    | .admitted => "admitted"
    | .running => "running"
    | .succeeded => "succeeded"
    | .replanRequired => "replan-required"
    | .replanning => "replanning"
    | .blocked => "blocked"
    | .canceled => "canceled"
    | .escalated => "escalated"
    | .terminalFailure => "terminal-failure"
  members := [.admitted, .running, .succeeded, .replanRequired, .replanning, .blocked, .canceled,
    .escalated, .terminalFailure]
  mem_members := by intro a; cases a <;> decide
  nodup_values := by decide

/-- `PlanContractError`, by its code. -/
inductive PlanContractError where
  | invalidExecutionContract | planCheckCoverageIncomplete | invalidPlanLineage
  | planPathOutsideGoal | planCheckOutsideGoal | cyclicPlan | parallelWriterPlan
  deriving DecidableEq, Repr

/-- `code`. -/
def PlanContractError.code : PlanContractError → String
  | .invalidExecutionContract => "invalid-execution-contract"
  | .planCheckCoverageIncomplete => "plan-check-coverage-incomplete"
  | .invalidPlanLineage => "invalid-plan-lineage"
  | .planPathOutsideGoal => "plan-path-outside-goal"
  | .planCheckOutsideGoal => "plan-check-outside-goal"
  | .cyclicPlan => "cyclic-plan"
  | .parallelWriterPlan => "parallel-writer-plan"

/-- A reader of the contract. -/
abbrev Contract := Except PlanContractError

/-- `_MAX_TASKS`. -/
def maxTasks : Nat := 64

/-- `_MAX_PATHS`. -/
def maxPaths : Nat := 256

/-- `_MAX_CHECKS`. -/
def maxChecks : Nat := 32

/-- `_MAX_ARGV`. -/
def maxArgv : Nat := 64

/-- `_MAX_TOKEN_BYTES`. -/
def maxTokenBytes : Nat := 4096

/-- Reject with `PlanContractError()` unless the condition holds. -/
def demand (p : Prop) [Decidable p] : Contract Unit :=
  Checked.require p .invalidExecutionContract

@[simp] theorem demand_eq_ok {p : Prop} [Decidable p] {u : Unit} : demand p = .ok u ↔ p :=
  Checked.require_eq_ok

/-- `_IDENTIFIER.fullmatch`. -/
def isPlanIdentifier (s : String) : Bool := isIdentifier ['.', '_', ':', '-'] s

/-- `_SAFE_EXECUTABLE.fullmatch`. -/
def isSafeExecutable (s : String) : Bool :=
  match s.toList with
  | [] => false
  | c :: cs => c.isAlphanum && cs.length ≤ 63 &&
      cs.all fun d ↦ d.isAlphanum || ['.', '_', '+', '-'].contains d

/-- An objective: some text, of at most 16 KiB. -/
def isObjective (s : String) : Bool := !isBlank s && s.utf8ByteSize ≤ 16 * 1024

/-- `_text`. -/
def text (v : JsonValue) : Contract String := do
  let s ← Checked.ofOption v.text? PlanContractError.invalidExecutionContract
  demand (isBlank s = false)
  pure s

/-- `_mapping`. -/
def mapping (v : JsonValue) : Contract Mapping :=
  Checked.ofOption v.fields? .invalidExecutionContract

/-- `_mapping_text`. -/
def mappingText (m : Mapping) (field : String) : Contract String := text (m.get field)

/-- `_mapping_integer`. -/
def mappingInteger (m : Mapping) (field : String) : Contract Nat := do
  let n ← Checked.ofOption (m.get field).int? PlanContractError.invalidExecutionContract
  demand (0 ≤ n)
  pure n.toNat

/-- `_sequence`. -/
def sequence (v : JsonValue) : Contract (List JsonValue) :=
  Checked.ofOption v.items? .invalidExecutionContract

/-- `tuple(_text(item) for item in _sequence(value))`. -/
def textSequence (v : JsonValue) : Contract (List String) := do
  let items ← sequence v
  items.mapM text

@[simp] theorem text_eq_ok {v : JsonValue} {s : String} :
    text v = .ok s ↔ v = .str s ∧ isBlank s = false := by
  simp only [text, Checked.bind_eq_ok, Checked.ofOption_eq_ok, JsonValue.text?_eq_some,
    demand_eq_ok, Checked.exists_unit, Checked.pure_eq_ok]
  constructor
  · rintro ⟨t, ht, hb, rfl⟩
    exact ⟨ht, hb⟩
  · rintro ⟨hv, hb⟩
    exact ⟨s, hv, hb, rfl⟩

@[simp] theorem mapping_eq_ok {v : JsonValue} {m : Mapping} :
    mapping v = .ok m ↔ v = .object m := by
  simp [mapping]

@[simp] theorem sequence_eq_ok {v : JsonValue} {items : List JsonValue} :
    sequence v = .ok items ↔ v = .list items := by
  simp [sequence]

theorem mappingInteger_eq_ok {m : Mapping} {field : String} {n : Nat} :
    mappingInteger m field = .ok n ↔ m.get field = .int n := by
  simp only [mappingInteger, Checked.bind_eq_ok, Checked.ofOption_eq_ok, JsonValue.int?_eq_some,
    demand_eq_ok, Checked.exists_unit, Checked.pure_eq_ok]
  constructor
  · rintro ⟨k, hk, hnonneg, rfl⟩
    rw [hk, Int.toNat_of_nonneg hnonneg]
  · intro h
    exact ⟨n, h, Int.natCast_nonneg n, rfl⟩

/-- A list of texts is read as itself, when none of them is blank. -/
theorem textSequence_ofTexts {texts texts' : List String}
    (h : textSequence (.ofTexts texts) = .ok texts') : texts' = texts := by
  simp only [textSequence, JsonValue.ofTexts, Checked.bind_eq_ok, sequence_eq_ok,
    JsonValue.list.injEq] at h
  obtain ⟨_, rfl, h⟩ := h
  refine Checked.eq_of_mapM_map (fun s s' hs ↦ ?_) h
  rw [text_eq_ok, JsonValue.str.injEq] at hs
  exact hs.1.symm

/-! ### Normal forms -/

/-- `sorted`, on texts. -/
def sorted (l : List String) : List String := l.insertionSort (· ≤ ·)

/-- `sorted(set(...))`. -/
def sortedSet (l : List String) : List String := sorted l.dedup

@[simp] theorem mem_sorted {l : List String} {s : String} : s ∈ sorted l ↔ s ∈ l :=
  List.mem_insertionSort _

@[simp] theorem mem_sortedSet {l : List String} {s : String} : s ∈ sortedSet l ↔ s ∈ l := by
  simp [sortedSet]

/-- The order of a sorted list without repetitions. -/
def IsSortedSet (l : List String) : Prop := l.Pairwise (· ≤ ·) ∧ l.Nodup

instance (l : List String) : Decidable (IsSortedSet l) := inferInstanceAs (Decidable (_ ∧ _))

theorem IsSortedSet.sorted_eq {l : List String} (h : IsSortedSet l) : sorted l = l :=
  h.1.insertionSort_eq

theorem IsSortedSet.sortedSet_eq {l : List String} (h : IsSortedSet l) : sortedSet l = l := by
  rw [sortedSet, List.dedup_eq_self.mpr h.2, h.sorted_eq]

/-- `text.rstrip("/")`. -/
def withoutTrailingSlashes (s : String) : String :=
  String.ofList (s.toList.rdropWhile (· = '/'))

/-- `_repository_path`. -/
def repositoryPath (s : String) : Contract String := do
  demand (isBlank s = false)
  demand (¬("/".toList.isPrefixOf s.toList || "../".toList.isPrefixOf s.toList) ∧
    ¬(s.toList.splitOn '/').contains "..".toList ∧ s ≠ "." ∧ s ≠ ".." ∧
    ¬s.toList.contains '\\' ∧ ¬s.toList.contains '\x00')
  pure (withoutTrailingSlashes s)

/-- A sorted tuple of repository paths as `_path_tuple` leaves it. -/
def IsPathTuple (paths : List String) : Prop :=
  IsSortedSet paths ∧ paths.length ≤ maxPaths ∧ ∀ p ∈ paths, withoutTrailingSlashes p = p

instance (paths : List String) : Decidable (IsPathTuple paths) :=
  inferInstanceAs (Decidable (_ ∧ _ ∧ _))

/-- `_path_tuple`. -/
def pathTuple (value : List String) : Contract { paths // IsPathTuple paths } := do
  demand (value.length ≤ maxPaths)
  let paths ← value.mapM repositoryPath
  Checked.certify IsPathTuple (sorted paths) .invalidExecutionContract

/-- A sorted tuple of texts as `_bounded_text_tuple` leaves it. -/
def IsTextTuple (maximum : Nat) (texts : List String) : Prop :=
  IsSortedSet texts ∧ texts.length ≤ maximum

instance (maximum : Nat) (texts : List String) : Decidable (IsTextTuple maximum texts) :=
  inferInstanceAs (Decidable (_ ∧ _))

/-- `_bounded_text_tuple`. -/
def boundedTextTuple (value : List String) (maximum : Nat) :
    Contract { texts // IsTextTuple maximum texts } := do
  demand (value.all fun s ↦ !isBlank s)
  Checked.certify (IsTextTuple maximum) (sorted value) .invalidExecutionContract

theorem mapM_repositoryPath {value paths : List String} (h : value.mapM repositoryPath = .ok paths) :
    paths = value.map withoutTrailingSlashes := by
  induction value generalizing paths with
  | nil => exact (Checked.pure_eq_ok.mp h).symm
  | cons s value ih =>
    simp only [List.mapM_cons, Checked.bind_eq_ok, Checked.pure_eq_ok, repositoryPath,
      demand_eq_ok, Checked.exists_unit] at h
    obtain ⟨_, ⟨-, -, rfl⟩, rest, hrest, rfl⟩ := h
    rw [List.map_cons, ih hrest]

/-- **Paths.** A tuple of paths in normal form is read as itself. -/
theorem IsPathTuple.eq_of_pathTuple {paths : List String} {r : { paths // IsPathTuple paths }}
    (hp : IsPathTuple paths) (h : pathTuple paths = .ok r) : r.1 = paths := by
  simp only [pathTuple, Checked.bind_eq_ok, demand_eq_ok, Checked.exists_unit,
    Checked.certify_eq_ok] at h
  obtain ⟨-, paths', hpaths, h⟩ := h
  have hsame : paths' = paths := by
    rw [mapM_repositoryPath hpaths, List.map_congr_left hp.2.2, List.map_id']
  rw [h, hsame, hp.1.sorted_eq]

/-- A path of a tuple that was read is one of the paths that it was read from. -/
theorem mem_of_pathTuple {value : List String} {r : { paths // IsPathTuple paths }}
    (h : pathTuple value = .ok r) {p : String} (hp : p ∈ r.1) :
    ∃ q ∈ value, withoutTrailingSlashes q = p := by
  simp only [pathTuple, Checked.bind_eq_ok, demand_eq_ok, Checked.exists_unit,
    Checked.certify_eq_ok] at h
  obtain ⟨-, paths, hpaths, h⟩ := h
  rw [h, mem_sorted, mapM_repositoryPath hpaths] at hp
  exact List.mem_map.mp hp

/-- **Texts.** A tuple of texts in normal form is read as itself. -/
theorem IsTextTuple.eq_of_boundedTextTuple {maximum : Nat} {texts : List String}
    {r : { texts // IsTextTuple maximum texts }} (ht : IsTextTuple maximum texts)
    (h : boundedTextTuple texts maximum = .ok r) : r.1 = texts := by
  simp only [boundedTextTuple, Checked.bind_eq_ok, demand_eq_ok, Checked.exists_unit,
    Checked.certify_eq_ok] at h
  rw [h.2, ht.1.sorted_eq]

end Blackcell.Orchestration.ExecutionPlan
