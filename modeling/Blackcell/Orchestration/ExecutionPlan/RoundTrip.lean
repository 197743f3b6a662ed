import Blackcell.Kernel.Canonical
import Blackcell.Orchestration.ExecutionPlan.Plan

/-!
# Round trips of goals and plans

A goal or a plan is written into an event, and read back from the canonical text of its payload. The
readers refuse blank texts and the path `.`, which the constructors let through in two places: a
token of a command may be blank, and the normal form of a path may be `.` or blank, since the trailing
slashes are stripped after the path was checked. A value without such texts is read back as itself,
and no other value can be read at all.

## Main definitions

* `GoalSpec.IsAdmitted`, `TaskSpec.IsAdmitted`, `Plan.IsAdmitted` : the values that the constructors
  return.
* `GoalSpec.Readable`, `TaskSpec.Readable`, `Plan.Readable` : no token is blank, and no path is `.`
  or blank.

## Main results

* `goalFromPayload_canonical`, `planFromPayload_canonical` : the readers do not see the order of keys.
* `goalFromPayload_goalPayload_iff`, `planFromPayload_planPayload_iff` : an admitted value is read
  back exactly if it is readable.
* `codecs_roundTrip_iff` : the same through the canonical payload of an event.
-/

namespace Blackcell.Orchestration.ExecutionPlan

open Blackcell.Kernel

/-! ### Texts that are not blank -/

/-- An alphanumeric character is no white space. -/
theorem isSpace_of_isAlphanum {c : Char} (h : c.isAlphanum = true) : isSpace c = false := by
  have hrange : 48 ≤ c.toNat ∧ c.toNat ≤ 122 := by
    change ((decide (c.val ≥ 'A'.val ∧ c.val ≤ 'Z'.val) || (decide (c.val ≥ 'a'.val) &&
      decide (c.val ≤ 'z'.val))) || (decide (c.val ≥ '0'.val) && decide (c.val ≤ '9'.val))) = true at h
    simp only [Bool.or_eq_true, Bool.and_eq_true, decide_eq_true_eq, ge_iff_le,
      UInt32.le_iff_toNat_le] at h
    simp only [Char.toNat_val, Char.reduceToNat] at h
    omega
  simp [isSpace]
  omega

theorem isSpace_of_isHexChar {c : Char} (h : isHexChar c = true) : isSpace c = false := by
  have hrange : 48 ≤ c.toNat ∧ c.toNat ≤ 102 := by
    simp only [isHexChar, Char.isDigit, Bool.or_eq_true, Bool.and_eq_true, decide_eq_true_eq,
      ge_iff_le, UInt32.le_iff_toNat_le, Char.le_def] at h
    simp only [Char.toNat_val, Char.reduceToNat] at h
    omega
  simp [isSpace]
  omega

/-- A text with a character other than white space is not blank. -/
theorem isBlank_of_mem {s : String} {c : Char} (hc : c ∈ s.toList) (h : isSpace c = false) :
    isBlank s = false := by
  rw [isBlank, chars_eq, List.all_eq_false]
  exact ⟨c, hc, by simp [h]⟩

/-- An identifier is not blank. -/
theorem isBlank_of_isPlanIdentifier {s : String} (h : isPlanIdentifier s = true) :
    isBlank s = false := by
  rw [isPlanIdentifier, isIdentifier, chars_eq] at h
  split at h
  · cases h
  · rename_i c cs hs
    simp only [Bool.and_eq_true] at h
    exact isBlank_of_mem (hs ▸ List.mem_cons_self) (isSpace_of_isAlphanum h.1.1)

theorem isBlank_of_isHex {n : Nat} {s : String} (h : isHex (n + 1) s = true) :
    isBlank s = false := by
  rw [isHex_iff] at h
  cases hs : s.toList with
  | nil => simp [← String.length_toList, hs] at h
  | cons c cs =>
    have hc : c ∈ s.toList := hs ▸ List.mem_cons_self
    exact isBlank_of_mem hc (isSpace_of_isHexChar (h.2 c hc))

theorem isBlank_of_isCommit {s : String} (h : isCommit s = true) : isBlank s = false :=
  isBlank_of_isHex h

theorem isBlank_of_isHexDigest {s : String} (h : isHexDigest s = true) : isBlank s = false := by
  rw [isHexDigest, Bool.and_eq_true, hasDigestPrefix, chars_eq, chars_eq,
    List.isPrefixOf_iff_prefix] at h
  exact isBlank_of_mem (h.1.subset (show 's' ∈ digestPrefix.toList by decide)) (by decide)

theorem isBlank_of_isObjective {s : String} (h : isObjective s = true) : isBlank s = false := by
  rw [isObjective, Bool.and_eq_true, Bool.not_eq_true'] at h
  exact h.1

/-! ### Readers of canonical payloads -/

section Canonical

variable {v : JsonValue} {m : Mapping} {field : String}

theorem text_canonical : text v.canonical = text v := by
  rw [text, JsonValue.text?_canonical, text]

theorem mappingText_canonical : mappingText m.canonical field = mappingText m field := by
  rw [mappingText, Mapping.get_canonical, text_canonical, mappingText]

theorem mappingInteger_canonical : mappingInteger m.canonical field = mappingInteger m field := by
  rw [mappingInteger, Mapping.get_canonical, JsonValue.int?_canonical, mappingInteger]

/-- What is read of the items of an array is read of its canonical items. -/
theorem sequence_canonical_bind {α β : Type} {f : JsonValue → Contract α}
    (hf : ∀ v, f v.canonical = f v) (k : List α → Contract β) :
    (sequence v.canonical >>= fun items ↦ items.mapM f >>= k) =
      sequence v >>= fun items ↦ items.mapM f >>= k := by
  rw [sequence, JsonValue.items?_canonical, sequence]
  cases v.items? with
  | none => rfl
  | some items =>
    simp only [Option.map_some, Checked.ofOption_some, Checked.ok_bind, List.mapM_map,
      Function.comp_def, hf]

theorem textSequence_canonical : textSequence v.canonical = textSequence v := by
  have h := sequence_canonical_bind (v := v) (f := text) (fun _ ↦ text_canonical) pure
  simpa only [textSequence, bind_pure] using h

/-- What is read of an object is read of its canonical form. -/
theorem mapping_canonical_bind {α : Type} {f g : Mapping → Contract α}
    (h : ∀ m, f m.canonical = g m) : (mapping v.canonical >>= f) = mapping v >>= g := by
  rw [mapping, JsonValue.fields?_canonical, mapping]
  cases v.fields? with
  | none => rfl
  | some m => exact h m

theorem VerificationCheck.ofPayload_canonical : ofPayload v.canonical = ofPayload v :=
  mapping_canonical_bind fun m ↦ by
    simp only [mappingText_canonical, mappingInteger_canonical, Mapping.get_canonical,
      textSequence_canonical]

theorem checksOfPayload_canonical : checksOfPayload v.canonical = checksOfPayload v := by
  have h := sequence_canonical_bind (v := v) (f := VerificationCheck.ofPayload)
    (fun _ ↦ VerificationCheck.ofPayload_canonical) pure
  simpa only [checksOfPayload, bind_pure] using h

/-- The payload of a goal is read with its keys in any order. -/
theorem goalFromPayload_canonical : goalFromPayload v.canonical = goalFromPayload v :=
  mapping_canonical_bind fun m ↦ by
    simp only [Mapping.exact_canonical, mappingText_canonical, mappingInteger_canonical,
      Mapping.get_canonical, textSequence_canonical, checksOfPayload_canonical]

theorem TaskSpec.ofPayload_canonical : ofPayload v.canonical = ofPayload v :=
  mapping_canonical_bind fun m ↦ by
    simp only [Mapping.exact_canonical, mappingText_canonical, mappingInteger_canonical,
      Mapping.get_canonical, textSequence_canonical, checksOfPayload_canonical]

/-- The payload of a plan is read with its keys in any order. -/
theorem planFromPayload_canonical : planFromPayload v.canonical = planFromPayload v :=
  mapping_canonical_bind fun m ↦ by
    simp only [Mapping.exact_canonical, mappingText_canonical, mappingInteger_canonical,
      Mapping.get_canonical, textSequence_canonical, JsonValue.text?_canonical,
      JsonValue.canonical_eq_null, sequence_canonical_bind fun _ ↦ TaskSpec.ofPayload_canonical]

end Canonical

/-! ### Paths -/

/-- A normal form that `_repository_path` reads. -/
def IsReadablePath (p : String) : Prop := p ≠ "." ∧ isBlank p = false

instance (p : String) : Decidable (IsReadablePath p) := inferInstanceAs (Decidable (_ ∧ _))

/-- A text is its normal form, and the slashes that were stripped from it. -/
theorem exists_slashes (q : String) :
    ∃ k, q.toList = (withoutTrailingSlashes q).toList ++ List.replicate k '/' := by
  refine ⟨(q.toList.rtakeWhile (· = '/')).length, ?_⟩
  have hslashes : q.toList.rtakeWhile (· = '/') =
      List.replicate (q.toList.rtakeWhile (· = '/')).length '/' :=
    List.eq_replicate_iff.mpr ⟨rfl, fun c hc ↦ by simpa using List.mem_rtakeWhile_imp hc⟩
  rw [← hslashes, withoutTrailingSlashes, String.toList_ofList, List.rdropWhile_append_rtakeWhile]

theorem withoutTrailingSlashes_idem (q : String) :
    withoutTrailingSlashes (withoutTrailingSlashes q) = withoutTrailingSlashes q := by
  rw [withoutTrailingSlashes, withoutTrailingSlashes, String.toList_ofList,
    List.rdropWhile_idempotent]

theorem isReadablePath_of_repositoryPath {p r : String} (h : repositoryPath p = .ok r) :
    IsReadablePath p := by
  simp only [repositoryPath, Checked.bind_eq_ok, demand_eq_ok, Checked.exists_unit] at h
  exact ⟨h.2.1.2.2.1, h.1⟩

/-- **Paths.** The normal form of a path is read as itself, unless it is `.` or blank. -/
theorem repositoryPath_normal {q p : String} (h : repositoryPath q = .ok p) :
    repositoryPath p = .ok p ↔ IsReadablePath p := by
  refine ⟨isReadablePath_of_repositoryPath, fun ⟨hdot, hblank⟩ ↦ ?_⟩
  simp only [repositoryPath, Checked.bind_eq_ok, demand_eq_ok, Checked.exists_unit,
    Checked.pure_eq_ok] at h ⊢
  obtain ⟨-, ⟨hstart, hparts, -, -, hback, hnul⟩, rfl⟩ := h
  obtain ⟨k, hk⟩ := exists_slashes q
  have hstem : (withoutTrailingSlashes q).toList <+: q.toList := ⟨_, hk.symm⟩
  -- The parts of the normal form are parts of the path.
  have hparts' : ¬((withoutTrailingSlashes q).toList.splitOn '/').contains "..".toList = true := by
    intro hmem
    refine hparts ?_
    rw [hk]
    cases k with
    | zero => simpa using hmem
    | succ k =>
      rw [List.replicate_succ, List.splitOn_append_cons_self]
      simp only [List.contains_eq_mem, decide_eq_true_eq] at hmem ⊢
      exact List.mem_append_left _ hmem
  have hchar : ∀ c, ¬q.toList.contains c = true →
      ¬(withoutTrailingSlashes q).toList.contains c = true := by
    intro c hc hmem
    simp only [List.contains_eq_mem, decide_eq_true_eq] at hc hmem
    exact hc (hstem.subset hmem)
  refine ⟨hblank, ⟨fun hstart' ↦ hstart ?_, hparts', hdot, fun hdots ↦ hparts' ?_,
    hchar _ hback, hchar _ hnul⟩, withoutTrailingSlashes_idem q⟩
  · simp only [Bool.or_eq_true, List.isPrefixOf_iff_prefix] at hstart' ⊢
    exact hstart'.imp (·.trans hstem) (·.trans hstem)
  · rw [hdots]
    decide

/-- An accepted traversal accepts each element. -/
theorem exists_eq_ok_of_mapM {α β : Type} {f : α → Contract β} {l : List α} {r : List β}
    (h : l.mapM f = .ok r) {a : α} (ha : a ∈ l) : ∃ b, f a = .ok b := by
  rw [Checked.mapM_eq_ok] at h
  induction h with
  | nil => cases ha
  | cons hb _ ih =>
    rcases List.mem_cons.mp ha with rfl | ha
    · exact ⟨_, hb⟩
    · exact ih ha

theorem pathTuple_eq_ok {value : List String} {r : { paths // IsPathTuple paths }} :
    pathTuple value = .ok r ↔ value.length ≤ maxPaths ∧
      ∃ paths, value.mapM repositoryPath = .ok paths ∧ r.1 = sorted paths := by
  simp only [pathTuple, Checked.bind_eq_ok, demand_eq_ok, Checked.exists_unit,
    Checked.certify_eq_ok]

/-- Paths in normal form that are read are read as themselves. -/
theorem pathTuple_self {r : { paths // IsPathTuple paths }}
    (h : ∀ p ∈ r.1, repositoryPath p = .ok p) : pathTuple r.1 = .ok r := by
  have hread : r.1.mapM repositoryPath = .ok r.1 := Checked.mapM_eq_ok.mpr (List.forall₂_same.mpr h)
  exact pathTuple_eq_ok.mpr ⟨r.2.2.1, r.1, hread, r.2.1.sorted_eq.symm⟩

/-- The paths of a tuple that was read are read again, unless one of them is `.` or blank. -/
theorem pathTuple_normal {value : List String} {r : { paths // IsPathTuple paths }}
    (h : pathTuple value = .ok r) : pathTuple r.1 = .ok r ↔ ∀ p ∈ r.1, IsReadablePath p := by
  constructor
  · intro hself p hp
    obtain ⟨-, paths, hpaths, -⟩ := pathTuple_eq_ok.mp hself
    obtain ⟨b, hb⟩ := exists_eq_ok_of_mapM hpaths hp
    exact isReadablePath_of_repositoryPath hb
  · intro hreadable
    refine pathTuple_self fun p hp ↦ ?_
    obtain ⟨-, paths, hpaths, hsorted⟩ := pathTuple_eq_ok.mp h
    have hmem : p ∈ paths := by simpa [hsorted] using hp
    obtain ⟨q, -, hq⟩ := Checked.exists_of_mem_mapM hpaths hmem
    exact (repositoryPath_normal hq).mpr (hreadable p hp)

/-! ### Texts and checks -/

/-- Texts are read as themselves exactly if none of them is blank. -/
theorem textSequence_ofTexts_iff {texts : List String} :
    textSequence (.ofTexts texts) = .ok texts ↔ ∀ s ∈ texts, isBlank s = false := by
  simp [textSequence, JsonValue.ofTexts, sequence, JsonValue.items?, Checked.ofOption_some,
    Checked.mapM_eq_ok, List.forall₂_same]

/-- Texts that were admitted are read again. -/
theorem boundedTextTuple_self {maximum : Nat} {value : List String}
    {r : { texts // IsTextTuple maximum texts }} (h : boundedTextTuple value maximum = .ok r) :
    (∀ s ∈ r.1, isBlank s = false) ∧ boundedTextTuple r.1 maximum = .ok r := by
  simp only [boundedTextTuple, Checked.bind_eq_ok, demand_eq_ok, Checked.exists_unit,
    Checked.certify_eq_ok, List.all_eq_true, Bool.not_eq_true'] at h ⊢
  have hblank : ∀ s ∈ r.1, isBlank s = false := fun s hs ↦ h.1 s (by simpa [h.2] using hs)
  exact ⟨hblank, hblank, r.2.1.sorted_eq.symm⟩

namespace VerificationCheck

/-- No token of the command is blank. -/
def Readable (c : VerificationCheck) : Prop := ∀ token ∈ c.argv, isBlank token = false

instance (c : VerificationCheck) : Decidable c.Readable :=
  inferInstanceAs (Decidable (∀ _ ∈ _, _))

theorem ofPayload_payload_iff {c : VerificationCheck} : ofPayload c.payload = .ok c ↔ c.Readable := by
  simp only [ofPayload, payload, mapping, JsonValue.fields?, Checked.ofOption_some, Checked.ok_bind,
    Checked.bind_eq_ok, mappingText, text_eq_ok, mappingInteger_eq_ok, create_eq_ok]
  simp only [Mapping.get_cons, reduceIte, String.reduceEq, JsonValue.str.injEq,
    JsonValue.int.injEq, Int.natCast_inj]
  constructor
  · rintro ⟨_, -, argv, hargv, _, -, -, rfl, -⟩
    exact textSequence_ofTexts_iff.mp hargv
  · intro h
    exact ⟨c.checkId, ⟨rfl, isBlank_of_isPlanIdentifier c.valid.1⟩, c.argv,
      textSequence_ofTexts_iff.mpr h, c.expectedExitCode, rfl, rfl, rfl, rfl⟩

end VerificationCheck

theorem checksOfPayload_payload_iff {checks : List VerificationCheck} :
    checksOfPayload (.list (checks.map (·.payload))) = .ok checks ↔ ∀ c ∈ checks, c.Readable := by
  simp [checksOfPayload, sequence, JsonValue.items?, Checked.ofOption_some, Checked.mapM_eq_ok,
    List.forall₂_same, VerificationCheck.ofPayload_payload_iff]

theorem IsCheckTuple.checkTuple_eq {checks : { checks // IsCheckTuple checks }} :
    checkTuple checks.1 = .ok checks :=
  Checked.certify_eq_ok.mpr checks.2.sortedChecks_eq.symm

/-! ### Goals -/

namespace GoalSpec

/-- A goal that the constructor returns. -/
def IsAdmitted (g : GoalSpec) : Prop :=
  ∃ schemaVersion goalId projectId intentId objective baseCommit constraints allowedPaths checks
    maxAttempts sameErrorLimit, create schemaVersion goalId projectId intentId objective baseCommit
      constraints allowedPaths checks maxAttempts sameErrorLimit = .ok g

/-- No token of a check is blank, and no path is `.` or blank. -/
def Readable (g : GoalSpec) : Prop :=
  (∀ c ∈ g.verificationChecks.1, c.Readable) ∧ ∀ p ∈ g.allowedPaths.1, IsReadablePath p

instance (g : GoalSpec) : Decidable g.Readable := inferInstanceAs (Decidable (_ ∧ _))

/-- A goal is read back as itself from its payload, and from the canonical text of its payload. -/
def RoundTrips (g : GoalSpec) : Prop :=
  goalFromPayload (goalPayload g) = .ok g ∧ goalFromPayload (goalPayload g).canonical = .ok g

/-- The constructor, on the fields of a goal. -/
theorem create_self {g : GoalSpec} (hconstraints : boundedTextTuple g.constraints.1 64 =
    .ok g.constraints) (hpaths : pathTuple g.allowedPaths.1 = .ok g.allowedPaths) :
    create executionGoalSchema g.goalId g.projectId g.intentId g.objective g.baseCommit
      g.constraints.1 g.allowedPaths.1 g.verificationChecks.1 g.maxAttempts g.sameErrorLimit =
        .ok g := by
  have h : (isPlanIdentifier g.goalId ∧ isPlanIdentifier g.projectId ∧
      isPlanIdentifier g.intentId) ∧ ExecutionPlan.isObjective g.objective ∧
      Kernel.isCommit g.baseCommit ∧ 1 ≤ g.maxAttempts ∧ g.maxAttempts ≤ 3 ∧
      1 ≤ g.sameErrorLimit ∧ g.sameErrorLimit ≤ 2 :=
    ⟨g.identifiers, g.isObjective, g.isCommit, g.attempts⟩
  simp only [create, Checked.bind_eq_ok, demand_eq_ok, Checked.exists_unit, dif_pos h,
    Checked.pure_eq_ok]
  exact ⟨trivial, _, hconstraints, _, hpaths, _, IsCheckTuple.checkTuple_eq, rfl⟩

end GoalSpec

/-- **Goals.** An admitted goal is read back from its payload exactly if it is readable. -/
theorem goalFromPayload_goalPayload_iff {g : GoalSpec} (hadmitted : g.IsAdmitted) :
    goalFromPayload (goalPayload g) = .ok g ↔ g.Readable := by
  obtain ⟨_, _, _, _, _, _, constraints, allowedPaths, _, _, _, hcreate⟩ := hadmitted
  obtain ⟨-, hconstraints, hpaths, -, -, -⟩ := GoalSpec.create_eq_ok hcreate
  obtain ⟨hblank, hconstraints⟩ := boundedTextTuple_self hconstraints
  simp only [goalFromPayload, goalPayload, mapping, JsonValue.fields?, Checked.ofOption_some,
    Checked.ok_bind, Checked.bind_eq_ok, demand_eq_ok, Checked.exists_unit, mappingText,
    text_eq_ok, mappingInteger_eq_ok]
  simp only [Mapping.get_cons, reduceIte, String.reduceEq, JsonValue.str.injEq,
    JsonValue.int.injEq, Int.natCast_inj]
  constructor
  · rintro ⟨-, checks, hchecks, _, -, _, -, _, -, _, -, _, -, _, -, _, -, paths, hpaths', _, -, _, -,
      h⟩
    obtain rfl := checksOfPayload_payload hchecks
    obtain rfl := textSequence_ofTexts hpaths'
    exact ⟨checksOfPayload_payload_iff.mp hchecks,
      (pathTuple_normal hpaths).mp (GoalSpec.create_eq_ok h).2.2.1⟩
  · rintro ⟨hchecks, hreadable⟩
    refine ⟨by simp [Mapping.exact, Mapping.keys], _, checksOfPayload_payload_iff.mpr hchecks,
      _, ⟨rfl, by decide⟩, _, ⟨rfl, isBlank_of_isPlanIdentifier g.identifiers.1⟩,
      _, ⟨rfl, isBlank_of_isPlanIdentifier g.identifiers.2.1⟩,
      _, ⟨rfl, isBlank_of_isPlanIdentifier g.identifiers.2.2⟩,
      _, ⟨rfl, isBlank_of_isObjective g.isObjective⟩, _, ⟨rfl, isBlank_of_isCommit g.isCommit⟩,
      _, textSequence_ofTexts_iff.mpr hblank,
      _, textSequence_ofTexts_iff.mpr fun p hp ↦ (hreadable p hp).2, _, rfl, _, rfl, ?_⟩
    exact GoalSpec.create_self hconstraints ((pathTuple_normal hpaths).mpr hreadable)

/-! ### Plans -/

namespace TaskSpec

/-- A task that the constructor returns. -/
def IsAdmitted (t : TaskSpec) : Prop :=
  ∃ taskId objective dependsOn allowedPaths checks maxAttempts,
    create taskId objective dependsOn allowedPaths checks maxAttempts = .ok t

/-- No token of a check is blank, and no path is `.` or blank. -/
def Readable (t : TaskSpec) : Prop :=
  (∀ c ∈ t.checks.1, c.Readable) ∧ ∀ p ∈ t.allowedPaths.1, IsReadablePath p

instance (t : TaskSpec) : Decidable t.Readable := inferInstanceAs (Decidable (_ ∧ _))

/-- The constructor, on the fields of a task. -/
theorem create_self {t : TaskSpec} (hpaths : pathTuple t.allowedPaths.1 = .ok t.allowedPaths) :
    create t.taskId t.objective t.dependsOn t.allowedPaths.1 t.checks.1 t.maxAttempts = .ok t := by
  have hsorted : sortedSet t.dependsOn = t.dependsOn := t.dependencies.1.sortedSet_eq
  have h : isPlanIdentifier t.taskId ∧ ExecutionPlan.isObjective t.objective ∧
      IsDependencyTuple t.taskId (sortedSet t.dependsOn) ∧ 1 ≤ t.maxAttempts ∧
      t.maxAttempts ≤ 3 :=
    ⟨t.identifier, t.isObjective, hsorted.symm ▸ t.dependencies, t.attempts⟩
  simp only [create, Checked.bind_eq_ok]
  refine ⟨_, hpaths, _, IsCheckTuple.checkTuple_eq, ?_⟩
  rw [dif_pos h, Checked.pure_eq_ok]
  exact TaskSpec.ext rfl rfl hsorted rfl rfl rfl

theorem ofPayload_payload_iff {t : TaskSpec} (hadmitted : t.IsAdmitted) :
    ofPayload t.payload = .ok t ↔ t.Readable := by
  obtain ⟨_, _, _, allowedPaths, _, _, hcreate⟩ := hadmitted
  obtain ⟨-, -, -, hpaths, -, -⟩ := create_eq_ok hcreate
  constructor
  · intro h
    have hself := pathTuple_of_readBack h
    refine ⟨?_, (pathTuple_normal hpaths).mp hself⟩
    simp only [ofPayload, payload, mapping, JsonValue.fields?, Checked.ofOption_some,
      Checked.ok_bind, Checked.bind_eq_ok] at h
    simp only [Mapping.get_cons, reduceIte, String.reduceEq] at h
    obtain ⟨_, -, checks, hchecks, -⟩ := h
    obtain rfl := checksOfPayload_payload hchecks
    exact checksOfPayload_payload_iff.mp hchecks
  · rintro ⟨hchecks, hreadable⟩
    simp only [ofPayload, payload, mapping, JsonValue.fields?, Checked.ofOption_some,
      Checked.ok_bind, Checked.bind_eq_ok, demand_eq_ok, Checked.exists_unit, mappingText,
      text_eq_ok, mappingInteger_eq_ok]
    simp only [Mapping.get_cons, reduceIte, String.reduceEq, JsonValue.str.injEq,
      JsonValue.int.injEq, Int.natCast_inj]
    refine ⟨by simp [Mapping.exact, Mapping.keys], _, checksOfPayload_payload_iff.mpr hchecks,
      _, ⟨rfl, isBlank_of_isPlanIdentifier t.identifier⟩,
      _, ⟨rfl, isBlank_of_isObjective t.isObjective⟩,
      _, textSequence_ofTexts_iff.mpr fun d hd ↦
        isBlank_of_isPlanIdentifier (t.dependencies.2.2 d hd),
      _, textSequence_ofTexts_iff.mpr fun p hp ↦ (hreadable p hp).2, _, rfl, ?_⟩
    exact create_self ((pathTuple_normal hpaths).mpr hreadable)

end TaskSpec

namespace Plan

/-- A plan that the constructor returns, of tasks that their constructor returns. -/
def IsAdmitted (p : Plan) : Prop :=
  ∃ schemaVersion planId goalId projectId intentId planRevision supersedesPlanId baseCommit
    draftDigest tasks, (∀ t ∈ tasks, TaskSpec.IsAdmitted t) ∧
      create schemaVersion planId goalId projectId intentId planRevision supersedesPlanId baseCommit
        draftDigest tasks = .ok p

/-- The tasks of an admitted plan are admitted. -/
theorem IsAdmitted.tasks {p : Plan} (h : p.IsAdmitted) {t : TaskSpec} (ht : t ∈ p.tasks.1) :
    t.IsAdmitted := by
  obtain ⟨_, _, _, _, _, _, _, _, _, tasks, htasks, hcreate⟩ := h
  rw [(create_eq_ok hcreate).2.2.2.2.2, sortedTasks, List.mem_insertionSort] at ht
  exact htasks t ht

/-- Every task is readable. -/
def Readable (p : Plan) : Prop := ∀ t ∈ p.tasks.1, t.Readable

instance (p : Plan) : Decidable p.Readable := inferInstanceAs (Decidable (∀ _ ∈ _, _))

/-- A plan is read back as itself from its payload, and from the canonical text of its payload. -/
def RoundTrips (p : Plan) : Prop :=
  planFromPayload (planPayload p) = .ok p ∧ planFromPayload (planPayload p).canonical = .ok p

/-- The constructor, on the fields of a plan. -/
theorem create_self (p : Plan) :
    create executionPlanSchema p.planId p.goalId p.projectId p.intentId p.planRevision
      p.supersedesPlanId p.baseCommit p.draftDigest p.tasks.1 = .ok p := by
  have hsorted : sortedTasks p.tasks.1 = p.tasks.1 := p.tasks.2.1.insertionSort_eq
  obtain ⟨-, hnodup, hpositive, hmax, hclosed, horder, hwriters⟩ := p.tasks.2
  obtain ⟨order, horder⟩ := Checked.exists_of_isOk horder
  obtain ⟨_, hwriters⟩ := Checked.exists_of_isOk hwriters
  simp only [create, Checked.bind_eq_ok, demand_eq_ok, Checked.exists_unit, dif_pos p.valid,
    Checked.pure_eq_ok, hsorted]
  exact ⟨trivial, ⟨hpositive, hmax, hnodup, hclosed⟩, order, horder, hwriters, p.tasks,
    Checked.certify_eq_ok.mpr rfl, rfl⟩

/-- The tasks of the topological order have identifiers. -/
theorem isPlanIdentifier_of_mem_topologicalOrder {p : Plan} {id : String}
    (h : id ∈ p.topologicalOrder) : isPlanIdentifier id = true := by
  obtain ⟨t, -, rfl⟩ := List.mem_map.mp (p.topologicalOrder_perm.mem_iff.mp h)
  exact t.identifier

end Plan

/-- **Plans.** An admitted plan is read back from its payload exactly if its tasks are readable. -/
theorem planFromPayload_planPayload_iff {p : Plan} (hadmitted : p.IsAdmitted) :
    planFromPayload (planPayload p) = .ok p ↔ p.Readable := by
  have htasks : (p.tasks.1.map (·.payload)).mapM TaskSpec.ofPayload = .ok p.tasks.1 ↔
      p.Readable := by
    simp only [List.mapM_map, Checked.mapM_eq_ok, List.forall₂_same, Function.comp_apply]
    exact forall₂_congr fun t ht ↦ TaskSpec.ofPayload_payload_iff (hadmitted.tasks ht)
  rw [← htasks]
  simp only [planFromPayload, planPayload, mapping, JsonValue.fields?, Checked.ofOption_some,
    Checked.ok_bind, Checked.bind_eq_ok, demand_eq_ok, Checked.exists_unit, mappingText,
    text_eq_ok, mappingInteger_eq_ok, sequence_eq_ok, Checked.pure_eq_ok]
  simp only [Mapping.get_cons, reduceIte, String.reduceEq, JsonValue.str.injEq,
    JsonValue.int.injEq, Int.natCast_inj, JsonValue.list.injEq, text?_ofText?]
  constructor
  · rintro ⟨-, _, rfl, tasks, hread, -⟩
    rwa [Checked.eq_of_mapM_map (fun _ _ ↦ TaskSpec.ofPayload_payload) hread] at hread
  · intro hread
    obtain ⟨⟨hplan, hgoal, hproject, hintent⟩, -, -, -, hbase, hdraft⟩ := p.valid
    refine ⟨by simp [Mapping.exact, Mapping.keys], _, rfl, _, hread, ?_, _, ⟨rfl, by decide⟩,
      _, ⟨rfl, isBlank_of_isPlanIdentifier hplan⟩, _, ⟨rfl, isBlank_of_isPlanIdentifier hgoal⟩,
      _, ⟨rfl, isBlank_of_isPlanIdentifier hproject⟩,
      _, ⟨rfl, isBlank_of_isPlanIdentifier hintent⟩, _, rfl, _, ⟨rfl, isBlank_of_isCommit hbase⟩,
      _, ⟨rfl, isBlank_of_isHexDigest hdraft⟩, p, p.create_self, _,
      textSequence_ofTexts_iff.mpr fun id hid ↦
        isBlank_of_isPlanIdentifier (Plan.isPlanIdentifier_of_mem_topologicalOrder hid), rfl, rfl⟩
    cases p.supersedesPlanId with
    | none => exact .inl rfl
    | some previous => exact .inr rfl

/-! ### Events -/

/-- **Round trips.** A goal that the constructor admits is read back as itself, from its payload and
through the canonical text of an event, exactly if no token of its checks is blank and none of its
paths is `.` or blank; and a plan, exactly if this holds of its tasks. -/
theorem codecs_roundTrip_iff (g : GoalSpec) :
    (g.IsAdmitted → (g.RoundTrips ↔ g.Readable)) ∧
      ∀ p : Plan, p.IsAdmitted → (p.RoundTrips ↔ p.Readable) := by
  constructor
  · intro hg
    rw [GoalSpec.RoundTrips, goalFromPayload_canonical, and_self]
    exact goalFromPayload_goalPayload_iff hg
  · intro p hp
    rw [Plan.RoundTrips, planFromPayload_canonical, and_self]
    exact planFromPayload_planPayload_iff hp

/-- The goal of a sample, with one path and the command of its check. -/
def sampleGoal (path : String) (argv : List String) : Contract GoalSpec := do
  let check ← VerificationCheck.create "unit" argv 0
  GoalSpec.create executionGoalSchema "goal-1" "project-1" "intent-1" "Fix the parser"
    "0123456789abcdef0123456789abcdef01234567" ["keep the interface"] [path] [check] 3 2

theorem isAdmitted_of_sampleGoal {path : String} {argv : List String} {g : GoalSpec}
    (h : sampleGoal path argv = .ok g) : g.IsAdmitted := by
  obtain ⟨check, -, hcreate⟩ := Checked.bind_eq_ok.mp h
  exact ⟨_, _, _, _, _, _, _, _, _, _, _, hcreate⟩

/-- A goal with the path `src/` and the command `pytest -q` is read back as itself. -/
theorem codecs_roundTrip_iff_sample : ∃ g, sampleGoal "src/" ["pytest", "-q"] = .ok g ∧
    g.RoundTrips := by
  obtain ⟨g, hg⟩ := Checked.exists_of_isOk
    (show (sampleGoal "src/" ["pytest", "-q"]).isOk = true by decide +kernel)
  have hreadable : ((sampleGoal "src/" ["pytest", "-q"]).toOption.all fun g ↦ g.Readable) = true := by
    decide +kernel
  rw [hg] at hreadable
  exact ⟨g, hg, ((codecs_roundTrip_iff g).1 (isAdmitted_of_sampleGoal hg)).mpr
    (of_decide_eq_true hreadable)⟩

/-- The constructor admits the command `pytest " "` and the path `./`, and neither goal can be read
back. -/
theorem exists_admitted_not_roundTrips :
    (∃ g, sampleGoal "src" ["pytest", " "] = .ok g ∧ g.IsAdmitted ∧
      (goalFromPayload (goalPayload g).canonical).isOk = false) ∧
    ∃ g, sampleGoal "./" ["pytest"] = .ok g ∧ g.IsAdmitted ∧
      (goalFromPayload (goalPayload g).canonical).isOk = false := by
  have hrefused : ∀ path argv, (sampleGoal path argv).isOk = true →
      ((sampleGoal path argv).toOption.all fun g ↦
        (goalFromPayload (goalPayload g)).isOk = false) = true →
      ∃ g, sampleGoal path argv = .ok g ∧ g.IsAdmitted ∧
        (goalFromPayload (goalPayload g).canonical).isOk = false := by
    intro path argv hok hall
    obtain ⟨g, hg⟩ := Checked.exists_of_isOk hok
    rw [hg] at hall
    exact ⟨g, hg, isAdmitted_of_sampleGoal hg,
      goalFromPayload_canonical.symm ▸ of_decide_eq_true hall⟩
  exact ⟨hrefused _ _ (by decide +kernel) (by decide +kernel),
    hrefused _ _ (by decide +kernel) (by decide +kernel)⟩

end Blackcell.Orchestration.ExecutionPlan
