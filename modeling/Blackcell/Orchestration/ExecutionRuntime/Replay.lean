import Blackcell.Kernel.Canonical
import Blackcell.Kernel.Checkpoints
import Blackcell.Orchestration.ExecutionRuntime.Checkpoint

/-!
# Checkpointed replay of a generated run

`_rebuild`, `rehydrate` and `_save_checkpoint` of `EventBackedExecutionRunJournal`, with the store of
checkpoints. The projection of a run does not restore all the states that it dumps, but it restores no
state to another one; and a checkpoint that it refuses is passed over, and the whole stream is read.
So the checkpoints are invisible: the state of a run is the fold of its stream.

## Main definitions

* `executionProjection` : `ExecutionRunProjection`.
* `rebuildStored`, `rehydrateStored`, `saveCheckpoint` : the journal with its checkpoints.
* `foldedRun` : the fold of the stream of a run.

## Main results

* `faithful_executionProjection` : no state is restored to another one.
* `caught_of_loadState` : a checkpoint that cannot be restored is passed over.
* `rehydrateStored_eq` : the journal returns the fold of the stream.
* `foldedRun_eq` : without its checkpoints, the journal is that of the calls of a run.
* `saveCheckpoint_eq_ok` : a saved checkpoint is that of a replay.
* `checkpointed_replay` : replays from checkpoints are replays from the beginning.
-/

namespace Blackcell.Orchestration.ExecutionRuntime

open Blackcell.Kernel Blackcell.Gateway Blackcell.Orchestration.ExecutionPlan

/-! ### Reading what was dumped -/

/-- A way to write values without objects, in which no two values are written alike. -/
structure Plain {α : Type} (enc : α → JsonValue) : Prop where
  injective : Function.Injective enc
  canonical (a : α) : (enc a).canonical = enc a

/-- The objects agree on every key, up to the order of the keys below it. -/
def Alike (m m' : Mapping) : Prop := ∀ field, (m.get field).canonical = (m'.get field).canonical

/-- A field of the one object that was written in the other. -/
theorem Plain.eq_of_get {α : Type} {enc : α → JsonValue} (h : Plain enc) {m m' : Mapping}
    (halike : Alike m m') {field : String} {a b : α} (hm' : m'.get field = enc a)
    (hm : m.get field = enc b) : a = b := by
  have hsame := halike field
  rw [hm, hm', h.canonical, h.canonical] at hsame
  exact (h.injective hsame).symm

theorem plain_str : Plain JsonValue.str where
  injective _ _ h := JsonValue.str.inj h
  canonical _ := by simp only [JsonValue.canonical]

theorem plain_nat : Plain fun n : ℕ ↦ JsonValue.int n where
  injective _ _ h := Int.ofNat.inj (JsonValue.int.inj h)
  canonical _ := by simp only [JsonValue.canonical]

theorem plain_int : Plain JsonValue.int where
  injective _ _ h := JsonValue.int.inj h
  canonical _ := by simp only [JsonValue.canonical]

theorem plain_bool : Plain JsonValue.bool where
  injective _ _ h := JsonValue.bool.inj h
  canonical _ := by simp only [JsonValue.canonical]

theorem plain_ofText? : Plain JsonValue.ofText? where
  injective a b h := by cases a <;> cases b <;> simp_all [JsonValue.ofText?]
  canonical a := by cases a <;> simp only [JsonValue.ofText?, JsonValue.canonical]

theorem plain_ofBoolean? : Plain ofBoolean? where
  injective a b h := by cases a <;> cases b <;> simp_all [ofBoolean?]
  canonical a := by cases a <;> simp only [ofBoolean?, JsonValue.canonical]

theorem plain_failureClass :
    Plain fun c : Option FailureClass ↦ JsonValue.ofText? (c.map StrEnum.value) where
  injective _ _ h := Option.map_injective StrEnum.value_injective (plain_ofText?.injective h)
  canonical _ := plain_ofText?.canonical _

theorem canonicalItems_str (texts : List String) :
    JsonValue.canonicalItems (texts.map .str) = texts.map .str := by
  induction texts with
  | nil => rfl
  | cons s texts ih => rw [List.map_cons, JsonValue.canonicalItems, ih, plain_str.canonical]

theorem plain_ofTexts : Plain JsonValue.ofTexts where
  injective _ _ h := List.map_injective_iff.mpr plain_str.injective (JsonValue.list.inj h)
  canonical texts := by rw [JsonValue.ofTexts, JsonValue.canonical, canonicalItems_str]

variable {s s' : ExecutionRunState} {t t' : ExecutionTaskState} {raw : Mapping}

/-- What is read of a dumped task is the task. -/
theorem eq_of_readTask (halike : Alike (dumpTask t) raw) (h : readTask raw = .ok t') : t' = t := by
  simp only [readTask, Checked.bind_eq_ok, Checked.ofOption_eq_ok, StrEnum.ofValue?_eq_some,
    text_eq_ok, textTuple_eq_ok, integer_eq_ok, optionalDigest_eq_ok, optionalText_eq_ok,
    optionalFailureClass_eq_ok, digestTupleOrEmpty_eq_ok, optionalCommit_eq_ok, optionalBoolean_eq_ok,
    Checked.pure_eq_ok] at h
  obtain ⟨taskId, ⟨hid, -⟩, _, ⟨hstatus, -⟩, status, rfl, h⟩ := h
  obtain ⟨dependsOn, hdepends, allowedPaths, hpaths, maxAttempts, hmax, attempts, hattempts, h⟩ := h
  obtain ⟨signature, ⟨hsignature, -⟩, count, hcount, active, ⟨hactive, -⟩, h⟩ := h
  obtain ⟨retained, ⟨hretained, -⟩, reason, ⟨hreason, -⟩, evidence, hevidence, h⟩ := h
  obtain ⟨failureClass, hclass, summary, ⟨hsummary, -⟩, artifacts, ⟨hartifacts, -⟩, h⟩ := h
  obtain ⟨progress, ⟨hprogress, -⟩, head, ⟨hhead, -⟩, decisionId, ⟨hdecision, -⟩, h⟩ := h
  obtain ⟨actionDigest, ⟨haction, -⟩, allowed, hallowed, policyReason, ⟨hpolicy, -⟩, rfl⟩ := h
  obtain rfl := plain_str.eq_of_get halike hid rfl
  obtain rfl := StrEnum.value_injective (plain_str.eq_of_get halike hstatus rfl)
  obtain rfl := plain_ofTexts.eq_of_get halike hdepends rfl
  obtain rfl := plain_ofTexts.eq_of_get halike hpaths rfl
  obtain rfl := plain_nat.eq_of_get halike hmax rfl
  obtain rfl := plain_nat.eq_of_get halike hattempts rfl
  obtain rfl := plain_ofText?.eq_of_get halike hsignature rfl
  obtain rfl := plain_nat.eq_of_get halike hcount rfl
  obtain rfl := plain_ofText?.eq_of_get halike hactive rfl
  obtain rfl := plain_ofText?.eq_of_get halike hretained rfl
  obtain rfl := plain_ofText?.eq_of_get halike hreason rfl
  obtain rfl := plain_ofTexts.eq_of_get halike hevidence rfl
  obtain rfl := plain_failureClass.eq_of_get halike hclass rfl
  obtain rfl := plain_ofText?.eq_of_get halike hsummary rfl
  obtain rfl := plain_ofTexts.eq_of_get halike hartifacts rfl
  obtain rfl := plain_ofTexts.eq_of_get halike hprogress rfl
  obtain rfl := plain_ofText?.eq_of_get halike hhead rfl
  obtain rfl := plain_ofText?.eq_of_get halike hdecision rfl
  obtain rfl := plain_ofText?.eq_of_get halike haction rfl
  obtain rfl := plain_ofBoolean?.eq_of_get halike hallowed rfl
  obtain rfl := plain_ofText?.eq_of_get halike hpolicy rfl
  rfl

theorem nodup_keys_dumpTask (t : ExecutionTaskState) : (dumpTask t).keys.Nodup := by
  change taskFields.Nodup
  decide

theorem nodup_keys_dumpRun (s : ExecutionRunState) : (dumpRun s).keys.Nodup := by
  change stateFields.Nodup
  decide +kernel

/-- What is restored of a dumped task is the task. -/
theorem eq_of_taskStateFromCheckpoint {value : JsonValue}
    (hsame : value.canonical = (JsonValue.object (dumpTask t)).canonical)
    (h : taskStateFromCheckpoint value = .ok t') : t' = t := by
  simp only [taskStateFromCheckpoint, Checked.bind_eq_ok, Checked.ofOption_eq_ok,
    JsonValue.fields?_eq_some, check_eq_ok, Checked.exists_unit, Checked.pure_eq_ok] at h
  obtain ⟨raw, rfl, -, task, htask, -, -, -, rfl⟩ := h
  exact eq_of_readTask (JsonValue.canonical_get_eq (nodup_keys_dumpTask t) hsame.symm) htask

/-- What is read of a dumped budget is the budget. -/
theorem eq_of_gatewayBudget {value : JsonValue} {b b' : GatewayBudget}
    (hsame : value.canonical = (gatewayBudgetPayload b).canonical) (h : gatewayBudget value = .ok b') :
    b' = b := by
  simp only [gatewayBudget, Checked.bind_eq_ok, Checked.ofOption_eq_ok, JsonValue.fields?_eq_some,
    check_eq_ok, Checked.exists_unit, integer_eq_ok, Checked.pure_eq_ok] at h
  obtain ⟨raw, rfl, -, input, hinput, output, houtput, latency, hlatency, cost, hcost, rfl⟩ := h
  have halike := JsonValue.canonical_get_eq (by simp [Mapping.keys]) hsame.symm
  obtain rfl := plain_nat.eq_of_get halike hinput rfl
  obtain rfl := plain_nat.eq_of_get halike houtput rfl
  obtain rfl := plain_nat.eq_of_get halike hlatency rfl
  obtain rfl := plain_nat.eq_of_get halike hcost rfl
  rfl

/-- What is restored of dumped tasks are the tasks. -/
theorem eq_of_mapM_taskStateFromCheckpoint {tasks tasks' : List ExecutionTaskState}
    {items : List JsonValue} (hsame : (JsonValue.list items).canonical =
      (JsonValue.list (tasks.map fun t ↦ .object (dumpTask t))).canonical)
    (h : items.mapM taskStateFromCheckpoint = .ok tasks') : tasks' = tasks := by
  simp only [JsonValue.canonical, JsonValue.list.injEq, JsonValue.canonicalItems_eq_map, List.map_map] at hsame
  rw [Checked.mapM_eq_ok] at h
  induction h generalizing tasks with
  | nil =>
    rw [List.map_nil, eq_comm, List.map_eq_nil_iff] at hsame
    exact hsame.symm
  | cons hv _ ih =>
    cases tasks with
    | nil => exact nomatch hsame
    | cons t tasks =>
      rw [List.map_cons, List.map_cons, List.cons.injEq] at hsame
      rw [eq_of_taskStateFromCheckpoint hsame.1 hv, ih hsame.2]

/-- What is read of a dumped run, with its tasks and lists, is the run. -/
theorem eq_of_readRun (halike : Alike (dumpRun s) raw)
    (h : readRun raw s.tasks s.planRevision s.retainedWorkspaceIds = .ok s') : s' = s := by
  simp only [readRun, Checked.bind_eq_ok, Checked.ofOption_eq_ok, StrEnum.ofValue?_eq_some, text_eq_ok,
    integer_eq_ok, optionalDigest_eq_ok, digest_eq_ok, commit_eq_ok, optionalText_eq_ok, boolean_eq_ok,
    Checked.pure_eq_ok] at h
  obtain ⟨runId, ⟨hrun, -⟩, goalId, ⟨hgoal, -⟩, goalDigest, ⟨hgoalDigest, -⟩, h⟩ := h
  obtain ⟨projectId, ⟨hproject, -⟩, intentId, ⟨hintent, -⟩, base, ⟨hbase, -⟩, h⟩ := h
  obtain ⟨_, hclassification, classification, hvalue, _, ⟨hlocality, -⟩, locality, h⟩ := h
  obtain ⟨rfl, budget, hbudget, planId, ⟨hplan, -⟩, planDigest, ⟨hplanDigest, -⟩, h⟩ := h
  obtain ⟨_, ⟨hstatus, -⟩, status, rfl, latest, ⟨hlatest, -⟩, h⟩ := h
  obtain ⟨sequence, hsequence, input, hinput, inputComplete, hinputComplete, h⟩ := h
  obtain ⟨output, houtput, h⟩ := h
  obtain ⟨outputComplete, houtputComplete, latency, hlatency, cost, hcost, costComplete,
    hcostComplete, h⟩ := h
  obtain ⟨draft, ⟨hdraft, -⟩, rfl⟩ := h
  obtain rfl := DataClassification.value_of_ofValue? hvalue
  obtain rfl := plain_str.eq_of_get halike hrun rfl
  obtain rfl := plain_str.eq_of_get halike hgoal rfl
  obtain rfl := plain_str.eq_of_get halike hgoalDigest rfl
  obtain rfl := plain_str.eq_of_get halike hproject rfl
  obtain rfl := plain_str.eq_of_get halike hintent rfl
  obtain rfl := plain_str.eq_of_get halike hbase rfl
  have hclass : classification = s.classification := by
    have hsame := plain_nat.eq_of_get halike hclassification rfl
    have := DataClassification.ofValue?_value s.classification
    rw [← hsame, DataClassification.ofValue?_value] at this
    exact Option.some.inj this
  obtain rfl := hclass
  obtain rfl := StrEnum.value_injective (plain_str.eq_of_get halike hlocality rfl)
  obtain rfl := eq_of_gatewayBudget (halike "budget").symm hbudget
  obtain rfl := plain_ofText?.eq_of_get halike hplan rfl
  obtain rfl := plain_ofText?.eq_of_get halike hplanDigest rfl
  obtain rfl := StrEnum.value_injective (plain_str.eq_of_get halike hstatus rfl)
  obtain rfl := plain_str.eq_of_get halike hlatest rfl
  have hlast : (sequence : Int) = s.lastStreamSequence := plain_int.eq_of_get halike hsequence rfl
  obtain rfl := plain_nat.eq_of_get halike hinput rfl
  obtain rfl := plain_bool.eq_of_get halike hinputComplete rfl
  obtain rfl := plain_nat.eq_of_get halike houtput rfl
  obtain rfl := plain_bool.eq_of_get halike houtputComplete rfl
  obtain rfl := plain_nat.eq_of_get halike hlatency rfl
  obtain rfl := plain_nat.eq_of_get halike hcost rfl
  obtain rfl := plain_bool.eq_of_get halike hcostComplete rfl
  obtain rfl := plain_ofText?.eq_of_get halike hdraft rfl
  rw [hlast]

/-- The version of a plan that is read of a dumped run. -/
theorem eq_of_planVersion (halike : Alike (dumpRun s) raw) {revision : Option Nat}
    (h : planVersion raw = .ok revision) : revision = s.planRevision := by
  have hsame : (ofInteger? s.planRevision).canonical = (raw.get "plan_version").canonical :=
    halike "plan_version"
  unfold planVersion at h
  split at h
  case h_1 hget =>
    rw [hget] at hsame
    cases hs : s.planRevision <;> simp_all [ofInteger?, JsonValue.canonical]
  case h_2 n hget =>
    obtain rfl := Except.ok.inj h
    rw [hget] at hsame
    cases hs : s.planRevision with
    | none => simp [hs, ofInteger?, JsonValue.canonical] at hsame
    | some k =>
      rw [hs, ofInteger?] at hsame
      simp only [JsonValue.canonical, JsonValue.int.injEq] at hsame
      rw [← hsame, Int.toNat_natCast]
  case h_3 => cases h

/-- **Restored states.** What is restored of a dumped state is the state. -/
theorem eq_of_loadState {state state' : Option ExecutionRunState} {value : JsonValue}
    (hsame : value.canonical = (dumpState state).canonical) (h : loadState value = .ok state') :
    state' = state := by
  unfold loadState at h
  split at h
  case isTrue hnull =>
    obtain rfl := Except.ok.inj h
    subst hnull
    cases state with
    | none => rfl
    | some s => simp [dumpState, JsonValue.canonical] at hsame
  case isFalse =>
    simp only [Checked.bind_eq_ok, Checked.ofOption_eq_ok, JsonValue.fields?_eq_some,
      JsonValue.items?_eq_some, check_eq_ok, Checked.exists_unit, textTuple_eq_ok,
      Checked.map_eq_ok] at h
    obtain ⟨raw, rfl, -, items, hitems, tasks, htasks, revision, hrevision, retained, hretained, -, s',
      hrun, rfl⟩ := h
    cases state with
    | none => simp [dumpState, JsonValue.canonical] at hsame
    | some s =>
      have halike : Alike (dumpRun s) raw := JsonValue.canonical_get_eq (nodup_keys_dumpRun s) hsame.symm
      have hlist := halike "tasks"
      rw [hitems] at hlist
      obtain rfl := eq_of_mapM_taskStateFromCheckpoint hlist.symm htasks
      obtain rfl := eq_of_planVersion halike hrevision
      obtain rfl := plain_ofTexts.eq_of_get halike hretained rfl
      rw [eq_of_readRun halike hrun]

/-! ### The projection -/

/-- `ExecutionRunProjection`. -/
def executionProjection (H : Host) : Projection (Option ExecutionRunState) Failure where
  name := "run-kernel"
  version := 6
  initialState := none
  apply := apply H
  dumpState := dumpState
  loadState := loadState

/-- **No other state.** The projection restores no state to another one. -/
theorem faithful_executionProjection (H : Host) : (executionProjection H).Faithful :=
  fun _ _ _ hsame hload ↦ eq_of_loadState hsame hload

/-! ### Rejected checkpoints -/

/-- An exception that `_rebuild` catches. -/
def caught : ProjectionError Failure → Bool
  | .value | .raised (.runtime _) | .raised (.contract _) | .raised .value => true
  | .conflict | .raised _ => false

/-- A reader raises exceptions that `_rebuild` catches. -/
abbrev RaisesCaught {α : Type} (x : Runtime α) : Prop :=
  Checked.Raises (fun error ↦ caught (.raised error) = true) x

section Readers

variable (m : Mapping) (field : String)

theorem raisesCaught_check {p : Prop} [Decidable p] {error : ExecutionRuntimeError} :
    RaisesCaught (check p error) := Checked.raises_require rfl

theorem raisesCaught_text : RaisesCaught (text m field) :=
  Checked.raises_bind (Checked.raises_ofOption rfl) fun _ ↦
    Checked.raises_bind raisesCaught_check fun _ ↦ Checked.raises_ok _

theorem raisesCaught_integer : RaisesCaught (integer m field) :=
  Checked.raises_bind (Checked.raises_ofOption rfl) fun _ ↦
    Checked.raises_bind raisesCaught_check fun _ ↦ Checked.raises_ok _

theorem raisesCaught_boolean : RaisesCaught (boolean m field) := Checked.raises_ofOption rfl

theorem raisesCaught_digest : RaisesCaught (digest m field) :=
  Checked.raises_bind (raisesCaught_text m field) fun _ ↦
    Checked.raises_bind raisesCaught_check fun _ ↦ Checked.raises_ok _

theorem raisesCaught_commit : RaisesCaught (commit m field) :=
  Checked.raises_bind (raisesCaught_text m field) fun _ ↦
    Checked.raises_bind raisesCaught_check fun _ ↦ Checked.raises_ok _

/-- A value, or `None`. -/
theorem raisesCaught_optional {α : Type} {x : Runtime α} (hx : RaisesCaught x) :
    RaisesCaught (if m.get field = .null then pure none else some <$> x) := by
  split
  · exact Checked.raises_ok _
  · exact Checked.raises_map hx

theorem raisesCaught_optionalFailureClass : RaisesCaught (optionalFailureClass m field) := by
  unfold optionalFailureClass
  split
  · exact Checked.raises_ok _
  · exact Checked.raises_bind (raisesCaught_text m field) fun _ ↦
      Checked.raises_map (Checked.raises_ofOption rfl)

theorem raisesCaught_textTuple : RaisesCaught (textTuple m field) := by
  have hitem (v : JsonValue) :
      RaisesCaught (Checked.ofOption v.text? (Failure.runtime .invalidExecutionEvent)) :=
    Checked.raises_ofOption rfl
  exact Checked.raises_bind (Checked.raises_ofOption rfl) fun _ ↦ Checked.raises_mapM hitem _

theorem raisesCaught_digestTupleOrEmpty : RaisesCaught (digestTupleOrEmpty m field) :=
  Checked.raises_bind (raisesCaught_textTuple m field) fun _ ↦
    Checked.raises_bind raisesCaught_check fun _ ↦
      Checked.raises_bind raisesCaught_check fun _ ↦ Checked.raises_ok _

end Readers

theorem raisesCaught_gatewayBudget (v : JsonValue) : RaisesCaught (gatewayBudget v) :=
  Checked.raises_bind (Checked.raises_ofOption rfl) fun raw ↦
    Checked.raises_bind raisesCaught_check fun _ ↦
      Checked.raises_bind (raisesCaught_integer raw _) fun _ ↦
        Checked.raises_bind (raisesCaught_integer raw _) fun _ ↦
          Checked.raises_bind (raisesCaught_integer raw _) fun _ ↦
            Checked.raises_bind (raisesCaught_integer raw _) fun _ ↦ Checked.raises_ok _

theorem raisesCaught_planVersion (m : Mapping) : RaisesCaught (planVersion m) := by
  unfold planVersion
  split
  · exact Checked.raises_ok _
  · exact Checked.raises_ok _
  · exact Checked.raises_error rfl

theorem raisesCaught_readTask (m : Mapping) : RaisesCaught (readTask m) := by
  unfold readTask
  repeat'
    first
    | exact Checked.raises_ok _
    | refine Checked.raises_bind (raisesCaught_text m _) fun _ ↦ ?_
    | refine Checked.raises_bind (raisesCaught_integer m _) fun _ ↦ ?_
    | refine Checked.raises_bind (raisesCaught_textTuple m _) fun _ ↦ ?_
    | refine Checked.raises_bind (raisesCaught_digestTupleOrEmpty m _) fun _ ↦ ?_
    | refine Checked.raises_bind (raisesCaught_optionalFailureClass m _) fun _ ↦ ?_
    | refine Checked.raises_bind (Checked.raises_ofOption rfl) fun _ ↦ ?_
    | refine Checked.raises_bind (raisesCaught_optional m _ (raisesCaught_text m _)) fun _ ↦ ?_
    | refine Checked.raises_bind (raisesCaught_optional m _ (raisesCaught_digest m _)) fun _ ↦ ?_
    | refine Checked.raises_bind (raisesCaught_optional m _ (raisesCaught_commit m _)) fun _ ↦ ?_
    | refine Checked.raises_bind (raisesCaught_optional m _ (raisesCaught_boolean m _)) fun _ ↦ ?_

theorem raisesCaught_taskStateFromCheckpoint (v : JsonValue) :
    RaisesCaught (taskStateFromCheckpoint v) :=
  Checked.raises_bind (Checked.raises_ofOption rfl) fun raw ↦
    Checked.raises_bind raisesCaught_check fun _ ↦
      Checked.raises_bind (raisesCaught_readTask raw) fun _ ↦
        Checked.raises_bind raisesCaught_check fun _ ↦
          Checked.raises_bind raisesCaught_check fun _ ↦
            Checked.raises_bind raisesCaught_check fun _ ↦ Checked.raises_ok _

theorem raisesCaught_readRun (m : Mapping) (tasks : List ExecutionTaskState) (revision : Option Nat)
    (retained : List String) : RaisesCaught (readRun m tasks revision retained) := by
  unfold readRun
  repeat'
    first
    | exact Checked.raises_ok _
    | refine Checked.raises_bind (raisesCaught_text m _) fun _ ↦ ?_
    | refine Checked.raises_bind (raisesCaught_integer m _) fun _ ↦ ?_
    | refine Checked.raises_bind (raisesCaught_boolean m _) fun _ ↦ ?_
    | refine Checked.raises_bind (raisesCaught_digest m _) fun _ ↦ ?_
    | refine Checked.raises_bind (raisesCaught_commit m _) fun _ ↦ ?_
    | refine Checked.raises_bind (raisesCaught_gatewayBudget _) fun _ ↦ ?_
    | refine Checked.raises_bind (Checked.raises_ofOption rfl) fun _ ↦ ?_
    | refine Checked.raises_bind (raisesCaught_optional m _ (raisesCaught_text m _)) fun _ ↦ ?_
    | refine Checked.raises_bind (raisesCaught_optional m _ (raisesCaught_digest m _)) fun _ ↦ ?_

/-- **Refused checkpoints.** What a checkpoint that cannot be restored raises is caught. -/
theorem caught_of_loadState {value : JsonValue} {error : Failure} (h : loadState value = .error error) :
    caught (.raised error) = true := by
  have hraises : RaisesCaught (loadState value) := by
    unfold loadState
    split
    · exact Checked.raises_ok _
    · refine Checked.raises_bind (Checked.raises_ofOption rfl) fun raw ↦ ?_
      refine Checked.raises_bind raisesCaught_check fun _ ↦ ?_
      refine Checked.raises_bind (Checked.raises_ofOption rfl) fun items ↦ ?_
      refine Checked.raises_bind (Checked.raises_mapM raisesCaught_taskStateFromCheckpoint _) fun tasks ↦ ?_
      refine Checked.raises_bind (raisesCaught_planVersion raw) fun revision ↦ ?_
      refine Checked.raises_bind (raisesCaught_textTuple raw _) fun retained ↦ ?_
      refine Checked.raises_bind raisesCaught_check fun _ ↦ ?_
      exact Checked.raises_map (raisesCaught_readRun raw tasks revision retained)
  exact hraises error h

/-! ### The journal -/

section Journal

variable (H : Host) (runId : String)

/-- The `try` of `_rebuild`: a rebuild from the checkpoint, and if that raises, one from the beginning.
The two read the ledger one after the other. -/
def rebuildOrRestart (checkpoint : Option ProjectionCheckpoint) (streamId : String)
    (read reread : Ledger) : Except (ProjectionError Failure) (ReplayResult (Option ExecutionRunState)) :=
  match ProjectionRunner.rebuild H (executionProjection H) checkpoint read (some streamId) with
  | .ok result => .ok result
  | .error error =>
    if caught error ∧ checkpoint.isSome then
      ProjectionRunner.rebuild H (executionProjection H) none reread (some streamId)
    else .error error

/-- `_rebuild`, with the ledgers and the table that it finds at its reads. -/
def rebuildStored (validated : Ledger) (table : CheckpointTable) (read reread : Ledger) :
    Except (ProjectionError Failure) (ReplayResult (Option ExecutionRunState)) := do
  let streamId ← (streamIdOf runId).mapError .raised
  (validateStream streamId none 1 (validated.readStream streamId)).mapError .raised
  let checkpoint ← CheckpointStore.load H table (executionProjection H).name
    (executionProjection H).version (some streamId)
  rebuildOrRestart H checkpoint streamId read reread

/-- `rehydrate`. -/
def rehydrateStored (validated : Ledger) (table : CheckpointTable) (read reread : Ledger) :
    Except (ProjectionError Failure) ExecutionRunState := do
  let result ← rebuildStored H runId validated table read reread
  Checked.ofOption result.state (.raised (.runtime .executionRunNotFound))

/-- The fold of the stream of a run, once the stream is validated. -/
def foldedRun (validated read : Ledger) : Except (ProjectionError Failure) ExecutionRunState := do
  let streamId ← (streamIdOf runId).mapError .raised
  (validateStream streamId none 1 (validated.readStream streamId)).mapError .raised
  let state ← (project H (read.readStream streamId)).mapError .raised
  Checked.ofOption state (.raised (.runtime .executionRunNotFound))

/-- `_save_checkpoint`. -/
def saveCheckpoint (w : ReplayWorld) :
    Except (ProjectionError Failure) (ProjectionCheckpoint × CheckpointTable) := do
  let streamId ← (streamIdOf runId).mapError .raised
  let prior ← CheckpointStore.load H w.table (executionProjection H).name (executionProjection H).version
    (some streamId)
  let result ← ProjectionRunner.rebuild H (executionProjection H) prior w.ledger (some streamId)
  let checkpoint ← result.checkpoint (executionProjection H) (some streamId)
  CheckpointStore.save H w.table checkpoint (some (prior.elim 0 (·.lastGlobalPosition)))

end Journal

variable {H : Host} {runId : String}

/-- Without its checkpoints, the journal is the one that the calls of a run use. -/
theorem foldedRun_eq (env : Environment) (caller : Nat) (w : World) :
    foldedRun H runId w.ledger w.ledger =
      (Prog.run (handle env caller) (rehydrate H runId) w).1.mapError .raised := by
  rw [foldedRun, rehydrate, rebuild]
  cases streamIdOf runId with
  | error error => rfl
  | ok streamId =>
    cases hvalid : validateStream streamId none 1 (w.ledger.readStream streamId) with
    | error error =>
      simp [Prog.run, Prog.bind, Prog.ofExcept, readStream, Prog.perform, handle, hvalid,
        Except.mapError]
    | ok =>
      cases hproject : project H (w.ledger.readStream streamId) with
      | error error =>
        simp [Prog.run, Prog.bind, Prog.ofExcept, readStream, Prog.perform, handle, hvalid, hproject,
          Except.mapError]
      | ok state =>
        cases state <;> simp [Prog.run, Prog.bind, Prog.ofExcept, readStream, Prog.perform, handle,
          hvalid, hproject, Except.mapError, Checked.ofOption]

/-- A replay that yields the fold yields its state. -/
theorem state_of_rebuilds {L : Ledger} {streamId : String}
    {x : Except (ProjectionError Failure) (ReplayResult (Option ExecutionRunState))}
    (h : ProjectionRunner.Rebuilds H (executionProjection H) L (some streamId) x) :
    ReplayResult.state <$> x =
      (project H (L.readStream streamId)).mapError ProjectionError.raised := by
  obtain ⟨_, _, -, rfl⟩ := h
  change _ <$> _ <$> (project H (L.readStream streamId)).mapError ProjectionError.raised = _
  cases project H (L.readStream streamId) <;> rfl

/-- A rebuild from the beginning. -/
theorem state_of_rebuild_none {L : Ledger} (hL : L.Consistent) (streamId : String) :
    ReplayResult.state <$> ProjectionRunner.rebuild H (executionProjection H) none L (some streamId) =
      (project H (L.readStream streamId)).mapError .raised :=
  state_of_rebuilds (ProjectionRunner.rebuild_none hL (show (1 : Int) ≤ 6 by decide))

/-- A rebuild from a checkpoint that cannot be restored raises what is caught. -/
theorem caught_of_rebuild {c : ProjectionCheckpoint} {L : Ledger} {streamId : String} {error : Failure}
    (h : loadState c.state = .error error) :
    ∃ raised, ProjectionRunner.rebuild H (executionProjection H) (some c) L (some streamId) =
      .error raised ∧ caught raised = true := by
  have hcaught : Checked.Raises (fun raised ↦ caught raised = true)
      (ProjectionRunner.startReplay (executionProjection H) (some c)) := by
    refine Checked.raises_bind (Checked.raises_require rfl) fun _ ↦ ?_
    refine Checked.raises_bind (Checked.raises_require rfl) fun _ ↦ ?_
    have hload : (executionProjection H).loadState c.state = .error error := h
    rw [hload]
    exact Checked.raises_error (caught_of_loadState h)
  cases hstart : ProjectionRunner.startReplay (executionProjection H) (some c) with
  | error raised =>
    refine ⟨raised, ?_, hcaught raised hstart⟩
    rw [ProjectionRunner.rebuild, ProjectionRunner.replay, hstart, Checked.error_bind]
  | ok start =>
    simp only [ProjectionRunner.startReplay, Checked.bind_eq_ok, Checked.mapError_eq_ok] at hstart
    obtain ⟨-, -, -, -, state, hstate, -⟩ := hstart
    cases h.symm.trans hstate

/-- **The fallback.** If a checkpoint that is restored reflects the ledger, the state is the fold. -/
theorem state_of_rebuildOrRestart {checkpoint : Option ProjectionCheckpoint} {streamId : String}
    {read reread : Ledger} (hread : read.Consistent) (hreread : reread.Consistent)
    (hreflects : ∀ c ∈ checkpoint, ∀ s, loadState c.state = .ok s →
      Reflects (executionProjection H) read c ∧ c.streamId = some streamId) :
    ∃ L ∈ [read, reread], ReplayResult.state <$> rebuildOrRestart H checkpoint streamId read reread =
      (project H (L.readStream streamId)).mapError .raised := by
  have hfirst : (∃ raised, ProjectionRunner.rebuild H (executionProjection H) checkpoint read
        (some streamId) = .error raised ∧ caught raised = true ∧ checkpoint.isSome) ∨
      ReplayResult.state <$> ProjectionRunner.rebuild H (executionProjection H) checkpoint read
        (some streamId) = (project H (read.readStream streamId)).mapError .raised := by
    cases checkpoint with
    | none => exact .inr (state_of_rebuild_none hread streamId)
    | some c =>
      cases hload : loadState c.state with
      | error error =>
        obtain ⟨raised, hraised, hcaught⟩ := caught_of_rebuild (H := H) (L := read) hload
        exact .inl ⟨raised, hraised, hcaught, rfl⟩
      | ok s =>
        obtain ⟨hc, hstream⟩ := hreflects c rfl s hload
        have hrebuilds := hc.rebuild (H := H) hread (faithful_executionProjection H) hload
        rw [hstream] at hrebuilds
        exact .inr (state_of_rebuilds hrebuilds)
  rw [rebuildOrRestart]
  rcases hfirst with ⟨raised, hraised, hcaught, hsome⟩ | hstate
  · refine ⟨reread, by simp, ?_⟩
    rw [hraised]
    simp only [hcaught, hsome, and_self, if_true]
    exact state_of_rebuild_none hreread streamId
  · cases hresult : ProjectionRunner.rebuild H (executionProjection H) checkpoint read
      (some streamId) with
    | ok result =>
      rw [hresult] at hstate
      exact ⟨read, by simp, hstate⟩
    | error raised =>
      rw [hresult] at hstate
      dsimp only
      split
      · exact ⟨reread, by simp, state_of_rebuild_none hreread streamId⟩
      · exact ⟨read, by simp, hstate⟩

/-- **Rehydration.** If the checkpoint of the run is loaded, and reflects the ledger unless it cannot be
restored, the journal returns the fold of the stream. -/
theorem rehydrateStored_eq (validated : Ledger) {read reread : Ledger} (table : CheckpointTable)
    (hread : read.Consistent) (hreread : reread.Consistent)
    (hload : ∀ streamId, streamIdOf runId = .ok streamId → ∃ checkpoint,
      CheckpointStore.load (ε := Failure) H table (executionProjection H).name
        (executionProjection H).version (some streamId) = .ok checkpoint ∧
      ∀ c ∈ checkpoint, ∀ s, loadState c.state = .ok s →
        Reflects (executionProjection H) read c ∧ c.streamId = some streamId) :
    ∃ L ∈ [read, reread],
      rehydrateStored H runId validated table read reread = foldedRun H runId validated L := by
  rw [rehydrateStored, rebuildStored]
  cases hstream : streamIdOf runId with
  | error error => exact ⟨read, by simp, by rw [foldedRun, hstream]; rfl⟩
  | ok streamId =>
    cases hvalid : validateStream streamId none 1 (validated.readStream streamId) with
    | error error =>
      refine ⟨read, by simp, ?_⟩
      rw [foldedRun, hstream]
      simp only [Except.mapError, Checked.ok_bind, hvalid]
      rfl
    | ok =>
      obtain ⟨checkpoint, hcheckpoint, hreflects⟩ := hload streamId hstream
      obtain ⟨L, hL, hstate⟩ := state_of_rebuildOrRestart hread hreread hreflects
      refine ⟨L, hL, ?_⟩
      rw [foldedRun, hstream]
      simp only [Except.mapError, Checked.ok_bind, hvalid, hcheckpoint]
      cases hresult : rebuildOrRestart H checkpoint streamId read reread with
      | ok result =>
        rw [hresult] at hstate
        change Checked.ofOption result.state _ =
          (project H (L.readStream streamId)).mapError ProjectionError.raised >>= _
        rw [← hstate]
        rfl
      | error raised =>
        rw [hresult] at hstate
        change Except.error raised =
          (project H (L.readStream streamId)).mapError ProjectionError.raised >>= _
        rw [← hstate]
        rfl

/-! ### Runs -/

theorem scopeOf_streamIdOf {streamId : String} (h : streamIdOf runId = .ok streamId) :
    CheckpointStore.scopeOf (ε := Failure) (some streamId) = .ok streamId := by
  simp only [streamIdOf, Checked.bind_eq_ok, check_eq_ok, Checked.exists_unit, Checked.pure_eq_ok] at h
  obtain ⟨-, rfl⟩ := h
  have hblank : isBlank ("run:" ++ runId) = false := by
    simp [isBlank, isSpace]
  have hstar : "run:" ++ runId ≠ "*" := by
    intro h
    simpa using congrArg String.toList h
  rw [CheckpointStore.scopeOf, if_neg (by simp [hblank, hstar])]

/-- **Saves of the journal.** A saved checkpoint is that of a replay. -/
theorem saveCheckpoint_eq_ok {w : ReplayWorld} {c : ProjectionCheckpoint} {table : CheckpointTable}
    (h : saveCheckpoint H runId w = .ok (c, table)) :
    ∃ steps : List (ReplayStep (executionProjection H)),
      (w.run H _ steps).table = table ∧ (w.run H _ steps).ledger = w.ledger := by
  simp only [saveCheckpoint, Checked.bind_eq_ok] at h
  obtain ⟨streamId, -, prior, hprior, result, hresult, checkpoint, hcheckpoint, hsave⟩ := h
  have hreplayed : w.replayed H (executionProjection H) (some streamId) true = .ok checkpoint := by
    simp only [ReplayWorld.replayed, Checked.bind_eq_ok]
    exact ⟨prior, hprior, result, hresult, hcheckpoint⟩
  refine ⟨[.replay (some streamId) true,
    .save w.results.length (some (prior.elim 0 (·.lastGlobalPosition)))], ?_⟩
  simp [ReplayWorld.run, ReplayWorld.step, hreplayed, hsave]

/-- **Replay from checkpoints.** Take any order of appends, of replays and of saves of their checkpoints.

If `load_state` inverts `dump_state`, a rebuild from a stored checkpoint yields the state, the state hash
and the last position of the rebuild from the beginning. The position of a stored checkpoint never
decreases. And whatever checkpoint of a run is stored, the journal returns the fold of the stream of the
run, as it was at one of the two reads of `_rebuild`; so it does for a checkpoint of any other origin that
`load_state` refuses. -/
theorem checkpointed_replay {σ ε : Type} (H : Host) (P : Projection σ ε) (hP : P.Inverts)
    (steps later : List (ReplayStep P)) :
    (∀ streamId c, CheckpointStore.load (ε := ε) H (ReplayWorld.initial.run H P steps).table P.name
        P.version streamId = .ok (some c) →
      ProjectionRunner.ReplayResult.core <$> ProjectionRunner.rebuild H P (some c)
          (ReplayWorld.initial.run H P (steps ++ later)).ledger streamId =
        ProjectionRunner.ReplayResult.core <$> ProjectionRunner.rebuild H P none
          (ReplayWorld.initial.run H P (steps ++ later)).ledger streamId) ∧
    (∀ key p, CheckpointStore.position? (ReplayWorld.initial.run H P steps).table key = some p →
      ∃ q, CheckpointStore.position? (ReplayWorld.initial.run H P (steps ++ later)).table key = some q ∧
        p ≤ q) ∧
    (∀ runId validated (steps later again : List (ReplayStep (executionProjection H))),
      ∃ L ∈ [(ReplayWorld.initial.run H _ (steps ++ later)).ledger,
          (ReplayWorld.initial.run H _ (steps ++ later ++ again)).ledger],
        rehydrateStored H runId validated (ReplayWorld.initial.run H _ steps).table
          (ReplayWorld.initial.run H _ (steps ++ later)).ledger
          (ReplayWorld.initial.run H _ (steps ++ later ++ again)).ledger =
        foldedRun H runId validated L) ∧
    (∀ runId streamId validated (L : Ledger) table c, L.Consistent → streamIdOf runId = .ok streamId →
      CheckpointStore.load (ε := Failure) H table (executionProjection H).name
        (executionProjection H).version (some streamId) = .ok (some c) →
      (∀ s, loadState c.state ≠ .ok s) →
      rehydrateStored H runId validated table L L = foldedRun H runId validated L) := by
  refine ⟨fun streamId c hc ↦ ?_, fun key p hp ↦ ?_, fun runId validated steps later again ↦ ?_,
    fun runId streamId validated L table c hL hstream hload hrefused ↦ ?_⟩
  · have hsound := ReplayWorld.sound_initial.run (H := H) hP.faithful steps
    obtain ⟨hreflects, rfl⟩ := hsound.load hc
    rw [ReplayWorld.run_append]
    exact (hreflects.mono (ReplayWorld.ledger_run _ later)).rebuild_eq (ReplayWorld.consistent _) hP
  · rw [ReplayWorld.run_append]
    exact ReplayWorld.position_of_run _ later hp
  · refine rehydrateStored_eq _ _ (ReplayWorld.consistent _) (ReplayWorld.consistent _)
      fun streamId hstream ↦ ?_
    have hsound := ReplayWorld.sound_initial.run (H := H) (faithful_executionProjection H) steps
    obtain ⟨checkpoint, hload, hcheckpoint⟩ := hsound.exists_load (scopeOf_streamIdOf hstream)
    refine ⟨checkpoint, hload, fun c hc s _ ↦ ?_⟩
    obtain ⟨hreflects, hsame⟩ := hcheckpoint c hc
    rw [ReplayWorld.run_append]
    exact ⟨hreflects.mono (ReplayWorld.ledger_run _ later), hsame⟩
  · obtain ⟨L', hL', heq⟩ := rehydrateStored_eq validated table hL hL
      fun streamId' hstream' ↦ by
        obtain rfl := Except.ok.inj (hstream.symm.trans hstream')
        refine ⟨some c, hload, ?_⟩
        rintro _ ⟨⟩ s hs
        exact absurd hs (hrefused s)
    obtain rfl : L' = L := by simpa using hL'
    exact heq

namespace Sample

/-- The number of events. -/
def counting : Projection ℕ Unit where
  name := "count"
  version := 1
  initialState := 0
  apply n _ := .ok (n + 1)
  dumpState n := .int n
  loadState v := Checked.ofOption (v.int?.map Int.toNat) ()

theorem inverts_counting : counting.Inverts := by
  intro n v h
  have hint : v = .int n := by cases v <;> simp_all [counting, JsonValue.canonical]
  rw [hint]
  rfl

/-- The digests of the numbers and of the empty payload. -/
def countHost : Host := .ofTables [
  (.int 1, hexText 0x6b86b273ff34fce19d6b804eff5a3f5747ada4eaa22f1d49c01e52ddb7875b4b),
  (.int 2, hexText 0xd4735e3a265e16eee03f59718b9b5d03019c07d8b6c51f90da3a666eec13ab35),
  (.object [], hexText 0x44136fa355b3678a1146ad16f7e8649e94fb4fc21fe77e8310c060f61caaff8a)] [] []

/-- An event of the stream `s`. -/
def counted (eventId : String) (streamSequence : Int) : EventEnvelope :=
  ⟨eventId, "s", streamSequence, "noted", 1, 0, 0, eventId, none, "actor-1", "source", [], none, none⟩

/-- An event is appended, and the checkpoint of a replay is saved. -/
def counts : List (ReplayStep counting) :=
  [.append [counted "a" 1] [("s", 0)], .replay (some "s") false, .save 0 none]

/-- Another event is appended. -/
def moreCounts : List (ReplayStep counting) := [.append [counted "b" 2] [("s", 1)]]

/-- The checkpoint of the first event is stored, and the second one is in the ledger. -/
theorem counts_checked :
    ((CheckpointStore.load (ε := Unit) countHost (ReplayWorld.initial.run countHost _ counts).table
        "count" 1 (some "s")).toOption.join.any fun c ↦ c.lastGlobalPosition = 1) = true ∧
      (ReplayWorld.initial.run countHost _ (counts ++ moreCounts)).ledger.length = 2 := by
  decide +kernel

end Sample

/-- The law on the sample checkpoint. -/
theorem checkpointed_replay_sample : ∃ c : ProjectionCheckpoint, c.lastGlobalPosition = 1 ∧
    (ReplayWorld.initial.run Sample.countHost _ (Sample.counts ++ Sample.moreCounts)).ledger.length = 2 ∧
    ProjectionRunner.ReplayResult.core <$> ProjectionRunner.rebuild Sample.countHost Sample.counting
        (some c) (ReplayWorld.initial.run Sample.countHost _
          (Sample.counts ++ Sample.moreCounts)).ledger (some "s") =
      ProjectionRunner.ReplayResult.core <$> ProjectionRunner.rebuild Sample.countHost Sample.counting
        none (ReplayWorld.initial.run Sample.countHost _
          (Sample.counts ++ Sample.moreCounts)).ledger (some "s") := by
  have hstored := Sample.counts_checked.1
  simp only [Option.any_eq_true] at hstored
  obtain ⟨c, hc, hposition⟩ := hstored
  refine ⟨c, of_decide_eq_true hposition, Sample.counts_checked.2, ?_⟩
  refine (checkpointed_replay Sample.countHost Sample.counting Sample.inverts_counting Sample.counts
    Sample.moreCounts).1 (some "s") c ?_
  cases hload : CheckpointStore.load (ε := Unit) Sample.countHost
    (ReplayWorld.initial.run Sample.countHost Sample.counting Sample.counts).table "count" 1
    (some "s") with
  | ok checkpoint =>
    rw [hload] at hc
    exact hload.trans (congrArg _ (by simpa [Except.toOption] using hc))
  | error =>
    rw [hload] at hc
    cases hc

end Blackcell.Orchestration.ExecutionRuntime
