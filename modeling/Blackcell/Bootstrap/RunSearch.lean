import Blackcell.Bootstrap.CandidateStability
import Blackcell.Bootstrap.RunPagination
import Mathlib.Tactic.IntervalCases

/-!
# Exact searches for runs

A search of `query_runs` that follows its cursors shows every matching run once, in the order in which
the runs were queued, on the ledgers whose queued runs can be loaded and whose matching runs can be
shown. On every other ledger it raises when it reaches such a run.

A generated run cannot be shown between the admission of its goal and that of its first plan:
`_kernel_plans` returns no plan for it, which `_kernel_plan` takes for a conflict.

## Main definitions

* `isMatch` : the event queued a run that matches.
* `IsExactSearch` : the pages of a search that shows every matching run once.
* `Searchable` : the ledgers that a search is exact on.

## Main results

* `queued_of_loadStored` : one event queues a run.
* `exact_search_iff` : searches are exact on these ledgers, and on no other ones.
-/

namespace Blackcell.Bootstrap

open Blackcell.Kernel
open Blackcell.Interfaces.Http hiding check check_eq_ok
open Blackcell.Orchestration Blackcell.Orchestration.RunLifecycle
open Blackcell.Orchestration.ExecutionRuntime (streamOf)

/-! ### Queued runs -/

section Queued

variable {H : Host} {D : Deployment} {L : Ledger} {runId : String} {stored : StoredRun}
  {e : EventEnvelope}

theorem isQueuedRun_iff : isQueuedRun e = true ↔
    runEventType? e = some .runQueued ∧ "run:".toList.isPrefixOf e.streamId.toList = true := by
  simp only [isQueuedRun, runEventType?, Bool.and_eq_true, decide_eq_true_eq]
  split
  · rename_i hsource
    rw [StrEnum.ofValue?_eq_some, eq_comm (a := StrEnum.value RunEventType.runQueued)]
    exact ⟨fun h ↦ ⟨h.1.2, h.2⟩, fun h ↦ ⟨⟨hsource, h.1⟩, h.2⟩⟩
  · rename_i hsource
    simp [hsource]

/-- The stream of a queued run is that of its identifier. -/
theorem streamId_of_isQueuedRun (h : isQueuedRun e = true) : e.streamId = runStream (queuedRunId e) := by
  obtain ⟨rest, hrest⟩ := List.isPrefixOf_iff_prefix.mp (isQueuedRun_iff.mp h).2
  refine String.toList_injective ?_
  have hdrop : ("run:".toList ++ rest).drop 4 = rest := rfl
  rw [runStream, String.toList_append, queuedRunId, ← hrest, hdrop]
  exact congrArg _ String.toList_ofList.symm

theorem queuedRunId_eq_iff (h : isQueuedRun e = true) :
    queuedRunId e = runId ↔ e.streamId = runStream runId := by
  rw [streamId_of_isQueuedRun h]
  refine ⟨fun hid ↦ by rw [hid], fun hstream ↦ ExecutionRuntime.streamId_injective hstream⟩

/-- No event of an accepted history queues the run again. -/
theorem not_queued_of_foldEvent {deps : NodeDependencies} {s s' : FoldState}
    (h : foldEvent H runId deps s e = .ok s') : isQueuedRun e = false := by
  simp only [foldEvent, Checked.bind_eq_ok, present_eq_ok, check_eq_ok, Checked.exists_unit] at h
  obtain ⟨kind, hkind, -, -, hbranch⟩ := h
  rw [Bool.eq_false_iff]
  intro hqueued
  obtain rfl := Option.some.inj (hkind.symm.trans (isQueuedRun_iff.mp hqueued).1)
  simp [foldBranch] at hbranch

/-- **One event queues a run.** -/
theorem queued_of_foldRunLifecycle {deps : NodeDependencies} {events : List EventEnvelope}
    {state : RunLifecycleState} (h : foldRunLifecycle H runId deps events = .ok state) :
    events.filter isQueuedRun = [state.queuedEvent] := by
  have hstream := event_of_foldRunLifecycle h
  have hsplit : events.filter isQueuedRun = (events.filter isPublic).filter isQueuedRun := by
    rw [List.filter_filter]
    refine List.filter_congr fun e _ ↦ ?_
    rw [Bool.eq_iff_iff, Bool.and_eq_true]
    refine ⟨fun hqueued ↦ ⟨hqueued, ?_⟩, And.left⟩
    rw [isPublic, (isQueuedRun_iff.mp hqueued).1, Option.isSome_some]
  simp only [foldRunLifecycle, Checked.bind_eq_ok, Checked.exists_unit, check_eq_ok] at h
  obtain ⟨-, last, -, -, -, h⟩ := h
  cases hfilter : events.filter isPublic with
  | nil => simp [hfilter] at h
  | cons queued rest =>
    simp only [hfilter, Checked.bind_eq_ok, Checked.exists_unit, check_eq_ok,
      Checked.pure_eq_ok] at h
    obtain ⟨hqueued, -, -, -, s, hrun, -, rfl⟩ := h
    have hmem : queued ∈ events := (List.mem_filter.mp (hfilter ▸ List.mem_cons_self)).1
    have hfirst : isQueuedRun queued = true := by
      refine isQueuedRun_iff.mpr ⟨hqueued, ?_⟩
      rw [(hstream queued hmem).1, String.toList_append, List.isPrefixOf_iff_prefix]
      exact List.prefix_append _ _
    have hrest : rest.filter isQueuedRun = [] := by
      refine List.filter_eq_nil_iff.mpr fun x hx ↦ ?_
      obtain ⟨pre, post, rfl⟩ := List.append_of_mem hx
      obtain ⟨_, _, -, hstep, -⟩ := History.split hrun
      simp [not_queued_of_foldEvent hstep]
    rw [hsplit, hfilter, List.filter_cons_of_pos hfirst, hrest]
    rfl

theorem queued_of_loadStored (h : loadStored H D L runId = .ok stored) :
    (streamOf runId L).filter isQueuedRun = [stored.run.state.queuedEvent] := by
  obtain ⟨_, _, _, -, -, -, -, -, hdecode⟩ := loadStored_eq_ok.mp h
  obtain ⟨-, hrun, -⟩ := decodeStored_eq_ok hdecode
  obtain ⟨-, -, hfold, -⟩ := loadRun_eq_ok.mp hrun
  exact queued_of_foldRunLifecycle hfold

/-- The event that queued a loaded run is the one of the ledger. -/
theorem queuedEvent_iff (h : loadStored H D L runId = .ok stored) :
    e = stored.run.state.queuedEvent ↔ e ∈ L ∧ isQueuedRun e = true ∧ queuedRunId e = runId := by
  have hmem : e ∈ (streamOf runId L).filter isQueuedRun ↔ e = stored.run.state.queuedEvent := by
    rw [queued_of_loadStored h, List.mem_singleton]
  rw [← hmem, List.mem_filter, ExecutionRuntime.streamOf, Ledger.readStream, List.mem_filter,
    decide_eq_true_eq]
  constructor
  · rintro ⟨⟨he, hstream⟩, hqueued⟩
    exact ⟨he, hqueued, (queuedRunId_eq_iff hqueued).mpr hstream⟩
  · rintro ⟨he, hqueued, hid⟩
    exact ⟨⟨he, (queuedRunId_eq_iff hqueued).mp hid⟩, hqueued⟩

end Queued

/-! ### What a search shows -/

section Shown

variable (H : Host) (D : Deployment) (db : Database) (filter : RunFilter)

/-- The event queued a run that matches. -/
def isMatch (e : EventEnvelope) : Bool :=
  isQueuedRun e && (loadStored H D db.ledger (queuedRunId e)).toOption.any (matchesRunQuery filter)

/-- What identifies a run that is shown: its name, and the position of the event that queued it. -/
def RunQueryItem.key (item : RunQueryItem) : String × ℤ := (item.run.runId, item.queuedCursor)

/-- The same of the event that queued it. -/
def queuedKey (e : EventEnvelope) : String × ℤ := (queuedRunId e, position e)

/-- **Exact searches.** The pages behind the cursor 0 show every matching run once, in the order in
which the runs were queued; every page that is read while there is more advances, and the last one
reaches the end of the ledger. -/
structure IsExactSearch (pages : List (Pagination.Page RunQueryItem)) : Prop where
  walk : Pagination.Walk (queryPage H D db filter) 0 pages
  matching (runId : String) : runId ∈ (pages.flatMap (·.items)).map (·.run.runId) ↔
    ∃ stored, loadStored H D db.ledger runId = .ok stored ∧ matchesRunQuery filter stored = true
  once : ((pages.flatMap (·.items)).map (·.run.runId)).Nodup
  queued : ∀ item ∈ pages.flatMap (·.items), ∃ stored,
    loadStored H D db.ledger item.run.runId = .ok stored ∧
      stored.run.state.queuedEvent.globalPosition = some item.queuedCursor
  ordered : (pages.flatMap (·.items)).Pairwise fun a b ↦ a.queuedCursor < b.queuedCursor
  advances : ∀ cursor < db.ledger.length, ∀ p, queryPage H D db filter cursor = .ok p → cursor < p.next
  ends : ∀ cursor ≤ db.ledger.length, ∀ p, queryPage H D db filter cursor = .ok p →
    p.more = false → db.ledger.drop p.next = []

/-- Every queued run can be loaded, and shown when it matches. -/
def Searchable : Prop :=
  ∀ e ∈ db.ledger, isQueuedRun e = true →
    ∃ stored, loadStored H D db.ledger (queuedRunId e) = .ok stored ∧
      (matchesRunQuery filter stored = true → Presentable H stored)

variable {H D db filter} {e : EventEnvelope}

theorem exists_visit : (∃ b, visit H D db filter e = .ok b) ↔ (isQueuedRun e = true →
    ∃ stored, loadStored H D db.ledger (queuedRunId e) = .ok stored ∧
      (matchesRunQuery filter stored = true → Presentable H stored)) := by
  unfold visit
  split
  · rename_i hqueued
    simp only [hqueued, forall_const, Checked.bind_eq_ok, Checked.mapError_eq_ok]
    constructor
    · rintro ⟨b, stored, hload, h⟩
      refine ⟨stored, hload, fun hmatch ↦ ?_⟩
      simp only [hmatch, if_true, Checked.map_eq_ok] at h
      obtain ⟨item, hitem, -⟩ := h
      exact exists_runQueryItem.mp ⟨item, hitem⟩
    · rintro ⟨stored, hload, h⟩
      by_cases hmatch : matchesRunQuery filter stored = true
      · obtain ⟨item, hitem⟩ := exists_runQueryItem.mpr (h hmatch)
        exact ⟨some item, stored, hload, by simp [hmatch, hitem]⟩
      · exact ⟨none, stored, hload, by simp [hmatch]⟩
  · rename_i hqueued
    simp [hqueued]

/-- A stored event has its position. -/
theorem globalPosition_of_mem (hdb : IsStore H db) (he : e ∈ db.ledger) :
    e.globalPosition = some (position e) := by
  obtain ⟨i, hi, rfl⟩ := List.mem_iff_getElem.mp he
  rw [position, globalPosition_getElem hdb.represents.consistent hi]
  rfl

/-- What a visit shows of an event. -/
theorem key_of_visit {b : Option RunQueryItem} (he : e ∈ db.ledger)
    (h : visit H D db filter e = .ok b) :
    b.map RunQueryItem.key = (Option.guard (isMatch H D db filter) e).map queuedKey := by
  unfold visit at h
  split at h
  · rename_i hqueued
    simp only [Checked.bind_eq_ok, Checked.mapError_eq_ok] at h
    obtain ⟨stored, hload, h⟩ := h
    have hmatch : isMatch H D db filter e = matchesRunQuery filter stored := by
      rw [isMatch, hqueued, hload, Bool.true_and]
      rfl
    split at h
    · rename_i hmatches
      obtain ⟨item, hitem, rfl⟩ := Checked.map_eq_ok.mp h
      obtain ⟨hid, -, hcursor⟩ := runQueryItem_spec hitem
      have hevent := (queuedEvent_iff hload).mpr ⟨he, hqueued, rfl⟩
      rw [← hevent] at hcursor
      rw [Option.guard_pos (hmatch.trans hmatches), Option.map_some, Option.map_some, queuedKey,
        RunQueryItem.key, hid, loadStored_runId hload, position, hcursor]
      rfl
    · rename_i hmatches
      obtain rfl : none = b := by simpa using h
      rw [Option.guard, if_neg (by simp [hmatch, hmatches])]
      rfl
  · rename_i hqueued
    obtain rfl : none = b := by simpa using h
    rw [Option.guard, if_neg (by simp [isMatch, hqueued])]
    rfl

/-- The runs that a walk shows. -/
theorem keys_of_walk {pages : List (Pagination.Page RunQueryItem)} (hdb : IsStore H db)
    (h : Pagination.Walk (queryPage H D db filter) 0 pages) :
    (pages.flatMap (·.items)).map RunQueryItem.key =
      (db.ledger.filter (isMatch H D db filter)).map queuedKey := by
  obtain ⟨hvisit, hitems⟩ := h.spec (fun _ _ hc hp ↦ isPage_queryRuns hdb hc hp) (Nat.zero_le _)
  rw [List.drop_zero] at hvisit hitems
  have hkeys : ∀ e ∈ db.ledger, (Pagination.shown (visit H D db filter) e).map RunQueryItem.key =
      (Option.guard (isMatch H D db filter) e).map queuedKey := by
    intro e he
    obtain ⟨b, hb⟩ := hvisit e he
    rw [Pagination.shown_of_ok hb]
    exact key_of_visit he hb
  rw [hitems, List.map_filterMap, List.filterMap_congr hkeys, ← List.map_filterMap,
    List.filterMap_eq_filter]

theorem toOption_eq_some {ε α : Type} {x : Except ε α} {a : α} :
    x.toOption = some a ↔ x = .ok a := by
  cases x <;> simp [Except.toOption]

/-- A run matches when it was queued by an event that matches. -/
theorem exists_match_iff {runId : String} :
    (∃ e ∈ db.ledger.filter (isMatch H D db filter), queuedRunId e = runId) ↔
      ∃ stored, loadStored H D db.ledger runId = .ok stored ∧ matchesRunQuery filter stored = true := by
  constructor
  · rintro ⟨e, he, rfl⟩
    obtain ⟨-, hmatch⟩ := List.mem_filter.mp he
    rw [isMatch, Bool.and_eq_true] at hmatch
    obtain ⟨stored, hload, hmatch⟩ := (Option.any_eq_true _ _).mp hmatch.2
    exact ⟨stored, toOption_eq_some.mp hload, hmatch⟩
  · rintro ⟨stored, hload, hmatch⟩
    obtain ⟨he, hqueued, hid⟩ := (queuedEvent_iff hload).mp rfl
    refine ⟨_, List.mem_filter.mpr ⟨he, ?_⟩, hid⟩
    rw [isMatch, hqueued, hid, hload]
    simpa [Except.toOption] using hmatch

/-- **Walks are exact searches.** -/
theorem isExactSearch_of_walk {pages : List (Pagination.Page RunQueryItem)} (hdb : IsStore H db)
    (h : Pagination.Walk (queryPage H D db filter) 0 pages) : IsExactSearch H D db filter pages := by
  have hkeys := keys_of_walk hdb h
  have hids : (pages.flatMap (·.items)).map (·.run.runId) =
      (db.ledger.filter (isMatch H D db filter)).map queuedRunId := by
    have := congrArg (List.map Prod.fst) hkeys
    rwa [List.map_map, List.map_map] at this
  have hcursors : (pages.flatMap (·.items)).map (·.queuedCursor) =
      (db.ledger.filter (isMatch H D db filter)).map position := by
    have := congrArg (List.map Prod.snd) hkeys
    rwa [List.map_map, List.map_map] at this
  have hordered : (db.ledger.filter (isMatch H D db filter)).Pairwise
      fun a b ↦ position a < position b :=
    (numbered hdb.represents.consistent).pairwise.sublist List.filter_sublist
  -- the runs of two events that match
  have hrun : ∀ e ∈ db.ledger.filter (isMatch H D db filter),
      ∃ stored, loadStored H D db.ledger (queuedRunId e) = .ok stored ∧
        e = stored.run.state.queuedEvent := by
    intro e he
    obtain ⟨stored, hload, -⟩ := exists_match_iff.mp ⟨e, he, rfl⟩
    obtain ⟨hmem, hmatch⟩ := List.mem_filter.mp he
    rw [isMatch, Bool.and_eq_true] at hmatch
    exact ⟨stored, hload, (queuedEvent_iff hload).mpr ⟨hmem, hmatch.1, rfl⟩⟩
  refine ⟨h, fun runId ↦ ?_, ?_, fun item hitem ↦ ?_, ?_, ?_, ?_⟩
  · rw [hids, List.mem_map, exists_match_iff]
  · rw [hids]
    refine List.Nodup.map_on (fun x hx y hy hid ↦ ?_)
      (hordered.imp fun {a b} (hlt : position a < position b) (heq : a = b) ↦
        absurd hlt (heq ▸ lt_irrefl _))
    obtain ⟨stored, hload, rfl⟩ := hrun x hx
    obtain ⟨stored', hload', rfl⟩ := hrun y hy
    rw [hid] at hload
    rw [Except.ok.inj (hload.symm.trans hload')]
  · have hkey : item.key ∈ (db.ledger.filter (isMatch H D db filter)).map queuedKey :=
      hkeys ▸ List.mem_map_of_mem hitem
    obtain ⟨e, he, hkey⟩ := List.mem_map.mp hkey
    obtain ⟨stored, hload, rfl⟩ := hrun e he
    obtain ⟨hid, hposition⟩ := Prod.mk.inj hkey
    refine ⟨stored, hid ▸ hload, ?_⟩
    rw [← hposition]
    exact globalPosition_of_mem hdb (List.mem_filter.mp he).1
  · rw [← List.pairwise_map (f := fun item : RunQueryItem ↦ item.queuedCursor), hcursors,
      List.pairwise_map]
    exact hordered
  · intro cursor hcursor p hp
    have hpage := isPage_queryRuns hdb (Nat.le_of_lt hcursor) hp
    cases hmore : p.more with
    | true => exact hpage.progress hmore
    | false => exact hpage.next_eq hmore ▸ hcursor
  · intro cursor hcursor p hp hmore
    rw [(isPage_queryRuns hdb hcursor hp).next_eq hmore, List.drop_length]

end Shown

/-- **Searches.** On every ledger, the search with a filter is exact exactly when every queued run can be
loaded, and shown when it matches. -/
theorem exact_search_iff (H : Host) (D : Deployment) (filter : RunFilter)
    (calls : List EventStore.Call) :
    (∃ pages, IsExactSearch H D (EventStore.after H Database.initial calls) filter pages) ↔
      Searchable H D (EventStore.after H Database.initial calls) filter := by
  have hdb := isStore_after H calls
  have hwalk : (∃ pages, Pagination.Walk (queryPage H D _ filter) 0 pages) ↔ _ :=
    Pagination.exists_walk_iff (fun _ _ hc hp ↦ isPage_queryRuns hdb hc hp)
      (fun _ ↦ exists_queryRuns hdb) (Nat.zero_le _)
  simp only [List.drop_zero, exists_visit] at hwalk
  exact ⟨fun ⟨pages, h⟩ ↦ hwalk.mp ⟨pages, h.walk⟩,
    fun h ↦ (hwalk.mpr h).imp fun _ ↦ isExactSearch_of_walk hdb⟩

/-! ### A run that has no plan yet

The sample run is queued for a generated execution, and its goal is admitted. -/

namespace Unplanned

open RunLifecycle.Sample OneNode
open Blackcell.Orchestration.ExecutionRuntime (gatewayBudgetPayload)

def planRequest : PlanRequest where
  planId := "plan-1"
  projectId := "project-1"
  intentId := "intent-1"
  baseCommit := build.baseCommit
  allowedEffects := [.repositoryRead, .repositoryWrite, .process]
  nodes := [Sample.buildNode]
  idempotencyKey := "plan-1"
  generated := true
  identifiers := OneNode.planRequest.identifiers
  isBase := OneNode.planRequest.isBase
  effects := OneNode.planRequest.effects
  validNodes := OneNode.planRequest.validNodes

def planValue : Mapping := OneNode.planValue.dropLast ++ [("planning_mode", .str "generated")]

def deployment : Deployment :=
  { OneNode.deployment with
    contracts := { OneNode.deployment.contracts with plan := codec planRequest planValue } }

def planHex : Hex := hexText 0x20c9a40011a57c5df7fb2f9d148dc0795ac3d99e4849326e615fd370ce4497ca

def planPayload : Mapping := admissionPayload planValue planHex
  [("project", reference "project-event" projectEventHex),
    ("intent", reference "intent-event" intentEventHex)]

def planEventHex : Hex := hexText 0x2549d606040fb0ce02796dffd07bd3178d463813942996196ed22f557d8e4b63

def runPayload : Mapping := admissionPayload request runHex
  [("project", reference "project-event" projectEventHex),
    ("intent", reference "intent-event" intentEventHex),
    ("plan", reference "plan-event" planEventHex)] ++ [("status", .str "queued")]

/-- The document of the identity of the goal. -/
def identity : Mapping := [("run_id", .str "run-1"), ("project_id", .str "project-1"),
  ("intent_id", .str "intent-1"), ("bounds_plan_id", .str "plan-1")]

def identityHex : Hex := hexText 0x0c5b93a85c47ec21e5484fb94a55a63d6b42e2e1481407623d56d2e1fc755795

def goal : Mapping := [("schema_version", .str "blackcell.goal/v2"),
  ("goal_id", .str "goal-0c5b93a85c47ec21e5484fb94a55a63d"), ("project_id", .str "project-1"),
  ("intent_id", .str "intent-1"), ("objective", .str "build it"),
  ("base_commit", .str build.baseCommit), ("constraints", .list []),
  ("allowed_paths", .list [.str "src"]),
  ("verification_checks", .list [.object [("check_id", .str "unit"), ("argv", .list [.str "pytest"]),
    ("expected_exit_code", .int 0)]]),
  ("max_attempts", .int 3), ("same_error_limit", .int 2)]

def goalHex : Hex := hexText 0xb44e6829df5f5cde5de9dd1a0e9571bcfde6d712132d525ad572c872fa7ecfe8

def goalEventPayload : Mapping := [("run_id", .str "run-1"),
  ("goal_id", .str "goal-0c5b93a85c47ec21e5484fb94a55a63d"), ("goal_digest", text goalHex),
  ("goal", .object goal), ("classification", .int 2), ("locality", .str "local-only"),
  ("budget", gatewayBudgetPayload ⟨1000, 1000, 60000, 0⟩)]

def goalEventHex : Hex := hexText 0x3ae8b77ec271cae9b0b9d9c304103ea3d16710a39a71b7faea58f0db6b1b5a59

/-- The event that admits the goal. -/
def goalAdmitted : EventEnvelope :=
  ⟨"goal-event", "run:run-1", 2, "execution.goal.admitted", 1, 1767225600000000, 1767225600000000,
    "run-1", some "queued", "worker-1", executionEventSource, goalEventPayload, some "goal-1", none⟩

/-- The document of the request that admits the goal. -/
def goalDocument : Mapping := [("actor", .str "worker-1"), ("causation_id", .str "queued"),
  ("correlation_id", .str "run-1"), ("effective_at", .str "2026-01-01T00:00:00+00:00"),
  ("event_type", .str "execution.goal.admitted"), ("payload_hash", text goalEventHex),
  ("schema_version", .int 1), ("source", .str executionEventSource), ("stream_id", .str "run:run-1")]

def goalDocumentHex : Hex :=
  hexText 0x4b8546c92f3551a9ff3155bd0ac7ddad28374c52dfe0b388c160f1679c681f33

/-- SHA-256 on these documents. -/
def host : Host := .ofTables
  ([(AdmissionCall.Sample.builtins projectRequest, projectHex), (intentValue, intentHex),
    (planValue, planHex), (request, runHex), (projectPayload, projectEventHex),
    (intentPayload, intentEventHex), (planPayload, planEventHex), (identity, identityHex),
    (goal, goalHex), (goalEventPayload, goalEventHex), (goalDocument, goalDocumentHex)].map
      fun (document, hex) ↦ ((JsonValue.object document).canonical, hex))
  [] [(1767225600000000, "2026-01-01T00:00:00+00:00")]

/-- The events, without their positions. -/
def events : List EventEnvelope := [
  admission "project-event" "project:project-1" projectRegistered projectPayload,
  admission "intent-event" "intent:intent-1" intentAccepted intentPayload,
  admission "plan-event" "plan:plan-1" planAccepted planPayload,
  admission "queued" "run:run-1" (StrEnum.value RunEventType.runQueued) runPayload, goalAdmitted]

/-- The calls of the store that append them. -/
def calls : List EventStore.Call := events.map fun e ↦ .append e (e.streamSequence - 1)

def database : Database := EventStore.after host Database.initial calls

/-- The database before the goal is admitted. -/
def queuedDatabase : Database := EventStore.after host Database.initial (calls.take 4)

/-- The events with their positions. -/
def ledger : Ledger := events.zipIdx.map fun (e, i) ↦ { e with globalPosition := some (i + 1 : ℕ) }

theorem ledger_eq : database.ledger = ledger := by
  decide +kernel

example : ledger.length = 5 := by decide +kernel

/-- Each event is a step of the system. -/
theorem ledger_step (n : ℕ) (hn : n < 5) :
    LedgerStep host deployment (ledger.take n) (ledger.take (n + 1)) := by
  have hadmission : ∀ id, IsAdmissionStream (projectStream id) ∧ IsAdmissionStream (intentStream id) ∧
      IsAdmissionStream (planStream id) :=
    fun id ↦ ⟨⟨id, .inl rfl⟩, ⟨id, .inr (.inl rfl)⟩, ⟨id, .inr (.inr rfl)⟩⟩
  interval_cases n
  · exact .admitted _ (hadmission "project-1").1 rfl
  · exact .admitted _ (hadmission "intent-1").2.1 (by decide +kernel)
  · exact .admitted _ (hadmission "plan-1").2.2 (by decide +kernel)
  · exact .run "run-1" _ (by decide +kernel) (.queued _ (by decide +kernel) (by decide +kernel))
  · obtain ⟨after, hafter⟩ := Checked.exists_of_isOk (x := ExecutionRuntime.apply host none
      { goalAdmitted with globalPosition := some 5 }) (by decide +kernel)
    exact .run "run-1" [{ goalAdmitted with globalPosition := some 5 }] (by decide +kernel)
      (.journal _ .goalAdmitted none after (by decide +kernel) (fun _ ↦ by decide +kernel)
        (by decide +kernel) hafter)

theorem reachable (n : ℕ) (hn : n ≤ 5) : Later host deployment [] (ledger.take n) := by
  induction n with
  | zero => exact .refl
  | succ n ih => exact (ih (Nat.le_of_succ_le hn)).tail (ledger_step n hn)

/-- The filter that every run passes. -/
def all : RunFilter := ⟨[], [], [], [], [], 50, by decide⟩

/-- The run can be loaded and matches, but its visit raises. -/
theorem visited : (loadStored host deployment database.ledger "run-1").toOption.any
      (matchesRunQuery all) = true ∧
    ∀ e ∈ database.ledger, isQueuedRun e = true →
      (visit host deployment database all e).isOk = false := by
  decide +kernel

theorem queued_mem : ∃ e ∈ database.ledger, isQueuedRun e = true := by
  decide +kernel

end Unplanned

/-- No search is exact while the goal of a generated run is admitted and no plan of it is. -/
theorem not_exact_search :
    Later Unplanned.host Unplanned.deployment [] Unplanned.database.ledger ∧
      ¬∃ pages, IsExactSearch Unplanned.host Unplanned.deployment Unplanned.database Unplanned.all
        pages := by
  refine ⟨Unplanned.ledger_eq ▸ Unplanned.reachable 5 le_rfl, ?_⟩
  rintro ⟨pages, h⟩
  obtain ⟨e, he, hqueued⟩ := Unplanned.queued_mem
  have hdb : IsStore Unplanned.host Unplanned.database := isStore_after _ Unplanned.calls
  obtain ⟨b, hb⟩ := (h.walk.spec (fun _ _ hc hp ↦ isPage_queryRuns hdb hc hp) (Nat.zero_le _)).1 e he
  have := Unplanned.visited.2 e he hqueued
  rw [hb] at this
  exact Bool.noConfusion this

end Blackcell.Bootstrap
