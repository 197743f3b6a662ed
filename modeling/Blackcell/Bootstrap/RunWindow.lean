import Blackcell.Bootstrap.RunSearch
import Blackcell.Foundation.Session
import Mathlib.Data.List.DropRight
import Mathlib.Data.Stream.Defs

/-!
# The window of the newest runs

`presentation_run_window` of `bootstrap/runtime_service.py` shows the newest runs of a snapshot. It reads
the position of the last event, walks back through the events of the type `run.queued` page by page, and
loads each selected run up to that position. Every read sees the tables as they are by then, while other
calls append to them.

The window is exact when each of the newest runs can be loaded and shown. As with searches, a generated
run that has no plan yet cannot be shown, and then the window raises.

## Main definitions

* `presentationRunWindow` : the window, over the tables that its reads see.
* `ServiceLater` : the ledgers that the service reaches.
* `IsExactWindow` : a window of the newest runs.
* `Displayable` : the snapshots whose newest runs can be shown.

## Main results

* `queuedScan_spec` : the walk finds the newest runs, and whether there are older ones.
* `loadRunThrough_spec` : a run is loaded as in the snapshot.
* `exact_window_iff` : windows are exact on these snapshots, and on no other ones.
-/

namespace Blackcell.Bootstrap

open Blackcell.Kernel
open Blackcell.Interfaces.Http hiding check check_eq_ok
open Blackcell.Orchestration Blackcell.Orchestration.RunLifecycle
open Blackcell.Orchestration.ExecutionRuntime (streamOf executionEventType?)

/-! ### Reads of a growing store -/

/-- A call, over the tables that its reads see in order. -/
abbrev Observing := Session (Stream' Database) QueryError

/-- One read of the tables. -/
def readNext {α : Type} (f : Database → Querying α) : Observing α :=
  fun seen ↦ (f seen.head).map fun a ↦ (a, seen.tail)

theorem readNext_eq_ok {α : Type} {f : Database → Querying α} {seen seen' : Stream' Database} {a : α} :
    readNext f seen = .ok (a, seen') ↔ f seen.head = .ok a ∧ seen' = seen.tail := by
  unfold readNext
  cases f seen.head <;> simp [Except.map, eq_comm]

/-- `current_position`. -/
def currentPosition (db : Database) : ℤ := (db.ledger.map position).max?.getD 0

/-- `read_type_descending`. -/
def readTypeDescending (db : Database) (eventType : String) (throughPosition limit : ℤ) :
    Except DatabaseError (List EventEnvelope) := do
  Checked.require (0 ≤ throughPosition ∧ 1 ≤ limit) (DatabaseError.store .value)
  Checked.require (isBound throughPosition ∧ isBound limit) DatabaseError.overflow
  return ((db.ledger.filter fun e ↦ e.eventType = eventType && position e ≤ throughPosition).reverse).take
    limit.toNat

/-- `read_stream`, up to a position. -/
def readStreamThrough (db : Database) (streamId : String) (throughPosition : ℤ) :
    Except DatabaseError (List EventEnvelope) := do
  Checked.require (0 ≤ throughPosition) (DatabaseError.store .value)
  Checked.require (isBound throughPosition) DatabaseError.overflow
  return (db.ledger.readStream streamId).filter fun e ↦ position e ≤ throughPosition

/-! ### The window -/

/-- `RunSurfaceWindow`. -/
structure RunSurfaceWindow where
  limit : ℕ
  scannedEvents : ℕ
  runs : List RunQueryItem
  eventCursor : ℤ
  hasOlderRuns : Bool

/-- What the constructor of `RunSurfaceWindow` demands. -/
def RunSurfaceWindow.IsWindow (w : RunSurfaceWindow) : Prop :=
  (1 ≤ w.limit ∧ w.limit ≤ maxRunQueryPageSize) ∧ w.scannedEvents ≤ maxRunQueryScanEvents ∧
    (0 ≤ w.eventCursor ∧ w.eventCursor ≤ 2 ^ 63 - 1) ∧ w.runs.length ≤ w.limit

instance (w : RunSurfaceWindow) : Decidable w.IsWindow := inferInstanceAs (Decidable (_ ∧ _ ∧ _ ∧ _))

/-- The local variables of the loops of `presentation_run_window`. -/
structure WindowScan where
  throughPosition : ℤ
  scannedEvents : ℕ
  exhausted : Bool
  queuedEvents : List EventEnvelope

/-- The event is one of the runtime on the stream of a run. -/
def isRunEvent (e : EventEnvelope) : Bool :=
  e.source = runtimeEventSource && "run:".toList.isPrefixOf e.streamId.toList

section Window

variable (H : Host) (D : Deployment) (limit : ℕ)

/-- The inner loop of `presentation_run_window`. -/
def collectQueued : List EventEnvelope → WindowScan → WindowScan
  | [], s => s
  | e :: es, s =>
    let s := { s with scannedEvents := s.scannedEvents + 1 }
    if isRunEvent e then
      let s := { s with queuedEvents := s.queuedEvents ++ [e] }
      if limit < s.queuedEvents.length then s else collectQueued es s
    else collectQueued es s

/-- The walk is at its end. -/
def WindowScan.isDone (s : WindowScan) : Bool :=
  s.exhausted || maxRunQueryScanEvents ≤ s.scannedEvents || limit < s.queuedEvents.length

/-- The number of events that are read next. -/
def WindowScan.pageLimit (s : WindowScan) : ℕ := min scanBatch (maxRunQueryScanEvents - s.scannedEvents)

/-- What a page leaves of the variables. -/
def WindowScan.afterPage (s : WindowScan) (page : List EventEnvelope) : Querying WindowScan :=
  match page.getLast? with
  | none => .ok { s with exhausted := true }
  | some last => do
    let oldest ← (globalPosition last).mapError QueryError.api
    return { collectQueued limit page s with
      exhausted := page.length < s.pageLimit || oldest = 1
      throughPosition := oldest - 1 }

/-- The outer loop of `presentation_run_window`, for at most a number of rounds. -/
def queuedLoop : ℕ → WindowScan → Observing WindowScan
  | 0, s => pure s
  | rounds + 1, s =>
    if s.isDone limit then pure s
    else do
      let page ← readNext fun db ↦ (readTypeDescending db (StrEnum.value RunEventType.runQueued)
        s.throughPosition s.pageLimit).mapError QueryError.database
      let s' ← Session.check (s.afterPage limit page)
      queuedLoop rounds s'

/-- A step of the loading of a run. -/
def loading {α : Type} (x : Candidacy α) : Observing α := Session.check (x.mapError QueryError.candidate)

/-- One of the three reads of admission events. -/
def readAdmission (streamId eventType : String) : Observing EventEnvelope :=
  readNext fun db ↦ (ofApi (requiredFrom db.ledger streamId eventType)).mapError QueryError.candidate

/-- The first event of a run and its request. -/
def queuedRequest (runId : String) (events : List EventEnvelope) :
    Candidacy (EventEnvelope × RunRequest) := do
  let queued ← Checked.ofOption events.head? (CandidateError.api .notFound)
  agree (queued.eventType = StrEnum.value RunEventType.runQueued)
  let request ← ofApi (decodeRequest H D.contracts.run queued)
  agree (request.runId = runId)
  return (queued, request)

/-- `_load_run`, up to a position. -/
def loadRunThrough (runId : String) (throughPosition : ℤ) : Observing StoredRun := do
  let events ← readNext fun db ↦
    (readStreamThrough db (runStream runId) throughPosition).mapError QueryError.database
  let (queued, request) ← loading (queuedRequest H D runId events)
  let project ← readAdmission (projectStream request.projectId) projectRegistered
  let intent ← readAdmission (intentStream request.intentId) intentAccepted
  let plan ← readAdmission (planStream request.planId) planAccepted
  loading (decodeStored H D runId events queued request ⟨project, intent, plan⟩)

/-- What is shown of a selected event. -/
def showQueued (throughPosition : ℤ) (e : EventEnvelope) : Observing RunQueryItem := do
  let stored ← loadRunThrough H D (queuedRunId e) throughPosition
  Session.check (runQueryItem H stored)

/-- The scan of `presentation_run_window`. -/
def queuedScan (eventCursor : ℤ) : Observing WindowScan :=
  queuedLoop limit maxRunQueryScanEvents ⟨eventCursor, 0, eventCursor = 0, []⟩

/-- `presentation_run_window`. Each round of its loop scans an event, so that the rounds suffice. -/
def presentationRunWindow : Observing RunSurfaceWindow := do
  Session.check (Checked.require (1 ≤ limit ∧ limit ≤ maxRunQueryPageSize)
    (QueryError.api .invalidRequest))
  let eventCursor ← readNext fun db ↦ .ok (currentPosition db)
  let s ← queuedScan limit eventCursor
  let runs ← (s.queuedEvents.take limit).reverse.mapM (showQueued H D eventCursor)
  let w : RunSurfaceWindow := ⟨limit, s.scannedEvents, runs, eventCursor,
    limit < s.queuedEvents.length || !s.exhausted⟩
  Session.check (wire w.IsWindow)
  return w

end Window

/-! ### The ledgers that the service reaches -/

section Service

variable (H : Host) (D : Deployment)

/-- A step of the service. Of the events that are not of a run none has the type `run.queued`, which
`_record_run_queued` alone writes. -/
structure ServiceStep (L L' : Ledger) : Prop where
  step : LedgerStep H D L L'
  foreign : ∀ e ∈ L', e ∉ L → (∀ runId, e.streamId ≠ runStream runId) →
    e.eventType ≠ StrEnum.value RunEventType.runQueued

/-- The second ledger is a later one. -/
abbrev ServiceLater : Ledger → Ledger → Prop := Relation.ReflTransGen (ServiceStep H D)

variable {H D} {L L' : Ledger} {events : List EventEnvelope} {runId : String} {e : EventEnvelope}

/-- The events of the type `run.queued` are those that queue a run. -/
def OnlyQueued (L : Ledger) : Prop :=
  ∀ e ∈ L, e.eventType = StrEnum.value RunEventType.runQueued → isQueuedRun e = true

theorem isPrefixOf_runStream (runId : String) :
    "run:".toList.isPrefixOf (runStream runId).toList = true := by
  rw [runStream, String.toList_append, List.isPrefixOf_iff_prefix]
  exact List.prefix_append _ _

/-- A known event of a run that has the type queues the run. -/
theorem isQueuedRun_of_known (hstream : e.streamId = runStream runId) (hknown : isKnown e = true)
    (htype : e.eventType = StrEnum.value RunEventType.runQueued) : isQueuedRun e = true := by
  have hexecution : isExecution e = false := by
    rw [isExecution, htype, Bool.and_eq_false_iff]
    exact .inr (by decide)
  have hpublic : isPublic e = true := by simpa [isKnown, hexecution] using hknown
  obtain ⟨kind, hkind⟩ := Option.isSome_iff_exists.mp hpublic
  have hvalue := StrEnum.value_injective ((eventType_of_kind hkind).symm.trans htype)
  exact isQueuedRun_iff.mpr ⟨hvalue ▸ hkind, hstream ▸ isPrefixOf_runStream runId⟩

/-- What a run appends of the type queues the run. -/
theorem RunGrowth.queued_of_type (h : RunGrowth H D L runId events) (he : e ∈ events)
    (hstream : e.streamId = runStream runId)
    (htype : e.eventType = StrEnum.value RunEventType.runQueued) : isQueuedRun e = true := by
  cases h with
  | queued x hempty hkind =>
    obtain rfl := List.mem_singleton.mp he
    exact isQueuedRun_iff.mpr ⟨hkind, hstream ▸ isPrefixOf_runStream runId⟩
  | transitions seen stored _ hseen hcurrent hload hpermits hpublic hclaim hfold =>
    obtain ⟨state, hfold⟩ := hfold
    exact isQueuedRun_of_known hstream
      (event_of_foldRunLifecycle hfold e (List.mem_append_right _ he)).2 htype
  | journal x type before after hexecution =>
    obtain rfl := List.mem_singleton.mp he
    rw [executionEventType?] at hexecution
    split at hexecution
    · have hvalue := (StrEnum.ofValue?_eq_some.mp hexecution).trans htype
      exact absurd hvalue (by cases type <;> decide)
    · exact absurd hexecution (by simp)

theorem ServiceStep.onlyQueued (h : ServiceStep H D L L') (hL : OnlyQueued L) : OnlyQueued L' := by
  intro e he htype
  by_cases hold : e ∈ L
  · exact hL e hold htype
  · have hrun : ∃ runId, e.streamId = runStream runId := by
      by_contra hnone
      exact h.foreign e he hold (fun runId heq ↦ hnone ⟨runId, heq⟩) htype
    obtain ⟨runId, hstream⟩ := hrun
    have hmem : e ∈ streamOf runId L' :=
      List.mem_filter.mpr ⟨he, by simpa [runStream] using hstream⟩
    rcases h.step.run_stream runId with hsame | ⟨events, hL', hevents, hgrowth⟩
    · exact absurd (List.mem_filter.mp (hsame ▸ hmem)).1 hold
    · rcases List.mem_append.mp (hL' ▸ hmem) with hmem | hmem
      · exact absurd (List.mem_filter.mp hmem).1 hold
      · exact hgrowth.queued_of_type hmem hstream htype

theorem ServiceLater.onlyQueued (h : ServiceLater H D [] L) : OnlyQueued L := by
  induction h with
  | refl => exact fun _ he ↦ absurd he List.not_mem_nil
  | tail _ hstep ih => exact hstep.onlyQueued ih

/-- A later ledger begins with the earlier one. -/
theorem Later.begins (h : Later H D L L') : L <+: L' := by
  induction h with
  | refl => exact List.prefix_refl _
  | tail _ hstep ih =>
    rcases hstep.appended with rfl | ⟨events, _, rfl, -⟩
    · exact ih
    · exact ih.trans (List.prefix_append _ _)

/-- What was admitted is read in every later ledger. -/
theorem Later.requiredFrom (h : Later H D L L') {streamId eventType : String}
    (hadmission : IsAdmissionStream streamId)
    (hread : Bootstrap.requiredFrom L streamId eventType = .ok e) :
    Bootstrap.requiredFrom L' streamId eventType = .ok e := by
  induction h with
  | refl => exact hread
  | tail _ hstep ih =>
    exact requiredFrom_congr ih (hstep.admission hadmission (by simp [requiredFrom_eq_ok ih]))

end Service

/-! ### The walk -/

section Walk

variable {H : Host} {D : Deployment} {db db' : Database} {limit : ℕ} {s : WindowScan}
  {page : List EventEnvelope} {seen : Stream' Database}

/-- The tables that the reads of a call see after a snapshot. -/
def Follows (H : Host) (D : Deployment) (db : Database) (seen : Stream' Database) : Prop :=
  ∀ n, IsStore H (seen.get n) ∧ Later H D db.ledger (seen.get n).ledger

theorem follows_const (hdb : IsStore H db) : Follows H D db (Stream'.const db) :=
  fun _ ↦ ⟨hdb, .refl⟩

theorem Follows.tail (h : Follows H D db seen) : Follows H D db seen.tail := fun n ↦ h (n + 1)

/-- The events that queued the runs of a snapshot. -/
def queuedEvents (db : Database) : List EventEnvelope := db.ledger.filter isQueuedRun

theorem currentPosition_eq (hdb : IsStore H db) : currentPosition db = db.ledger.length := by
  have hnumbered := numbered hdb.represents.consistent
  rcases Nat.eq_zero_or_pos db.ledger.length with hzero | hpos
  · rw [currentPosition, List.length_eq_zero_iff.mp hzero]
    rfl
  · have hmax : (db.ledger.map position).max? = some (db.ledger.length : ℤ) := by
      refine List.max?_eq_some_iff.mpr ⟨List.mem_map.mpr ⟨_, List.getElem_mem
        (Nat.sub_lt hpos Nat.one_pos), ?_⟩, fun b hb ↦ ?_⟩
      · rw [hnumbered]
        omega
      · obtain ⟨e, he, rfl⟩ := List.mem_map.mp hb
        obtain ⟨i, hi, rfl⟩ := List.mem_iff_getElem.mp he
        rw [hnumbered]
        omega
    rw [currentPosition, hmax, Option.getD_some]

/-- The events up to the position of a snapshot are those of the snapshot. -/
theorem filter_snapshot (hdb' : IsStore H db') (hlater : Later H D db.ledger db'.ledger) :
    (db'.ledger.filter fun e ↦ position e ≤ (db.ledger.length : ℤ)) = db.ledger := by
  rw [(numbered hdb'.represents.consistent).filter_upTo]
  exact (List.prefix_iff_eq_take.mp hlater.begins).symm

/-- A page of the walk. -/
theorem readTypeDescending_snapshot (honly : OnlyQueued db.ledger) (hdb' : IsStore H db')
    (hlater : Later H D db.ledger db'.ledger) {n : ℕ} (hpos : 1 ≤ n) (hn : n ≤ scanBatch) :
    readTypeDescending db' (StrEnum.value RunEventType.runQueued) db.ledger.length n =
      .ok ((queuedEvents db).reverse.take n) := by
  have hlength : db.ledger.length < 2 ^ 63 :=
    Nat.lt_of_le_of_lt hlater.begins.length_le hdb'.length_lt
  have hbounds : isBound (db.ledger.length : ℤ) ∧ isBound (n : ℤ) := by
    unfold scanBatch at hn
    simp only [isBound, decide_eq_true_eq]
    omega
  have hqueued : (db'.ledger.filter fun e ↦ e.eventType = StrEnum.value RunEventType.runQueued &&
      position e ≤ (db.ledger.length : ℤ)) = queuedEvents db := by
    rw [← List.filter_filter, filter_snapshot hdb' hlater]
    refine List.filter_congr fun e he ↦ ?_
    rw [Bool.eq_iff_iff, decide_eq_true_eq]
    exact ⟨honly e he, fun h ↦ eventType_of_kind (isQueuedRun_iff.mp h).1⟩
  rw [readTypeDescending, Checked.require_bind_of_true ⟨Int.natCast_nonneg _, by omega⟩,
    Checked.require_bind_of_true hbounds, hqueued]
  rfl

/-- **The inner loop.** It stops behind the first event beyond the limit. -/
theorem collectQueued_spec (hpage : ∀ e ∈ page, isRunEvent e = true)
    (hs : s.queuedEvents.length ≤ limit) :
    (collectQueued limit page s).queuedEvents =
        s.queuedEvents ++ page.take (limit + 1 - s.queuedEvents.length) ∧
      (collectQueued limit page s).scannedEvents ≤ s.scannedEvents + page.length := by
  induction page generalizing s with
  | nil => simp [collectQueued]
  | cons e es ih =>
    obtain ⟨he, hes⟩ := List.forall_mem_cons.mp hpage
    rw [collectQueued]
    simp only [he, if_true, List.length_append, List.length_singleton]
    have hsucc : limit + 1 - s.queuedEvents.length = (limit - s.queuedEvents.length) + 1 := by omega
    rw [hsucc, List.take_succ_cons, List.length_cons]
    split
    · rename_i hfull
      have hzero : limit - s.queuedEvents.length = 0 := by omega
      rw [hzero, List.take_zero]
      exact ⟨rfl, by dsimp only; omega⟩
    · rename_i hroom
      obtain ⟨hqueued, hscanned⟩ := ih (s := { s with
        scannedEvents := s.scannedEvents + 1, queuedEvents := s.queuedEvents ++ [e] }) hes
        (by simpa using hroom)
      refine ⟨?_, by dsimp only at hscanned; omega⟩
      rw [hqueued]
      simp [List.append_assoc]

theorem queuedLoop_of_isDone {rounds : ℕ} (h : s.isDone limit = true) :
    queuedLoop limit rounds s seen = .ok (s, seen) := by
  cases rounds with
  | zero => rfl
  | succ rounds =>
    rw [queuedLoop, if_pos h]
    rfl

/-- What the walk has found. -/
structure Found (db : Database) (limit : ℕ) (s : WindowScan) : Prop where
  queued : s.queuedEvents = (queuedEvents db).reverse.take (limit + 1)
  exhausted : (queuedEvents db).length ≤ limit → s.exhausted = true
  scanned : s.scannedEvents ≤ maxRunQueryScanEvents

/-- **The first page.** A page is longer than a window, so that one page suffices. -/
theorem found_afterPage (hdb : IsStore H db) (hlimit : limit ≤ maxRunQueryPageSize)
    (hpage : page = (queuedEvents db).reverse.take scanBatch) (hs : s.queuedEvents = [])
    (hscanned : s.scannedEvents = 0) :
    ∃ s', s.afterPage limit page = .ok s' ∧ Found db limit s' ∧ s'.isDone limit = true := by
  have hbatch : s.pageLimit = scanBatch := by
    rw [WindowScan.pageLimit, hscanned]
    rfl
  have hlength : page.length = min scanBatch (queuedEvents db).length := by
    rw [hpage, List.length_take, List.length_reverse]
  have hroom : limit + 1 ≤ scanBatch := by
    unfold maxRunQueryPageSize at hlimit
    unfold scanBatch
    omega
  have hevents : ∀ e ∈ page, isRunEvent e = true ∧ e ∈ db.ledger := by
    intro e he
    obtain ⟨hmem, hqueued⟩ := List.mem_filter.mp
      (List.mem_reverse.mp (List.mem_of_mem_take (hpage ▸ he)))
    refine ⟨?_, hmem⟩
    simp only [isQueuedRun, Bool.and_eq_true] at hqueued
    rw [isRunEvent, Bool.and_eq_true]
    exact ⟨hqueued.1.1, hqueued.2⟩
  unfold WindowScan.afterPage
  cases hlast : page.getLast? with
  | none =>
    have hnil := List.getLast?_eq_none_iff.mp hlast
    have hnone : queuedEvents db = [] := by
      rw [hnil, List.length_nil] at hlength
      refine List.length_eq_zero_iff.mp ?_
      omega
    refine ⟨_, rfl, ⟨?_, fun _ ↦ rfl, ?_⟩, rfl⟩
    · rw [hnone]
      exact hs
    · exact hscanned ▸ Nat.zero_le _
  | some last =>
    have hmem := List.mem_of_getLast? hlast
    have hposition := globalPosition_of_mem hdb (hevents last hmem).2
    have hfew : s.queuedEvents.length ≤ limit := by
      rw [hs]
      exact Nat.zero_le _
    obtain ⟨hqueued, hcount⟩ := collectQueued_spec (fun e he ↦ (hevents e he).1) hfew
    have htake : (collectQueued limit page s).queuedEvents =
        (queuedEvents db).reverse.take (limit + 1) := by
      rw [hqueued, hs, List.nil_append, List.length_nil, Nat.sub_zero, hpage, List.take_take,
        Nat.min_eq_left hroom]
    simp only [globalPosition_eq_ok.mpr hposition, Except.mapError, Checked.ok_bind]
    refine ⟨_, rfl, ⟨htake, fun hfew ↦ ?_, ?_⟩, ?_⟩
    · have hshort : page.length < s.pageLimit := by omega
      simp [hshort]
    · have hmax : scanBatch ≤ maxRunQueryScanEvents := by decide
      dsimp only
      omega
    · simp only [WindowScan.isDone, htake, List.length_take, List.length_reverse, Bool.or_eq_true,
        decide_eq_true_eq]
      by_cases hfew : (queuedEvents db).length ≤ limit
      · exact .inl (.inl (.inl (by omega)))
      · exact .inr (by omega)

/-- **The walk.** It finds the newest runs of the snapshot, and whether there are older ones. -/
theorem queuedScan_spec (hdb : IsStore H db) (honly : OnlyQueued db.ledger)
    (hlimit : limit ≤ maxRunQueryPageSize) (hseen : Follows H D db seen) :
    ∃ s seen', queuedScan limit db.ledger.length seen = .ok (s, seen') ∧ Found db limit s ∧
      (seen' = seen ∨ seen' = seen.tail) := by
  have hrounds : maxRunQueryScanEvents = 998 + 1 + 1 := rfl
  rw [queuedScan, hrounds]
  by_cases hempty : db.ledger = []
  · have hnone : queuedEvents db = [] := by
      rw [queuedEvents, hempty]
      rfl
    refine ⟨_, seen, queuedLoop_of_isDone (by simp [WindowScan.isDone, hempty]), ⟨?_, ?_, ?_⟩,
      .inl rfl⟩
    · rw [hnone]
      rfl
    · simp [hempty]
    · exact Nat.zero_le _
  · set s : WindowScan := ⟨db.ledger.length, 0, (db.ledger.length : ℤ) = 0, []⟩ with hs
    have hlimit' : s.pageLimit = scanBatch := rfl
    have hpage := readTypeDescending_snapshot honly (hseen 0).1 (hseen 0).2
      (n := scanBatch) (by decide) le_rfl
    obtain ⟨s', hafter, hfound, hdone'⟩ := found_afterPage (s := s) hdb hlimit rfl rfl rfl
    have hopen : ¬s.isDone limit = true := by
      simp [hs, WindowScan.isDone, hempty, maxRunQueryScanEvents]
    refine ⟨s', seen.tail, ?_, hfound, .inr rfl⟩
    rw [queuedLoop, if_neg hopen]
    have hread : (readTypeDescending seen.head (StrEnum.value RunEventType.runQueued)
        s.throughPosition s.pageLimit).mapError QueryError.database =
          .ok ((queuedEvents db).reverse.take scanBatch) := by
      rw [hlimit', hpage]
      rfl
    refine Session.bind_eq_ok.mpr ⟨_, _, readNext_eq_ok.mpr ⟨hread, rfl⟩, ?_⟩
    refine Session.bind_eq_ok.mpr ⟨_, _, Session.check_eq_ok.mpr ⟨hafter, rfl⟩, ?_⟩
    exact queuedLoop_of_isDone hdone'

end Walk

/-! ### The runs of a window -/

section Loading

variable {H : Host} {D : Deployment} {db : Database} {seen seen' : Stream' Database} {runId : String}
  {stored : StoredRun} {e : EventEnvelope} {item : RunQueryItem}

theorem loading_eq_ok {α : Type} {x : Candidacy α} {a : α} :
    loading x seen = .ok (a, seen') ↔ x = .ok a ∧ seen' = seen := by
  rw [loading, Session.check_eq_ok, Checked.mapError_eq_ok]

theorem readAdmission_eq_ok {streamId eventType : String} :
    readAdmission streamId eventType seen = .ok (e, seen') ↔
      requiredFrom seen.head.ledger streamId eventType = .ok e ∧ seen' = seen.tail := by
  rw [readAdmission, readNext_eq_ok, Checked.mapError_eq_ok, ofApi_eq_ok]

theorem queuedRequest_eq_ok {events : List EventEnvelope} {queued : EventEnvelope}
    {request : RunRequest} : queuedRequest H D runId events = .ok (queued, request) ↔
      events.head? = some queued ∧ queued.eventType = StrEnum.value RunEventType.runQueued ∧
        decodeRequest H D.contracts.run queued = .ok request ∧ request.runId = runId := by
  simp only [queuedRequest, Checked.bind_eq_ok, Checked.ofOption_eq_ok, agree_eq_ok,
    Checked.exists_unit, ofApi_eq_ok, Checked.pure_eq_ok, Prod.mk.injEq]
  constructor
  · rintro ⟨_, hhead, htype, _, hrequest, hname, rfl, rfl⟩
    exact ⟨hhead, htype, hrequest, hname⟩
  · rintro ⟨hhead, htype, hrequest, hname⟩
    exact ⟨_, hhead, htype, _, hrequest, hname, rfl, rfl⟩

/-- The steps of the loading of a run. -/
theorem loadRunThrough_eq_ok {throughPosition : ℤ} :
    loadRunThrough H D runId throughPosition seen = .ok (stored, seen') ↔
      ∃ events queued request admission,
        readStreamThrough (seen.get 0) (runStream runId) throughPosition = .ok events ∧
        queuedRequest H D runId events = .ok (queued, request) ∧
        requiredFrom (seen.get 1).ledger (projectStream request.projectId) projectRegistered =
          .ok admission.project ∧
        requiredFrom (seen.get 2).ledger (intentStream request.intentId) intentAccepted =
          .ok admission.intent ∧
        requiredFrom (seen.get 3).ledger (planStream request.planId) planAccepted =
          .ok admission.plan ∧
        decodeStored H D runId events queued request admission = .ok stored ∧
        seen' = seen.tail.tail.tail.tail := by
  simp only [loadRunThrough, Session.bind_eq_ok, readNext_eq_ok, loading_eq_ok, readAdmission_eq_ok,
    Checked.mapError_eq_ok, Prod.exists]
  constructor
  · rintro ⟨events, _, ⟨hevents, rfl⟩, queued, request, _, ⟨hrequest, rfl⟩, project, _, ⟨hproject, rfl⟩,
      intent, _, ⟨hintent, rfl⟩, plan, _, ⟨hplan, rfl⟩, hdecode, rfl⟩
    exact ⟨events, queued, request, ⟨project, intent, plan⟩, hevents, hrequest, hproject, hintent, hplan,
      hdecode, rfl⟩
  · rintro ⟨events, queued, request, admission, hevents, hrequest, hproject, hintent, hplan, hdecode, rfl⟩
    exact ⟨_, _, ⟨hevents, rfl⟩, _, _, _, ⟨hrequest, rfl⟩, _, _, ⟨hproject, rfl⟩, _, _, ⟨hintent, rfl⟩,
      _, _, ⟨hplan, rfl⟩, hdecode, rfl⟩

/-- The stream of a run up to the position of a snapshot is that of the snapshot. -/
theorem readStreamThrough_snapshot {db' : Database} (hdb' : IsStore H db')
    (hlater : Later H D db.ledger db'.ledger) :
    readStreamThrough db' (runStream runId) db.ledger.length = .ok (streamOf runId db.ledger) := by
  have hlength : db.ledger.length < 2 ^ 63 :=
    Nat.lt_of_le_of_lt hlater.begins.length_le hdb'.length_lt
  have hbound : isBound (db.ledger.length : ℤ) := by
    simp only [isBound, decide_eq_true_eq]
    omega
  have hstream : (db'.ledger.readStream (runStream runId)).filter
      (fun e ↦ position e ≤ (db.ledger.length : ℤ)) = streamOf runId db.ledger := by
    rw [Ledger.readStream, List.filter_comm, filter_snapshot hdb' hlater]
    rfl
  rw [readStreamThrough, Checked.require_bind_of_true (Int.natCast_nonneg _),
    Checked.require_bind_of_true hbound, hstream]
  rfl

/-- **Loading.** A run that the snapshot can load is loaded as in the snapshot, whatever was appended
since. -/
theorem loadRunThrough_of_snapshot (hseen : Follows H D db seen)
    (hload : loadStored H D db.ledger runId = .ok stored) :
    loadRunThrough H D runId db.ledger.length seen = .ok (stored, seen.tail.tail.tail.tail) := by
  obtain ⟨queued, request, admission, hhead, htype, hrequest, hname, hreads, hdecode⟩ :=
    loadStored_eq_ok.mp hload
  obtain ⟨hproject, hintent, hplan⟩ := admissionEvents_eq_ok.mp hreads
  refine loadRunThrough_eq_ok.mpr ⟨_, queued, request, admission,
    readStreamThrough_snapshot (hseen 0).1 (hseen 0).2,
    queuedRequest_eq_ok.mpr ⟨hhead, htype, hrequest, hname⟩, ?_, ?_, ?_, hdecode, rfl⟩
  · exact (hseen 1).2.requiredFrom ⟨_, .inl rfl⟩ hproject
  · exact (hseen 2).2.requiredFrom ⟨_, .inr (.inl rfl)⟩ hintent
  · exact (hseen 3).2.requiredFrom ⟨_, .inr (.inr rfl)⟩ hplan

/-- Without further appends, only such a run is loaded. -/
theorem loadStored_of_loadRunThrough (hdb : IsStore H db)
    (h : loadRunThrough H D runId db.ledger.length (Stream'.const db) = .ok (stored, seen')) :
    loadStored H D db.ledger runId = .ok stored ∧ seen' = Stream'.const db := by
  obtain ⟨events, queued, request, admission, hevents, hrequest, hproject, hintent, hplan, hdecode, rfl⟩ :=
    loadRunThrough_eq_ok.mp h
  obtain rfl : events = streamOf runId db.ledger :=
    Except.ok.inj (hevents.symm.trans (readStreamThrough_snapshot (D := D) hdb .refl))
  obtain ⟨hhead, htype, hrequest, hname⟩ := queuedRequest_eq_ok.mp hrequest
  refine ⟨loadStored_eq_ok.mpr ⟨queued, request, admission, hhead, htype, hrequest, hname, ?_, hdecode⟩,
    rfl⟩
  exact admissionEvents_eq_ok.mpr ⟨hproject, hintent, hplan⟩

/-- The run of an event of the snapshot, as it is shown. -/
def ShownAs (H : Host) (D : Deployment) (db : Database) (e : EventEnvelope) (item : RunQueryItem) :
    Prop :=
  ∃ stored, loadStored H D db.ledger (queuedRunId e) = .ok stored ∧ runQueryItem H stored = .ok item

/-- The run of an event of the snapshot can be loaded and shown. -/
def Displayed (H : Host) (D : Deployment) (db : Database) (e : EventEnvelope) : Prop :=
  ∃ stored, loadStored H D db.ledger (queuedRunId e) = .ok stored ∧ Presentable H stored

theorem displayed_iff : Displayed H D db e ↔ ∃ item, ShownAs H D db e item := by
  constructor
  · rintro ⟨stored, hload, hpresentable⟩
    obtain ⟨item, hitem⟩ := exists_runQueryItem.mpr hpresentable
    exact ⟨item, stored, hload, hitem⟩
  · rintro ⟨item, stored, hload, hitem⟩
    exact ⟨stored, hload, exists_runQueryItem.mp ⟨item, hitem⟩⟩

/-- The selected runs are shown as in the snapshot. -/
theorem exists_mapM_showQueued {events : List EventEnvelope} (hseen : Follows H D db seen)
    (hevents : ∀ e ∈ events, Displayed H D db e) :
    ∃ items seen', events.mapM (showQueued H D db.ledger.length) seen = .ok (items, seen') ∧
      List.Forall₂ (ShownAs H D db) events items := by
  induction events generalizing seen with
  | nil => exact ⟨[], seen, rfl, .nil⟩
  | cons e es ih =>
    obtain ⟨he, hes⟩ := List.forall_mem_cons.mp hevents
    obtain ⟨item, stored, hload, hitem⟩ := displayed_iff.mp he
    obtain ⟨items, seen', hitems, hshown⟩ := ih hseen.tail.tail.tail.tail hes
    refine ⟨item :: items, seen', ?_, .cons ⟨stored, hload, hitem⟩ hshown⟩
    have hshow : showQueued H D db.ledger.length e seen = .ok (item, seen.tail.tail.tail.tail) :=
      Session.bind_eq_ok.mpr ⟨_, _, loadRunThrough_of_snapshot hseen hload,
        Session.check_eq_ok.mpr ⟨hitem, rfl⟩⟩
    rw [List.mapM_cons, Session.bind_eq_ok]
    refine ⟨item, _, hshow, ?_⟩
    rw [Session.bind_eq_ok]
    refine ⟨items, seen', hitems, ?_⟩
    rw [Session.pure_eq_ok]
    exact ⟨rfl, rfl⟩

/-- Without further appends, every selected run can be loaded and shown. -/
theorem displayed_of_mapM {events : List EventEnvelope} {items : List RunQueryItem}
    (hdb : IsStore H db)
    (h : events.mapM (showQueued H D db.ledger.length) (Stream'.const db) = .ok (items, seen')) :
    ∀ e ∈ events, Displayed H D db e := by
  induction events generalizing items seen' with
  | nil => exact fun _ he ↦ absurd he List.not_mem_nil
  | cons e es ih =>
    rw [List.mapM_cons] at h
    obtain ⟨item, _, hshow, hrest⟩ := Session.bind_eq_ok.mp h
    obtain ⟨stored, _, hload, hitem⟩ := Session.bind_eq_ok.mp hshow
    obtain ⟨hstored, rfl⟩ := loadStored_of_loadRunThrough hdb hload
    obtain ⟨hpresented, rfl⟩ := Session.check_eq_ok.mp hitem
    obtain ⟨items, _, hitems, -⟩ := Session.bind_eq_ok.mp hrest
    have hshown : ShownAs H D db e item := ⟨stored, hstored, hpresented⟩
    exact List.forall_mem_cons.mpr ⟨displayed_iff.mpr ⟨item, hshown⟩, ih hitems⟩

end Loading

/-! ### Exact windows -/

section Exact

variable (H : Host) (D : Deployment) (db : Database) (limit : ℕ)

/-- The events that queued the newest runs, in order. -/
def newestQueued : List EventEnvelope := (queuedEvents db).rtake limit

/-- **Exact windows.** The window shows the newest runs of the snapshot in the order in which they were
queued, each as it is in the snapshot, and says whether there are older ones. -/
structure IsExactWindow (w : RunSurfaceWindow) : Prop where
  cursor : w.eventCursor = db.ledger.length
  runs : w.runs.map RunQueryItem.key = (newestQueued db limit).map queuedKey
  once : (w.runs.map (·.run.runId)).Nodup
  shown : List.Forall₂ (ShownAs H D db) (newestQueued db limit) w.runs
  older : w.hasOlderRuns = true ↔ limit < (queuedEvents db).length

/-- The newest runs of the snapshot can be loaded and shown. -/
def Displayable : Prop := ∀ e ∈ newestQueued db limit, Displayed H D db e

variable {H D db limit}

theorem newestQueued_sublist : (newestQueued db limit).Sublist (queuedEvents db) :=
  List.drop_sublist _ _

theorem Found.selected {s : WindowScan} (h : Found db limit s) :
    (s.queuedEvents.take limit).reverse = newestQueued db limit := by
  rw [h.queued, List.take_take, Nat.min_eq_left (Nat.le_succ limit), newestQueued,
    List.rtake_eq_reverse_take_reverse]

theorem Found.older {s : WindowScan} (h : Found db limit s) :
    (limit < s.queuedEvents.length || !s.exhausted) = decide (limit < (queuedEvents db).length) := by
  have hlength : s.queuedEvents.length = min (limit + 1) (queuedEvents db).length := by
    rw [h.queued, List.length_take, List.length_reverse]
  by_cases hfew : (queuedEvents db).length ≤ limit
  · have hshort : ¬limit < s.queuedEvents.length := by omega
    have hnone : ¬limit < (queuedEvents db).length := by omega
    simp [h.exhausted hfew, hshort, hnone]
  · have hfull : limit < s.queuedEvents.length := by omega
    have hsome : limit < (queuedEvents db).length := by omega
    simp [hfull, hsome]

/-- A run of the snapshot is shown under its name, and at the event that queued it. -/
theorem ShownAs.key {e : EventEnvelope} {item : RunQueryItem} (hdb : IsStore H db)
    (he : e ∈ queuedEvents db) (h : ShownAs H D db e item) : item.key = queuedKey e := by
  obtain ⟨stored, hload, hitem⟩ := h
  obtain ⟨hmem, hqueued⟩ := List.mem_filter.mp he
  obtain ⟨hid, -, hcursor⟩ := runQueryItem_spec hitem
  rw [← (queuedEvent_iff hload).mpr ⟨hmem, hqueued, rfl⟩, globalPosition_of_mem hdb hmem] at hcursor
  rw [RunQueryItem.key, queuedKey, hid, loadStored_runId hload, Option.some.inj hcursor]

/-- The newest runs of a snapshot that can be loaded have different names. -/
theorem nodup_newestQueued (hdb : IsStore H db) (h : Displayable H D db limit) :
    ((newestQueued db limit).map queuedRunId).Nodup := by
  have hordered := (numbered hdb.represents.consistent).pairwise.sublist
    ((newestQueued_sublist : (newestQueued db limit).Sublist _).trans List.filter_sublist)
  refine List.Nodup.map_on (fun x hx y hy hid ↦ ?_) (hordered.imp fun {a b}
    (hlt : position a < position b) (heq : a = b) ↦ absurd hlt (heq ▸ lt_irrefl _))
  have hevent : ∀ e ∈ newestQueued db limit, ∃ stored,
      loadStored H D db.ledger (queuedRunId e) = .ok stored ∧ e = stored.run.state.queuedEvent := by
    intro e he
    obtain ⟨stored, hload, -⟩ := h e he
    obtain ⟨hmem, hqueued⟩ := List.mem_filter.mp (newestQueued_sublist.mem he)
    exact ⟨stored, hload, (queuedEvent_iff hload).mpr ⟨hmem, hqueued, rfl⟩⟩
  obtain ⟨stored, hload, rfl⟩ := hevent x hx
  obtain ⟨stored', hload', rfl⟩ := hevent y hy
  rw [hid] at hload
  rw [Except.ok.inj (hload.symm.trans hload')]

theorem map_eq_of_forall₂ {α β γ : Type} {R : α → β → Prop} {f : α → γ} {g : β → γ} {as : List α}
    {bs : List β} (h : List.Forall₂ R as bs) (hfg : ∀ a ∈ as, ∀ b, R a b → f a = g b) :
    as.map f = bs.map g := by
  induction h with
  | nil => rfl
  | cons hab _ ih =>
    obtain ⟨ha, has⟩ := List.forall_mem_cons.mp hfg
    rw [List.map_cons, List.map_cons, ha _ hab, ih has]

/-- **Windows.** They are exact, whatever is appended meanwhile, when the newest runs can be shown. -/
theorem exists_exactWindow {seen : Stream' Database} (hdb : IsStore H db)
    (honly : OnlyQueued db.ledger) (hlimit : 1 ≤ limit ∧ limit ≤ maxRunQueryPageSize)
    (h : Displayable H D db limit) (hseen : Follows H D db seen) :
    ∃ w seen', presentationRunWindow H D limit (seen.cons db) = .ok (w, seen') ∧
      IsExactWindow H D db limit w := by
  obtain ⟨s, seen₁, hscan, hfound, hreads⟩ := queuedScan_spec hdb honly hlimit.2 hseen
  have hseen₁ : Follows H D db seen₁ := by
    rcases hreads with rfl | rfl
    · exact hseen
    · exact hseen.tail
  obtain ⟨items, seen₂, hitems, hshown⟩ := exists_mapM_showQueued hseen₁ h
  have hkeys : items.map RunQueryItem.key = (newestQueued db limit).map queuedKey := by
    refine (map_eq_of_forall₂ hshown fun e he item hshow ↦ ?_).symm
    exact (hshow.key hdb (newestQueued_sublist.mem he)).symm
  have hids : items.map (·.run.runId) = (newestQueued db limit).map queuedRunId := by
    have := congrArg (List.map Prod.fst) hkeys
    rwa [List.map_map, List.map_map] at this
  have hlength : items.length ≤ limit := by
    rw [← hshown.length_eq, ← hfound.selected, List.length_reverse, List.length_take]
    exact Nat.min_le_left _ _
  have hposition := hdb.length_lt
  have hwindow : RunSurfaceWindow.IsWindow ⟨limit, s.scannedEvents, items, db.ledger.length,
      limit < s.queuedEvents.length || !s.exhausted⟩ :=
    ⟨hlimit, hfound.scanned, ⟨Int.natCast_nonneg _, by dsimp only; omega⟩, hlength⟩
  have hdistinct : (items.map (·.run.runId)).Nodup := hids ▸ nodup_newestQueued hdb h
  refine ⟨⟨limit, s.scannedEvents, items, db.ledger.length,
    limit < s.queuedEvents.length || !s.exhausted⟩, seen₂, ?_, ⟨rfl, hkeys, hdistinct, hshown, ?_⟩⟩
  · have hcheck : Session.check (Checked.require (1 ≤ limit ∧ limit ≤ maxRunQueryPageSize)
        (QueryError.api .invalidRequest)) (seen.cons db) = .ok (⟨⟩, seen.cons db) :=
      Session.check_eq_ok.mpr ⟨Checked.require_eq_ok.mpr hlimit, rfl⟩
    have hcursor : readNext (fun db ↦ .ok (currentPosition db)) (seen.cons db) =
        .ok ((db.ledger.length : ℤ), seen) :=
      readNext_eq_ok.mpr ⟨congrArg Except.ok (currentPosition_eq hdb), rfl⟩
    rw [presentationRunWindow, Session.bind_eq_ok]
    refine ⟨_, _, hcheck, ?_⟩
    rw [Session.bind_eq_ok]
    refine ⟨_, _, hcursor, ?_⟩
    rw [Session.bind_eq_ok]
    refine ⟨_, _, hscan, ?_⟩
    rw [Session.bind_eq_ok]
    refine ⟨items, seen₂, hfound.selected ▸ hitems, ?_⟩
    rw [Session.bind_eq_ok]
    refine ⟨⟨⟩, seen₂, Session.check_eq_ok.mpr ⟨wire_eq_ok.mpr hwindow, rfl⟩, ?_⟩
    rw [Session.pure_eq_ok]
    exact ⟨rfl, rfl⟩
  · rw [hfound.older, decide_eq_true_eq]

/-- Without further appends, a window shows only runs that can be shown. -/
theorem displayable_of_window {w : RunSurfaceWindow} {seen' : Stream' Database} (hdb : IsStore H db)
    (honly : OnlyQueued db.ledger) (hlimit : limit ≤ maxRunQueryPageSize)
    (h : presentationRunWindow H D limit ((Stream'.const db).cons db) = .ok (w, seen')) :
    Displayable H D db limit := by
  have hseen : Follows H D db (Stream'.const db) := follows_const hdb
  rw [presentationRunWindow, Session.bind_eq_ok] at h
  obtain ⟨_, _, hcheck, h⟩ := h
  obtain ⟨-, rfl⟩ := Session.check_eq_ok.mp hcheck
  obtain ⟨cursor, seen₁, hcursor, h⟩ := Session.bind_eq_ok.mp h
  obtain ⟨hposition, rfl⟩ := readNext_eq_ok.mp hcursor
  obtain rfl : (db.ledger.length : ℤ) = cursor :=
    (currentPosition_eq hdb).symm.trans (Except.ok.inj hposition)
  obtain ⟨s, seen₂, hscan, h⟩ := Session.bind_eq_ok.mp h
  obtain ⟨items, seen₃, hitems, -⟩ := Session.bind_eq_ok.mp h
  obtain ⟨s', seen₄, hscan', hfound, hreads⟩ := queuedScan_spec hdb honly hlimit hseen
  obtain ⟨rfl, rfl⟩ := Prod.mk.inj (Except.ok.inj (hscan.symm.trans hscan'))
  obtain rfl : seen₂ = Stream'.const db := by
    rcases hreads with rfl | rfl <;> rfl
  rw [hfound.selected] at hitems
  exact displayed_of_mapM hdb hitems

end Exact

/-- **Windows.** In every ledger that the service reaches, the window of a limit is exact, whatever is
appended between its reads, exactly when each of the newest runs can be loaded and shown. -/
theorem exact_window_iff (H : Host) (D : Deployment) (calls : List EventStore.Call) (limit : ℕ)
    (hreach : ServiceLater H D [] (EventStore.after H Database.initial calls).ledger)
    (hlimit : 1 ≤ limit ∧ limit ≤ maxRunQueryPageSize) :
    (∀ seen, Follows H D (EventStore.after H Database.initial calls) seen →
      ∃ w seen', presentationRunWindow H D limit
          (seen.cons (EventStore.after H Database.initial calls)) = .ok (w, seen') ∧
        IsExactWindow H D (EventStore.after H Database.initial calls) limit w) ↔
      Displayable H D (EventStore.after H Database.initial calls) limit := by
  have hdb := isStore_after H calls
  have honly := hreach.onlyQueued
  constructor
  · intro h
    obtain ⟨w, seen', hw, -⟩ := h (Stream'.const _) (follows_const hdb)
    exact displayable_of_window hdb honly hlimit.2 hw
  · exact fun h seen ↦ exists_exactWindow hdb honly hlimit h

namespace Unplanned

theorem service_step (n : ℕ) (hn : n < 5) :
    ServiceStep host deployment (ledger.take n) (ledger.take (n + 1)) where
  step := ledger_step n hn
  foreign e he _ hstream htype := by
    have hrun : ∀ e ∈ ledger, e.eventType = StrEnum.value RunEventType.runQueued →
        e.streamId = runStream "run-1" := by decide +kernel
    exact hstream "run-1" (hrun e (List.mem_of_mem_take he) htype)

theorem service_reachable (n : ℕ) (hn : n ≤ 5) : ServiceLater host deployment [] (ledger.take n) := by
  induction n with
  | zero => exact .refl
  | succ n ih => exact (ih (Nat.le_of_succ_le hn)).tail (service_step n hn)

theorem queuedDatabase_ledger : queuedDatabase.ledger = ledger.take 4 := by
  decide +kernel

example : (ledger.take 4).length = 4 := by decide +kernel

/-- Before the goal is admitted, the run can be shown. -/
theorem queued_shown : ∀ e ∈ newestQueued queuedDatabase 1,
    ((loadStored host deployment queuedDatabase.ledger (queuedRunId e)).toOption.any
      fun stored ↦ (runQueryItem host stored).isOk) = true := by
  decide +kernel

theorem newest_mem : ∃ e ∈ newestQueued database 1, e ∈ database.ledger ∧ isQueuedRun e = true := by
  decide +kernel

end Unplanned

/-- The window of the sample run before its goal is admitted. -/
theorem exact_window_iff_sample : ∃ w seen',
    presentationRunWindow Unplanned.host Unplanned.deployment 1
      ((Stream'.const Unplanned.queuedDatabase).cons Unplanned.queuedDatabase) = .ok (w, seen') ∧
    IsExactWindow Unplanned.host Unplanned.deployment Unplanned.queuedDatabase 1 w := by
  have hreach : ServiceLater Unplanned.host Unplanned.deployment [] Unplanned.queuedDatabase.ledger :=
    Unplanned.queuedDatabase_ledger ▸ Unplanned.service_reachable 4 (by decide)
  refine (exact_window_iff Unplanned.host Unplanned.deployment (Unplanned.calls.take 4) 1 hreach
    (by decide)).mpr ?_ _ (follows_const (isStore_after _ _))
  intro e he
  have hshown := Unplanned.queued_shown e he
  obtain ⟨stored, hload, hitem⟩ := (Option.any_eq_true _ _).mp hshown
  obtain ⟨item, hitem⟩ := Checked.exists_of_isOk hitem
  exact displayed_iff.mpr ⟨item, stored, toOption_eq_some.mp hload, hitem⟩

/-- No window of the sample run is exact while its goal is admitted and no plan of it is. -/
theorem not_exact_window :
    ServiceLater Unplanned.host Unplanned.deployment [] Unplanned.database.ledger ∧
      ¬∃ w seen', presentationRunWindow Unplanned.host Unplanned.deployment 1
          ((Stream'.const Unplanned.database).cons Unplanned.database) = .ok (w, seen') ∧
        IsExactWindow Unplanned.host Unplanned.deployment Unplanned.database 1 w := by
  have hreach : ServiceLater Unplanned.host Unplanned.deployment [] Unplanned.database.ledger :=
    Unplanned.ledger_eq ▸ Unplanned.service_reachable 5 le_rfl
  refine ⟨hreach, ?_⟩
  rintro ⟨w, seen', hw, -⟩
  obtain ⟨e, hnewest, he, hqueued⟩ := Unplanned.newest_mem
  have hdb : IsStore Unplanned.host Unplanned.database := isStore_after _ Unplanned.calls
  obtain ⟨stored, hload, hpresentable⟩ :=
    displayable_of_window hdb hreach.onlyQueued (by decide) hw e hnewest
  obtain ⟨b, hb⟩ := exists_visit.mpr fun _ ↦ ⟨stored, hload, fun _ ↦ hpresentable⟩
  have := Unplanned.visited.2 e he hqueued
  rw [hb] at this
  exact Bool.noConfusion this

end Blackcell.Bootstrap
