import Blackcell.Bootstrap.RunQueries
import Blackcell.Foundation.Pagination

/-!
# Pages of a search for runs

`query_runs` of `bootstrap/runtime_service.py` reads the events behind a cursor in batches, loads each
run that was queued there, and shows those that match the filter. A page ends after a bounded number of
events, or when it is full; its cursor is that of the last event that it visited.

## Main definitions

* `RunFilter`, `matchesRunQuery` : the filter of a search.
* `visit` : what a search does with an event.
* `queryRuns` : a page of a search.

## Main results

* `scanPage_spec`, `scanLoop_spec` : the events that the loops visit.
* `scanLoop_succ` : the rounds of a page suffice.
* `isPage_queryRuns` : a page of a search is a page of the ledger.
* `exists_queryRuns` : a page is returned when no visit fails.
-/

namespace Blackcell.Bootstrap

open Blackcell.Kernel
open Blackcell.Interfaces.Http hiding check check_eq_ok
open Blackcell.Orchestration Blackcell.Orchestration.RunLifecycle

/-! ### Pages -/

/-- What a request for runs filters by, and the size of its pages. -/
structure RunFilter where
  statuses : List RunStatus
  projectIds : List String
  intentIds : List String
  planIds : List String
  runIds : List String
  limit : ℕ
  isFilter : statuses.Nodup ∧ UniqueWireIdentifiers projectIds ∧ UniqueWireIdentifiers intentIds ∧
    UniqueWireIdentifiers planIds ∧ UniqueWireIdentifiers runIds ∧
    (1 ≤ limit ∧ limit ≤ maxRunQueryPageSize)

/-- A value passes a filter that is empty or holds it. -/
def passes {α : Type} [DecidableEq α] (filter : List α) (value : α) : Bool :=
  filter = [] || filter.contains value

/-- `_matches_run_query`. -/
def matchesRunQuery (filter : RunFilter) (stored : StoredRun) : Bool :=
  passes filter.statuses (effectiveRunStatus stored.run) &&
    passes filter.projectIds stored.request.projectId &&
    passes filter.intentIds stored.request.intentId &&
    passes filter.planIds stored.request.planId && passes filter.runIds stored.request.runId

/-- The event queued a run. -/
def isQueuedRun (e : EventEnvelope) : Bool :=
  e.source = runtimeEventSource && e.eventType = StrEnum.value RunEventType.runQueued &&
    "run:".toList.isPrefixOf e.streamId.toList

/-- `event.stream_id.removeprefix("run:")`, of the stream of a run. -/
def queuedRunId (e : EventEnvelope) : String := String.ofList (e.streamId.toList.drop 4)

/-- `RunQueryResponse`. -/
structure RunQueryResponse where
  afterCursor : ℤ
  scannedEvents : ℕ
  runs : List RunQueryItem
  nextCursor : ℤ
  hasMore : Bool

/-- The local variables of the loops of `query_runs`. -/
structure Scan where
  cursor : ℤ
  scannedEvents : ℕ
  runs : List RunQueryItem

section Query

variable (H : Host) (D : Deployment) (db : Database) (filter : RunFilter)

/-- What the search does with an event: it shows a run that was queued by it and matches. -/
def visit (e : EventEnvelope) : Querying (Option RunQueryItem) :=
  if isQueuedRun e then do
    let stored ← (loadStored H D db.ledger (queuedRunId e)).mapError QueryError.candidate
    if matchesRunQuery filter stored then some <$> runQueryItem H stored else return none
  else .ok none

/-- The page is to be ended. -/
def Scan.isFull (s : Scan) : Bool :=
  maxRunQueryScanEvents ≤ s.scannedEvents || filter.limit ≤ s.runs.length

/-- One event of the inner loop of `query_runs`. -/
def Scan.next (s : Scan) (e : EventEnvelope) : Querying Scan := do
  let cursor ← (globalPosition e).mapError QueryError.api
  let item ← visit H D db filter e
  return ⟨cursor, s.scannedEvents + 1, s.runs ++ item.toList⟩

/-- The inner loop of `query_runs`: whether it stopped early. -/
def scanPage : List EventEnvelope → Scan → Querying (Scan × Bool)
  | [], s => .ok (s, false)
  | e :: es, s => do
    let s' ← s.next H D db filter e
    if s'.isFull filter then .ok (s', true) else scanPage es s'

/-- The number of events that are read next. -/
def Scan.batch (s : Scan) : ℕ := min scanBatch (maxRunQueryScanEvents - s.scannedEvents)

/-- The outer loop of `query_runs`, for at most a number of rounds: whether the events are exhausted. -/
def scanLoop : ℕ → Scan → Querying (Scan × Bool)
  | 0, s => .ok (s, false)
  | rounds + 1, s =>
    if s.isFull filter then .ok (s, false)
    else do
      let page ← (readAll db s.cursor s.batch).mapError QueryError.database
      if page = [] then .ok (s, true)
      else do
        let (s', stopped) ← scanPage H D db filter page s
        if stopped then .ok (s', false)
        else if page.length < s.batch then .ok (s', true)
        else scanLoop rounds s'

/-- `has_more`. -/
def hasMoreEvents (cursor : ℤ) (exhausted : Bool) : Querying Bool :=
  if exhausted then .ok false
  else (fun rest ↦ !rest.isEmpty) <$> (readAll db cursor 1).mapError QueryError.database

/-- `query_runs`, for a request with a filter and a cursor. Each round visits an event, so that the
rounds suffice. -/
def queryRuns (afterCursor : ℤ) : Querying RunQueryResponse := do
  wire (0 ≤ afterCursor ∧ afterCursor ≤ 2 ^ 63 - 1)
  let (s, exhausted) ← scanLoop H D db filter maxRunQueryScanEvents ⟨afterCursor, 0, []⟩
  let hasMore ← hasMoreEvents db s.cursor exhausted
  return ⟨afterCursor, s.scannedEvents, s.runs, s.cursor, hasMore⟩

end Query

/-! ### What a page visits -/

/-- The tables of the store, with positions that the database can hold. -/
structure IsStore (H : Host) (db : Database) : Prop where
  represents : db.Represents H
  bound : isBound db.lastPosition

theorem isStore_after (H : Host) (calls : List EventStore.Call) :
    IsStore H (EventStore.after H Database.initial calls) :=
  ⟨(EventStore.after_keeps calls (Database.Represents.initial H)).1,
    EventStore.after_bound calls (Database.Represents.initial H) (by decide)⟩

section Reading

variable {H : Host} {db : Database} {cursor n : ℕ}

theorem IsStore.length_lt (hdb : IsStore H db) : db.ledger.length < 2 ^ 63 := by
  have hlast := hdb.represents.lastPosition
  have hbound := hdb.bound
  simp only [isBound, decide_eq_true_eq] at hbound
  omega

theorem one_le_maxRunQueryScanEvents : 1 ≤ maxRunQueryScanEvents := by
  unfold maxRunQueryScanEvents
  omega

/-- A bounded read returns the next window. -/
theorem readAll_window (hdb : IsStore H db) (hcursor : cursor ≤ db.ledger.length) (hpos : 1 ≤ n)
    (hn : n ≤ maxRunQueryScanEvents) :
    readAll db cursor n = .ok (LogReader.window db.ledger cursor n) := by
  have hlength := hdb.length_lt
  unfold maxRunQueryScanEvents at hn
  have hbounds : isBound (cursor : ℤ) ∧ isBound (n : ℤ) := by
    simp only [isBound, decide_eq_true_eq]
    omega
  rw [readAll, Checked.require_bind_of_true ⟨Int.natCast_nonneg _, by omega⟩,
    Checked.require_bind_of_true hbounds, (numbered hdb.represents.consistent).filter_behind]
  rfl

/-- The events of a window have the positions behind its cursor. -/
def Placed (cursor : ℕ) (page : List EventEnvelope) : Prop :=
  ∀ i (hi : i < page.length), page[i].globalPosition = some ((cursor + i + 1 : ℕ) : ℤ)

theorem placed_window (hdb : IsStore H db) : Placed cursor (LogReader.window db.ledger cursor n) := by
  intro i hi
  simp only [LogReader.window, List.getElem_take, List.getElem_drop]
  rw [globalPosition_getElem hdb.represents.consistent]
  push_cast
  rfl

theorem Placed.tail {e : EventEnvelope} {es : List EventEnvelope} (h : Placed cursor (e :: es)) :
    Placed (cursor + 1) es := by
  intro i hi
  have := h (i + 1) (by rw [List.length_cons]; omega)
  rw [List.getElem_cons_succ] at this
  rw [this]
  congr 2
  omega

end Reading

section Scans

variable {H : Host} {D : Deployment} {db : Database} {filter : RunFilter} {s s' : Scan}
  {e : EventEnvelope} {cursor : ℕ} {page : List EventEnvelope}

/-- The variables of a scan after it has visited some events. -/
structure Visited (H : Host) (D : Deployment) (db : Database) (filter : RunFilter)
    (es : List EventEnvelope) (s s' : Scan) : Prop where
  cursor : s'.cursor = s.cursor + es.length
  scanned : s'.scannedEvents = s.scannedEvents + es.length
  visited : ∀ e ∈ es, ∃ b, visit H D db filter e = .ok b
  runs : s'.runs = s.runs ++ es.filterMap (Pagination.shown (visit H D db filter))

theorem Visited.nil (s : Scan) : Visited H D db filter [] s s := ⟨by simp, by simp, by simp, by simp⟩

theorem Visited.append {es es' : List EventEnvelope} {s'' : Scan} (h : Visited H D db filter es s s')
    (h' : Visited H D db filter es' s' s'') : Visited H D db filter (es ++ es') s s'' where
  cursor := by
    rw [h'.cursor, h.cursor, List.length_append]
    push_cast
    omega
  scanned := by
    rw [h'.scanned, h.scanned, List.length_append]
    omega
  visited e he := (List.mem_append.mp he).elim (h.visited e) (h'.visited e)
  runs := by rw [h'.runs, h.runs, List.filterMap_append, List.append_assoc]

/-- One event of a page. -/
theorem Scan.next_eq_ok (hposition : e.globalPosition = some (s.cursor + 1)) :
    s.next H D db filter e = .ok s' → Visited H D db filter [e] s s' := by
  intro h
  simp only [Scan.next, Checked.bind_eq_ok, Checked.mapError_eq_ok, globalPosition_eq_ok,
    Checked.pure_eq_ok] at h
  obtain ⟨_, hcursor, item, hitem, rfl⟩ := h
  obtain rfl := Option.some.inj (hcursor.symm.trans hposition)
  refine ⟨by simp, by simp, by simp [hitem], ?_⟩
  rw [List.filterMap_cons, Pagination.shown_of_ok hitem]
  cases item <;> rfl

theorem exists_next (hposition : e.globalPosition = some (s.cursor + 1))
    (hvisit : ∃ b, visit H D db filter e = .ok b) : ∃ s', s.next H D db filter e = .ok s' := by
  obtain ⟨b, hb⟩ := hvisit
  simp only [Scan.next, Checked.bind_eq_ok, Checked.mapError_eq_ok, globalPosition_eq_ok,
    Checked.pure_eq_ok]
  exact ⟨_, _, hposition, b, hb, rfl⟩

theorem position_of_placed (h : Placed cursor (e :: page)) (hs : s.cursor = cursor) :
    e.globalPosition = some (s.cursor + 1) := by
  have := h 0 (by simp)
  rw [List.getElem_cons_zero] at this
  rw [this, hs]
  push_cast
  rfl

/-- **The inner loop.** It visits a part of the page, and all of it unless it stops early. -/
theorem scanPage_spec {stopped : Bool} (hplaced : Placed cursor page) (hs : s.cursor = cursor)
    (h : scanPage H D db filter page s = .ok (s', stopped)) :
    ∃ k ≤ page.length, Visited H D db filter (page.take k) s s' ∧
      (stopped = false → k = page.length) ∧ (page ≠ [] → 0 < k) := by
  induction page generalizing cursor s with
  | nil =>
    cases h
    exact ⟨0, le_rfl, .nil _, fun _ ↦ rfl, fun hne ↦ absurd rfl hne⟩
  | cons e es ih =>
    simp only [scanPage, Checked.bind_eq_ok] at h
    obtain ⟨s₁, hnext, h⟩ := h
    have hfirst := Scan.next_eq_ok (position_of_placed hplaced hs) hnext
    split at h
    · cases h
      refine ⟨1, by simp, by simpa using hfirst, by rintro ⟨⟩, fun _ ↦ Nat.one_pos⟩
    · have hcursor : s₁.cursor = (cursor + 1 : ℕ) := by
        rw [hfirst.cursor, hs]
        simp
      obtain ⟨k, hk, hrest, hall, -⟩ := ih hplaced.tail hcursor h
      refine ⟨k + 1, by simpa using hk, by simpa using hfirst.append hrest, fun hstopped ↦ ?_,
        fun _ ↦ Nat.succ_pos k⟩
      rw [hall hstopped, List.length_cons]

theorem exists_scanPage (hplaced : Placed cursor page) (hs : s.cursor = cursor)
    (hvisit : ∀ e ∈ page, ∃ b, visit H D db filter e = .ok b) :
    ∃ r, scanPage H D db filter page s = .ok r := by
  induction page generalizing cursor s with
  | nil => exact ⟨_, rfl⟩
  | cons e es ih =>
    obtain ⟨he, hes⟩ := List.forall_mem_cons.mp hvisit
    have hposition := position_of_placed hplaced hs
    obtain ⟨s₁, hnext⟩ := exists_next hposition he
    rw [scanPage, hnext, Checked.ok_bind]
    split
    · exact ⟨_, rfl⟩
    · have hcursor : s₁.cursor = (cursor + 1 : ℕ) := by
        rw [(Scan.next_eq_ok hposition hnext).cursor, hs]
        simp
      exact ih hplaced.tail hcursor hes

theorem batch_bounds (hfull : s.isFull filter = false) :
    1 ≤ s.batch ∧ s.batch ≤ maxRunQueryScanEvents := by
  simp only [Scan.isFull, Bool.or_eq_false_iff, decide_eq_false_iff_not] at hfull
  unfold Scan.batch scanBatch maxRunQueryScanEvents
  unfold maxRunQueryScanEvents at hfull
  omega

/-- **The outer loop.** It visits a window of the ledger, which reaches its end when the events are
exhausted, and is not empty unless the loop had nothing to do. -/
theorem scanLoop_spec {rounds : ℕ} {exhausted : Bool} (hdb : IsStore H db)
    (hcursor : cursor ≤ db.ledger.length) (hs : s.cursor = cursor)
    (h : scanLoop H D db filter rounds s = .ok (s', exhausted)) :
    ∃ k, cursor + k ≤ db.ledger.length ∧
      Visited H D db filter ((db.ledger.drop cursor).take k) s s' ∧
      (exhausted = true → cursor + k = db.ledger.length) ∧
      (exhausted = false → s.isFull filter = false → 0 < rounds → 0 < k) := by
  induction rounds generalizing cursor s with
  | zero =>
    cases h
    exact ⟨0, hcursor, .nil _, nofun, fun _ _ h ↦ absurd h (Nat.lt_irrefl 0)⟩
  | succ rounds ih =>
    rw [scanLoop] at h
    split at h
    · rename_i hfull
      cases h
      exact ⟨0, hcursor, .nil _, nofun, fun _ hnot ↦ by simp [hnot] at hfull⟩
    · rename_i hfull
      obtain ⟨hpos, hmax⟩ := batch_bounds (Bool.not_eq_true _ ▸ hfull)
      rw [hs, readAll_window hdb hcursor hpos hmax] at h
      simp only [Except.mapError, Checked.ok_bind] at h
      have hlength : (LogReader.window db.ledger cursor s.batch).length = min s.batch
          (db.ledger.length - cursor) := LogReader.length_window
      split at h
      · rename_i hempty
        cases h
        have hend : db.ledger.length ≤ cursor := by
          rw [hempty, List.length_nil] at hlength
          omega
        exact ⟨0, hcursor, .nil _, fun _ ↦ by omega, nofun⟩
      · rename_i hne
        simp only [Checked.bind_eq_ok] at h
        obtain ⟨⟨s₁, stopped⟩, hpage, h⟩ := h
        obtain ⟨k, hk, hvisited, hall, hsome⟩ := scanPage_spec (placed_window hdb) hs hpage
        have htake : (LogReader.window db.ledger cursor s.batch).take k =
            (db.ledger.drop cursor).take k := by
          rw [LogReader.window, List.take_take, Nat.min_eq_left (by omega)]
        rw [htake] at hvisited
        have hinside : cursor + k ≤ db.ledger.length := by omega
        dsimp only at h
        split at h
        · cases h
          exact ⟨k, hinside, hvisited, nofun, fun _ _ _ ↦ hsome hne⟩
        · rename_i hstopped
          obtain rfl := hall (Bool.not_eq_true _ ▸ hstopped)
          split at h
          · cases h
            exact ⟨_, hinside, hvisited, fun _ ↦ by omega, nofun⟩
          · have hcursor' : s₁.cursor =
                (cursor + (LogReader.window db.ledger cursor s.batch).length : ℕ) := by
              rw [hvisited.cursor, hs, List.length_take, List.length_drop]
              omega
            obtain ⟨k', hinside', hvisited', hend, -⟩ := ih hinside hcursor' h
            have hsplit : (db.ledger.drop cursor).take
                ((LogReader.window db.ledger cursor s.batch).length + k') =
                (db.ledger.drop cursor).take (LogReader.window db.ledger cursor s.batch).length ++
                (db.ledger.drop
                  (cursor + (LogReader.window db.ledger cursor s.batch).length)).take k' := by
              rw [List.take_add, List.drop_drop]
            refine ⟨_, by omega, hsplit ▸ hvisited.append hvisited', fun hexhausted ↦ ?_, ?_⟩
            · have := hend hexhausted
              omega
            · intro _ _ _
              have := hsome hne
              omega

theorem exists_scanLoop {rounds : ℕ} (hdb : IsStore H db) (hcursor : cursor ≤ db.ledger.length)
    (hs : s.cursor = cursor)
    (hvisit : ∀ e ∈ db.ledger.drop cursor, ∃ b, visit H D db filter e = .ok b) :
    ∃ r, scanLoop H D db filter rounds s = .ok r := by
  induction rounds generalizing cursor s with
  | zero => exact ⟨_, rfl⟩
  | succ rounds ih =>
    rw [scanLoop]
    split
    · exact ⟨_, rfl⟩
    · rename_i hfull
      obtain ⟨hpos, hmax⟩ := batch_bounds (Bool.not_eq_true _ ▸ hfull)
      rw [hs, readAll_window hdb hcursor hpos hmax]
      simp only [Except.mapError, Checked.ok_bind]
      split
      · exact ⟨_, rfl⟩
      · have hmem : ∀ e ∈ LogReader.window db.ledger cursor s.batch,
            ∃ b, visit H D db filter e = .ok b :=
          fun e he ↦ hvisit e (List.mem_of_mem_take he)
        obtain ⟨⟨s₁, stopped⟩, hpage⟩ := exists_scanPage (placed_window hdb) hs hmem
        rw [hpage, Checked.ok_bind]
        dsimp only
        split
        · exact ⟨_, rfl⟩
        · rename_i hstopped
          obtain ⟨k, hk, hvisited, hall, -⟩ := scanPage_spec (placed_window hdb) hs hpage
          obtain rfl := hall (Bool.not_eq_true _ ▸ hstopped)
          split
          · exact ⟨_, rfl⟩
          · have hlength : (LogReader.window db.ledger cursor s.batch).length = min s.batch
                (db.ledger.length - cursor) := LogReader.length_window
            have hcursor' : s₁.cursor =
                (cursor + (LogReader.window db.ledger cursor s.batch).length : ℕ) := by
              rw [hvisited.cursor, hs, List.take_length]
              push_cast
              rfl
            refine ih (by omega) hcursor' fun e he ↦ hvisit e ?_
            rw [← List.drop_drop] at he
            exact List.mem_of_mem_drop he

/-- The rounds of a page suffice: each of them visits an event, and a page that has visited the bounded
number of events is full. -/
theorem scanLoop_succ {rounds : ℕ} (hdb : IsStore H db) (hcursor : cursor ≤ db.ledger.length)
    (hs : s.cursor = cursor) (hrounds : maxRunQueryScanEvents ≤ s.scannedEvents + rounds) :
    scanLoop H D db filter (rounds + 1) s = scanLoop H D db filter rounds s := by
  induction rounds generalizing cursor s with
  | zero =>
    have hfull : s.isFull filter = true := by
      simp only [Scan.isFull, Bool.or_eq_true, decide_eq_true_eq]
      exact .inl (by omega)
    simp only [scanLoop, hfull, if_true]
  | succ rounds ih =>
    rw [scanLoop, scanLoop]
    split
    · rfl
    · rename_i hfull
      obtain ⟨hpos, hmax⟩ := batch_bounds (Bool.not_eq_true _ ▸ hfull)
      rw [hs, readAll_window hdb hcursor hpos hmax]
      simp only [Except.mapError, Checked.ok_bind]
      split
      · rfl
      · rename_i hne
        cases hpage : scanPage H D db filter (LogReader.window db.ledger cursor s.batch) s with
        | error => rfl
        | ok r =>
          obtain ⟨s₁, stopped⟩ := r
          obtain ⟨k, hk, hvisited, hall, hsome⟩ := scanPage_spec (placed_window hdb) hs hpage
          simp only [Checked.ok_bind]
          split
          · rfl
          · rename_i hstopped
            obtain rfl := hall (Bool.not_eq_true _ ▸ hstopped)
            split
            · rfl
            · have hlength : (LogReader.window db.ledger cursor s.batch).length = min s.batch
                  (db.ledger.length - cursor) := LogReader.length_window
              have hcursor' : s₁.cursor =
                  (cursor + (LogReader.window db.ledger cursor s.batch).length : ℕ) := by
                rw [hvisited.cursor, hs, List.take_length]
                push_cast
                rfl
              have hscanned := hvisited.scanned
              rw [List.take_length] at hscanned
              have := hsome hne
              exact ih (by omega) hcursor' (by omega)

end Scans

/-! ### Searches -/

section Searches

variable {H : Host} {D : Deployment} {db : Database} {filter : RunFilter} {cursor : ℕ}

/-- A response as a page. -/
def RunQueryResponse.toPage (r : RunQueryResponse) : Pagination.Page RunQueryItem :=
  ⟨r.runs, r.nextCursor.toNat, r.hasMore⟩

/-- The page behind a cursor. -/
def queryPage (H : Host) (D : Deployment) (db : Database) (filter : RunFilter) (cursor : ℕ) :
    Querying (Pagination.Page RunQueryItem) :=
  (·.toPage) <$> queryRuns H D db filter cursor

theorem hasMoreEvents_eq_ok {exhausted more : Bool} (hdb : IsStore H db)
    (hcursor : cursor ≤ db.ledger.length) (hend : exhausted = true → cursor = db.ledger.length) :
    hasMoreEvents db cursor exhausted = .ok more ↔
      (more = true ↔ cursor < db.ledger.length) := by
  cases exhausted with
  | true =>
    have := hend rfl
    rw [hasMoreEvents, if_pos rfl, Except.ok.injEq]
    constructor
    · rintro rfl
      simp [this]
    · intro h
      rw [Bool.eq_false_iff.mpr fun hmore ↦ absurd (h.mp hmore) (by omega)]
  | false =>
    have hread : readAll db (cursor : ℤ) 1 = .ok (LogReader.window db.ledger cursor 1) :=
      readAll_window hdb hcursor le_rfl one_le_maxRunQueryScanEvents
    have hlength : (LogReader.window db.ledger cursor 1).length = min 1 (db.ledger.length - cursor) :=
      LogReader.length_window
    have hnonempty : (!(LogReader.window db.ledger cursor 1).isEmpty) = true ↔
        cursor < db.ledger.length := by
      rw [Bool.not_eq_true', List.isEmpty_eq_false_iff, ← List.length_pos_iff]
      omega
    rw [hasMoreEvents, if_neg Bool.false_ne_true, hread]
    simp only [Except.mapError, Checked.map_eq_ok, Except.ok.injEq, exists_eq_left']
    constructor
    · rintro rfl
      exact hnonempty
    · intro h
      rw [Bool.eq_iff_iff, hnonempty, h]

/-- **Pages.** A page of the search is a page of the ledger. -/
theorem isPage_queryRuns (hdb : IsStore H db) (hcursor : cursor ≤ db.ledger.length)
    {p : Pagination.Page RunQueryItem} (h : queryPage H D db filter cursor = .ok p) :
    Pagination.IsPage db.ledger (visit H D db filter) cursor p := by
  simp only [queryPage, queryRuns, Checked.map_eq_ok, Checked.bind_eq_ok, Checked.exists_unit,
    Checked.pure_eq_ok] at h
  obtain ⟨r, ⟨-, ⟨s, exhausted⟩, hscan, more, hmore, rfl⟩, rfl⟩ := h
  obtain ⟨k, hinside, hvisited, hend, hprogress⟩ := scanLoop_spec hdb hcursor rfl hscan
  have hlength : ((db.ledger.drop cursor).take k).length = k := by
    rw [List.length_take, List.length_drop]
    omega
  have hcursor' : s.cursor = (cursor + k : ℕ) := by
    rw [hvisited.cursor, hlength]
    push_cast
    rfl
  rw [hcursor'] at hmore
  have hiff := (hasMoreEvents_eq_ok hdb hinside hend).mp hmore
  have hwindow : (db.ledger.take (cursor + k)).drop cursor = (db.ledger.drop cursor).take k := by
    rw [List.drop_take, Nat.add_sub_cancel_left]
  have hopen : Scan.isFull filter ⟨cursor, 0, []⟩ = false := by
    have hlimit := filter.isFilter.2.2.2.2.2.1
    have hnone : ¬maxRunQueryScanEvents ≤ 0 := Nat.not_le.mpr one_le_maxRunQueryScanEvents
    have hroom : ¬filter.limit ≤ 0 := Nat.not_le.mpr hlimit
    simp only [Scan.isFull, List.length_nil, Bool.or_eq_false_iff, decide_eq_false_iff_not]
    exact ⟨hnone, hroom⟩
  change Pagination.IsPage _ _ _ ⟨s.runs, s.cursor.toNat, more⟩
  rw [hcursor', Int.toNat_natCast]
  refine ⟨Nat.le_add_right _ _, hinside, hwindow ▸ hvisited.visited, ?_, hiff, fun hmore ↦ ?_⟩
  · rw [hwindow]
    simpa using hvisited.runs
  · have hlt := hiff.mp hmore
    cases exhausted with
    | true =>
      have := hend rfl
      omega
    | false => exact Nat.lt_add_of_pos_right (hprogress rfl hopen one_le_maxRunQueryScanEvents)

/-- A page is returned when no visit behind its cursor fails. -/
theorem exists_queryRuns (hdb : IsStore H db) (hcursor : cursor ≤ db.ledger.length)
    (hvisit : ∀ e ∈ db.ledger.drop cursor, ∃ b, visit H D db filter e = .ok b) :
    ∃ p, queryPage H D db filter cursor = .ok p := by
  have hlength := hdb.length_lt
  obtain ⟨⟨s, exhausted⟩, hscan⟩ :
      ∃ r, scanLoop H D db filter maxRunQueryScanEvents ⟨cursor, 0, []⟩ = .ok r :=
    exists_scanLoop hdb hcursor rfl hvisit
  obtain ⟨k, hinside, hvisited, hend, -⟩ := scanLoop_spec hdb hcursor rfl hscan
  have hcursor' : s.cursor = (cursor + k : ℕ) := by
    have hk : ((db.ledger.drop cursor).take k).length = k := by
      rw [List.length_take, List.length_drop]
      omega
    rw [hvisited.cursor, hk]
    push_cast
    rfl
  have hmore : hasMoreEvents db s.cursor exhausted =
      .ok (decide (cursor + k < db.ledger.length)) := by
    rw [hcursor']
    exact (hasMoreEvents_eq_ok hdb hinside hend).mpr (by simp)
  refine ⟨_, Checked.map_eq_ok.mpr
    ⟨⟨cursor, s.scannedEvents, s.runs, s.cursor, decide (cursor + k < db.ledger.length)⟩, ?_, rfl⟩⟩
  have hwire : 0 ≤ (cursor : ℤ) ∧ (cursor : ℤ) ≤ 2 ^ 63 - 1 := by omega
  rw [queryRuns, wire, Checked.require_bind_of_true hwire, hscan, Checked.ok_bind]
  dsimp only
  rw [hmore]
  rfl

end Searches

end Blackcell.Bootstrap
