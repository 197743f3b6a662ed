import Blackcell.Bootstrap.RunLoading
import Blackcell.Foundation.LogReader
import Blackcell.Kernel.EventStore
import Blackcell.Orchestration.VerificationLifecycle

/-!
# The event feed

`list_events` of `bootstrap/runtime_service.py` returns a page of the ledger behind a cursor: it scans
a bounded number of stored events and keeps those of the public kinds. The web socket of
`interfaces/http/app.py` polls it from the cursor of the page before, checks each page, and sends the
pages that show something new. Calls of the store may fall between any two polls.

## Main definitions

* `listEvents` : a page of the feed.
* `validWebEventPage` : the check of a page on the web socket.
* `Feed`, `Feed.Step` : a reader of the feed, and the calls and polls of a run.
* `WebFeed` : the web socket.

## Main results

* `listEvents_eq_ok` : a page is a window of the ledger.
* `Feed.Delivered.next` : what one step keeps.
* `event_feed_exact` : every run.
-/

namespace Blackcell.Bootstrap

open Blackcell.Kernel
open Blackcell.Orchestration Blackcell.Orchestration.RunLifecycle

/-! ### Pages -/

/-- `_PROJECT_REGISTERED`. -/
def projectRegistered : String := "project.registered"

/-- `_INTENT_ACCEPTED`. -/
def intentAccepted : String := "intent.accepted"

/-- `_PLAN_ACCEPTED`. -/
def planAccepted : String := "plan.accepted"

/-- `_RUNTIME_EVENT_TYPES`. -/
def runtimeEventTypes : List String :=
  [projectRegistered, intentAccepted, planAccepted] ++
    (StrEnum.members : List RunEventType).map StrEnum.value ++
    (StrEnum.members : List ReviewLifecycle.ReviewEventType).map StrEnum.value ++
    (StrEnum.members : List VerificationLifecycle.VerificationEventType).map StrEnum.value

/-- The event is of a public kind. -/
def IsRuntimeEvent (e : EventEnvelope) : Prop := e.eventType ∈ runtimeEventTypes

instance : DecidablePred IsRuntimeEvent := fun e ↦
  inferInstanceAs (Decidable (e.eventType ∈ runtimeEventTypes))

/-- `MAX_RUNTIME_EVENT_PAGE_SIZE`. -/
def maxRuntimeEventPageSize : Int := 200

/-- `RuntimeEventResponse`. -/
structure RuntimeEventResponse where
  eventId : String
  cursor : Int
  streamId : String
  streamSequence : Int
  eventType : String
  eventSchemaVersion : Int := 1
  recordedAt : String
  correlationId : String
  causationId : Option String
  actor : String
  payloadDigest : String
  payload : Mapping
  schemaVersion : String := "event/v1"
  deriving DecidableEq

/-- `RuntimeEventPageResponse`. -/
structure RuntimeEventPageResponse where
  afterCursor : Int
  limit : Int
  scannedEvents : ℕ
  events : List RuntimeEventResponse
  nextCursor : Int
  hasMore : Bool
  schemaVersion : String := "event-page/v1"
  deriving DecidableEq

/-- The exceptions of a poll. -/
inductive FeedError where
  /-- `RuntimeApiError`. -/
  | api (code : RuntimeApiFailureCode)
  /-- An exception of the database. -/
  | database (error : DatabaseError)
  deriving DecidableEq

/-- The column `global_position` of a stored event. -/
def position (e : EventEnvelope) : Int := e.globalPosition.getD 0

/-- `_global_position`. -/
def globalPosition (e : EventEnvelope) : Except RuntimeApiFailureCode Int :=
  Checked.ofOption e.globalPosition .conflict

/-- `read_all`, with a limit. -/
def readAll (db : Database) (afterPosition limit : Int) :
    Except DatabaseError (List EventEnvelope) := do
  Checked.require (0 ≤ afterPosition ∧ 1 ≤ limit) (DatabaseError.store .value)
  Checked.require (isBound afterPosition ∧ isBound limit) DatabaseError.overflow
  return (db.ledger.filter fun e ↦ afterPosition < position e).take limit.toNat

variable (H : Host)

/-- What a page shows of an event. -/
def responseOf (e : EventEnvelope) : RuntimeEventResponse where
  eventId := e.eventId
  cursor := position e
  streamId := e.streamId
  streamSequence := e.streamSequence
  eventType := e.eventType
  recordedAt := H.isoformat e.recordedAt
  correlationId := e.correlationId
  causationId := e.causationId
  actor := e.actor
  payloadDigest := e.payloadHash H
  payload := e.payload

/-- `_event_response`. -/
def eventResponse (e : EventEnvelope) : Except RuntimeApiFailureCode RuntimeEventResponse := do
  Checked.require (IsRuntimeEvent e ∧ e.schemaVersion = 1) RuntimeApiFailureCode.conflict
  let cursor ← globalPosition e
  return { responseOf H e with cursor := cursor }

/-- The cursor behind a window. -/
def nextCursor (window : List EventEnvelope) (afterCursor : Int) :
    Except RuntimeApiFailureCode Int :=
  match window.getLast? with
  | some last => globalPosition last
  | none => .ok afterCursor

/-- `list_events`. -/
def listEvents (db : Database) (afterCursor limit : Int) :
    Except FeedError RuntimeEventPageResponse := do
  Checked.require (0 ≤ afterCursor ∧ 1 ≤ limit ∧ limit ≤ maxRuntimeEventPageSize)
    (FeedError.api .invalidRequest)
  let scanned ← (readAll db afterCursor (limit + 1)).mapError FeedError.database
  let window := scanned.take limit.toNat
  let runtimeEvents ← ((window.filter IsRuntimeEvent).mapM (eventResponse H)).mapError FeedError.api
  let next ← (nextCursor window afterCursor).mapError FeedError.api
  return {
    afterCursor := afterCursor
    limit := limit
    scannedEvents := window.length
    events := runtimeEvents
    nextCursor := next
    hasMore := limit < scanned.length }

/-- `_WEB_EVENT_PAGE_LIMIT`. -/
def webEventPageLimit : Int := 100

/-- `_valid_web_event_page`. -/
def ValidWebEventPage (page : RuntimeEventPageResponse) (afterCursor : Int) : Prop :=
  let cursors := page.events.map (·.cursor)
  page.afterCursor = afterCursor ∧ page.limit = webEventPageLimit ∧
    page.scannedEvents ≤ webEventPageLimit ∧ page.events.length ≤ page.scannedEvents ∧
    afterCursor ≤ page.nextCursor ∧ page.nextCursor ≤ 2 ^ 63 - 1 ∧
    (page.scannedEvents = 0 → page.nextCursor = afterCursor) ∧
    (0 < page.scannedEvents → afterCursor < page.nextCursor) ∧
    (page.scannedEvents < webEventPageLimit → page.hasMore = false) ∧
    (page.hasMore → page.nextCursor ≠ afterCursor) ∧
    (∀ cursor ∈ cursors, afterCursor < cursor ∧ cursor ≤ page.nextCursor) ∧
    (∀ p ∈ cursors.zip cursors.tail, p.1 < p.2) ∧ (page.events.map (·.eventId)).Nodup

instance (page : RuntimeEventPageResponse) (afterCursor : Int) :
    Decidable (ValidWebEventPage page afterCursor) :=
  inferInstanceAs (Decidable (_ ∧ _))

/-! ### Runs -/

/-- A reader of the feed: the tables, the cursor, and the pages that it received. -/
structure Feed where
  database : Database
  cursor : Int
  pages : List RuntimeEventPageResponse

/-- A step of a run: a call of the store, or a poll with a page limit. -/
inductive Feed.Step where
  | call (call : EventStore.Call)
  | poll (limit : Int)

/-- A poll starts at the next cursor of the page before. One that raises brings no page. -/
def Feed.next (s : Feed) : Feed.Step → Feed
  | .call call => { s with database := (call.run H s.database).2 }
  | .poll limit =>
    match listEvents H s.database s.cursor limit with
    | .ok page => { s with cursor := page.nextCursor, pages := s.pages ++ [page] }
    | .error _ => s

/-- A run of calls and polls. -/
def Feed.run (s : Feed) (steps : List Feed.Step) : Feed := steps.foldl (Feed.next H) s

/-- The events that the pages show, in order. -/
def Feed.delivered (s : Feed) : List RuntimeEventResponse := s.pages.flatMap (·.events)

/-- The socket of `stream_web_events`: the reader, whether its first page is still to come, the pages
that it sent, and whether it was closed because the event source failed. -/
structure WebFeed extends Feed where
  firstPage : Bool
  sent : List RuntimeEventPageResponse
  closed : Bool

/-- One turn of the loop of `stream_web_events`. -/
def WebFeed.poll (s : WebFeed) : WebFeed :=
  if s.closed then s
  else
    match listEvents H s.database s.cursor webEventPageLimit with
    | .error _ => { s with closed := true }
    | .ok page =>
      if ¬ValidWebEventPage page s.cursor then { s with closed := true }
      else
        { database := s.database
          cursor := page.nextCursor
          pages := s.pages ++ [page]
          firstPage := false
          sent :=
            if s.firstPage ∨ page.nextCursor ≠ s.cursor ∨ page.events ≠ [] then s.sent ++ [page]
            else s.sent
          closed := false }

/-- A step at the socket: a call of the store, or a turn of its loop. -/
inductive WebFeed.Step where
  | call (call : EventStore.Call)
  | poll

/-- The next state of the socket. -/
def WebFeed.next (s : WebFeed) : WebFeed.Step → WebFeed
  | .call call => { s with database := (call.run H s.database).2 }
  | .poll => s.poll H

/-- A run of calls and turns of the loop. -/
def WebFeed.run (s : WebFeed) (steps : List WebFeed.Step) : WebFeed :=
  steps.foldl (WebFeed.next H) s

/-! ### A page -/

variable {H} {L : Ledger} {db : Database} {page : RuntimeEventPageResponse}

/-- The position of a stored event counts the events up to it. -/
theorem globalPosition_getElem (hL : L.Consistent) {i : ℕ} (hi : i < L.length) :
    L[i].globalPosition = some ((i : Int) + 1) := by
  have h := congrArg (·[i]?) hL.positions
  simpa [List.getElem?_eq_getElem, hi] using h

/-- The events are numbered by their places. -/
def Numbered (L : Ledger) : Prop := ∀ i (hi : i < L.length), position L[i] = (i : Int) + 1

theorem numbered (hL : L.Consistent) : Numbered L := fun i hi ↦ by
  rw [position, globalPosition_getElem hL hi, Option.getD_some]

theorem Numbered.take (hL : Numbered L) (n : ℕ) : Numbered (L.take n) := fun i hi ↦ by
  rw [List.getElem_take]
  exact hL i _

/-- The events behind a position. -/
theorem Numbered.filter_behind (hL : Numbered L) (n : ℕ) :
    (L.filter fun e ↦ (n : Int) < position e) = L.drop n := by
  conv_lhs => rw [← List.take_append_drop n L]
  rw [List.filter_append, List.filter_eq_nil_iff.mpr, List.filter_eq_self.mpr, List.nil_append]
  · intro e he
    obtain ⟨i, hi, rfl⟩ := List.mem_drop_iff_getElem.mp he
    rw [hL]
    simpa using (by omega : (n : Int) < ((n + i : ℕ) : Int) + 1)
  · intro e he
    obtain ⟨i, hi, rfl⟩ := List.mem_take_iff_getElem.mp he
    rw [hL]
    simpa using (by omega : ¬(n : Int) < (i : Int) + 1)

/-- The events up to a position. -/
theorem Numbered.filter_upTo (hL : Numbered L) (n : ℕ) :
    (L.filter fun e ↦ position e ≤ n) = L.take n := by
  conv_lhs => rw [← List.take_append_drop n L]
  rw [List.filter_append, List.filter_eq_self.mpr, List.filter_eq_nil_iff.mpr, List.append_nil]
  · intro e he
    obtain ⟨i, hi, rfl⟩ := List.mem_drop_iff_getElem.mp he
    rw [hL]
    simpa using (by omega : ¬((n + i : ℕ) : Int) + 1 ≤ n)
  · intro e he
    obtain ⟨i, hi, rfl⟩ := List.mem_take_iff_getElem.mp he
    rw [hL]
    simpa using (by omega : (i : Int) + 1 ≤ n)

/-- The events between two positions. -/
theorem Numbered.filter_between (hL : Numbered L) (m n : ℕ) :
    (L.filter fun e ↦ (m : Int) < position e ∧ position e ≤ n) = (L.take n).drop m := by
  rw [← (hL.take n).filter_behind, ← hL.filter_upTo, List.filter_filter]
  simp only [Bool.decide_and]

/-- The position of the last event of a window. -/
theorem globalPosition_getLast? (hL : L.Consistent) {cursor n : ℕ} {last : EventEnvelope}
    (h : (LogReader.window L cursor n).getLast? = some last) :
    last.globalPosition = some ((cursor + (LogReader.window L cursor n).length : ℕ) : Int) := by
  rw [List.getLast?_eq_getElem?, LogReader.length_window, LogReader.window] at h
  obtain ⟨hlt, rfl⟩ := List.getElem?_eq_some_iff.mp h
  rw [List.length_take, List.length_drop] at hlt
  rw [List.getElem_take, List.getElem_drop, globalPosition_getElem hL, LogReader.length_window]
  congr 1
  omega

/-- What a page shows of an event. -/
theorem eventResponse_eq_ok {e : EventEnvelope} {r : RuntimeEventResponse} :
    eventResponse H e = .ok r ↔
      IsRuntimeEvent e ∧ e.schemaVersion = 1 ∧ e.globalPosition.isSome ∧ r = responseOf H e := by
  simp only [eventResponse, globalPosition, Checked.bind_eq_ok, Checked.exists_unit,
    Checked.require_eq_ok, Checked.ofOption_eq_ok, Checked.pure_eq_ok]
  constructor
  · rintro ⟨⟨hkind, hversion⟩, cursor, hcursor, rfl⟩
    refine ⟨hkind, hversion, by simp [hcursor], ?_⟩
    simp [responseOf, position, hcursor]
  · rintro ⟨hkind, hversion, hsome, rfl⟩
    obtain ⟨cursor, hcursor⟩ := Option.isSome_iff_exists.mp hsome
    exact ⟨⟨hkind, hversion⟩, cursor, hcursor, by simp [responseOf, position, hcursor]⟩

/-- A page as a window of the ledger. -/
structure IsWindow (H : Host) (L : Ledger) (cursor : ℕ) (limit : Int)
    (page : RuntimeEventPageResponse) : Prop where
  limit_pos : 1 ≤ limit
  afterCursor : page.afterCursor = cursor
  afterBound : isBound cursor
  pageLimit : page.limit = limit
  scanned : page.scannedEvents = (LogReader.window L cursor limit.toNat).length
  events : page.events =
    ((LogReader.window L cursor limit.toNat).filter IsRuntimeEvent).map (responseOf H)
  nextCursor : page.nextCursor = (cursor + (LogReader.window L cursor limit.toNat).length : ℕ)
  hasMore : page.hasMore = true ↔ limit < ((L.length - cursor : ℕ) : Int)

/-- **A page.** A poll that returns reads the next window of the ledger. -/
theorem listEvents_eq_ok (hdb : db.Represents H) {cursor : ℕ} {limit : Int}
    (h : listEvents H db cursor limit = .ok page) : IsWindow H db.ledger cursor limit page := by
  simp only [listEvents, readAll, Checked.bind_eq_ok, Checked.exists_unit, Checked.require_eq_ok,
    Checked.mapError_eq_ok, Checked.pure_eq_ok, (numbered hdb.consistent).filter_behind] at h
  obtain ⟨⟨-, hlimit, -⟩, scanned, ⟨-, ⟨hafter, -⟩, rfl⟩, events, hevents, next, hnext, rfl⟩ := h
  have hwindow : (((db.ledger.drop cursor).take (limit + 1).toNat).take limit.toNat) =
      LogReader.window db.ledger cursor limit.toNat := by
    rw [List.take_take, min_eq_left (by omega), LogReader.window]
  rw [hwindow] at hevents hnext
  have hresponses : events =
      ((LogReader.window db.ledger cursor limit.toNat).filter IsRuntimeEvent).map (responseOf H) := by
    rw [← List.forall₂_eq_eq_eq, List.forall₂_map_right_iff]
    exact ((Checked.mapM_eq_ok.mp hevents).imp fun _ _ h ↦ (eventResponse_eq_ok.mp h).2.2.2).flip
  have hcursor : next = (cursor + (LogReader.window db.ledger cursor limit.toNat).length : ℕ) := by
    unfold nextCursor at hnext
    split at hnext
    case h_1 last hlast =>
      have hposition := globalPosition_getLast? hdb.consistent hlast
      rw [globalPosition, Checked.ofOption_eq_ok, hposition] at hnext
      exact (Option.some.inj hnext).symm
    case h_2 hnone =>
      rw [List.getLast?_eq_none_iff] at hnone
      rw [hnone]
      exact (Except.ok.inj hnext).symm
  refine ⟨hlimit, rfl, hafter, rfl, congrArg List.length hwindow, hresponses, hcursor, ?_⟩
  simp only [decide_eq_true_eq, List.length_take, List.length_drop]
  omega

/-- **A poll returns.** As long as the public events have the schema version that every component of
the runtime writes, a poll within the integers of the database returns a page. -/
theorem exists_listEvents (hdb : db.Represents H)
    (hversion : ∀ e ∈ db.ledger, IsRuntimeEvent e → e.schemaVersion = 1) {cursor : ℕ} (limit : Int)
    (hcursor : isBound cursor) (hlimit : 1 ≤ limit ∧ limit ≤ maxRuntimeEventPageSize) :
    ∃ page, listEvents H db cursor limit = .ok page := by
  have hbound : isBound (limit + 1) = true := by
    unfold maxRuntimeEventPageSize at hlimit
    simp only [isBound, decide_eq_true_eq]
    omega
  set scanned := (db.ledger.filter fun e ↦ (cursor : Int) < position e).take (limit + 1).toNat
    with hscanned
  have hsub : (scanned.take limit.toNat).Sublist db.ledger :=
    (List.take_sublist _ _).trans ((List.take_sublist _ _).trans List.filter_sublist)
  have hsome : ∀ e ∈ db.ledger, e.globalPosition.isSome := fun e he ↦ by
    obtain ⟨i, hi, rfl⟩ := List.getElem_of_mem he
    rw [globalPosition_getElem hdb.consistent hi]
    rfl
  have hresponses : ((scanned.take limit.toNat).filter IsRuntimeEvent).mapM (eventResponse H) =
      .ok (((scanned.take limit.toNat).filter IsRuntimeEvent).map (responseOf H)) := by
    rw [Checked.mapM_eq_ok, List.forall₂_map_right_iff, List.forall₂_same]
    intro e he
    obtain ⟨hmem, hkind⟩ := List.mem_filter.mp he
    have hkind : IsRuntimeEvent e := of_decide_eq_true hkind
    exact eventResponse_eq_ok.mpr
      ⟨hkind, hversion e (hsub.subset hmem) hkind, hsome e (hsub.subset hmem), rfl⟩
  obtain ⟨next, hnext⟩ : ∃ next, nextCursor (scanned.take limit.toNat) cursor = .ok next := by
    unfold nextCursor
    split
    case h_1 last hlast =>
      obtain ⟨p, hp⟩ :=
        Option.isSome_iff_exists.mp (hsome last (hsub.subset (List.mem_of_getLast? hlast)))
      exact ⟨p, by simp [globalPosition, hp]⟩
    case h_2 => exact ⟨_, rfl⟩
  simp only [listEvents, readAll, Checked.bind_eq_ok, Checked.exists_unit, Checked.require_eq_ok,
    Checked.mapError_eq_ok, Checked.pure_eq_ok]
  exact ⟨_, ⟨Int.natCast_nonneg _, hlimit⟩, scanned,
    ⟨⟨Int.natCast_nonneg _, by omega⟩, ⟨hcursor, hbound⟩, rfl⟩, _, hresponses, next, hnext, rfl⟩

/-! ### The check of a page -/

theorem Numbered.pairwise (hL : Numbered L) : L.Pairwise fun x y ↦ position x < position y := by
  rw [List.pairwise_iff_getElem]
  intro i j hi hj hij
  rw [hL, hL]
  omega

/-- Neighbours of a list in which every element is related to the later ones are related. -/
theorem rel_of_mem_zip_tail {α : Type*} {R : α → α → Prop} {l : List α} (h : l.Pairwise R) :
    ∀ p ∈ l.zip l.tail, R p.1 p.2 := by
  intro p hp
  obtain ⟨i, hi, rfl⟩ := List.getElem_of_mem hp
  rw [List.length_zip, List.length_tail] at hi
  rw [List.getElem_zip, List.getElem_tail]
  exact List.pairwise_iff_getElem.mp h _ _ _ _ (by omega)

theorem window_sublist (L : Ledger) (cursor n : ℕ) : (LogReader.window L cursor n).Sublist L :=
  (List.take_sublist _ _).trans (List.drop_sublist _ _)

/-- **The check of the web socket.** It accepts every page that is a window of the ledger. -/
theorem IsWindow.valid (hdb : db.Represents H) (hbound : isBound db.lastPosition) {cursor : ℕ}
    (h : IsWindow H db.ledger cursor webEventPageLimit page) : ValidWebEventPage page cursor := by
  have hlast := hdb.lastPosition
  have hafter := h.afterBound
  have hmore := h.hasMore
  simp only [isBound, decide_eq_true_eq] at hbound hafter
  set window := LogReader.window db.ledger cursor webEventPageLimit.toNat with hwindow
  have hlength : window.length = min 100 (db.ledger.length - cursor) := LogReader.length_window
  have hcursors : page.events.map (·.cursor) = (window.filter IsRuntimeEvent).map position := by
    rw [h.events, List.map_map]
    rfl
  have hids : page.events.map (·.eventId) = (window.filter IsRuntimeEvent).map (·.eventId) := by
    rw [h.events, List.map_map]
    rfl
  have hsub : (window.filter IsRuntimeEvent).Sublist db.ledger :=
    List.filter_sublist.trans (window_sublist _ _ _)
  have hincreasing : (page.events.map (·.cursor)).Pairwise (· < ·) := by
    rw [hcursors, List.pairwise_map]
    exact (numbered hdb.consistent).pairwise.sublist hsub
  have hinside : ∀ e ∈ window, (cursor : Int) < position e ∧
      position e ≤ ((cursor + window.length : ℕ) : Int) := by
    intro e he
    obtain ⟨i, hi, rfl⟩ := List.getElem_of_mem he
    have hbound : cursor + i < db.ledger.length := by omega
    have hgetElem : window[i] = db.ledger[cursor + i] := by
      simp [hwindow, LogReader.window]
    rw [hgetElem, numbered hdb.consistent]
    omega
  unfold ValidWebEventPage
  have hscanned : page.scannedEvents = window.length := h.scanned
  have hnext : page.nextCursor = (cursor + window.length : ℕ) := h.nextCursor
  simp only [h.afterCursor, h.pageLimit, hscanned, hnext]
  have hlimit : webEventPageLimit = 100 := rfl
  rw [hlimit] at hmore
  refine ⟨trivial, trivial, by omega, ?_, by omega, by omega, by omega, by omega, fun hfew ↦ ?_,
    fun hmany ↦ ?_, ?_, rel_of_mem_zip_tail hincreasing, ?_⟩
  · rw [h.events, List.length_map]
    exact List.length_filter_le _ _
  · have hnotMore : ¬page.hasMore = true := fun hmany ↦ by
      have := hmore.mp hmany
      omega
    simpa using hnotMore
  · have := hmore.mp hmany
    omega
  · intro c hc
    rw [hcursors] at hc
    obtain ⟨e, he, rfl⟩ := List.mem_map.mp hc
    exact hinside e (List.mem_filter.mp he).1
  · rw [hids]
    exact hdb.consistent.eventIds.sublist (hsub.map _)

/-! ### The reader -/

/-- What holds of a reader that started behind a position: the invariant of every run. -/
structure Feed.Delivers (H : Host) (start : ℕ) (s : Feed) : Prop where
  represents : s.database.Represents H
  bound : isBound s.database.lastPosition
  exact : ∃ (cursor : ℕ) (read : List EventEnvelope), s.cursor = cursor ∧
    LogReader.Exact s.database.ledger start cursor read ∧
    s.delivered = (read.filter IsRuntimeEvent).map (responseOf H)
  linked : s.pages.map (·.afterCursor) ++ [s.cursor] = (start : Int) :: s.pages.map (·.nextCursor)
  advancing : ∀ page ∈ s.pages, page.afterCursor ≤ page.nextCursor ∧
    (0 < page.scannedEvents → page.afterCursor < page.nextCursor)
  valid : ∀ page ∈ s.pages, page.limit = webEventPageLimit →
    ValidWebEventPage page page.afterCursor

variable {start : ℕ} {s : Feed}

theorem Feed.Delivers.initial (hdb : db.Represents H) (hbound : isBound db.lastPosition)
    (start : ℕ) : Feed.Delivers H start ⟨db, start, []⟩ where
  represents := hdb
  bound := hbound
  exact := ⟨start, [], rfl, .initial _ _, rfl⟩
  linked := rfl
  advancing := nofun
  valid := nofun

/-- A call of the store leaves what was delivered as it is. -/
theorem Feed.Delivers.call (h : s.Delivers H start) (call : EventStore.Call) :
    (s.next H (.call call)).Delivers H start where
  represents := (call.run_keeps h.represents).1
  bound := call.run_bound h.represents h.bound
  exact := by
    obtain ⟨cursor, read, hcursor, hread, hdelivered⟩ := h.exact
    exact ⟨cursor, read, hcursor, hread.grow (call.run_keeps h.represents).2, hdelivered⟩
  linked := h.linked
  advancing := h.advancing
  valid := h.valid

/-- A page delivers the public events of the next window. -/
theorem Feed.Delivers.receive (h : s.Delivers H start) {limit : Int}
    (hpage : listEvents H s.database s.cursor limit = .ok page) :
    Feed.Delivers H start { s with cursor := page.nextCursor, pages := s.pages ++ [page] } := by
  obtain ⟨cursor, read, hcursor, hread, hdelivered⟩ := h.exact
  rw [hcursor] at hpage
  have hwindow := listEvents_eq_ok h.represents hpage
  have hafter : page.afterCursor = s.cursor := hwindow.afterCursor.trans hcursor.symm
  refine ⟨h.represents, h.bound, ⟨_, _, hwindow.nextCursor, hread.advance limit.toNat, ?_⟩, ?_, ?_, ?_⟩
  · rw [Feed.delivered, List.flatMap_append, List.flatMap_singleton, hwindow.events,
      List.filter_append, List.map_append, ← hdelivered]
    rfl
  · rw [List.map_append, List.map_append, List.map_singleton, hafter, h.linked]
    rfl
  · refine List.forall_mem_append.mpr ⟨h.advancing, List.forall_mem_singleton.mpr ?_⟩
    rw [hwindow.afterCursor, hwindow.nextCursor, hwindow.scanned]
    omega
  · refine List.forall_mem_append.mpr ⟨h.valid, List.forall_mem_singleton.mpr fun hlimit ↦ ?_⟩
    obtain rfl : limit = webEventPageLimit := hwindow.pageLimit.symm.trans hlimit
    rw [hwindow.afterCursor]
    exact hwindow.valid h.represents h.bound

/-- **One step.** -/
theorem Feed.Delivers.next (h : s.Delivers H start) (step : Feed.Step) :
    (s.next H step).Delivers H start := by
  cases step with
  | call call => exact h.call call
  | poll limit =>
    rw [Feed.next]
    split
    case h_1 page hpage => exact h.receive hpage
    case h_2 => exact h

/-- A run keeps the invariant. -/
theorem Feed.Delivers.run (h : s.Delivers H start) (steps : List Feed.Step) :
    (s.run H steps).Delivers H start := by
  induction steps generalizing s with
  | nil => exact h
  | cons step steps ih => exact ih (h.next step)

/-- What is promised of a reader that started behind a position. -/
structure Feed.IsExact (H : Host) (start : ℕ) (s : Feed) : Prop where
  /-- The pages show every public event between the start and the cursor once, in order. -/
  delivered : s.delivered = (s.database.ledger.filter fun e ↦
    IsRuntimeEvent e ∧ start < position e ∧ position e ≤ s.cursor).map (responseOf H)
  increasing : (s.delivered.map (·.cursor)).Pairwise (· < ·)
  /-- Each page starts at the next cursor of the page before. -/
  linked : s.pages.map (·.afterCursor) ++ [s.cursor] = (start : Int) :: s.pages.map (·.nextCursor)
  advancing : ∀ page ∈ s.pages, page.afterCursor ≤ page.nextCursor ∧
    (0 < page.scannedEvents → page.afterCursor < page.nextCursor)
  /-- The pages of the web feed pass its check. -/
  valid : ∀ page ∈ s.pages, page.limit = webEventPageLimit →
    ValidWebEventPage page page.afterCursor

theorem Feed.Delivers.isExact (h : s.Delivers H start) : s.IsExact H start := by
  obtain ⟨cursor, read, hcursor, hread, hdelivered⟩ := h.exact
  have hread' : read.filter IsRuntimeEvent = s.database.ledger.filter fun e ↦
      IsRuntimeEvent e ∧ start < position e ∧ position e ≤ s.cursor := by
    rw [hread.between, ← (numbered h.represents.consistent).filter_between, List.filter_filter,
      hcursor]
    simp only [Bool.decide_and]
  refine ⟨hread' ▸ hdelivered, ?_, h.linked, h.advancing, h.valid⟩
  rw [hdelivered, hread', List.map_map, List.pairwise_map]
  exact (numbered h.represents.consistent).pairwise.sublist List.filter_sublist

/-- A poll moves the cursor, unless the reader is at the end of the ledger. -/
theorem Feed.Delivers.poll_advances (h : s.Delivers H start)
    (hversion : ∀ e ∈ s.database.ledger, IsRuntimeEvent e → e.schemaVersion = 1) {limit : Int}
    (hlimit : 1 ≤ limit ∧ limit ≤ maxRuntimeEventPageSize) :
    min (s.database.ledger.length : Int) (s.cursor + 1) ≤ (s.next H (.poll limit)).cursor := by
  obtain ⟨cursor, -, hcursor, -⟩ := h.exact
  rw [Feed.next]
  split
  case h_1 page hpage =>
    rw [hcursor] at hpage
    dsimp only
    rw [(listEvents_eq_ok h.represents hpage).nextCursor, LogReader.length_window, hcursor]
    omega
  case h_2 error herror =>
    -- only a cursor that is not an integer of the database is refused
    have hlarge : ¬isBound s.cursor = true := fun hbound ↦ by
      rw [hcursor] at hbound herror
      obtain ⟨page, hpage⟩ := exists_listEvents h.represents hversion _ hbound hlimit
      exact absurd (hpage.symm.trans herror) nofun
    have hlast := h.represents.lastPosition
    have hbound := h.bound
    simp only [isBound, decide_eq_true_eq] at hlarge hbound
    omega

/-- Enough polls bring the reader to the end of the ledger. -/
theorem Feed.Delivers.catchUp (h : s.Delivers H start)
    (hversion : ∀ e ∈ s.database.ledger, IsRuntimeEvent e → e.schemaVersion = 1) {limits : List Int}
    (hlimits : ∀ limit ∈ limits, 1 ≤ limit ∧ limit ≤ maxRuntimeEventPageSize) :
    (s.run H (limits.map .poll)).database = s.database ∧
      min (s.database.ledger.length : Int) (s.cursor + limits.length) ≤
        (s.run H (limits.map .poll)).cursor := by
  induction limits generalizing s with
  | nil => exact ⟨rfl, by simp [Feed.run]⟩
  | cons limit limits ih =>
    rw [List.forall_mem_cons] at hlimits
    have hsame : (s.next H (.poll limit)).database = s.database := by
      rw [Feed.next]
      split <;> rfl
    have hfirst := h.poll_advances hversion hlimits.1
    obtain ⟨hdatabase, hcursor⟩ := ih (h.next (.poll limit)) (hsame.symm ▸ hversion) hlimits.2
    refine ⟨hdatabase.trans hsame, ?_⟩
    rw [hsame] at hcursor
    change _ ≤ (Feed.run H (s.next H (.poll limit)) (limits.map .poll)).cursor
    rw [List.length_cons]
    push_cast
    omega

/-- After enough polls, every public event behind the start is delivered. -/
theorem Feed.Delivers.complete (h : s.Delivers H start)
    (hversion : ∀ e ∈ s.database.ledger, IsRuntimeEvent e → e.schemaVersion = 1) {limits : List Int}
    (hlimits : ∀ limit ∈ limits, 1 ≤ limit ∧ limit ≤ maxRuntimeEventPageSize)
    (henough : (s.database.ledger.length : Int) ≤ s.cursor + limits.length) :
    (s.run H (limits.map .poll)).delivered = (s.database.ledger.filter fun e ↦
      IsRuntimeEvent e ∧ start < position e).map (responseOf H) := by
  obtain ⟨hdatabase, hcursor⟩ := h.catchUp hversion hlimits
  rw [(h.run (limits.map .poll)).isExact.delivered, hdatabase]
  congr 1
  refine List.filter_congr fun e he ↦ ?_
  obtain ⟨i, hi, rfl⟩ := List.getElem_of_mem he
  have hposition := numbered h.represents.consistent i hi
  rw [decide_eq_decide]
  refine and_congr_right fun _ ↦ and_iff_left_of_imp fun _ ↦ ?_
  omega

/-! ### The web socket -/

/-- A turn of the loop as a step of the reader. -/
def WebFeed.Step.toFeed : WebFeed.Step → Feed.Step
  | .call c => .call c
  | .poll => .poll webEventPageLimit

/-- What holds of the socket: the pages that it did not send show nothing. -/
structure WebFeed.Delivers (H : Host) (start : ℕ) (w : WebFeed) : Prop where
  feed : w.toFeed.Delivers H start
  sent : w.sent.flatMap (·.events) = w.delivered

theorem WebFeed.Delivers.next {w : WebFeed} (h : w.Delivers H start) (step : WebFeed.Step) :
    (w.next H step).Delivers H start := by
  cases step with
  | call call => exact ⟨h.feed.call call, h.sent⟩
  | poll =>
    rw [WebFeed.next, WebFeed.poll]
    split
    case isTrue => exact h
    case isFalse =>
      split
      case h_1 => exact ⟨h.feed, h.sent⟩
      case h_2 page hpage =>
        split
        case isTrue => exact ⟨h.feed, h.sent⟩
        case isFalse =>
          refine ⟨h.feed.receive hpage, ?_⟩
          have hdelivered : w.delivered ++ page.events =
              (w.pages ++ [page]).flatMap (·.events) := by
            rw [List.flatMap_append, List.flatMap_singleton]
            rfl
          refine Eq.trans ?_ hdelivered
          dsimp only
          split
          case isTrue => rw [List.flatMap_append, List.flatMap_singleton, h.sent]
          case isFalse hskip =>
            have hempty : page.events = [] := by
              by_contra hne
              exact hskip (.inr (.inr hne))
            rw [h.sent, hempty, List.append_nil]

theorem WebFeed.Delivers.run {w : WebFeed} (h : w.Delivers H start) (steps : List WebFeed.Step) :
    (w.run H steps).Delivers H start := by
  induction steps generalizing w with
  | nil => exact h
  | cons step steps ih => exact ih (h.next step)

/-- The page that the socket is about to check passes. -/
theorem WebFeed.Delivers.valid {w : WebFeed} (h : w.Delivers H start)
    (hpage : listEvents H w.database w.cursor webEventPageLimit = .ok page) :
    ValidWebEventPage page w.cursor := by
  obtain ⟨cursor, -, hcursor, -⟩ := h.feed.exact
  rw [hcursor] at hpage ⊢
  exact (listEvents_eq_ok h.feed.represents hpage).valid h.feed.represents h.feed.bound

/-- The socket stays open, and is the reader with its page limit. -/
theorem WebFeed.Delivers.open_next {w : WebFeed} (h : w.Delivers H start) (hopen : w.closed = false)
    (hstart : isBound start)
    (hversion : ∀ e ∈ w.database.ledger, IsRuntimeEvent e → e.schemaVersion = 1)
    (step : WebFeed.Step) :
    (w.next H step).closed = false ∧ (w.next H step).toFeed = w.toFeed.next H step.toFeed := by
  cases step with
  | call call => exact ⟨hopen, rfl⟩
  | poll =>
    obtain ⟨cursor, _, hcursor, hexact, -⟩ := h.feed.exact
    have hbound : isBound (cursor : Int) := by
      have hlast := h.feed.represents.lastPosition
      have hbound := h.feed.bound
      rcases hexact.inside with rfl | hinside
      · exact hstart
      · simp only [isBound, decide_eq_true_eq] at hbound ⊢
        omega
    obtain ⟨page, hpage⟩ :=
      exists_listEvents h.feed.represents hversion webEventPageLimit hbound (by decide)
    rw [← hcursor] at hpage
    have hvalid := h.valid hpage
    simp [WebFeed.next, WebFeed.poll, hopen, hpage, hvalid, WebFeed.Step.toFeed, Feed.next]

/-- A step of the socket keeps what is stored. -/
theorem WebFeed.Delivers.ledger_next {w : WebFeed} (h : w.Delivers H start) (step : WebFeed.Step) :
    w.database.ledger <+: (w.next H step).database.ledger := by
  cases step with
  | call call => exact (call.run_keeps h.feed.represents).2
  | poll =>
    have hsame : (w.next H .poll).database = w.database := by
      rw [WebFeed.next, WebFeed.poll]
      repeat' split
      all_goals rfl
    rw [hsame]

/-- The socket stays open in every run, and is the reader of the same run. -/
theorem WebFeed.Delivers.open_run {w : WebFeed} (h : w.Delivers H start) (hopen : w.closed = false)
    (hstart : isBound start) (steps : List WebFeed.Step)
    (hversion : ∀ e ∈ (w.run H steps).database.ledger, IsRuntimeEvent e → e.schemaVersion = 1) :
    (w.run H steps).closed = false ∧
      (w.run H steps).toFeed = w.toFeed.run H (steps.map (·.toFeed)) := by
  induction steps using List.reverseRecOn with
  | nil => exact ⟨hopen, rfl⟩
  | append_singleton steps step ih =>
    have hrun : w.run H (steps ++ [step]) = (w.run H steps).next H step := by
      rw [WebFeed.run, List.foldl_append]
      rfl
    rw [hrun] at hversion ⊢
    have hbefore := h.run steps
    have hversion' : ∀ e ∈ (w.run H steps).database.ledger, IsRuntimeEvent e →
        e.schemaVersion = 1 :=
      fun e he ↦ hversion e ((hbefore.ledger_next step).subset he)
    obtain ⟨hopen', hfeed⟩ := ih hversion'
    obtain ⟨hnext, hstep⟩ := hbefore.open_next hopen' hstart hversion' step
    refine ⟨hnext, ?_⟩
    rw [hstep, hfeed, Feed.run, Feed.run, List.map_append, List.foldl_append]
    rfl

/-- **The event feed is exact.** In every interleaving of calls of the store with polls that start
at the next cursor of the page before: the pages show every public event between the start and the
cursor exactly once and in order; the next cursor never moves back, and moves whenever an event was
scanned; and, the public events having the one schema version that is written, enough polls deliver
every public event behind the start. On the web socket every page passes the check, the pages that
are sent show what was delivered, and the socket is never closed for a failure of its source. -/
theorem event_feed_exact (H : Host) (calls : List EventStore.Call) (start : ℕ) :
    let s₀ : Feed := ⟨EventStore.after H Database.initial calls, start, []⟩
    (∀ steps, let s := s₀.run H steps
      s.IsExact H start ∧
      ((∀ e ∈ s.database.ledger, IsRuntimeEvent e → e.schemaVersion = 1) →
        ∀ limits : List Int, (∀ limit ∈ limits, 1 ≤ limit ∧ limit ≤ maxRuntimeEventPageSize) →
          (s.database.ledger.length : Int) ≤ s.cursor + limits.length →
          (s.run H (limits.map .poll)).delivered = (s.database.ledger.filter fun e ↦
            IsRuntimeEvent e ∧ start < position e).map (responseOf H))) ∧
    ∀ steps, let w := WebFeed.run H ⟨s₀, true, [], false⟩ steps
      w.IsExact H start ∧ w.sent.flatMap (·.events) = w.delivered ∧
      (∀ page, listEvents H w.database w.cursor webEventPageLimit = .ok page →
        ValidWebEventPage page w.cursor) ∧
      ((∀ e ∈ w.database.ledger, IsRuntimeEvent e → e.schemaVersion = 1) → isBound start →
        w.closed = false ∧ w.toFeed = s₀.run H (steps.map (·.toFeed))) := by
  intro s₀
  have hinitial := Database.Represents.initial H
  have h₀ : s₀.Delivers H start := .initial (EventStore.after_keeps calls hinitial).1
    (EventStore.after_bound calls hinitial (by decide)) start
  have hw₀ : WebFeed.Delivers H start ⟨s₀, true, [], false⟩ := ⟨h₀, rfl⟩
  constructor
  · intro steps s
    have h := h₀.run steps
    exact ⟨h.isExact, fun hversion limits hlimits henough ↦ h.complete hversion hlimits henough⟩
  · intro steps w
    have h := hw₀.run steps
    exact ⟨h.feed.isExact, h.sent, fun page hpage ↦ h.valid hpage,
      fun hversion hstart ↦ hw₀.open_run rfl hstart steps hversion⟩

/-! ### A feed of three events -/

namespace Feed.Sample

/-- SHA-256 on the empty payload, and the time of the events. -/
def host : Host := .ofTables
  [(.object [],
      hexText 0x44136fa355b3678a1146ad16f7e8649e94fb4fc21fe77e8310c060f61caaff8a)]
  [] [(1767225600000000, "2026-01-01T00:00:00+00:00")]

/-- An event of a kind with an identifier and a sequence number. -/
def event (eventId eventType : String) (sequence : Int) : EventEnvelope where
  eventId := eventId
  streamId := "run:1"
  streamSequence := sequence
  eventType := eventType
  schemaVersion := 1
  recordedAt := 1767225600000000
  effectiveAt := 1767225600000000
  correlationId := "run-1"
  causationId := none
  actor := "worker-1"
  source := "runtime"
  payload := []
  idempotencyKey := none
  globalPosition := none

/-- The appends of two public events and of one that is not shown. -/
def appends : List EventStore.Call := [.append (event "e-1" "run.queued" 1) 0,
  .append (event "e-2" "execution.task.ready" 2) 1, .append (event "e-3" "run.canceled" 3) 2]

/-- A poll falls between the appends. -/
def steps : List Feed.Step := match appends with
  | first :: rest => [.call first, .poll 1] ++ rest.map .call
  | [] => []

end Feed.Sample

/-- In the sample two further polls deliver the rest, and the web socket stays open. -/
theorem event_feed_exact_sample :
    ((Feed.run Feed.Sample.host ⟨Database.initial, 0, []⟩ Feed.Sample.steps).run Feed.Sample.host
        [.poll 1, .poll 1]).delivered.map (·.eventId) = ["e-1", "e-3"] ∧
      (WebFeed.run Feed.Sample.host ⟨⟨Database.initial, 0, []⟩, true, [], false⟩
        (.poll :: Feed.Sample.appends.map .call ++ [.poll])).closed = false := by
  obtain ⟨hfeed, hweb⟩ := event_feed_exact Feed.Sample.host [] 0
  have hopen := ((hweb (.poll :: Feed.Sample.appends.map .call ++ [.poll])).2.2.2 (by decide +kernel)
    (by decide)).1
  refine ⟨?_, hopen⟩
  have hcomplete := (hfeed Feed.Sample.steps).2 (by decide +kernel) [1, 1] (by decide)
    (by decide +kernel)
  rw [show ([.poll 1, .poll 1] : List Feed.Step) = [1, 1].map .poll from rfl]
  refine (congrArg (List.map (·.eventId)) hcomplete).trans ?_
  decide +kernel

end Blackcell.Bootstrap
