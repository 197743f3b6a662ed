import Blackcell.Kernel.Consistency
import Blackcell.Kernel.Database

/-!
# The event store over its tables

The calls `append` and `append_many` of `kernel/store.py`, statement by statement on the tables of
the database, in a transaction that is committed when the call returns and rolled back when it
raises. In every run of such calls the tables agree with each other and with a consistent ledger,
and each accepted call is the accepted call of the abstract ledger (`Ledger.appendMany`), which the
rest of the runtime is modelled over.

## Main definitions

* `EventStore.Call` : the calls.
* `EventStore.appendMany`, `EventStore.append` : the calls on the tables.
* `EventStore.Stored` : what the stored rows satisfy after every call.

## Main results

* `EventStore.refines_appendMany` : an accepted call on the tables is an accepted call on the ledger.
* `EventStore.calls_keep_representation` : every run of calls.
-/

namespace Blackcell.Kernel

open Transaction

namespace EventStore

variable (H : Host)

/-- `_insert_event`: an integrity error is reported as a conflict. -/
def insertEvent (e : EventEnvelope) : Transaction Database DatabaseError EventEnvelope := do
  let position ← (Database.insertRow H e).mapError fun error ↦
    if error = .integrity then .store .conflict else error
  pure { e with globalPosition := some position }

/-- A stream of a batch: its identifier, its events, its `current_sequence` before the call, and
the length of its committed prefix. -/
structure StreamEvents where
  streamId : String
  events : List Ledger.Candidate
  currentSequence : Int
  committedPrefix : ℕ

/-- `_validate_append_request`. -/
def validateAppendRequest (batch : List EventEnvelope) (expectedSequences : List (String × Int)) :
    Except StoreError PUnit :=
  Checked.forEach batch fun e ↦
    Checked.require ((expectedSequences.lookup e.streamId).any (0 ≤ ·)) StoreError.value

/-- The row of a stream that has no events yet. -/
def registerStream (streamId : String) (actual : Int) : Transaction Database DatabaseError PUnit :=
  if actual = 0 then Database.insertStream streamId else pure ⟨⟩

/-- The checks of one stream of a batch, and its row when it is new. -/
def openStream (expectedSequences : List (String × Int)) (events : List Ledger.Candidate)
    (streamId : String) : Transaction Database DatabaseError StreamEvents := do
  let streamEvents := events.filter fun p ↦ p.1.streamId = streamId
  let expected := (expectedSequences.lookup streamId).getD 0
  let actual ← read fun db ↦ db.currentSequence streamId
  check fun _ ↦ (Ledger.validateBatchStream expected actual streamEvents).mapError DatabaseError.store
  registerStream streamId actual
  pure ⟨streamId, streamEvents, actual, Ledger.committedPrefix streamEvents⟩

/-- Insert an event of a batch, unless it is already stored. -/
def appendCandidate (p : Ledger.Candidate) : Transaction Database DatabaseError EventEnvelope :=
  match p.2 with
  | some stored => pure stored
  | none => insertEvent H p.1

/-- The number of the new events of a stream. -/
def StreamEvents.newCount (stream : StreamEvents) : ℕ :=
  stream.events.length - stream.committedPrefix

/-- Count the new events of a stream. -/
def advanceStream (stream : StreamEvents) : Transaction Database DatabaseError PUnit :=
  if stream.newCount = 0 then
    pure ⟨⟩
  else do
    let required := stream.currentSequence + stream.newCount
    let changed ← Database.updateStream required stream.streamId stream.currentSequence
    check fun _ ↦ Checked.require (changed = 1) (DatabaseError.store .concurrency)

/-- `append_many_in_transaction`. -/
def appendManyInTransaction (batch : List EventEnvelope) (expectedSequences : List (String × Int)) :
    Transaction Database DatabaseError (List EventEnvelope) := do
  if batch = [] then
    pure []
  else
    check fun _ ↦ (validateAppendRequest batch expectedSequences).mapError DatabaseError.store
    let existing ← check fun db ↦ batch.mapM (db.idempotentEvent H)
    if existing.all Option.isSome then
      check fun _ ↦
        Checked.require (Ledger.existingInOrder existing.reduceOption) (DatabaseError.store .sequence)
      pure existing.reduceOption
    else
      let events := batch.zip existing
      let grouped ← mapEach (openStream expectedSequences events) (batch.map (·.streamId)).dedup
      let appended ← mapEach (appendCandidate H) events
      let _ ← mapEach advanceStream grouped
      pure appended

/-- `append_many`. -/
def appendMany (batch : List EventEnvelope) (expectedSequences : List (String × Int)) :
    Transaction Database DatabaseError (List EventEnvelope) :=
  if batch = [] then pure []
  else atomically (appendManyInTransaction H batch expectedSequences)

/-- `append`. -/
def append (e : EventEnvelope) (expectedSequence : Int) :
    Transaction Database DatabaseError EventEnvelope := do
  match ← appendMany H [e] [(e.streamId, expectedSequence)] with
  | x :: _ => pure x
  | [] => check fun _ ↦ .error .index

/-- A call of the store. -/
inductive Call where
  | append (event : EventEnvelope) (expectedSequence : Int)
  | appendMany (events : List EventEnvelope) (expectedSequences : List (String × Int))

/-- The events of a call. -/
def Call.batch : Call → List EventEnvelope
  | append event _ => [event]
  | appendMany events _ => events

/-- Perform a call, which returns stored events. -/
def Call.run : Call → Transaction Database DatabaseError (List EventEnvelope)
  | append event expectedSequence => do
    let x ← EventStore.append H event expectedSequence
    pure [x]
  | appendMany events expectedSequences => EventStore.appendMany H events expectedSequences

/-- The tables after a sequence of calls, each of which may raise. -/
def after (db : Database) (calls : List Call) : Database :=
  calls.foldl (fun db call ↦ (call.run H db).2) db

/-! ### Refinement -/

variable {H} {db db' : Database}

theorem mapError_store_eq_ok {α : Type} {x : Except StoreError α} {a : α} :
    x.mapError DatabaseError.store = .ok a ↔ x = .ok a := by
  cases x <;> simp [Except.mapError]

/-- The stored event of an earlier request is that of the ledger. -/
theorem idempotentEvent_eq (hdb : db.Rows H) (e : EventEnvelope) :
    db.idempotentEvent H e = (Ledger.idempotentEvent H db.ledger e).mapError DatabaseError.store := by
  unfold Database.idempotentEvent Ledger.idempotentEvent
  cases hkey : e.idempotencyKey with
  | none => rfl
  | some key =>
    have hfind : (db.ledger.readStream e.streamId).find? (fun x ↦ x.idempotencyKey = some key) =
        (db.kernelEvents.find? fun row ↦ row.event.streamId = e.streamId ∧
          row.event.idempotencyKey = some key).map (·.event) := by
      rw [Ledger.readStream, Database.ledger, List.find?_filter, List.find?_map]
      simp [Function.comp_def]
    simp only [hfind]
    cases hrow : db.kernelEvents.find? fun row ↦ row.event.streamId = e.streamId ∧
        row.event.idempotencyKey = some key with
    | none => rfl
    | some row =>
      have hrowkey : row.event.idempotencyKey = some key := by
        have h := List.find?_some hrow
        simp only [Bool.decide_and, Bool.and_eq_true, decide_eq_true_eq] at h
        exact h.2
      have hhash : row.idempotencyHash = some (row.event.idempotencyHash H) := by
        rw [hdb.hashes row (List.mem_of_find?_eq_some hrow), hrowkey, Option.map_some]
      simp only [hhash, Option.some.injEq, Option.map_some]
      split <;> rfl

theorem idempotentEvent_eq_ok (hdb : db.Rows H) {e : EventEnvelope} {x : Option EventEnvelope} :
    db.idempotentEvent H e = .ok x ↔ Ledger.idempotentEvent H db.ledger e = .ok x := by
  rw [idempotentEvent_eq hdb, mapError_store_eq_ok]

theorem insertEvent_eq_ok (hdb : db.Rows H) {e x : EventEnvelope}
    (h : insertEvent H e db = (.ok x, db')) :
    db'.Rows H ∧ db'.eventStreams = db.eventStreams ∧
      Ledger.insertEvent db.ledger e = .ok (x, db'.ledger) := by
  simp only [insertEvent, bind_eq_ok, mapError_eq_ok, pure_eq_ok] at h
  obtain ⟨position, _, hrow, rfl, rfl⟩ := h
  exact Database.insertRow_eq_ok hdb hrow

/-- The insertion of a batch is that of the ledger. -/
theorem mapEach_appendCandidate (hdb : db.Rows H) {events : List Ledger.Candidate}
    {r : List EventEnvelope} (h : mapEach (appendCandidate H) events db = (.ok r, db')) :
    db'.Rows H ∧ db'.eventStreams = db.eventStreams ∧
      Ledger.insertBatch db.ledger events = .ok (r, db'.ledger) := by
  induction events generalizing db r with
  | nil =>
    simp only [mapEach, pure_eq_ok] at h
    obtain ⟨rfl, rfl⟩ := h
    exact ⟨hdb, rfl, rfl⟩
  | cons p events ih =>
    simp only [mapEach, bind_eq_ok, pure_eq_ok] at h
    obtain ⟨x, db₁, hx, xs, db₂, hxs, rfl, rfl⟩ := h
    obtain ⟨e, _ | stored⟩ := p
    case none =>
      obtain ⟨hdb₁, hstreams, hinsert⟩ := insertEvent_eq_ok hdb hx
      obtain ⟨hdb₂, hstreams', htail⟩ := ih hdb₁ hxs
      exact ⟨hdb₂, hstreams'.trans hstreams, by simp [Ledger.insertBatch, hinsert, htail]⟩
    case some =>
      simp only [appendCandidate, pure_eq_ok] at hx
      obtain ⟨rfl, rfl⟩ := hx
      obtain ⟨hdb₂, hstreams, htail⟩ := ih hdb hxs
      exact ⟨hdb₂, hstreams, by simp [Ledger.insertBatch, htail]⟩

/-- What a batch needs of a stream, when its checks have passed. -/
structure Opened (db : Database) (expectedSequences : List (String × Int))
    (events : List Ledger.Candidate) (stream : StreamEvents) : Prop where
  candidates : stream.events = events.filter fun p ↦ p.1.streamId = stream.streamId
  current : stream.currentSequence = db.currentSequence stream.streamId
  committed : stream.committedPrefix = Ledger.committedPrefix stream.events
  validated : Ledger.validateBatchStream ((expectedSequences.lookup stream.streamId).getD 0)
    (db.currentSequence stream.streamId) stream.events = .ok ⟨⟩

/-- The tables before and after a statement about streams that are not counted anew. -/
structure SameSequences (db db' : Database) : Prop where
  rows : Database.SameRows db db'
  streams (s : String) : db'.currentSequence s = db.currentSequence s
  streamIds : (db.eventStreams.map (·.1)).Nodup → (db'.eventStreams.map (·.1)).Nodup

theorem openStream_eq_ok {expectedSequences : List (String × Int)} {events : List Ledger.Candidate}
    {streamId : String} {stream : StreamEvents}
    (h : openStream expectedSequences events streamId db = (.ok stream, db')) :
    stream.streamId = streamId ∧ Opened db expectedSequences events stream ∧
      SameSequences db db' := by
  simp only [openStream, bind_eq_ok, read_eq_ok, check_eq_ok, mapError_store_eq_ok, pure_eq_ok] at h
  obtain ⟨actual, _, ⟨rfl, rfl⟩, _, _, ⟨hvalidated, rfl⟩, u, db₁, hopen, rfl, rfl⟩ := h
  refine ⟨rfl, ⟨rfl, rfl, rfl, hvalidated⟩, ?_⟩
  unfold registerStream at hopen
  split at hopen
  case isTrue =>
    obtain ⟨hrows, hstreams, hids⟩ := Database.insertStream_eq_ok hopen
    exact ⟨hrows, hstreams, hids⟩
  case isFalse =>
    simp only [pure_eq_ok] at hopen
    obtain ⟨-, rfl⟩ := hopen
    exact ⟨.refl _, fun _ ↦ rfl, id⟩

theorem SameSequences.refl (db : Database) : SameSequences db db :=
  ⟨.refl db, fun _ ↦ rfl, id⟩

theorem SameSequences.trans {db'' : Database} (h : SameSequences db db')
    (h' : SameSequences db' db'') : SameSequences db db'' :=
  ⟨h.rows.trans h'.rows, fun s ↦ (h'.streams s).trans (h.streams s), h'.streamIds ∘ h.streamIds⟩

theorem mapEach_openStream {expectedSequences : List (String × Int)}
    {events : List Ledger.Candidate} {streamIds : List String} {grouped : List StreamEvents}
    (h : mapEach (openStream expectedSequences events) streamIds db = (.ok grouped, db')) :
    grouped.map (·.streamId) = streamIds ∧ (∀ g ∈ grouped, Opened db expectedSequences events g) ∧
      SameSequences db db' := by
  induction streamIds generalizing db grouped with
  | nil =>
    simp only [mapEach, pure_eq_ok] at h
    obtain ⟨rfl, rfl⟩ := h
    exact ⟨rfl, by simp, .refl _⟩
  | cons streamId streamIds ih =>
    simp only [mapEach, bind_eq_ok, pure_eq_ok] at h
    obtain ⟨stream, db₁, hopen, rest, db₂, hrest, rfl, rfl⟩ := h
    obtain ⟨rfl, hopened, hsame⟩ := openStream_eq_ok hopen
    obtain ⟨rfl, hrest, hsame'⟩ := ih hrest
    refine ⟨rfl, List.forall_mem_cons.mpr ⟨hopened, fun g hg ↦ ?_⟩, hsame.trans hsame'⟩
    have hg := hrest g hg
    exact ⟨hg.candidates, hg.current.trans (hsame.streams _), hg.committed,
      hsame.streams _ ▸ hg.validated⟩

theorem advanceStream_eq_ok {stream : StreamEvents} {u : PUnit}
    (hcurrent : stream.currentSequence = db.currentSequence stream.streamId)
    (h : advanceStream stream db = (.ok u, db')) :
    Database.SameRows db db' ∧ db'.eventStreams.map (·.1) = db.eventStreams.map (·.1) ∧
      db'.currentSequence stream.streamId = stream.currentSequence + stream.newCount ∧
      ∀ s, s ≠ stream.streamId → db'.currentSequence s = db.currentSequence s := by
  unfold advanceStream at h
  split at h
  case isTrue hzero =>
    simp only [pure_eq_ok] at h
    obtain ⟨-, rfl⟩ := h
    exact ⟨.refl _, rfl, by simp [hzero, hcurrent], fun _ _ ↦ rfl⟩
  case isFalse =>
    simp only [bind_eq_ok, check_eq_ok, Checked.require_eq_ok] at h
    obtain ⟨changed, db₁, hupdate, hchanged, rfl⟩ := h
    obtain ⟨hrows, hids, hothers, hthis⟩ := Database.updateStream_eq_ok hupdate
    exact ⟨hrows, hids, hthis hchanged hcurrent.symm, hothers⟩

theorem mapEach_advanceStream {grouped : List StreamEvents} {us : List PUnit}
    (hnodup : (grouped.map (·.streamId)).Nodup)
    (hcurrent : ∀ g ∈ grouped, g.currentSequence = db.currentSequence g.streamId)
    (h : mapEach advanceStream grouped db = (.ok us, db')) :
    Database.SameRows db db' ∧ db'.eventStreams.map (·.1) = db.eventStreams.map (·.1) ∧
      (∀ g ∈ grouped, db'.currentSequence g.streamId = g.currentSequence + g.newCount) ∧
      ∀ s, (∀ g ∈ grouped, g.streamId ≠ s) → db'.currentSequence s = db.currentSequence s := by
  induction grouped generalizing db us with
  | nil =>
    simp only [mapEach, pure_eq_ok] at h
    obtain ⟨-, rfl⟩ := h
    exact ⟨.refl _, rfl, by simp, fun _ _ ↦ rfl⟩
  | cons g grouped ih =>
    simp only [mapEach, bind_eq_ok, pure_eq_ok] at h
    obtain ⟨_, db₁, hg, _, db₂, hrest, -, rfl⟩ := h
    rw [List.map_cons, List.nodup_cons] at hnodup
    rw [List.forall_mem_cons] at hcurrent
    obtain ⟨hrows, hids, hthis, hothers⟩ := advanceStream_eq_ok hcurrent.1 hg
    have hne : ∀ g' ∈ grouped, g'.streamId ≠ g.streamId := fun g' hg' heq ↦
      hnodup.1 (heq ▸ List.mem_map_of_mem hg')
    obtain ⟨hrows', hids', hgrouped, hothers'⟩ := ih hnodup.2
      (fun g' hg' ↦ (hcurrent.2 g' hg').trans (hothers _ (hne g' hg')).symm) hrest
    refine ⟨hrows.trans hrows', hids'.trans hids, List.forall_mem_cons.mpr ⟨?_, hgrouped⟩, ?_⟩
    · rw [hothers' _ fun g' hg' ↦ hne g' hg', hthis]
    · intro s hs
      rw [List.forall_mem_cons] at hs
      rw [hothers' s hs.2, hothers s (Ne.symm hs.1)]

/-- The new events of a stream of the batch are counted. -/
theorem Opened.newCount {expectedSequences : List (String × Int)} {events : List Ledger.Candidate}
    {stream : StreamEvents} (h : Opened db expectedSequences events stream) :
    stream.newCount = (Ledger.newOf stream.streamId events).length := by
  obtain ⟨-, -, hnew⟩ := Ledger.validateBatchStream_eq_ok h.validated
  rw [Ledger.newOf_eq_filter, ← h.candidates, hnew, List.length_drop, StreamEvents.newCount,
    h.committed]

/-- **Refinement.** An accepted call on the tables is an accepted call on the ledger that they hold,
with the same result, and it keeps the representation. -/
theorem refines_appendMany {batch r : List EventEnvelope}
    {expectedSequences : List (String × Int)} (hdb : db.Represents H)
    (h : appendManyInTransaction H batch expectedSequences db = (.ok r, db')) :
    Ledger.appendMany H db.ledger batch expectedSequences = .ok (r, db'.ledger) ∧
      db'.Represents H := by
  unfold appendManyInTransaction at h
  split at h
  case isTrue hbatch =>
    simp only [pure_eq_ok] at h
    obtain ⟨rfl, rfl⟩ := h
    exact ⟨by simp [Ledger.appendMany, hbatch], hdb⟩
  case isFalse hbatch =>
    simp only [bind_eq_ok, check_eq_ok, mapError_store_eq_ok] at h
    obtain ⟨_, _, ⟨hrequest, rfl⟩, existing, _, ⟨hexisting, rfl⟩, h⟩ := h
    have hexisting : batch.mapM (Ledger.idempotentEvent H db.ledger) = .ok existing :=
      Checked.mapM_eq_ok.mpr
        ((Checked.mapM_eq_ok.mp hexisting).imp fun _ _ ↦ (idempotentEvent_eq_ok hdb.toRows).mp)
    rw [validateAppendRequest] at hrequest
    split at h
    case isTrue hall =>
      simp only [bind_eq_ok, check_eq_ok, pure_eq_ok, Checked.require_eq_ok] at h
      obtain ⟨_, _, ⟨horder, rfl⟩, rfl, rfl⟩ := h
      refine ⟨?_, hdb⟩
      rw [Ledger.appendMany, if_neg hbatch, hrequest, Checked.ok_bind, hexisting, Checked.ok_bind,
        if_pos hall, Checked.require_bind_of_true horder, Checked.pure_eq_ok]
    case isFalse hall =>
      simp only [bind_eq_ok, pure_eq_ok] at h
      obtain ⟨grouped, db₁, hopen, appended, db₂, hinsert, _, db₃, hadvance, rfl, rfl⟩ := h
      obtain ⟨hids, hopened, hsame⟩ := mapEach_openStream hopen
      obtain ⟨hrows, hstreams, hbatchL⟩ :=
        mapEach_appendCandidate (hdb.toRows.of_sameRows hsame.rows) hinsert
      rw [hsame.rows.ledger] at hbatchL
      have hcurrent (s : String) : db₂.currentSequence s = db.currentSequence s := by
        rw [Database.currentSequence, hstreams]
        exact hsame.streams s
      obtain ⟨hrows', hids', hgrouped, hothers⟩ :=
        mapEach_advanceStream (hids ▸ List.nodup_dedup _)
          (fun g hg ↦ (hopened g hg).current.trans (hcurrent _).symm) hadvance
      have hvalid : Checked.forEach (batch.map (·.streamId)).dedup (fun streamId ↦
          Ledger.validateBatchStream ((expectedSequences.lookup streamId).getD 0)
            (db.ledger.currentSequence streamId)
            ((batch.zip existing).filter fun p ↦ p.1.streamId = streamId)) = .ok ⟨⟩ := by
        refine Checked.forEach_eq_ok.mpr fun streamId hmem ↦ ?_
        obtain ⟨g, hg, rfl⟩ := List.mem_map.mp (hids ▸ hmem)
        rw [← hdb.streams, ← (hopened g hg).candidates]
        exact (hopened g hg).validated
      have hledger : Ledger.appendMany H db.ledger batch expectedSequences =
          .ok (appended, db₂.ledger) := by
        rw [Ledger.appendMany, if_neg hbatch, hrequest, Checked.ok_bind, hexisting, Checked.ok_bind,
          if_neg hall]
        simp only [hvalid, Checked.ok_bind, hbatchL]
      rw [← hrows'.ledger] at hledger hbatchL
      refine ⟨hledger, ⟨hrows.of_sameRows hrows', ?_, fun s ↦ ?_, ?_⟩⟩
      · exact (hdb.consistent.appendMany hledger).1
      · rw [Ledger.currentSequence_insertBatch hbatchL]
        by_cases hs : ∃ g ∈ grouped, g.streamId = s
        · obtain ⟨g, hg, rfl⟩ := hs
          rw [hgrouped g hg, (hopened g hg).newCount, (hopened g hg).current, hdb.streams]
        · have hnone : (batch.zip existing).filter (fun p ↦ p.1.streamId = s) = [] := by
            refine List.filter_eq_nil_iff.mpr fun p hp hps ↦ hs ?_
            have hmem : s ∈ (batch.map (·.streamId)).dedup := by
              rw [List.mem_dedup, ← of_decide_eq_true hps]
              exact List.mem_map_of_mem (List.of_mem_zip hp).1
            rw [← hids] at hmem
            exact List.mem_map.mp hmem
          rw [hothers s fun g hg hgs ↦ hs ⟨g, hg, hgs⟩, hcurrent, Ledger.newOf_eq_filter, hnone,
            hdb.streams]
          simp
      · rw [hids', hstreams]
        exact hsame.streamIds hdb.streamIds

/-! ### Positions -/

theorem mapEach_appendCandidate_bound {events : List Ledger.Candidate} {r : List EventEnvelope}
    (hdb : isBound db.lastPosition) (h : mapEach (appendCandidate H) events db = (.ok r, db')) :
    isBound db'.lastPosition := by
  induction events generalizing db r with
  | nil =>
    simp only [mapEach, pure_eq_ok] at h
    exact h.2 ▸ hdb
  | cons p events ih =>
    simp only [mapEach, bind_eq_ok, pure_eq_ok] at h
    obtain ⟨x, db₁, hx, xs, db₂, hxs, rfl, rfl⟩ := h
    refine ih ?_ hxs
    obtain ⟨e, _ | stored⟩ := p
    case none =>
      simp only [appendCandidate, insertEvent, Database.insertRow, bind_eq_ok, mapError_eq_ok,
        check_eq_ok, write_eq_ok, pure_eq_ok, Checked.require_eq_ok, Checked.exists_unit,
        Prod.mk.injEq] at hx
      obtain ⟨_, _, ⟨_, ⟨-, rfl⟩, _, ⟨-, rfl⟩, _, ⟨hbound, rfl⟩, -, rfl⟩, -, rfl⟩ := hx
      exact hbound
    case some =>
      simp only [appendCandidate, pure_eq_ok] at hx
      exact hx.2 ▸ hdb

theorem mapEach_advanceStream_lastPosition {grouped : List StreamEvents} {us : List PUnit}
    (h : mapEach advanceStream grouped db = (.ok us, db')) : db'.lastPosition = db.lastPosition := by
  induction grouped generalizing db us with
  | nil =>
    simp only [mapEach, pure_eq_ok] at h
    exact h.2 ▸ rfl
  | cons g grouped ih =>
    simp only [mapEach, bind_eq_ok, pure_eq_ok] at h
    obtain ⟨_, db₁, hg, _, db₂, hrest, -, rfl⟩ := h
    refine (ih hrest).trans ?_
    unfold advanceStream at hg
    split at hg
    case isTrue =>
      simp only [pure_eq_ok] at hg
      exact hg.2 ▸ rfl
    case isFalse =>
      simp only [bind_eq_ok, check_eq_ok, Checked.require_eq_ok] at hg
      obtain ⟨changed, _, hupdate, -, rfl⟩ := hg
      exact (Database.updateStream_eq_ok hupdate).1.lastPosition

theorem appendManyInTransaction_bound {batch r : List EventEnvelope}
    {expectedSequences : List (String × Int)} (hdb : isBound db.lastPosition)
    (h : appendManyInTransaction H batch expectedSequences db = (.ok r, db')) :
    isBound db'.lastPosition := by
  unfold appendManyInTransaction at h
  split at h
  case isTrue =>
    simp only [pure_eq_ok] at h
    exact h.2 ▸ hdb
  case isFalse =>
    simp only [bind_eq_ok, check_eq_ok] at h
    obtain ⟨_, _, ⟨-, rfl⟩, existing, _, ⟨-, rfl⟩, h⟩ := h
    split at h
    case isTrue =>
      simp only [bind_eq_ok, check_eq_ok, pure_eq_ok] at h
      obtain ⟨_, _, ⟨-, rfl⟩, -, rfl⟩ := h
      exact hdb
    case isFalse =>
      simp only [bind_eq_ok, pure_eq_ok] at h
      obtain ⟨grouped, db₁, hopen, appended, db₂, hinsert, _, db₃, hadvance, rfl, rfl⟩ := h
      rw [mapEach_advanceStream_lastPosition hadvance]
      refine mapEach_appendCandidate_bound ?_ hinsert
      rwa [(mapEach_openStream hopen).2.2.rows.lastPosition]

/-! ### Runs of calls -/

/-- What an accepted batch does: it stores events behind the ones that are there, and returns one
stored event for each event of the batch. -/
theorem appendMany_eq_ok {batch r : List EventEnvelope} {expectedSequences : List (String × Int)}
    (hdb : db.Represents H) (h : EventStore.appendMany H batch expectedSequences db = (.ok r, db')) :
    db'.Represents H ∧ db.ledger <+: db'.ledger ∧ db'.ledger.Occupies H batch r := by
  unfold EventStore.appendMany at h
  split at h
  case isTrue hbatch =>
    simp only [pure_eq_ok] at h
    obtain ⟨rfl, rfl⟩ := h
    subst hbatch
    exact ⟨hdb, List.prefix_rfl, .nil, fun _ ↦ ⟨0, trivial⟩⟩
  case isFalse =>
    obtain ⟨hledger, hdb'⟩ := refines_appendMany hdb (atomically_eq_ok.mp h)
    exact ⟨hdb', (hdb.consistent.appendMany hledger).2⟩

/-- A batch that is rejected leaves the tables as they were. -/
theorem appendMany_eq_error {batch : List EventEnvelope} {expectedSequences : List (String × Int)}
    {error : DatabaseError}
    (h : EventStore.appendMany H batch expectedSequences db = (.error error, db')) : db' = db := by
  unfold EventStore.appendMany at h
  split at h
  · simp [pure] at h
  · exact atomically_eq_error h

/-- What an accepted call does. -/
theorem Call.run_eq_ok {call : Call} {r : List EventEnvelope} (hdb : db.Represents H)
    (h : call.run H db = (.ok r, db')) :
    db'.Represents H ∧ db.ledger <+: db'.ledger ∧ db'.ledger.Occupies H call.batch r := by
  cases call with
  | appendMany events expectedSequences => exact appendMany_eq_ok hdb h
  | append event expectedSequence =>
    simp only [Call.run, EventStore.append, bind_eq_ok, pure_eq_ok] at h
    obtain ⟨x, _, ⟨stored, db₁, hstored, hx⟩, rfl, rfl⟩ := h
    cases stored with
    | nil => simp at hx
    | cons y ys =>
      simp only [pure_eq_ok] at hx
      obtain ⟨rfl, rfl⟩ := hx
      obtain ⟨hdb', hle, hoccupies⟩ := appendMany_eq_ok hdb hstored
      obtain rfl : ys = [] := by simpa using hoccupies.answers.length_eq
      exact ⟨hdb', hle, hoccupies⟩

/-- **Rollback.** A call that raises leaves the tables as they were. -/
theorem Call.run_eq_error {call : Call} {error : DatabaseError} (hdb : db.Represents H)
    (h : call.run H db = (.error error, db')) : db' = db := by
  cases call with
  | appendMany events expectedSequences => exact appendMany_eq_error h
  | append event expectedSequence =>
    rcases bind_eq_error.mp h with h | ⟨x, db₁, -, hx⟩
    case inr => simp [pure] at hx
    rcases bind_eq_error.mp h with h | ⟨stored, db₁, hstored, hx⟩
    · exact appendMany_eq_error h
    · -- a batch of one event returns one event, so the index is in range
      obtain ⟨-, -, hoccupies⟩ := appendMany_eq_ok hdb hstored
      cases hoccupies.answers with
      | cons => simp [pure] at hx

/-- A call keeps the representation, and what is stored. -/
theorem Call.run_keeps (call : Call) (hdb : db.Represents H) :
    (call.run H db).2.Represents H ∧ db.ledger <+: (call.run H db).2.ledger := by
  rcases hrun : call.run H db with ⟨error | r, db'⟩
  · obtain rfl := Call.run_eq_error hdb hrun
    exact ⟨hdb, List.prefix_rfl⟩
  · obtain ⟨hdb', hle, -⟩ := Call.run_eq_ok hdb hrun
    exact ⟨hdb', hle⟩

/-- The last position stays within the integers of the database. -/
theorem Call.run_bound (call : Call) (hdb : db.Represents H) (hbound : isBound db.lastPosition) :
    isBound (call.run H db).2.lastPosition := by
  have hmany {batch r : List EventEnvelope} {expectedSequences : List (String × Int)}
      {db' : Database} (h : EventStore.appendMany H batch expectedSequences db = (.ok r, db')) :
      isBound db'.lastPosition := by
    unfold EventStore.appendMany at h
    split at h
    case isTrue =>
      simp only [pure_eq_ok] at h
      exact h.2 ▸ hbound
    case isFalse => exact appendManyInTransaction_bound hbound (atomically_eq_ok.mp h)
  rcases hrun : call.run H db with ⟨error | r, db'⟩
  case error => rwa [Call.run_eq_error hdb hrun]
  cases call with
  | appendMany events expectedSequences => exact hmany hrun
  | append event expectedSequence =>
    simp only [Call.run, EventStore.append, bind_eq_ok, pure_eq_ok] at hrun
    obtain ⟨x, _, ⟨stored, db₁, hstored, hx⟩, -, rfl⟩ := hrun
    cases stored with
    | nil => simp at hx
    | cons y ys =>
      simp only [pure_eq_ok] at hx
      exact hx.2 ▸ hmany hstored

/-- Every sequence of calls keeps the representation, and what is stored. -/
theorem after_keeps (calls : List Call) (hdb : db.Represents H) :
    (after H db calls).Represents H ∧ db.ledger <+: (after H db calls).ledger := by
  induction calls generalizing db with
  | nil => exact ⟨hdb, List.prefix_rfl⟩
  | cons call calls ih =>
    obtain ⟨hdb', hle⟩ := call.run_keeps hdb
    obtain ⟨hdb'', hle'⟩ := ih hdb'
    exact ⟨hdb'', hle.trans hle'⟩

theorem after_bound (calls : List Call) (hdb : db.Represents H) (hbound : isBound db.lastPosition) :
    isBound (after H db calls).lastPosition := by
  induction calls generalizing db with
  | nil => exact hbound
  | cons call calls ih => exact ih (call.run_keeps hdb).1 (call.run_bound hdb hbound)

/-- What the stored rows satisfy after every call. -/
structure Stored (db : Database) : Prop where
  /-- The sequences of a stream are exactly `1, …, current_sequence`. -/
  sequences (streamId : String) : 0 ≤ db.currentSequence streamId ∧
    (db.ledger.readStream streamId).map (·.streamSequence) =
      (List.range (db.currentSequence streamId).toNat).map fun i : ℕ ↦ 1 + (i : Int)
  /-- Positions increase along every stream. -/
  positions : ∀ x ∈ db.ledger, ∀ y ∈ db.ledger, x.streamId = y.streamId →
    x.streamSequence < y.streamSequence →
      ∃ p q, x.globalPosition = some p ∧ y.globalPosition = some q ∧ p < q
  /-- No position is that of two events. -/
  position_unique : ∀ x ∈ db.ledger, ∀ y ∈ db.ledger, x.globalPosition = y.globalPosition → x = y
  /-- An idempotency key occurs at most once in a stream. -/
  keys : db.ledger.Pairwise fun x y ↦
    ¬(x.streamId = y.streamId ∧ x.idempotencyKey.isSome ∧ x.idempotencyKey = y.idempotencyKey)
  /-- An event identifier occurs at most once. -/
  eventIds : (db.ledger.map (·.eventId)).Nodup

/-- The stored rows of tables that represent a ledger. -/
theorem Stored.of_represents (hdb : db.Represents H) : Stored db where
  sequences streamId := by
    have hsequences := consecutive_iff.mp (hdb.consistent.sequences streamId)
    rw [hdb.streams]
    refine ⟨Int.natCast_nonneg _, ?_⟩
    simpa [Ledger.currentSequence] using hsequences
  positions x hx y hy hstream hlt := by
    rcases hdb.consistent.trichotomy hx hy with rfl | h | h
    · exact absurd hlt (lt_irrefl _)
    · exact h.1
    · exact absurd (h.2 hstream.symm) hlt.not_gt
  position_unique x hx y hy hposition := by
    rcases hdb.consistent.trichotomy hx hy with rfl | ⟨⟨p, q, hp, hq, hlt⟩, -⟩ |
      ⟨⟨p, q, hp, hq, hlt⟩, -⟩
    · rfl
    all_goals
      rw [hp, hq, Option.some.injEq] at hposition
      omega
  keys := hdb.consistent.keys.imp fun h ⟨hstream, hsome, hkey⟩ ↦
    h hstream.symm (hkey ▸ hsome) hkey
  eventIds := hdb.consistent.eventIds

/-- **Representation invariant of the event store.** After every call of every sequence of `append`
and `append_many` calls, with any batches and expected sequences: the stored sequences of each
stream are exactly `1, …, current_sequence`, positions increase along every stream, no position, no
event identifier and no idempotency key of a stream occurs twice; no position that was assigned is
ever that of another event, whatever calls follow; the events that an accepted call returns for its
batch are stored and take consecutive sequence numbers of their streams, in the order of the batch;
and a call that raises leaves the tables as they were. -/
theorem calls_keep_representation (H : Host) (calls : List Call) (call : Call) :
    let db := after H Database.initial calls
    let (result, db') := call.run H db
    Stored db' ∧
      (∀ later : List Call, ∀ x ∈ db'.ledger, ∀ y ∈ (after H db' later).ledger,
        x.globalPosition = y.globalPosition → x = y) ∧
      (∀ r, result = .ok r → db'.ledger.Occupies H call.batch r) ∧
      ∀ error, result = .error error → db' = db := by
  have hdb := (after_keeps calls (Database.Represents.initial H)).1
  have hdb' := (call.run_keeps hdb).1
  refine ⟨.of_represents hdb', fun later x hx y hy hxy ↦ ?_, fun r hr ↦ ?_, fun error herror ↦ ?_⟩
  · obtain ⟨hlater, hle⟩ := after_keeps later hdb'
    exact (Stored.of_represents hlater).position_unique x (hle.subset hx) y hy hxy
  · exact (Call.run_eq_ok hdb (Prod.ext hr rfl)).2.2
  · exact Call.run_eq_error hdb (Prod.ext herror rfl)

end EventStore

end Blackcell.Kernel
