import Blackcell.Kernel.Event
import Mathlib.Data.List.Dedup
import Mathlib.Data.List.ReduceOption

/-!
# The event store

The append-only ledger of `kernel/store.py`: all events in the order in which they were stored,
with the events of each stream in the order of their sequence numbers. A batch is appended as a
whole or not at all. An event whose idempotency key its stream already holds is the event of an
earlier request, which is returned in its place, provided that the requests agree.

## Main definitions

* `Ledger`, `Ledger.readStream` : the stored events, and the events of one stream.
* `Ledger.appendMany`, `Ledger.append` : the optimistic, idempotent append of a batch, and of one
  event.

## Main results

* `Ledger.append_fresh` : an event that is next in its stream and repeats no identifier is stored.
* `Ledger.append_eq_ok` : what an accepted append stores, or which earlier event it returns.
-/

namespace Blackcell.Kernel

/-- The exceptions of the store. -/
inductive StoreError where
  /-- `ConcurrencyError`. -/
  | concurrency
  /-- `EventSequenceError`. -/
  | sequence
  /-- `EventConflictError`. -/
  | conflict
  /-- `IdempotencyConflict`. -/
  | idempotency
  /-- `ValueError`. -/
  | value
  deriving DecidableEq, Repr

/-- The stored events, oldest first. -/
abbrev Ledger := List EventEnvelope

namespace Ledger

variable (H : Host)

/-- `read_stream`: the events of a stream, in the order of their sequence numbers. -/
def readStream (L : Ledger) (streamId : String) : List EventEnvelope :=
  L.filter fun e ↦ e.streamId = streamId

/-- `_current_sequence`: the number of stored events of a stream. -/
def currentSequence (L : Ledger) (streamId : String) : Int := (L.readStream streamId).length

/-- `_idempotent_event`: the stored event of an earlier request with the key of this one. -/
def idempotentEvent (L : Ledger) (e : EventEnvelope) : Except StoreError (Option EventEnvelope) :=
  match e.idempotencyKey with
  | none => .ok none
  | some key =>
    match (L.readStream e.streamId).find? fun x ↦ x.idempotencyKey = some key with
    | none => .ok none
    | some x =>
      if x.idempotencyHash H = e.idempotencyHash H then .ok (some x) else .error .idempotency

/-- `_validate_existing_batch_order`: repeated events of one stream follow each other. -/
def existingInOrder : List EventEnvelope → Bool
  | [] => true
  | e :: es =>
    (match es.find? fun x ↦ x.streamId = e.streamId with
      | some next => decide (next.streamSequence = e.streamSequence + 1)
      | none => true) && existingInOrder es

/-- `_validate_batch_stream`: the committed prefix of the batch, and its new events, take the
sequence numbers after the expected one. -/
def validateBatchStream (expected actual : Int) (events : List (EventEnvelope × Option EventEnvelope)) :
    Except StoreError Unit := do
  let committed := events.takeWhile fun p ↦ p.2.isSome
  Checked.require ((events.drop committed.length).all fun p ↦ p.2.isNone) StoreError.concurrency
  Checked.require (actual = expected + committed.length) StoreError.concurrency
  Checked.forEach events.zipIdx fun (p, offset) ↦
    match p.2 with
    | some stored =>
      Checked.require (stored.streamSequence = expected + 1 + offset) StoreError.concurrency
    | none => Checked.require (p.1.streamSequence = expected + 1 + offset) StoreError.sequence

/-- `_insert_event`: the integrity constraints of the table, and the assigned position. -/
def insertEvent (L : Ledger) (e : EventEnvelope) : Except StoreError (EventEnvelope × Ledger) := do
  Checked.require
    (L.all fun x ↦
      x.eventId ≠ e.eventId ∧
        ¬(x.streamId = e.streamId ∧ x.streamSequence = e.streamSequence) ∧
        ¬(x.streamId = e.streamId ∧ e.idempotencyKey.isSome ∧
          x.idempotencyKey = e.idempotencyKey))
    StoreError.conflict
  -- a foreign key may refer to the row that is being inserted
  Checked.require
    (∀ cause ∈ e.causationId, cause = e.eventId ∨ L.any fun x ↦ x.eventId = cause)
    StoreError.conflict
  let stored := { e with globalPosition := some (L.length + 1) }
  pure (stored, L ++ [stored])

/-- The insertion of the new events of a batch, in order. -/
def insertBatch (L : Ledger) :
    List (EventEnvelope × Option EventEnvelope) → Except StoreError (List EventEnvelope × Ledger)
  | [] => .ok ([], L)
  | (_, some stored) :: events => do
    let (appended, L') ← insertBatch L events
    pure (stored :: appended, L')
  | (e, none) :: events => do
    let (stored, L') ← insertEvent L e
    let (appended, L'') ← insertBatch L' events
    pure (stored :: appended, L'')

/-- `append_many`: append an ordered batch, with the last observed sequence number of each of its
streams. A complete repetition of an earlier batch returns the stored events. -/
def appendMany (L : Ledger) (batch : List EventEnvelope) (expectedSequences : List (String × Int)) :
    Except StoreError (List EventEnvelope × Ledger) := do
  if batch = [] then
    pure ([], L)
  else
    Checked.forEach batch fun e ↦
      Checked.require ((expectedSequences.lookup e.streamId).any (0 ≤ ·)) StoreError.value
    let existing ← batch.mapM (idempotentEvent H L)
    if existing.all Option.isSome then
      Checked.require (existingInOrder existing.reduceOption) StoreError.sequence
      pure (existing.reduceOption, L)
    else
      let events := batch.zip existing
      Checked.forEach (batch.map (·.streamId)).dedup fun streamId ↦
        validateBatchStream ((expectedSequences.lookup streamId).getD 0) (L.currentSequence streamId)
          (events.filter fun p ↦ p.1.streamId = streamId)
      insertBatch L events

/-- `append`: one event. -/
def append (L : Ledger) (e : EventEnvelope) (expectedSequence : Int) :
    Except StoreError (EventEnvelope × Ledger) := do
  let (stored, L') ← appendMany H L [e] [(e.streamId, expectedSequence)]
  pure (stored.headD e, L')

/-! ### Streams -/

variable {H} {L L' : Ledger} {e : EventEnvelope} {streamId : String}

theorem mem_readStream {x : EventEnvelope} :
    x ∈ L.readStream streamId ↔ x ∈ L ∧ x.streamId = streamId := by
  simp [readStream]

theorem readStream_append (L L' : Ledger) (streamId : String) :
    readStream (L ++ L') streamId = L.readStream streamId ++ L'.readStream streamId :=
  List.filter_append ..

theorem readStream_append_singleton (h : e.streamId = streamId) :
    readStream (L ++ [e]) streamId = L.readStream streamId ++ [e] := by
  simp [readStream, h]

theorem readStream_append_of_ne (h : e.streamId ≠ streamId) :
    readStream (L ++ [e]) streamId = L.readStream streamId := by
  simp [readStream, h]

/-! ### Appending one event -/

/-- The event as the store returns it, with its position. -/
def stored (L : Ledger) (e : EventEnvelope) : EventEnvelope :=
  { e with globalPosition := some (L.length + 1) }

/-- The event repeats no identifier of the ledger, and its cause is stored or the event itself. -/
structure Insertable (L : Ledger) (e : EventEnvelope) : Prop where
  eventId : ∀ x ∈ L, x.eventId ≠ e.eventId
  sequence : ∀ x ∈ L, x.streamId = e.streamId → x.streamSequence ≠ e.streamSequence
  key : ∀ x ∈ L, x.streamId = e.streamId → e.idempotencyKey.isSome →
    x.idempotencyKey ≠ e.idempotencyKey
  cause : ∀ cause ∈ e.causationId, cause = e.eventId ∨ ∃ x ∈ L, x.eventId = cause

theorem insertEvent_eq_ok {r : EventEnvelope × Ledger} :
    insertEvent L e = .ok r ↔ L.Insertable e ∧ r = (L.stored e, L ++ [L.stored e]) := by
  simp only [insertEvent, Checked.bind_eq_ok, Checked.exists_unit, Checked.require_eq_ok,
    Checked.pure_eq_ok, List.all_eq_true, List.any_eq_true, decide_eq_true_eq]
  constructor
  · rintro ⟨hfresh, hcause, rfl⟩
    exact ⟨⟨fun x hx ↦ (hfresh x hx).1, fun x hx h h' ↦ (hfresh x hx).2.1 ⟨h, h'⟩,
      fun x hx h hk h' ↦ (hfresh x hx).2.2 ⟨h, hk, h'⟩, hcause⟩, rfl⟩
  · rintro ⟨h, rfl⟩
    exact ⟨fun x hx ↦ ⟨h.eventId x hx, fun hsame ↦ h.sequence x hx hsame.1 hsame.2,
      fun hsame ↦ h.key x hx hsame.1 hsame.2.1 hsame.2.2⟩, h.cause, rfl⟩

/-- A batch of one new event is in order when the event is the next one of its stream. -/
theorem validateBatchStream_singleton {expected actual : Int} {u : Unit} :
    validateBatchStream expected actual [(e, none)] = .ok u ↔
      actual = expected ∧ e.streamSequence = expected + 1 := by
  simp [validateBatchStream]

/-- **One event.** An accepted append returns the stored event of an earlier request, and changes
nothing, or stores the event as the next one of its stream. -/
theorem append_eq_ok {n : Int} {r : EventEnvelope × Ledger} :
    append H L e n = .ok r ↔ 0 ≤ n ∧
      ((∃ x, idempotentEvent H L e = .ok (some x) ∧ r = (x, L)) ∨
        idempotentEvent H L e = .ok none ∧ L.currentSequence e.streamId = n ∧
          e.streamSequence = n + 1 ∧ L.Insertable e ∧
          r = (L.stored e, L ++ [L.stored e])) := by
  have hdedup : [e.streamId].dedup = [e.streamId] := List.dedup_eq_self.mpr (List.nodup_singleton _)
  cases hx : idempotentEvent H L e with
  | error _ => simp [append, appendMany, hx]
  | ok x =>
    cases x with
    | some x => simp [append, appendMany, hx, existingInOrder, List.reduceOption, eq_comm (a := r)]
    | none =>
      simp [append, appendMany, hx, hdedup, validateBatchStream_singleton, insertBatch,
        insertEvent_eq_ok, and_assoc, eq_comm (a := r)]

/-- A stream that does not hold the key of an event has no earlier request for it. -/
theorem idempotentEvent_eq_none
    (h : ∀ x ∈ L, x.streamId = e.streamId → e.idempotencyKey.isSome →
      x.idempotencyKey ≠ e.idempotencyKey) : idempotentEvent H L e = .ok none := by
  unfold idempotentEvent
  cases hkey : e.idempotencyKey with
  | none => rfl
  | some key =>
    have hnone : (L.readStream e.streamId).find? (fun x ↦ decide (x.idempotencyKey = some key)) =
        none := by
      refine List.find?_eq_none.mpr fun x hx ↦ ?_
      have hx := mem_readStream.mp hx
      have hne := h x hx.1 hx.2 (by simp [hkey])
      simpa [hkey] using hne
    simp [hnone]

/-- **A fresh event is stored.** -/
theorem append_fresh {n : Int} (hn : L.currentSequence e.streamId = n)
    (hsequence : e.streamSequence = n + 1) (hinsert : L.Insertable e) :
    append H L e n = .ok (L.stored e, L ++ [L.stored e]) := by
  have hnonneg : 0 ≤ n := hn ▸ Int.natCast_nonneg _
  exact append_eq_ok.mpr ⟨hnonneg, .inr ⟨idempotentEvent_eq_none hinsert.key, hn, hsequence,
    hinsert, rfl⟩⟩

end Ledger

end Blackcell.Kernel
