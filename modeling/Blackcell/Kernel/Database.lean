import Blackcell.Foundation.Transaction
import Blackcell.Kernel.Consistency

/-!
# The event tables

The two tables of `kernel/database.py` that hold the events, and the statements that the store
executes on them. A row is stored only if it satisfies every constraint of the schema; a statement
that would break one of them raises an integrity error. SQLite counts the characters of a text up
to its first NUL, binds integers of 64 bits, and never assigns an automatic key twice.

## Main definitions

* `Database` : the rows of `event_streams` and `kernel_events`.
* `Database.insertStream`, `Database.updateStream`, `Database.insertRow` : the statements that
  write.
* `Database.ledger` : the stored events.
* `Database.Represents` : the tables agree with each other and with a consistent ledger.
-/

namespace Blackcell.Kernel

/-- The exceptions of an append. -/
inductive DatabaseError where
  /-- An exception that the store raises itself. -/
  | store (error : StoreError)
  /-- `sqlite3.IntegrityError`. -/
  | integrity
  /-- `OverflowError`: the integer does not fit into 64 bits. -/
  | overflow
  /-- `sqlite3.OperationalError`: there is no position left. -/
  | full
  /-- `IndexError`. -/
  | index
  deriving DecidableEq, Repr

/-- A row of `kernel_events`: the columns of the event, with its position, and the
`idempotency_hash`. -/
structure EventRow where
  event : EventEnvelope
  idempotencyHash : Option String
  deriving DecidableEq

/-- The tables of the events. -/
structure Database where
  /-- `event_streams`: the `current_sequence` of each `stream_id`. -/
  eventStreams : List (String × Int)
  /-- `kernel_events`, in the order of their positions. -/
  kernelEvents : List EventRow
  /-- The last position that was assigned: the `seq` of `kernel_events` in `sqlite_sequence`. -/
  lastPosition : Int
  deriving DecidableEq

/-- `length(text)` in SQLite: the characters before the first NUL. -/
def textLength (s : String) : ℕ := (s.toList.takeWhile (· ≠ Char.ofNat 0)).length

/-- The integer fits into the 64 bits of an SQLite integer. -/
def isBound (n : Int) : Bool := decide (-2 ^ 63 ≤ n ∧ n < 2 ^ 63)

namespace Database

/-- The tables after `initialize_database`. -/
def initial : Database := ⟨[], [], 0⟩

variable (H : Host) (db : Database)

/-- The stored events. -/
def ledger : Ledger := db.kernelEvents.map (·.event)

/-- `_current_sequence`. -/
def currentSequence (streamId : String) : Int := (db.eventStreams.lookup streamId).getD 0

/-- `_idempotent_event`. -/
def idempotentEvent (e : EventEnvelope) : Except DatabaseError (Option EventEnvelope) :=
  match e.idempotencyKey with
  | none => .ok none
  | some key =>
    let row := db.kernelEvents.find? fun row ↦
      row.event.streamId = e.streamId ∧ row.event.idempotencyKey = some key
    match row with
    | none => .ok none
    | some row =>
      if row.idempotencyHash = some (e.idempotencyHash H) then .ok (some row.event)
      else .error (.store .idempotency)

/-- `insert into event_streams(stream_id, current_sequence) values (?, 0)`. -/
def insertStream (streamId : String) : Transaction Database DatabaseError PUnit := do
  Transaction.check fun db ↦ Checked.require
    (0 < textLength streamId ∧ streamId ∉ db.eventStreams.map (·.1)) DatabaseError.integrity
  Transaction.write fun db ↦
    (⟨⟩, { db with eventStreams := db.eventStreams ++ [(streamId, 0)] })

/-- `update event_streams set current_sequence = ? where stream_id = ? and current_sequence = ?`,
which returns the number of rows that it changed. -/
def updateStream (required : Int) (streamId : String) (previous : Int) :
    Transaction Database DatabaseError ℕ := do
  Transaction.check fun _ ↦
    Checked.require (isBound required ∧ isBound previous) DatabaseError.overflow
  Transaction.check fun _ ↦ Checked.require (0 ≤ required) DatabaseError.integrity
  Transaction.write fun db ↦
    (db.eventStreams.countP (· = (streamId, previous)),
      { db with
        eventStreams := db.eventStreams.map fun row ↦
          if row = (streamId, previous) then (streamId, required) else row })

/-- The columns of the event satisfy the checks of `kernel_events`. -/
def columnsChecked (e : EventEnvelope) : Prop :=
  (∀ text ∈ [e.eventId, e.eventType, e.correlationId, e.actor, e.source], 0 < textLength text) ∧
    1 ≤ e.streamSequence ∧ 1 ≤ e.schemaVersion

instance : DecidablePred columnsChecked := fun _ ↦ inferInstanceAs (Decidable (_ ∧ _))

/-- No stored row has a unique column, or unique columns, of the event. Keys that are null are
distinct. -/
def columnsUnique (e : EventEnvelope) : Prop :=
  ∀ row ∈ db.kernelEvents, row.event.eventId ≠ e.eventId ∧
    ¬(row.event.streamId = e.streamId ∧ row.event.streamSequence = e.streamSequence) ∧
    ¬(row.event.streamId = e.streamId ∧ e.idempotencyKey.isSome ∧
      row.event.idempotencyKey = e.idempotencyKey)

instance (e : EventEnvelope) : Decidable (db.columnsUnique e) :=
  inferInstanceAs (Decidable (∀ row ∈ db.kernelEvents, _))

/-- The foreign keys of the event refer to stored rows. A row may refer to itself. -/
def columnsReferenced (e : EventEnvelope) : Prop :=
  e.streamId ∈ db.eventStreams.map (·.1) ∧
    ∀ cause ∈ e.causationId,
      cause = e.eventId ∨ db.kernelEvents.any fun row ↦ row.event.eventId = cause

instance (e : EventEnvelope) : Decidable (db.columnsReferenced e) :=
  inferInstanceAs (Decidable (_ ∧ _))

/-- `insert into kernel_events(...)`: the constraints of the table, and the row with the next
position, which is returned. -/
def insertRow (e : EventEnvelope) : Transaction Database DatabaseError Int := do
  Transaction.check fun _ ↦
    Checked.require (isBound e.streamSequence ∧ isBound e.schemaVersion) DatabaseError.overflow
  Transaction.check fun db ↦
    Checked.require (columnsChecked e ∧ db.columnsUnique e ∧ db.columnsReferenced e)
      DatabaseError.integrity
  Transaction.check fun db ↦ Checked.require (isBound (db.lastPosition + 1)) DatabaseError.full
  Transaction.write fun db ↦
    let position := db.lastPosition + 1
    let row := {
      event := { e with globalPosition := some position }
      idempotencyHash := e.idempotencyKey.map fun _ ↦ e.idempotencyHash H }
    (position, { db with kernelEvents := db.kernelEvents ++ [row], lastPosition := position })

/-! ### Representation -/

/-- The rows of the events, while a transaction adds to them. -/
structure Rows : Prop where
  hashes : ∀ row ∈ db.kernelEvents,
    row.idempotencyHash = row.event.idempotencyKey.map fun _ ↦ row.event.idempotencyHash H
  lastPosition : db.lastPosition = db.ledger.length

/-- **The representation.** The tables agree with each other, and hold a consistent ledger. -/
structure Represents : Prop extends Rows H db where
  consistent : db.ledger.Consistent
  streams (streamId : String) : db.currentSequence streamId = db.ledger.currentSequence streamId
  streamIds : (db.eventStreams.map (·.1)).Nodup

theorem Represents.initial : Database.initial.Represents H where
  hashes _ hrow := absurd hrow List.not_mem_nil
  lastPosition := rfl
  consistent := .nil
  streams _ := rfl
  streamIds := List.nodup_nil

variable {H} {db} {db' : Database}

/-- The insertion of a row is the insertion of its event into the ledger. -/
theorem insertRow_eq_ok {e : EventEnvelope} {position : Int} (hdb : db.Rows H)
    (h : insertRow H e db = (.ok position, db')) :
    db'.Rows H ∧ db'.eventStreams = db.eventStreams ∧
      Ledger.insertEvent db.ledger e = .ok ({ e with globalPosition := some position }, db'.ledger) := by
  simp only [insertRow, Transaction.bind_eq_ok, Transaction.check_eq_ok, Transaction.write_eq_ok,
    Checked.require_eq_ok, Checked.exists_unit, Prod.mk.injEq] at h
  obtain ⟨_, ⟨-, rfl⟩, _, ⟨⟨-, hunique, href⟩, rfl⟩, _, ⟨-, rfl⟩, rfl, rfl⟩ := h
  refine ⟨⟨?_, ?_⟩, rfl, ?_⟩
  · intro row hrow
    rcases List.mem_append.mp hrow with hrow | hrow
    · exact hdb.hashes row hrow
    · rw [List.mem_singleton] at hrow
      exact hrow ▸ rfl
  · change db.lastPosition + 1 = _
    rw [hdb.lastPosition, ledger, ledger, List.map_append, List.length_append]
    rfl
  · have hinsert : db.ledger.Insertable e := by
      refine ⟨fun x hx ↦ ?_, fun x hx ↦ ?_, fun x hx ↦ ?_, fun cause hcause ↦ ?_⟩
      · obtain ⟨row, hrow, rfl⟩ := List.mem_map.mp hx
        exact (hunique row hrow).1
      · obtain ⟨row, hrow, rfl⟩ := List.mem_map.mp hx
        exact fun hs hn ↦ (hunique row hrow).2.1 ⟨hs, hn⟩
      · obtain ⟨row, hrow, rfl⟩ := List.mem_map.mp hx
        exact fun hs hk hn ↦ (hunique row hrow).2.2 ⟨hs, hk, hn⟩
      · refine (href.2 cause hcause).imp id fun hany ↦ ?_
        obtain ⟨row, hrow, hid⟩ := List.any_eq_true.mp hany
        exact ⟨row.event, List.mem_map_of_mem hrow, by simpa using hid⟩
    refine Ledger.insertEvent_eq_ok.mpr ⟨hinsert, ?_⟩
    rw [hdb.lastPosition]
    simp [Ledger.stored, ledger]

/-- A statement that leaves the rows of the events as they are. -/
structure SameRows (db db' : Database) : Prop where
  events : db'.kernelEvents = db.kernelEvents
  lastPosition : db'.lastPosition = db.lastPosition

theorem SameRows.refl (db : Database) : SameRows db db := ⟨rfl, rfl⟩

theorem SameRows.trans {db'' : Database} (h : SameRows db db') (h' : SameRows db' db'') :
    SameRows db db'' :=
  ⟨h'.events.trans h.events, h'.lastPosition.trans h.lastPosition⟩

theorem SameRows.ledger (h : SameRows db db') : db'.ledger = db.ledger := by
  rw [Database.ledger, h.events, Database.ledger]

theorem Rows.of_sameRows (hdb : db.Rows H) (h : SameRows db db') : db'.Rows H where
  hashes row hrow := hdb.hashes row (h.events ▸ hrow)
  lastPosition := by rw [h.lastPosition, h.ledger, hdb.lastPosition]

/-- A new stream counts no events, as before. -/
theorem insertStream_eq_ok {streamId : String} {u : PUnit}
    (h : insertStream streamId db = (.ok u, db')) :
    SameRows db db' ∧ (∀ s, db'.currentSequence s = db.currentSequence s) ∧
      ((db.eventStreams.map (·.1)).Nodup → (db'.eventStreams.map (·.1)).Nodup) := by
  simp only [insertStream, Transaction.bind_eq_ok, Transaction.check_eq_ok, Transaction.write_eq_ok,
    Checked.require_eq_ok, Checked.exists_unit, Prod.mk.injEq, true_and] at h
  obtain ⟨_, ⟨⟨-, hnew⟩, rfl⟩, rfl⟩ := h
  refine ⟨⟨rfl, rfl⟩, fun s ↦ ?_, fun hnodup ↦ ?_⟩
  · have hlookup : db.eventStreams.lookup streamId = none :=
      List.lookup_eq_none_iff.mpr fun p hp ↦ by
        have hp := List.mem_map_of_mem (f := (·.1)) hp
        grind
    simp only [currentSequence, List.lookup_append]
    by_cases hs : s = streamId
    · simp [hs, hlookup]
    · have hs : (s == streamId) = false := by simpa using hs
      simp [List.lookup_cons, hs]
  · rw [List.map_append]
    refine List.nodup_append.mpr ⟨hnodup, List.nodup_singleton _, fun a ha b hb ↦ ?_⟩
    rw [List.map_singleton, List.mem_singleton] at hb
    exact fun hab ↦ hnew (by rwa [hab, hb] at ha)

/-- An update changes the sequence of a stream from the previous one, if it has that. -/
theorem lookup_update {rows : List (String × Int)} {streamId s : String} {previous required : Int} :
    (rows.map fun row ↦ if row = (streamId, previous) then (streamId, required) else row).lookup s =
      if s = streamId ∧ rows.lookup streamId = some previous then some required
      else rows.lookup s := by
  induction rows with
  | nil => simp
  | cons row rows ih =>
    obtain ⟨t, n⟩ := row
    rw [List.map_cons, List.lookup_cons, List.lookup_cons, List.lookup_cons, ih]
    grind

theorem updateStream_eq_ok {required previous : Int} {streamId : String} {changed : ℕ}
    (h : updateStream required streamId previous db = (.ok changed, db')) :
    SameRows db db' ∧ db'.eventStreams.map (·.1) = db.eventStreams.map (·.1) ∧
      (∀ s, s ≠ streamId → db'.currentSequence s = db.currentSequence s) ∧
      (changed = 1 → db.currentSequence streamId = previous →
        db'.currentSequence streamId = required) := by
  simp only [updateStream, Transaction.bind_eq_ok, Transaction.check_eq_ok, Transaction.write_eq_ok,
    Checked.require_eq_ok, Checked.exists_unit, Prod.mk.injEq] at h
  obtain ⟨_, ⟨-, rfl⟩, _, ⟨-, rfl⟩, rfl, rfl⟩ := h
  refine ⟨⟨rfl, rfl⟩, ?_, fun s hs ↦ ?_, fun hchanged hprevious ↦ ?_⟩
  · rw [List.map_map]
    refine List.map_congr_left fun row _ ↦ ?_
    grind
  · simp only [currentSequence, lookup_update, hs, false_and, if_false]
  · obtain ⟨row, hrow, hrow'⟩ := List.countP_pos_iff.mp (hchanged.symm ▸ Nat.one_pos)
    have hmem : (streamId, previous) ∈ db.eventStreams := by
      rwa [of_decide_eq_true hrow'] at hrow
    have hlookup : db.eventStreams.lookup streamId = some previous := by
      cases hl : db.eventStreams.lookup streamId with
      | none => simpa using List.lookup_eq_none_iff.mp hl _ hmem
      | some n => simpa [currentSequence, hl] using hprevious
    simp [currentSequence, lookup_update, hlookup]

end Database

end Blackcell.Kernel
