import Blackcell.Kernel.Digest
import Blackcell.Kernel.EventStore

/-!
# Idempotent retries

What the store does with a batch whose keys its streams already hold. An event repeats another one
if it has its key and its content, whatever its identifier, its recording time and its sequence
number are. A batch that repeats an accepted batch returns what was stored then, a batch that begins
with committed events adds the rest, and a key never stands for two contents.

## Main definitions

* `Ledger.Repeats` : an event asks for the same occurrence as another one.
* `Ledger.StoredAs` : the event as it is stored.

## Main results

* `EventEnvelope.idempotencyHash_eq_iff` : which fields the idempotency hash is the digest of.
* `Ledger.Consistent.appendMany_committed` : a batch of which a prefix is committed.
* `EventStore.retry_idempotent` : retries in every run of calls.
-/

namespace Blackcell.Kernel

namespace EventEnvelope

variable {H : Host} {e e' : EventEnvelope}

/-- The document of the idempotency hash. -/
def idempotencyDocument (H : Host) (e : EventEnvelope) : Mapping := [
  ("actor", .str e.actor),
  ("causation_id", .ofText? e.causationId),
  ("correlation_id", .str e.correlationId),
  ("effective_at", .str (H.isoformat e.effectiveAt)),
  ("event_type", .str e.eventType),
  ("payload_hash", .str (e.payloadHash H)),
  ("schema_version", .int e.schemaVersion),
  ("source", .str e.source),
  ("stream_id", .str e.streamId)]

theorem idempotencyHash_eq : e.idempotencyHash H = H.jsonDigest (.object (e.idempotencyDocument H)) :=
  rfl

/-- Two events with the same semantic content: they may differ in their identifiers, recording times,
sequence numbers, keys and positions only. -/
structure SameContent (H : Host) (e e' : EventEnvelope) : Prop where
  actor : e'.actor = e.actor
  causationId : e'.causationId = e.causationId
  correlationId : e'.correlationId = e.correlationId
  effectiveAt : H.isoformat e'.effectiveAt = H.isoformat e.effectiveAt
  eventType : e'.eventType = e.eventType
  payload : (JsonValue.object e'.payload).canonical = (JsonValue.object e.payload).canonical
  schemaVersion : e'.schemaVersion = e.schemaVersion
  source : e'.source = e.source
  streamId : e'.streamId = e.streamId

/-- **The idempotency hash.** As long as SHA-256 does not collide on the payloads and documents of
two events, they have one idempotency hash exactly if they have the same content. -/
theorem idempotencyHash_eq_iff
    (hH : H.CollisionFreeOn {.object e.payload, .object e'.payload,
      .object (e.idempotencyDocument H), .object (e'.idempotencyDocument H)}) :
    e'.idempotencyHash H = e.idempotencyHash H ↔ SameContent H e e' := by
  constructor
  · intro h
    have hkeys : (e'.idempotencyDocument H).keys.Nodup :=
      (by decide : ["actor", "causation_id", "correlation_id", "effective_at", "event_type",
        "payload_hash", "schema_version", "source", "stream_id"].Nodup)
    have hget := hH.get_eq hkeys (.inr (.inr (.inr rfl))) (.inr (.inr (.inl rfl))) h
    have htext {s s' : String} (h : (JsonValue.str s).canonical = (JsonValue.str s').canonical) :
        s = s' := by
      simpa only [JsonValue.canonical, JsonValue.str.injEq] using h
    have hcause {s s' : Option String}
        (h : (JsonValue.ofText? s).canonical = (JsonValue.ofText? s').canonical) : s = s' := by
      cases s <;> cases s' <;> simp_all [JsonValue.ofText?, JsonValue.canonical]
    have hversion {n n' : Int} (h : (JsonValue.int n).canonical = (JsonValue.int n').canonical) :
        n = n' := by
      simpa only [JsonValue.canonical, JsonValue.int.injEq] using h
    have hpayload : e'.payloadHash H = e.payloadHash H := htext (hget "payload_hash")
    exact ⟨htext (hget "actor"), hcause (hget "causation_id"), htext (hget "correlation_id"),
      htext (hget "effective_at"), htext (hget "event_type"),
      hH _ (.inr (.inl rfl)) _ (.inl rfl) hpayload, hversion (hget "schema_version"),
      htext (hget "source"), htext (hget "stream_id")⟩
  · intro h
    have hpayload : e'.payloadHash H = e.payloadHash H := by
      rw [payloadHash, payloadHash, Host.jsonDigest, Host.jsonDigest, h.payload]
    rw [idempotencyHash_eq, idempotencyHash_eq, idempotencyDocument, idempotencyDocument, h.actor,
      h.causationId, h.correlationId, h.effectiveAt, h.eventType, hpayload, h.schemaVersion,
      h.source, h.streamId]

end EventEnvelope

namespace Ledger

variable {H : Host} {L L' : Ledger} {e e' x y : EventEnvelope}

/-! ### Repeated events -/

variable (H) in
/-- The second event asks for the same occurrence as the first one: it is of its stream, has its key
and its content. -/
structure Repeats (e e' : EventEnvelope) : Prop where
  stream : e'.streamId = e.streamId
  key : e'.idempotencyKey = e.idempotencyKey
  hash : e'.idempotencyHash H = e.idempotencyHash H

/-- An event that was built anew, with another identifier and another time, repeats the event. -/
theorem Repeats.renewed (e : EventEnvelope) (eventId : String) (recordedAt : Timestamp)
    (streamSequence : Int) (globalPosition : Option Int) :
    Repeats H e { e with
      eventId := eventId
      recordedAt := recordedAt
      streamSequence := streamSequence
      globalPosition := globalPosition } :=
  ⟨rfl, rfl, rfl⟩

/-- The event as it is stored: with its position. -/
def StoredAs (e x : EventEnvelope) : Prop := x = { e with globalPosition := x.globalPosition }

theorem StoredAs.repeats (h : StoredAs e x) : Repeats H e x := by
  rw [h]
  exact ⟨rfl, rfl, rfl⟩

/-- The stored event that a call returns for an event repeats it. -/
theorem Answers.repeats (h : L.Answers H e x) : Repeats H e x := by
  rcases h.same with hx | ⟨-, hkey, hhash⟩
  · exact StoredAs.repeats hx
  · exact ⟨h.stream, hkey, hhash⟩

/-- A key of a stream is that of one stored event. -/
theorem Consistent.eq_of_key (hL : L.Consistent) (hx : x ∈ L) (hy : y ∈ L)
    (hstream : x.streamId = y.streamId) (hkey : x.idempotencyKey = y.idempotencyKey)
    (hsome : x.idempotencyKey.isSome) : x = y := by
  refine List.Pairwise.forall_of_forall_of_flip (R := fun x y ↦ x.streamId = y.streamId →
    x.idempotencyKey = y.idempotencyKey → x.idempotencyKey.isSome → x = y)
    (fun _ _ _ _ _ ↦ rfl) (hL.keys.imp ?_) (hL.keys.imp ?_) hx hy hstream hkey hsome
  · exact fun h hs hk hsome ↦ absurd hk (h hs.symm (hk ▸ hsome))
  · exact fun h hs hk hsome ↦ absurd hk.symm (h hs hsome)

/-- The store finds the event that a keyed event repeats. -/
theorem Consistent.idempotentEvent (hL : L.Consistent) (hx : x ∈ L) (h : Repeats H e x)
    (hsome : e.idempotencyKey.isSome) : idempotentEvent H L e = .ok (some x) := by
  obtain ⟨key, hkey⟩ := Option.isSome_iff_exists.mp hsome
  have hfind : (L.readStream e.streamId).find? (fun y ↦ y.idempotencyKey = some key) = some x := by
    cases hfound : (L.readStream e.streamId).find? fun y ↦ y.idempotencyKey = some key with
    | none =>
      have hne := List.find?_eq_none.mp hfound x (mem_readStream.mpr ⟨hx, h.stream⟩)
      exact absurd (h.key.trans hkey) (by simpa using hne)
    | some y =>
      have hy := mem_readStream.mp (List.mem_of_find?_eq_some hfound)
      have hykey : y.idempotencyKey = some key := by simpa using List.find?_some hfound
      rw [hL.eq_of_key hy.1 hx (hy.2.trans h.stream.symm)
        (hykey.trans (h.key.trans hkey).symm) (by simp [hykey])]
  unfold Ledger.idempotentEvent
  simp [hkey, hfind, h.hash]

/-- Events with consecutive sequence numbers in each stream are in order. -/
theorem existingInOrder_of_consecutive {es : List EventEnvelope}
    (h : ∀ streamId, ∃ n, Consecutive n ((readStream es streamId).map (·.streamSequence))) :
    existingInOrder es = true := by
  induction es with
  | nil => rfl
  | cons e es ih =>
    rw [existingInOrder, Bool.and_eq_true]
    constructor
    · obtain ⟨n, hn⟩ := h e.streamId
      rw [readStream, List.filter_cons_of_pos (by simp), List.map_cons, consecutive_cons] at hn
      rw [← List.head?_filter]
      cases htail : es.filter fun x ↦ x.streamId = e.streamId with
      | nil => rfl
      | cons x xs =>
        rw [htail, List.map_cons, consecutive_cons] at hn
        simpa [hn.1] using hn.2.1
    · refine ih fun streamId ↦ ?_
      obtain ⟨n, hn⟩ := h streamId
      by_cases hstream : e.streamId = streamId
      · rw [readStream, List.filter_cons_of_pos (by simpa using hstream), List.map_cons,
          consecutive_cons] at hn
        exact ⟨_, hn.2⟩
      · rw [readStream, List.filter_cons_of_neg (by simpa using hstream)] at hn
        exact ⟨n, hn⟩

/-! ### A committed prefix -/

/-- The insertion of a batch returns the events of its committed prefix, and goes on behind it. -/
theorem insertBatch_committed {committed stored r : List EventEnvelope} {events : List Candidate}
    (hlength : committed.length = stored.length)
    (h : insertBatch L (committed.zip (stored.map some) ++ events) = .ok (r, L')) :
    ∃ appended, r = stored ++ appended ∧ insertBatch L events = .ok (appended, L') := by
  induction committed generalizing stored r with
  | nil =>
    obtain rfl := List.length_eq_zero_iff.mp hlength.symm
    exact ⟨r, rfl, h⟩
  | cons e committed ih =>
    obtain ⟨x, stored, rfl⟩ := List.exists_cons_of_length_eq_add_one hlength.symm
    simp only [List.map_cons, List.zip_cons_cons, List.cons_append, Ledger.insertBatch,
      Checked.bind_eq_ok, Checked.pure_eq_ok, Prod.exists, Prod.mk.injEq] at h
    obtain ⟨rest, L₁, hrest, rfl, rfl⟩ := h
    obtain ⟨appended, rfl, happended⟩ := ih (by simpa using hlength) hrest
    exact ⟨appended, rfl, happended⟩

/-- The insertion of new events adds each of them, in order. -/
theorem insertBatch_new {events r : List EventEnvelope}
    (h : insertBatch L (events.map fun e ↦ (e, none)) = .ok (r, L')) :
    List.Forall₂ StoredAs events r ∧ L' = L ++ r := by
  induction events generalizing L r with
  | nil =>
    simp only [List.map_nil, Ledger.insertBatch, Except.ok.injEq, Prod.mk.injEq] at h
    obtain ⟨rfl, rfl⟩ := h
    exact ⟨.nil, (List.append_nil L).symm⟩
  | cons e events ih =>
    simp only [List.map_cons, Ledger.insertBatch, Checked.bind_eq_ok, insertEvent_eq_ok,
      Checked.pure_eq_ok, Prod.exists, Prod.mk.injEq] at h
    obtain ⟨_, _, ⟨-, rfl, rfl⟩, rest, L₁, hrest, rfl, rfl⟩ := h
    obtain ⟨hstored, rfl⟩ := ih hrest
    exact ⟨.cons rfl hstored, by simp⟩

/-- What the insertion of a batch adds are events of the batch. -/
theorem stored_of_insertBatch {events : List Candidate} {r : List EventEnvelope}
    (h : insertBatch L events = .ok (r, L')) (x : EventEnvelope) (hx : x ∈ L') :
    x ∈ L ∨ ∃ p ∈ events, StoredAs p.1 x := by
  induction events generalizing L r with
  | nil =>
    simp only [Ledger.insertBatch, Except.ok.injEq, Prod.mk.injEq] at h
    exact .inl (h.2 ▸ hx)
  | cons p events ih =>
    obtain ⟨e, _ | stored⟩ := p
    case none =>
      simp only [Ledger.insertBatch, Checked.bind_eq_ok, insertEvent_eq_ok, Checked.pure_eq_ok,
        Prod.exists, Prod.mk.injEq] at h
      obtain ⟨_, _, ⟨-, rfl, rfl⟩, rest, L'', hrest, -, rfl⟩ := h
      rcases ih hrest with hx | ⟨p, hp, hstored⟩
      · rcases List.mem_append.mp hx with hx | hx
        · exact .inl hx
        · exact .inr ⟨_, List.mem_cons_self, List.mem_singleton.mp hx ▸ rfl⟩
      · exact .inr ⟨p, List.mem_cons_of_mem _ hp, hstored⟩
    case some =>
      simp only [Ledger.insertBatch, Checked.bind_eq_ok, Checked.pure_eq_ok, Prod.exists,
        Prod.mk.injEq] at h
      obtain ⟨rest, L'', hrest, -, rfl⟩ := h
      exact (ih hrest).imp_right fun h ↦
        h.imp fun _ hp ↦ ⟨List.mem_cons_of_mem _ hp.1, hp.2⟩

/-- What an accepted batch adds are its events. -/
theorem stored_of_appendMany {batch r : List EventEnvelope} {expectedSequences : List (String × Int)}
    (h : Ledger.appendMany H L batch expectedSequences = .ok (r, L')) (x : EventEnvelope)
    (hx : x ∈ L') : x ∈ L ∨ ∃ e ∈ batch, StoredAs e x := by
  unfold Ledger.appendMany at h
  split at h
  case isTrue =>
    simp only [Checked.pure_eq_ok, Prod.mk.injEq] at h
    exact .inl (h.2 ▸ hx)
  case isFalse =>
    simp only [Checked.bind_eq_ok, Checked.exists_unit] at h
    obtain ⟨-, existing, -, h⟩ := h
    split at h
    case isTrue =>
      simp only [Checked.bind_eq_ok, Checked.exists_unit, Checked.pure_eq_ok, Prod.mk.injEq] at h
      exact .inl (h.2.2 ▸ hx)
    case isFalse =>
      simp only [Checked.bind_eq_ok, Checked.exists_unit] at h
      refine (stored_of_insertBatch h.2 x hx).imp_right fun hstored ↦ ?_
      obtain ⟨p, hp, hstored⟩ := hstored
      exact ⟨p.1, (List.of_mem_zip (b := p.2) hp).1, hstored⟩

theorem reduceOption_map_some {α : Type*} (l : List α) : (l.map some).reduceOption = l := by
  simp [List.reduceOption]

/-- **A committed prefix.** When the first events of an accepted batch are stored already, and no
stream holds the key of one of the others, the call returns what is stored and adds the others. -/
theorem Consistent.appendMany_committed {committed suffix r : List EventEnvelope}
    {expectedSequences : List (String × Int)} (hL : L.Consistent)
    (hcommitted : ∀ e ∈ committed, e.idempotencyKey.isSome ∧ ∃ x ∈ L, Repeats H e x)
    (hsuffix : ∀ e ∈ suffix, ∀ x ∈ L, x.streamId = e.streamId → e.idempotencyKey.isSome →
      x.idempotencyKey ≠ e.idempotencyKey)
    (h : Ledger.appendMany H L (committed ++ suffix) expectedSequences = .ok (r, L')) :
    ∃ stored appended, r = stored ++ appended ∧ L' = L ++ appended ∧
      List.Forall₂ (fun e x ↦ x ∈ L ∧ Repeats H e x) committed stored ∧
      List.Forall₂ StoredAs suffix appended := by
  obtain ⟨stored, hstored, -⟩ := Checked.exists_forall₂_iff
    (R := fun e x ↦ (x ∈ L ∧ Repeats H e x) ∧ Ledger.idempotentEvent H L e = .ok (some x))
    (p := fun _ ↦ True) (l := committed) |>.mpr fun e he ↦ by
      obtain ⟨hsome, x, hx, hrepeats⟩ := hcommitted e he
      exact ⟨x, ⟨⟨hx, hrepeats⟩, hL.idempotentEvent hx hrepeats hsome⟩, trivial⟩
  have hexisting : (committed ++ suffix).mapM (Ledger.idempotentEvent H L) =
      .ok (stored.map some ++ suffix.map fun _ ↦ none) := by
    refine Checked.mapM_eq_ok.mpr (List.rel_append ?_ ?_)
    · exact List.forall₂_map_right_iff.mpr (hstored.imp fun _ _ h ↦ h.2)
    · rw [List.forall₂_map_right_iff, List.forall₂_same]
      exact fun e he ↦ idempotentEvent_eq_none (hsuffix e he)
  have hanswers := hstored.imp fun _ _ h ↦ h.1
  unfold Ledger.appendMany at h
  split at h
  case isTrue hbatch =>
    obtain ⟨rfl, rfl⟩ := List.append_eq_nil_iff.mp hbatch
    simp only [Checked.pure_eq_ok, Prod.mk.injEq] at h
    obtain ⟨rfl, rfl⟩ := h
    exact ⟨[], [], rfl, (List.append_nil L).symm, .nil, .nil⟩
  case isFalse =>
    rw [hexisting] at h
    simp only [Checked.bind_eq_ok, Checked.exists_unit, Checked.ok_bind] at h
    obtain ⟨-, h⟩ := h
    split at h
    case isTrue hall =>
      obtain rfl : suffix = [] := List.eq_nil_iff_forall_not_mem.mpr fun e he ↦ by
        simp only [List.all_append, List.all_map, Bool.and_eq_true, List.all_eq_true] at hall
        exact absurd (hall.2 e he) (by simp)
      simp only [List.map_nil, List.append_nil, reduceOption_map_some, Checked.bind_eq_ok,
        Checked.exists_unit, Checked.pure_eq_ok, Prod.mk.injEq] at h
      obtain ⟨-, rfl, rfl⟩ := h
      exact ⟨stored, [], (List.append_nil _).symm, (List.append_nil _).symm, hanswers, .nil⟩
    case isFalse =>
      simp only [Checked.bind_eq_ok, Checked.exists_unit] at h
      obtain ⟨-, hinsert⟩ := h
      rw [List.zip_append (by simpa using hstored.length_eq)] at hinsert
      obtain ⟨appended, rfl, happended⟩ := insertBatch_committed hstored.length_eq hinsert
      have hzip : suffix.zip (suffix.map fun _ ↦ (none : Option EventEnvelope)) =
          suffix.map fun e ↦ (e, none) := by
        simpa using List.zip_map' (f := id) (g := fun _ ↦ (none : Option EventEnvelope)) (l := suffix)
      rw [hzip] at happended
      obtain ⟨hnew, rfl⟩ := insertBatch_new happended
      exact ⟨stored, appended, rfl, rfl, hanswers, hnew⟩

end Ledger

namespace EventStore

open Transaction

variable {H : Host} {db db' : Database}

/-! ### Calls -/

/-- An accepted call on the tables is an accepted call on the ledger. -/
theorem ledger_of_appendMany {batch r : List EventEnvelope} {expectedSequences : List (String × Int)}
    (hdb : db.Represents H) (h : appendMany H batch expectedSequences db = (.ok r, db')) :
    Ledger.appendMany H db.ledger batch expectedSequences = .ok (r, db'.ledger) := by
  unfold appendMany at h
  split at h
  case isTrue hbatch =>
    simp only [pure_eq_ok] at h
    obtain ⟨rfl, rfl⟩ := h
    simp [Ledger.appendMany, hbatch]
  case isFalse => exact (refines_appendMany hdb (atomically_eq_ok.mp h)).1

/-- A call that is accepted found each of its streams among the expected sequences. -/
theorem validateAppendRequest_of_appendMany {batch r : List EventEnvelope}
    {expectedSequences : List (String × Int)}
    (h : appendMany H batch expectedSequences db = (.ok r, db')) :
    validateAppendRequest.{0} batch expectedSequences = .ok ⟨⟩ := by
  unfold appendMany at h
  split at h
  case isTrue hbatch =>
    subst hbatch
    rfl
  case isFalse hbatch =>
    rw [atomically_eq_ok, appendManyInTransaction, if_neg hbatch] at h
    simp only [bind_eq_ok, check_eq_ok, mapError_store_eq_ok] at h
    obtain ⟨_, _, ⟨hrequest, -⟩, -⟩ := h
    exact hrequest

/-- The events of a batch that repeats another one are of the same streams. -/
theorem validateAppendRequest_of_repeats {batch batch' : List EventEnvelope}
    {expectedSequences : List (String × Int)} (h : List.Forall₂ (Ledger.Repeats H) batch batch')
    (hrequest : validateAppendRequest.{0} batch expectedSequences = .ok ⟨⟩) :
    validateAppendRequest.{0} batch' expectedSequences = .ok ⟨⟩ := by
  induction h with
  | nil => rfl
  | cons hrepeats _ ih =>
    simp only [validateAppendRequest, Checked.forEach_eq_ok, List.forall_mem_cons] at hrequest ih ⊢
    exact ⟨hrepeats.stream ▸ hrequest.1, ih hrequest.2⟩

/-- What is stored for a batch is stored for a batch that repeats it. -/
theorem stored_of_repeats {L L' : Ledger} {batch batch' stored : List EventEnvelope}
    (h : List.Forall₂ (Ledger.Repeats H) batch batch') (hL : L <+: L')
    (hkeyed : ∀ e ∈ batch, e.idempotencyKey.isSome)
    (hstored : List.Forall₂ (fun e x ↦ x ∈ L ∧ Ledger.Repeats H e x) batch stored) :
    List.Forall₂ (fun e x ↦ e.idempotencyKey.isSome ∧ x ∈ L' ∧ Ledger.Repeats H e x)
      batch' stored := by
  induction h generalizing stored with
  | nil =>
    rw [List.forall₂_nil_left_iff.mp hstored]
    exact .nil
  | @cons e e' batch batch' hrepeats _ ih =>
    obtain ⟨x, xs, ⟨hx, hex⟩, hxs, rfl⟩ := List.forall₂_cons_left_iff.mp hstored
    rw [List.forall_mem_cons] at hkeyed
    refine .cons ⟨hrepeats.key ▸ hkeyed.1, hL.subset hx, ?_⟩ (ih hkeyed.2 hxs)
    exact ⟨hex.stream.trans hrepeats.stream.symm, hex.key.trans hrepeats.key.symm,
      hex.hash.trans hrepeats.hash.symm⟩

/-- **A complete retry.** A batch whose events repeat stored ones, that follow each other in each
stream, returns them and changes nothing. -/
theorem appendMany_repeated {batch stored : List EventEnvelope}
    {expectedSequences : List (String × Int)} (hdb : db.Represents H)
    (hrequest : validateAppendRequest.{0} batch expectedSequences = .ok ⟨⟩)
    (hstored : List.Forall₂ (fun e x ↦ e.idempotencyKey.isSome ∧ x ∈ db.ledger ∧
      Ledger.Repeats H e x) batch stored)
    (horder : Ledger.existingInOrder stored = true) :
    appendMany H batch expectedSequences db = (.ok stored, db) := by
  have hexisting : batch.mapM (db.idempotentEvent H) = .ok (stored.map some) := by
    rw [Checked.mapM_eq_ok, List.forall₂_map_right_iff]
    refine hstored.imp fun e x ⟨hsome, hx, hrepeats⟩ ↦ ?_
    exact (idempotentEvent_eq_ok hdb.toRows).mpr (hdb.consistent.idempotentEvent hx hrepeats hsome)
  have hall : (stored.map some).all Option.isSome = true := by simp
  unfold appendMany
  split
  case isTrue hbatch =>
    subst hbatch
    obtain rfl := List.forall₂_nil_left_iff.mp hstored
    rfl
  case isFalse hbatch =>
    rw [atomically_eq_ok, appendManyInTransaction, if_neg hbatch]
    simp only [bind_eq_ok, check_eq_ok, mapError_store_eq_ok]
    refine ⟨⟨⟩, db, ⟨hrequest, rfl⟩, _, db, ⟨hexisting, rfl⟩, ?_⟩
    rw [if_pos hall, Ledger.reduceOption_map_some]
    simp [horder]

/-- The events that an accepted batch returned are in order, and each of them repeats its event. -/
theorem retry_of_appendMany {batch r : List EventEnvelope} {expectedSequences : List (String × Int)}
    (hdb : db.Represents H) (h : appendMany H batch expectedSequences db = (.ok r, db')) :
    List.Forall₂ (fun e x ↦ x ∈ db'.ledger ∧ Ledger.Repeats H e x) batch r ∧
      Ledger.existingInOrder r = true := by
  obtain ⟨-, -, hoccupies⟩ := appendMany_eq_ok hdb h
  exact ⟨hoccupies.answers.imp fun _ _ hx ↦ ⟨hx.mem, hx.repeats⟩,
    Ledger.existingInOrder_of_consecutive hoccupies.consecutive⟩

/-- **No key with two contents.** A call whose batch reuses a key of a stream, which a stored event
or another event of the batch has, for another content is rejected. -/
theorem Call.rejects_reuse {call : Call} (hdb : db.Represents H) {e y : EventEnvelope}
    (he : e ∈ call.batch) (hy : y ∈ db.ledger ∨ y ∈ call.batch)
    (hstream : y.streamId = e.streamId) (hsome : e.idempotencyKey.isSome)
    (hkey : y.idempotencyKey = e.idempotencyKey)
    (hhash : y.idempotencyHash H ≠ e.idempotencyHash H) :
    ∃ error, call.run H db = (.error error, db) := by
  rcases hrun : call.run H db with ⟨error | r, db'⟩
  case error => exact ⟨error, Prod.ext rfl (Call.run_eq_error hdb hrun)⟩
  obtain ⟨hdb', hle, hoccupies⟩ := Call.run_eq_ok hdb hrun
  -- what the call returns for an event of its batch is stored, and repeats it
  have hreturned (z : EventEnvelope) (hz : z ∈ call.batch) :
      ∃ x ∈ db'.ledger, Ledger.Repeats H z x := by
    obtain ⟨i, hi, rfl⟩ := List.getElem_of_mem hz
    have hx := (List.forall₂_iff_get.mp hoccupies.answers).2 i hi
      (hoccupies.answers.length_eq ▸ hi)
    exact ⟨_, hx.mem, hx.repeats⟩
  obtain ⟨x, hx, hex⟩ := hreturned e he
  obtain ⟨x', hx', hyx'⟩ : ∃ x' ∈ db'.ledger, Ledger.Repeats H y x' := by
    rcases hy with hy | hy
    · exact ⟨y, hle.subset hy, ⟨rfl, rfl, rfl⟩⟩
    · exact hreturned y hy
  obtain rfl : x = x' := hdb'.consistent.eq_of_key hx hx'
    (hex.stream.trans (hstream.symm.trans hyx'.stream.symm))
    (hex.key.trans (hkey.symm.trans hyx'.key.symm)) (hex.key ▸ hsome)
  exact absurd (hyx'.hash.symm.trans hex.hash) hhash

/-- **Idempotent retry of appends.** In every run of calls of the store: a batch of keyed events that
repeats an accepted one, with its expected sequences, returns after any later calls the events that
the accepted one returned, in order, and changes nothing. A batch of keyed events of which the first
ones repeat stored events, and whose other keys are new, returns the stored events and adds exactly
the others, in order, or is rejected without change. A batch that reuses a key of a stream for another
content is rejected without change. -/
theorem retry_idempotent (H : Host) (calls : List Call) :
    let db := after H Database.initial calls
    (∀ batch expectedSequences r db', (∀ e ∈ batch, e.idempotencyKey.isSome) →
      appendMany H batch expectedSequences db = (.ok r, db') →
      ∀ later batch', List.Forall₂ (Ledger.Repeats H) batch batch' →
        appendMany H batch' expectedSequences (after H db' later) = (.ok r, after H db' later)) ∧
    (∀ committed suffix expectedSequences,
      (∀ e ∈ committed, e.idempotencyKey.isSome ∧ ∃ x ∈ db.ledger, Ledger.Repeats H e x) →
      (∀ e ∈ suffix, e.idempotencyKey.isSome ∧ ∀ x ∈ db.ledger, x.streamId = e.streamId →
        x.idempotencyKey ≠ e.idempotencyKey) →
      let (result, db') := appendMany H (committed ++ suffix) expectedSequences db
      (∃ stored appended, result = .ok (stored ++ appended) ∧
        db'.ledger = db.ledger ++ appended ∧
        List.Forall₂ (fun e x ↦ x ∈ db.ledger ∧ Ledger.Repeats H e x) committed stored ∧
        List.Forall₂ Ledger.StoredAs suffix appended) ∨
      ∃ error, result = .error error ∧ db' = db) ∧
    ∀ call : Call, ∀ e ∈ call.batch, ∀ y, y ∈ db.ledger ∨ y ∈ call.batch →
      y.streamId = e.streamId → e.idempotencyKey.isSome → y.idempotencyKey = e.idempotencyKey →
      y.idempotencyHash H ≠ e.idempotencyHash H →
      ∃ error, call.run H db = (.error error, db) := by
  intro db
  have hdb : db.Represents H := (after_keeps calls (Database.Represents.initial H)).1
  refine ⟨fun batch expectedSequences r db' hkeyed haccepted later batch' hrepeats ↦ ?_,
    fun committed suffix expectedSequences hcommitted hsuffix ↦ ?_,
    fun call e he y hy hstream hsome hkey hhash ↦
      Call.rejects_reuse hdb he hy hstream hsome hkey hhash⟩
  · have hdb' := (appendMany_eq_ok hdb haccepted).1
    obtain ⟨hstored, horder⟩ := retry_of_appendMany hdb haccepted
    obtain ⟨hlater, hle⟩ := after_keeps later hdb'
    exact appendMany_repeated hlater
      (validateAppendRequest_of_repeats hrepeats (validateAppendRequest_of_appendMany haccepted))
      (stored_of_repeats hrepeats hle hkeyed hstored) horder
  · rcases hrun : appendMany H (committed ++ suffix) expectedSequences db with ⟨error | r, db'⟩
    case error => exact .inr ⟨error, rfl, appendMany_eq_error hrun⟩
    obtain ⟨stored, appended, rfl, hadded, hstored, hnew⟩ :=
      hdb.consistent.appendMany_committed hcommitted
        (fun e he x hx hstream _ ↦ (hsuffix e he).2 x hx hstream) (ledger_of_appendMany hdb hrun)
    exact .inl ⟨stored, appended, rfl, hadded, hstored, hnew⟩

/-! ### A retried batch -/

namespace Sample

/-- The digest of the empty payload. -/
def emptyDigest : { s : String // isHex 64 s = true } :=
  hexText 0x44136fa355b3678a1146ad16f7e8649e94fb4fc21fe77e8310c060f61caaff8a

/-- The document of the event of an actor. -/
def document (actor : String) : JsonValue := .object [
  ("actor", .str actor), ("causation_id", .null), ("correlation_id", .str "run-1"),
  ("effective_at", .str "2026-01-01T00:00:00+00:00"), ("event_type", .str "run.queued"),
  ("payload_hash", .str (digestPrefix ++ emptyDigest.1)), ("schema_version", .int 1),
  ("source", .str "runtime"), ("stream_id", .str "run:1")]

/-- SHA-256 on the empty payload and the documents of two actors. -/
def host : Host := .ofTables
  [(.object [], emptyDigest),
    (document "worker-1",
      hexText 0x46fc944dff067825f18226735e903de16b68603f7f803b35733643d3a0f044ed),
    (document "worker-2",
      hexText 0xbf87558be855855174f873fddd2a5245fc1cf2823a30818d2a2ae474280118f9)]
  [] [(1767225600000000, "2026-01-01T00:00:00+00:00")]

/-- An event of an actor, with an identifier, a sequence number and a key. -/
def event (eventId actor key : String) (sequence : Int) : EventEnvelope where
  eventId := eventId
  streamId := "run:1"
  streamSequence := sequence
  eventType := "run.queued"
  schemaVersion := 1
  recordedAt := 1767225600000000
  effectiveAt := 1767225600000000
  correlationId := "run-1"
  causationId := none
  actor := actor
  source := "runtime"
  payload := []
  idempotencyKey := some key
  globalPosition := none

/-- The tables with the first event. -/
def database : Database := after host Database.initial [.append (event "e-1" "worker-1" "k-1" 1) 0]

end Sample

/-- The sample batch, the first event with the next one, is retried; its first event is reused. -/
theorem retry_idempotent_sample :
    (∃ r db', appendMany Sample.host [Sample.event "e-2" "worker-1" "k-2" 2] [("run:1", 1)]
        Sample.database = (.ok r, db') ∧
      appendMany Sample.host [Sample.event "e-3" "worker-1" "k-2" 2] [("run:1", 1)] db' =
        (.ok r, db')) ∧
    (∃ x, (appendMany Sample.host
        [Sample.event "e-4" "worker-1" "k-1" 1, Sample.event "e-5" "worker-1" "k-2" 2] [("run:1", 0)]
        Sample.database).2.ledger = Sample.database.ledger ++ [x] ∧
      Ledger.StoredAs (Sample.event "e-5" "worker-1" "k-2" 2) x) ∧
    ∃ error, (Call.append (Sample.event "e-6" "worker-2" "k-1" 1) 0).run Sample.host Sample.database =
      (.error error, Sample.database) := by
  obtain ⟨hretry, hprefix, hreuse⟩ :=
    retry_idempotent Sample.host [.append (Sample.event "e-1" "worker-1" "k-1" 1) 0]
  have hfirst : { Sample.event "e-1" "worker-1" "k-1" 1 with globalPosition := some 1 } ∈
      Sample.database.ledger := by decide +kernel
  refine ⟨?_, ?_, ?_⟩
  · rcases haccepted : appendMany Sample.host [Sample.event "e-2" "worker-1" "k-2" 2] [("run:1", 1)]
        Sample.database with ⟨error | r, db'⟩
    case error =>
      have hok : (appendMany Sample.host [Sample.event "e-2" "worker-1" "k-2" 2] [("run:1", 1)]
        Sample.database).1.isOk = true := by decide +kernel
      obtain ⟨r, hr⟩ := Checked.exists_of_isOk hok
      rw [haccepted] at hr
      exact absurd hr nofun
    exact ⟨r, db', rfl, hretry _ _ r db' (by decide) haccepted [] _
      (.cons (.renewed _ "e-3" _ _ _) .nil)⟩
  · have hresult := hprefix [Sample.event "e-4" "worker-1" "k-1" 1]
      [Sample.event "e-5" "worker-1" "k-2" 2] [("run:1", 0)]
      (List.forall_mem_singleton.mpr ⟨rfl, _, hfirst, rfl, rfl, rfl⟩)
      (List.forall_mem_singleton.mpr ⟨rfl, by decide +kernel⟩)
    have hok : (appendMany Sample.host
        [Sample.event "e-4" "worker-1" "k-1" 1, Sample.event "e-5" "worker-1" "k-2" 2] [("run:1", 0)]
        Sample.database).1.isOk = true := by decide +kernel
    rcases hresult with ⟨_, _, -, hledger, -, hstored⟩ | ⟨error, herror, -⟩
    · obtain ⟨x, _, hx, hnil, rfl⟩ := List.forall₂_cons_left_iff.mp hstored
      obtain rfl := List.forall₂_nil_left_iff.mp hnil
      exact ⟨x, hledger, hx⟩
    · obtain ⟨r, hr⟩ := Checked.exists_of_isOk hok
      exact absurd (hr.symm.trans herror) nofun
  · exact hreuse _ _ List.mem_cons_self _ (.inl hfirst) rfl rfl rfl (by decide +kernel)

end EventStore

end Blackcell.Kernel
