import Blackcell.Foundation.Consecutive
import Blackcell.Kernel.Store
import Mathlib.Data.List.Nodup
import Mathlib.Data.List.ReduceOption
import Mathlib.Data.List.TakeWhile

/-!
# Consistent ledgers

What every ledger satisfies that was built by appending to it: the events of each stream are
numbered from one without a gap, positions count the stored events, and no identifier or
idempotency key of a stream occurs twice. An accepted batch keeps all of this, and its events take
consecutive numbers of their streams, whether they are new or were stored by an earlier request.

## Main definitions

* `Ledger.Consistent` : the invariant.
* `Ledger.Answers` : an event of a batch and the stored event that is returned for it.
* `Ledger.Occupies` : what an accepted batch returns.

## Main results

* `Ledger.Consistent.store` : storing the next event of a stream keeps the invariant.
* `Ledger.Consistent.appendMany` : an accepted batch keeps the invariant, adds to the end of the
  ledger and occupies consecutive numbers.
-/

namespace Blackcell.Kernel

namespace Ledger

variable (H : Host)

/-- The invariant of the ledger. -/
structure Consistent (L : Ledger) : Prop where
  sequences (streamId : String) :
    Consecutive 0 ((L.readStream streamId).map (·.streamSequence))
  positions : L.map (·.globalPosition) = (List.range L.length).map fun i : ℕ ↦ some ((i : Int) + 1)
  eventIds : (L.map (·.eventId)).Nodup
  keys : L.Pairwise fun x y ↦
    y.streamId = x.streamId → y.idempotencyKey.isSome → x.idempotencyKey ≠ y.idempotencyKey

theorem Consistent.nil : Consistent [] := by
  constructor <;> simp [readStream]

variable {H} {L L' : Ledger} {e : EventEnvelope}

@[simp] theorem stored_streamId : (L.stored e).streamId = e.streamId := rfl

@[simp] theorem stored_streamSequence : (L.stored e).streamSequence = e.streamSequence := rfl

/-- **One step.** Storing the next event of a stream keeps the invariant. -/
theorem Consistent.store (hL : L.Consistent) (hinsert : L.Insertable e)
    (hnext : e.streamSequence = L.currentSequence e.streamId + 1) :
    Consistent (L ++ [L.stored e]) where
  sequences streamId := by
    by_cases hstream : (L.stored e).streamId = streamId
    · rw [readStream_append_singleton hstream, List.map_append, consecutive_append]
      refine ⟨hL.sequences streamId, ?_⟩
      rw [stored_streamId] at hstream
      simp [hnext, currentSequence, hstream]
    · rw [readStream_append_of_ne hstream]
      exact hL.sequences streamId
  positions := by
    rw [List.map_append, hL.positions, List.length_append, List.length_singleton, List.range_succ,
      List.map_append]
    rfl
  eventIds := by
    rw [List.map_append, List.nodup_append]
    refine ⟨hL.eventIds, List.nodup_singleton _, ?_⟩
    intro a ha b hb
    obtain ⟨x, hx, rfl⟩ := List.mem_map.mp ha
    rw [List.map_singleton, List.mem_singleton] at hb
    exact hb ▸ hinsert.eventId x hx
  keys := by
    rw [List.pairwise_append]
    refine ⟨hL.keys, List.pairwise_singleton _ _, ?_⟩
    intro x hx y hy
    rw [List.mem_singleton] at hy
    subst hy
    exact fun hstream hkey ↦ hinsert.key x hx hstream.symm hkey

/-- The first of two events is stored earlier: it has the smaller position, and in one stream the
smaller sequence number. -/
def Earlier (x y : EventEnvelope) : Prop :=
  (∃ p q, x.globalPosition = some p ∧ y.globalPosition = some q ∧ p < q) ∧
    (x.streamId = y.streamId → x.streamSequence < y.streamSequence)

theorem Consistent.pairwise_earlier (hL : L.Consistent) : L.Pairwise Earlier := by
  have hposition : L.Pairwise fun x y ↦
      ∃ p q, x.globalPosition = some p ∧ y.globalPosition = some q ∧ p < q := by
    rw [← List.pairwise_map (f := fun x : EventEnvelope ↦ x.globalPosition)
      (R := fun a b ↦ ∃ p q : Int, a = some p ∧ b = some q ∧ p < q), hL.positions,
      List.pairwise_map]
    exact List.pairwise_lt_range.imp fun hij ↦ ⟨_, _, rfl, rfl, by omega⟩
  have hsequence (s : String) : L.Pairwise fun x y ↦
      x.streamId = s → y.streamId = s → x.streamSequence < y.streamSequence := by
    have h := (hL.sequences s).pairwise_lt
    rw [List.pairwise_map, readStream, List.pairwise_filter] at h
    simpa using h
  rw [List.pairwise_iff_getElem] at hposition ⊢
  refine fun i j hi hj hij ↦ ⟨hposition i j hi hj hij, fun hstream ↦ ?_⟩
  exact List.pairwise_iff_getElem.mp (hsequence _) i j hi hj hij rfl hstream.symm

/-- Of two events of a consistent ledger, one is stored earlier. -/
theorem Consistent.trichotomy (hL : L.Consistent) {x y : EventEnvelope} (hx : x ∈ L) (hy : y ∈ L) :
    x = y ∨ Earlier x y ∨ Earlier y x :=
  List.Pairwise.forall_of_forall_of_flip (R := fun x y ↦ x = y ∨ Earlier x y ∨ Earlier y x)
    (fun _ _ ↦ .inl rfl) (hL.pairwise_earlier.imp fun h ↦ .inr (.inl h))
    (hL.pairwise_earlier.imp fun h ↦ .inr (.inr h)) hx hy

/-! ### Batches -/

/-- An event of a batch, with the stored event of an earlier request for it. -/
abbrev Candidate := EventEnvelope × Option EventEnvelope

/-- The sequence number that a candidate has or is to take. -/
def Candidate.sequence (p : Candidate) : Int := (p.2.getD p.1).streamSequence

/-- The new events of a batch in a stream. -/
def newOf (streamId : String) (events : List Candidate) : List Candidate :=
  events.filter fun p ↦ p.2.isNone ∧ p.1.streamId = streamId

/-- In each stream, the new events of a batch follow the stored ones. -/
def Aligned (L : Ledger) (events : List Candidate) : Prop :=
  ∀ streamId, Consecutive (L.currentSequence streamId)
    ((newOf streamId events).map (·.1.streamSequence))

theorem newOf_cons_some {streamId : String} {stored : EventEnvelope} {events : List Candidate} :
    newOf streamId ((e, some stored) :: events) = newOf streamId events := by
  simp [newOf]

theorem newOf_cons_none {streamId : String} {events : List Candidate} :
    newOf streamId ((e, none) :: events) =
      if e.streamId = streamId then (e, none) :: newOf streamId events
      else newOf streamId events := by
  simp [newOf, List.filter_cons]

theorem currentSequence_stored {streamId : String} :
    currentSequence (L ++ [L.stored e]) streamId =
      L.currentSequence streamId + if e.streamId = streamId then 1 else 0 := by
  unfold currentSequence
  split
  case isTrue h => simp [readStream_append_singleton (e := L.stored e) h]
  case isFalse h => simp [readStream_append_of_ne (e := L.stored e) h]

/-- A stored event is next in its stream, and leaves the rest of the batch aligned. -/
theorem Aligned.head {events : List Candidate} (h : L.Aligned ((e, none) :: events)) :
    e.streamSequence = L.currentSequence e.streamId + 1 ∧
      Aligned (L ++ [L.stored e]) events := by
  constructor
  · have hstream := h e.streamId
    rw [newOf_cons_none, if_pos rfl, List.map_cons, consecutive_cons] at hstream
    exact hstream.1
  · intro streamId
    have hstream := h streamId
    rw [newOf_cons_none] at hstream
    rw [currentSequence_stored]
    split
    case isTrue heq =>
      rw [if_pos heq, List.map_cons, consecutive_cons] at hstream
      exact hstream.2
    case isFalse hne =>
      rw [if_neg hne] at hstream
      rwa [add_zero]

variable (H) in
/-- The stored event that an accepted call returns for an event of its batch: the event itself,
with its position, or the event of an earlier request with its key and its content. -/
structure Answers (L : Ledger) (e x : EventEnvelope) : Prop where
  mem : x ∈ L
  stream : x.streamId = e.streamId
  same : x = { e with globalPosition := x.globalPosition } ∨
    e.idempotencyKey.isSome ∧ x.idempotencyKey = e.idempotencyKey ∧
      x.idempotencyHash H = e.idempotencyHash H

theorem Answers.mono {x : EventEnvelope} (h : L.Answers H e x) (hL : L <+: L') : L'.Answers H e x :=
  ⟨hL.subset h.mem, h.stream, h.same⟩

/-- The insertion of a batch counts its new events. -/
theorem currentSequence_insertBatch {events : List Candidate} {r : List EventEnvelope}
    (h : insertBatch L events = .ok (r, L')) (streamId : String) :
    L'.currentSequence streamId =
      L.currentSequence streamId + (newOf streamId events).length := by
  induction events generalizing L r with
  | nil =>
    simp only [Ledger.insertBatch, Except.ok.injEq, Prod.mk.injEq] at h
    obtain ⟨-, rfl⟩ := h
    simp [newOf]
  | cons p events ih =>
    obtain ⟨e, _ | stored⟩ := p
    case none =>
      simp only [Ledger.insertBatch, Checked.bind_eq_ok, insertEvent_eq_ok, Checked.pure_eq_ok,
        Prod.exists, Prod.mk.injEq] at h
      obtain ⟨_, _, ⟨-, rfl, rfl⟩, r', L'', hr, -, rfl⟩ := h
      rw [ih hr, currentSequence_stored, newOf_cons_none]
      split
      case isTrue =>
        rw [List.length_cons]
        push_cast
        omega
      case isFalse => rw [add_zero]
    case some =>
      simp only [Ledger.insertBatch, Checked.bind_eq_ok, Checked.pure_eq_ok, Prod.exists,
        Prod.mk.injEq] at h
      obtain ⟨r', L'', hr, -, rfl⟩ := h
      rw [ih hr, newOf_cons_some]

/-- **The insertion of a batch.** It keeps the invariant, adds the new events to the end of the
ledger, and returns the events of the batch in order. -/
theorem Consistent.insertBatch {events : List Candidate} {r : List EventEnvelope}
    (hL : L.Consistent) (hold : ∀ p ∈ events, ∀ stored ∈ p.2, L.Answers H p.1 stored)
    (haligned : L.Aligned events) (h : insertBatch L events = .ok (r, L')) :
    L'.Consistent ∧ L <+: L' ∧
      List.Forall₂ (fun p x ↦ L'.Answers H p.1 x ∧ x.streamSequence = p.sequence) events r := by
  induction events generalizing L r with
  | nil =>
    simp only [Ledger.insertBatch, Except.ok.injEq, Prod.mk.injEq] at h
    obtain ⟨rfl, rfl⟩ := h
    exact ⟨hL, List.prefix_rfl, .nil⟩
  | cons p events ih =>
    obtain ⟨e, _ | stored⟩ := p
    case none =>
      simp only [Ledger.insertBatch, Checked.bind_eq_ok, insertEvent_eq_ok, Checked.pure_eq_ok,
        Prod.exists, Prod.mk.injEq] at h
      obtain ⟨_, _, ⟨hinsert, rfl, rfl⟩, r', L'', hr, rfl, rfl⟩ := h
      obtain ⟨hnext, htail⟩ := haligned.head
      have hprefix : L <+: L ++ [L.stored e] := List.prefix_append _ _
      have hold' : ∀ p ∈ events, ∀ stored ∈ p.2, Answers H (L ++ [L.stored e]) p.1 stored :=
        fun p hp stored hs ↦ (hold p (List.mem_cons_of_mem _ hp) stored hs).mono hprefix
      obtain ⟨hcons, hle, hreturned⟩ := ih (hL.store hinsert hnext) hold' htail hr
      have hanswer : Answers H L'' e (L.stored e) := ⟨hle.subset (by simp), rfl, .inl rfl⟩
      exact ⟨hcons, hprefix.trans hle, .cons ⟨hanswer, rfl⟩ hreturned⟩
    case some =>
      simp only [Ledger.insertBatch, Checked.bind_eq_ok, Checked.pure_eq_ok, Prod.exists,
        Prod.mk.injEq] at h
      obtain ⟨r', L'', hr, rfl, rfl⟩ := h
      have haligned' : L.Aligned events := fun streamId ↦ by
        simpa only [newOf_cons_some] using haligned streamId
      obtain ⟨hcons, hle, hreturned⟩ :=
        ih hL (fun p hp ↦ hold p (List.mem_cons_of_mem _ hp)) haligned' hr
      have hanswer := (hold _ List.mem_cons_self stored rfl).mono hle
      exact ⟨hcons, hle, .cons ⟨hanswer, rfl⟩ hreturned⟩

/-! ### Calls -/

variable (H) in
/-- The events that an accepted call returns for its batch: one stored event for each event, and in
each stream the returned events have consecutive sequence numbers, in the order of the batch. -/
structure Occupies (L : Ledger) (batch r : List EventEnvelope) : Prop where
  answers : List.Forall₂ (L.Answers H) batch r
  consecutive (streamId : String) :
    ∃ n, Consecutive n ((readStream r streamId).map (·.streamSequence))

/-- A stored event of an earlier request. -/
theorem idempotentEvent_eq_some {x : EventEnvelope}
    (h : idempotentEvent H L e = .ok (some x)) : L.Answers H e x := by
  unfold idempotentEvent at h
  split at h
  case h_1 => simp at h
  case h_2 key hkey =>
    split at h
    case h_1 => simp at h
    case h_2 y hfound =>
      split at h
      case isFalse => simp at h
      obtain rfl : y = x := by simpa using h
      rename_i hhash
      have hmem := mem_readStream.mp (List.mem_of_find?_eq_some hfound)
      have hykey : y.idempotencyKey = some key := by
        simpa using List.find?_some hfound
      exact ⟨hmem.1, hmem.2, .inr ⟨by simp [hkey], hykey.trans hkey.symm, hhash⟩⟩

/-- Repeated events in order have consecutive sequence numbers in each stream. -/
theorem consecutive_of_existingInOrder {es : List EventEnvelope} (h : existingInOrder es = true)
    (streamId : String) : ∃ n, Consecutive n ((readStream es streamId).map (·.streamSequence)) := by
  induction es with
  | nil => exact ⟨0, trivial⟩
  | cons e es ih =>
    rw [existingInOrder, Bool.and_eq_true] at h
    obtain ⟨n, hn⟩ := ih h.2
    by_cases hstream : e.streamId = streamId
    case neg =>
      refine ⟨n, ?_⟩
      rwa [readStream, List.filter_cons_of_neg (by simpa using hstream)]
    case pos =>
      refine ⟨e.streamSequence - 1, ?_⟩
      rw [readStream, List.filter_cons_of_pos (by simpa using hstream), List.map_cons,
        consecutive_cons, Int.sub_add_cancel]
      refine ⟨rfl, ?_⟩
      have hnext := h.1
      rw [hstream, ← List.head?_filter] at hnext
      change Consecutive _ (List.map _ (readStream es streamId))
      cases htail : readStream es streamId with
      | nil => exact trivial
      | cons x xs =>
        rw [readStream] at htail
        rw [htail] at hnext
        rw [readStream, htail] at hn
        have hx : x.streamSequence = e.streamSequence + 1 := by simpa using hnext
        have hxn : x.streamSequence = n + 1 := hn.1
        have : n = e.streamSequence := by omega
        exact this ▸ hn

/-- The length of the committed prefix of the events of a stream. -/
def committedPrefix (events : List Candidate) : ℕ := (events.takeWhile fun p ↦ p.2.isSome).length

/-- The part of a batch that belongs to one stream, when the store accepts it: a committed prefix
and new events after it, with the numbers that follow the expected one. -/
theorem validateBatchStream_eq_ok {expected actual : Int} {events : List Candidate} {u : Unit}
    (h : validateBatchStream expected actual events = .ok u) :
    Consecutive expected (events.map Candidate.sequence) ∧
      actual = expected + committedPrefix events ∧
      (events.filter fun p ↦ p.2.isNone) = events.drop (committedPrefix events) := by
  simp only [validateBatchStream, Checked.bind_eq_ok, Checked.exists_unit, Checked.require_eq_ok,
    Checked.forEach_eq_ok, List.all_eq_true] at h
  obtain ⟨hnew, hactual, hnumbers⟩ := h
  refine ⟨?_, hactual, ?_⟩
  · have hconsecutive : Consecutive (expected + (0 : ℕ)) (events.map Candidate.sequence) := by
      refine consecutive_map_iff.mpr fun p hp ↦ ?_
      obtain ⟨⟨e, _ | stored⟩, offset⟩ := p
      · simpa [Candidate.sequence] using hnumbers _ hp
      · simpa [Candidate.sequence] using hnumbers _ hp
    simpa using hconsecutive
  · have hsplit := List.prefix_iff_eq_append.mp
      (List.takeWhile_prefix (l := events) fun p ↦ p.2.isSome)
    have hcommitted : ∀ p ∈ events.takeWhile fun p ↦ p.2.isSome, ¬p.2.isNone = true := fun p hp ↦ by
      simpa [Option.isSome_iff_ne_none] using
        List.mem_takeWhile_imp (p := fun q : Candidate ↦ q.2.isSome) hp
    nth_rewrite 1 [← hsplit]
    rw [List.filter_append, List.filter_eq_nil_iff.mpr hcommitted, List.filter_eq_self.mpr hnew,
      List.nil_append, committedPrefix]

theorem newOf_eq_filter {streamId : String} {events : List Candidate} :
    newOf streamId events =
      (events.filter fun p ↦ p.1.streamId = streamId).filter fun p ↦ p.2.isNone := by
  rw [List.filter_filter, newOf]
  simp only [Bool.decide_and, Bool.decide_eq_true]

/-- The checks of a batch put its new events behind the stored ones. -/
theorem aligned_of_validated {expectedSequences : List (String × Int)} {events : List Candidate}
    (h : ∀ p ∈ events, validateBatchStream ((expectedSequences.lookup p.1.streamId).getD 0)
      (L.currentSequence p.1.streamId)
      (events.filter fun q ↦ q.1.streamId = p.1.streamId) = .ok ⟨⟩) : L.Aligned events := by
  intro streamId
  rw [newOf_eq_filter]
  by_cases hin : ∃ p ∈ events, p.1.streamId = streamId
  case neg =>
    have hempty : (events.filter fun p ↦ p.1.streamId = streamId) = [] :=
      List.filter_eq_nil_iff.mpr fun p hp hs ↦ hin ⟨p, hp, by simpa using hs⟩
    simp [hempty]
  case pos =>
    obtain ⟨p, hp, rfl⟩ := hin
    obtain ⟨hnumbers, hactual, hnew⟩ := validateBatchStream_eq_ok (h p hp)
    have hsequence (q : Candidate) (hq : q ∈ List.filter (fun q ↦ q.2.isNone)
        (events.filter fun q ↦ q.1.streamId = p.1.streamId)) :
        q.1.streamSequence = q.sequence := by
      rw [Candidate.sequence, Option.isNone_iff_eq_none.mp (List.mem_filter.mp hq).2,
        Option.getD_none]
    have hle : committedPrefix (events.filter fun q ↦ q.1.streamId = p.1.streamId) ≤
        (events.filter fun q ↦ q.1.streamId = p.1.streamId).length :=
      (List.takeWhile_prefix _).length_le
    rw [List.map_congr_left hsequence, hnew, hactual]
    rw [← List.take_append_drop (committedPrefix _) (events.filter _), List.map_append,
      consecutive_append, List.length_map, List.length_take, min_eq_left hle] at hnumbers
    exact hnumbers.2

/-- The returned events have the sequence numbers of their candidates. -/
theorem map_sequence_of_answers {events : List Candidate} {r : List EventEnvelope}
    (h : List.Forall₂ (fun p x ↦ L.Answers H p.1 x ∧ x.streamSequence = p.sequence) events r)
    (streamId : String) :
    (readStream r streamId).map (·.streamSequence) =
      (events.filter fun p ↦ p.1.streamId = streamId).map Candidate.sequence := by
  induction h with
  | nil => rfl
  | @cons p x events r hpx _ ih =>
    rw [readStream, List.filter_cons, List.filter_cons, hpx.1.stream]
    split
    · rw [List.map_cons, List.map_cons, hpx.2]
      exact congrArg _ ih
    · exact ih

/-- A list of present values. -/
theorem eq_map_some_reduceOption {α : Type*} {l : List (Option α)} (h : l.all Option.isSome) :
    l = l.reduceOption.map some := by
  induction l with
  | nil => rfl
  | cons x l ih =>
    rw [List.all_cons, Bool.and_eq_true] at h
    obtain ⟨a, rfl⟩ := Option.isSome_iff_exists.mp h.1
    rw [List.reduceOption_cons_of_some, List.map_cons, ← ih h.2]

/-- **An accepted batch.** It keeps the invariant, adds to the end of the ledger, and its events
take consecutive sequence numbers of their streams. -/
theorem Consistent.appendMany {batch r : List EventEnvelope}
    {expectedSequences : List (String × Int)} (hL : L.Consistent)
    (h : appendMany H L batch expectedSequences = .ok (r, L')) :
    L'.Consistent ∧ L <+: L' ∧ L'.Occupies H batch r := by
  unfold Ledger.appendMany at h
  split at h
  case isTrue hbatch =>
    simp only [Checked.pure_eq_ok, Prod.mk.injEq] at h
    obtain ⟨rfl, rfl⟩ := h
    subst hbatch
    exact ⟨hL, List.prefix_rfl, .nil, fun _ ↦ ⟨0, trivial⟩⟩
  case isFalse =>
    simp only [Checked.bind_eq_ok, Checked.exists_unit, Checked.mapM_eq_ok] at h
    obtain ⟨-, existing, hexisting, h⟩ := h
    split at h
    case isTrue hall =>
      simp only [Checked.bind_eq_ok, Checked.exists_unit, Checked.require_eq_ok, Checked.pure_eq_ok,
        Prod.mk.injEq] at h
      obtain ⟨horder, rfl, rfl⟩ := h
      rw [eq_map_some_reduceOption hall, List.forall₂_map_right_iff] at hexisting
      exact ⟨hL, List.prefix_rfl, hexisting.imp fun _ _ hx ↦ idempotentEvent_eq_some hx,
        consecutive_of_existingInOrder horder⟩
    case isFalse =>
      simp only [Checked.bind_eq_ok, Checked.exists_unit, Checked.forEach_eq_ok, List.mem_dedup,
        List.forall_mem_map] at h
      obtain ⟨hvalid, hinsert⟩ := h
      have hlength : batch.length = existing.length := hexisting.length_eq
      have hfst : (batch.zip existing).map (·.1) = batch := List.map_fst_zip hlength.le
      have hvalid' : ∀ p ∈ batch.zip existing, _ := fun p hp ↦ hvalid p.1 (List.of_mem_zip hp).1
      have hold : ∀ p ∈ batch.zip existing, ∀ stored ∈ p.2, L.Answers H p.1 stored := by
        intro p hp stored hstored
        have hfound := (List.forall₂_iff_zip.mp hexisting).2 hp
        exact idempotentEvent_eq_some (hfound.trans (congrArg _ hstored))
      obtain ⟨hcons, hle, hanswers⟩ :=
        hL.insertBatch hold (aligned_of_validated hvalid') hinsert
      refine ⟨hcons, hle, ?_, fun streamId ↦ ?_⟩
      · rw [← hfst, List.forall₂_map_left_iff]
        exact hanswers.imp fun _ _ hx ↦ hx.1
      · rw [map_sequence_of_answers hanswers]
        by_cases hin : ∃ p ∈ batch.zip existing, p.1.streamId = streamId
        · obtain ⟨p, hp, rfl⟩ := hin
          exact ⟨_, (validateBatchStream_eq_ok (hvalid' p hp)).1⟩
        · rw [List.filter_eq_nil_iff.mpr fun p hp hs ↦ hin ⟨p, hp, by simpa using hs⟩]
          exact ⟨0, trivial⟩

end Ledger

end Blackcell.Kernel
