import Blackcell.Foundation.History
import Blackcell.Kernel.Consistency
import Blackcell.Kernel.Digest

/-!
# Projections

A projection folds stored events into a state. `kernel/projections.py` replays it over a stream, or over
the whole ledger, either from the beginning or from a checkpoint: a dumped state with the position that
it was taken at. A checkpoint reflects a ledger if its state is that of the fold up to its position;
then a replay from the checkpoint, on the same ledger or on one that has grown since, is the replay from
the beginning.

## Main definitions

* `Projection`, `Projection.Inverts`, `Projection.Faithful` : projections, and how they restore states.
* `ProjectionCheckpoint`, `ReplayResult` : checkpoints, and the results of a replay.
* `ProjectionRunner.replay`, `ProjectionRunner.rebuild` : replays.
* `Reflects` : a checkpoint of a fold.

## Main results

* `rebuild_none` : a replay from the beginning is the fold.
* `Reflects.rebuild` : a replay from a checkpoint goes on with the fold.
* `Reflects.rebuild_eq` : a replay from a checkpoint is the replay from the beginning.
-/

namespace Blackcell.Kernel

namespace JsonValue

/-- The order of the keys of an object. -/
abbrev KeyLE (p q : String × JsonValue) : Prop := chars p.1 ≤ chars q.1

instance : Std.Total KeyLE := ⟨fun p q ↦ le_total (chars p.1) (chars q.1)⟩

instance : IsTrans (String × JsonValue) KeyLE := ⟨fun _ _ _ h h' ↦ le_trans (α := List Char) h h'⟩

mutual

/-- Sorting the keys of a value twice is sorting them once. -/
theorem canonical_canonical : ∀ v : JsonValue, v.canonical.canonical = v.canonical
  | .list items => by rw [canonical, canonical, canonicalItems_canonicalItems items]
  | .object fields => by
    have hsorted : ((canonicalFields fields).insertionSort KeyLE).Pairwise KeyLE :=
      List.pairwise_insertionSort KeyLE _
    have hmap : canonicalFields ((canonicalFields fields).insertionSort KeyLE) =
        (canonicalFields fields).insertionSort KeyLE := by
      have hcommutes := List.map_insertionSort KeyLE KeyLE (fun kv ↦ (kv.1, kv.2.canonical))
        (canonicalFields fields) fun _ _ _ _ ↦ Iff.rfl
      rwa [← canonicalFields_eq_map, ← canonicalFields_eq_map, canonicalFields_canonicalFields fields]
        at hcommutes
    change object ((canonicalFields ((canonicalFields fields).insertionSort KeyLE)).insertionSort
      KeyLE) = _
    rw [hmap, hsorted.insertionSort_eq]
    rfl
  | .null | .bool _ | .int _ | .float _ | .str _ => by simp only [canonical]

theorem canonicalItems_canonicalItems : ∀ items : List JsonValue,
    canonicalItems (canonicalItems items) = canonicalItems items
  | [] => rfl
  | v :: items => by
    rw [canonicalItems, canonicalItems, canonical_canonical v, canonicalItems_canonicalItems items]

theorem canonicalFields_canonicalFields : ∀ fields : List (String × JsonValue),
    canonicalFields (canonicalFields fields) = canonicalFields fields
  | [] => rfl
  | (k, v) :: fields => by
    rw [canonicalFields, canonicalFields, canonical_canonical v,
      canonicalFields_canonicalFields fields]

end

end JsonValue

/-! ### Definitions -/

/-- What a projection, its runner and the store of its checkpoints raise. -/
inductive ProjectionError (ε : Type) where
  /-- `ValueError`. -/
  | value
  /-- `ProjectionConflict`. -/
  | conflict
  /-- An exception of the projection. -/
  | raised (error : ε)
  deriving DecidableEq

/-- `Projection`. -/
structure Projection (σ ε : Type) where
  name : String
  version : Int
  initialState : σ
  apply : σ → EventEnvelope → Except ε σ
  dumpState : σ → JsonValue
  loadState : JsonValue → Except ε σ

variable {σ ε : Type}

/-- `load_state` inverts `dump_state`. A `dict` has no order, so this is about every value that differs
from the dumped one in the order of its keys only. -/
def Projection.Inverts (P : Projection σ ε) : Prop :=
  ∀ s v, v.canonical = (P.dumpState s).canonical → P.loadState v = .ok s

/-- `load_state` inverts `dump_state`, or raises. -/
def Projection.Faithful (P : Projection σ ε) : Prop :=
  ∀ s v s', v.canonical = (P.dumpState s).canonical → P.loadState v = .ok s' → s' = s

theorem Projection.Inverts.faithful {P : Projection σ ε} (h : P.Inverts) : P.Faithful :=
  fun s v _ hv hload ↦ Except.ok.inj (hload.symm.trans (h s v hv))

/-- `ProjectionCheckpoint`. Its `state_hash` is not a field: the constructor of the source refuses a
checkpoint in which it is not `json_digest(state)`. -/
structure ProjectionCheckpoint where
  projectionName : String
  projectionVersion : Int
  streamId : Option String
  lastGlobalPosition : Int
  lastStreamSequence : Option Int
  state : JsonValue
  valid : isBlank projectionName = false ∧ 1 ≤ projectionVersion ∧ 0 ≤ lastGlobalPosition ∧
    ∀ n ∈ lastStreamSequence, 0 ≤ n

namespace ProjectionCheckpoint

/-- `state_hash`. -/
def stateHash (H : Host) (c : ProjectionCheckpoint) : String := H.jsonDigest c.state

/-- The constructor. -/
def create (projectionName : String) (projectionVersion : Int) (streamId : Option String)
    (lastGlobalPosition : Int) (lastStreamSequence : Option Int) (state : JsonValue) :
    Except (ProjectionError ε) ProjectionCheckpoint :=
  if valid : isBlank projectionName = false ∧ 1 ≤ projectionVersion ∧ 0 ≤ lastGlobalPosition ∧
      ∀ n ∈ lastStreamSequence, 0 ≤ n then
    .ok ⟨projectionName, projectionVersion, streamId, lastGlobalPosition, lastStreamSequence, state,
      valid⟩
  else .error .value

/-- The constructor accepts what a checkpoint consists of. -/
theorem create_of_valid (c : ProjectionCheckpoint) (streamId : Option String) (state : JsonValue) :
    create (ε := ε) c.projectionName c.projectionVersion streamId c.lastGlobalPosition
      c.lastStreamSequence state = .ok { c with streamId := streamId, state := state } :=
  dif_pos c.valid

theorem of_create {projectionName : String} {projectionVersion : Int} {streamId : Option String}
    {lastGlobalPosition : Int} {lastStreamSequence : Option Int} {state : JsonValue}
    {c : ProjectionCheckpoint}
    (h : create (ε := ε) projectionName projectionVersion streamId lastGlobalPosition lastStreamSequence
      state = .ok c) :
    c.projectionName = projectionName ∧ c.projectionVersion = projectionVersion ∧
      c.streamId = streamId ∧ c.lastGlobalPosition = lastGlobalPosition ∧
      c.lastStreamSequence = lastStreamSequence ∧ c.state = state := by
  unfold create at h
  split at h
  case isTrue =>
    obtain rfl := Except.ok.inj h
    exact ⟨rfl, rfl, rfl, rfl, rfl, rfl⟩
  case isFalse => exact nomatch h

end ProjectionCheckpoint

/-- `ReplayResult`. -/
structure ReplayResult (σ : Type) where
  state : σ
  stateHash : String
  processedEvents : ℕ
  lastGlobalPosition : Int
  lastStreamSequence : Option Int

/-- `ReplayResult.checkpoint`. -/
def ReplayResult.checkpoint (P : Projection σ ε) (result : ReplayResult σ) (streamId : Option String) :
    Except (ProjectionError ε) ProjectionCheckpoint :=
  ProjectionCheckpoint.create P.name P.version streamId result.lastGlobalPosition
    (if streamId.isSome then result.lastStreamSequence else none) (P.dumpState result.state)

namespace ProjectionRunner

/-- The local variables of the loop of `replay`. -/
structure ReplayState (σ : Type) where
  state : σ
  lastPosition : Int
  lastSequence : Option Int
  processed : ℕ
  previousInputPosition : Int

variable (H : Host) (P : Projection σ ε) (checkpoint : Option ProjectionCheckpoint)

/-- The body of the loop of `replay`. -/
def replayEvent (s : ReplayState σ) (e : EventEnvelope) :
    Except (ProjectionError ε) (ReplayState σ) := do
  let position ← Checked.ofOption e.globalPosition .value
  Checked.require (s.previousInputPosition < position) .value
  if position ≤ s.lastPosition then
    return { s with previousInputPosition := position }
  else
    Checked.require (∀ c ∈ checkpoint, ∀ streamId ∈ c.streamId, e.streamId = streamId) .value
    let state ← (P.apply s.state e).mapError .raised
    return ⟨state, position, some e.streamSequence, s.processed + 1, position⟩

/-- The state before the loop of `replay`. -/
def startReplay : Except (ProjectionError ε) (ReplayState σ) := do
  Checked.require (1 ≤ P.version) .value
  match checkpoint with
  | none => return ⟨P.initialState, 0, none, 0, 0⟩
  | some c =>
    Checked.require (c.projectionName = P.name ∧ c.projectionVersion = P.version) .value
    let state ← (P.loadState c.state).mapError .raised
    return ⟨state, c.lastGlobalPosition, c.lastStreamSequence, 0, 0⟩

/-- `ProjectionRunner.replay`. -/
def replay (events : List EventEnvelope) : Except (ProjectionError ε) (ReplayResult σ) := do
  let s ← startReplay P checkpoint
  let s ← History.run (replayEvent P checkpoint) s events
  return ⟨s.state, H.jsonDigest (P.dumpState s.state), s.processed, s.lastPosition, s.lastSequence⟩

/-- The events that `rebuild` reads: those of a stream, or those of the ledger, behind the checkpoint. -/
def rebuildEvents (L : Ledger) (streamId : Option String) : List EventEnvelope :=
  match streamId with
  | none =>
    L.filter fun e ↦ (checkpoint.elim 0 (·.lastGlobalPosition)) < e.globalPosition.getD 0
  | some streamId =>
    (L.readStream streamId).filter fun e ↦
      ((checkpoint.bind (·.lastStreamSequence)).getD 0) < e.streamSequence

/-- `ProjectionRunner.rebuild`. -/
def rebuild (L : Ledger) (streamId : Option String) :
    Except (ProjectionError ε) (ReplayResult σ) :=
  replay H P checkpoint (rebuildEvents checkpoint L streamId)

end ProjectionRunner

/-! ### Events in order -/

/-- The position of a stored event. -/
def EventEnvelope.position (e : EventEnvelope) : Int := e.globalPosition.getD 0

/-- The position after some events. -/
def lastPosition (es : List EventEnvelope) : Int := (es.getLast?.map (·.position)).getD 0

/-- The sequence number after some events. -/
def lastSequence (es : List EventEnvelope) : Option Int := es.getLast?.map (·.streamSequence)

/-- The events of a scope: of a stream, or of the whole ledger. -/
def scopeEvents (L : Ledger) : Option String → List EventEnvelope
  | none => L
  | some streamId => L.readStream streamId

/-- Events with positive, increasing positions. -/
structure Positioned (es : List EventEnvelope) : Prop where
  present : ∀ e ∈ es, e.globalPosition = some e.position ∧ 0 < e.position
  increasing : es.Pairwise fun x y ↦ x.position < y.position

theorem Positioned.sublist {es es' : List EventEnvelope} (h : Positioned es') (hsub : es.Sublist es') :
    Positioned es :=
  ⟨fun e he ↦ h.present e (hsub.subset he), h.increasing.sublist hsub⟩

variable {L L' : Ledger}

theorem Ledger.Consistent.positioned (hL : L.Consistent) : Positioned L where
  present e he := by
    have hmem : e.globalPosition ∈ L.map (·.globalPosition) := List.mem_map_of_mem he
    rw [hL.positions] at hmem
    obtain ⟨i, -, hi⟩ := List.mem_map.mp hmem
    rw [EventEnvelope.position, ← hi, Option.getD_some]
    exact ⟨rfl, by omega⟩
  increasing := hL.pairwise_earlier.imp fun ⟨⟨p, q, hp, hq, hlt⟩, _⟩ ↦ by
    simpa [EventEnvelope.position, hp, hq] using hlt

theorem Ledger.Consistent.positioned_scopeEvents (hL : L.Consistent) (streamId : Option String) :
    Positioned (scopeEvents L streamId) := by
  cases streamId with
  | none => exact hL.positioned
  | some streamId => exact hL.positioned.sublist List.filter_sublist

theorem scopeEvents_of_prefix (h : L <+: L') (streamId : Option String) :
    scopeEvents L streamId <+: scopeEvents L' streamId := by
  cases streamId with
  | none => exact h
  | some streamId => exact h.filter _

/-- The entries of an increasing list that exceed the last one of a part are those behind the part. -/
theorem filter_behind {α : Type*} {f : α → Int} {pre post : List α}
    (hpositive : ∀ a ∈ pre ++ post, 0 < f a)
    (hincreasing : (pre ++ post).Pairwise fun x y ↦ f x < f y) :
    ((pre ++ post).filter fun a ↦ (pre.getLast?.map f).getD 0 < f a) = post := by
  rw [List.filter_append]
  rcases List.eq_nil_or_concat' pre with rfl | ⟨init, x, rfl⟩
  · change post.filter (fun a ↦ 0 < f a) = post
    exact List.filter_eq_self.mpr fun a ha ↦ by simpa using hpositive a ha
  · rw [List.pairwise_append] at hincreasing
    obtain ⟨hpre, -, hpost⟩ := hincreasing
    rw [List.pairwise_append] at hpre
    simp only [List.getLast?_append, List.getLast?_singleton, Option.some_or, Option.map_some,
      Option.getD_some]
    have hnone : ((init ++ [x]).filter fun a ↦ f x < f a) = [] := by
      refine List.filter_eq_nil_iff.mpr fun a ha ↦ ?_
      rcases List.mem_append.mp ha with ha | ha
      · have := hpre.2.2 a ha x (List.mem_singleton_self x)
        simp only [decide_eq_true_eq]
        omega
      · simp [List.mem_singleton.mp ha]
    have hall : (post.filter fun a ↦ f x < f a) = post :=
      List.filter_eq_self.mpr fun a ha ↦ by simpa using hpost x (by simp) a ha
    rw [hnone, hall, List.nil_append]

namespace ProjectionRunner

variable {H : Host} {P : Projection σ ε} {checkpoint : Option ProjectionCheckpoint}
  {streamId : Option String}

/-! ### Replays -/

variable (P checkpoint) in
/-- The loop of `replay` over events behind the checkpoint folds them. -/
theorem run_replayEvent {es : List EventEnvelope} {s : ReplayState σ} (hes : Positioned es)
    (hprevious : ∀ e ∈ es, s.previousInputPosition < e.position)
    (hlast : ∀ e ∈ es, s.lastPosition < e.position)
    (hstream : ∀ c ∈ checkpoint, ∀ streamId ∈ c.streamId, ∀ e ∈ es, e.streamId = streamId) :
    History.run (replayEvent P checkpoint) s es =
      (fun state ↦ ⟨state, (es.getLast?.map (·.position)).getD s.lastPosition,
        (lastSequence es).or s.lastSequence, s.processed + es.length,
        (es.getLast?.map (·.position)).getD s.previousInputPosition⟩) <$>
        (History.run P.apply s.state es).mapError .raised := by
  induction es generalizing s with
  | nil => rfl
  | cons e es ih =>
    have hpresent := (hes.present e List.mem_cons_self).1
    have hlater := List.pairwise_cons.mp hes.increasing
    have hcheck : ∀ c ∈ checkpoint, ∀ streamId ∈ c.streamId, e.streamId = streamId :=
      fun c hc streamId hstreamId ↦ hstream c hc streamId hstreamId e List.mem_cons_self
    have hbehind : ¬e.position ≤ s.lastPosition := not_le.mpr (hlast e List.mem_cons_self)
    have hstep : replayEvent P checkpoint s e =
        (fun state ↦ ⟨state, e.position, some e.streamSequence, s.processed + 1, e.position⟩) <$>
          (P.apply s.state e).mapError .raised := by
      rw [replayEvent, hpresent]
      simp only [Checked.ofOption_some, Checked.ok_bind]
      rw [Checked.require_bind_of_true (hprevious e List.mem_cons_self), if_neg hbehind,
        Checked.require_bind_of_true hcheck]
      cases P.apply s.state e <;> rfl
    rw [History.run_cons, History.run_cons, hstep]
    cases P.apply s.state e with
    | error error => rfl
    | ok state =>
      have htail := ih (s := ⟨state, e.position, some e.streamSequence, s.processed + 1, e.position⟩)
        (hes.sublist (List.sublist_cons_self e es)) hlater.1 hlater.1
        fun c hc streamId hstreamId e' he' ↦
          hstream c hc streamId hstreamId e' (List.mem_cons_of_mem e he')
      change History.run (replayEvent P checkpoint) _ es = _ <$> (History.run P.apply state es).mapError _
      rw [htail]
      refine congrArg (· <$> _) (funext fun state' ↦ ?_)
      have hlength : s.processed + 1 + es.length = s.processed + (e :: es).length := by
        rw [List.length_cons]
        omega
      rw [hlength, lastSequence, lastSequence, List.getLast?_cons]
      cases es.getLast? <;> rfl

variable (H P) in
/-- What a replay of the events of a scope yields: the state of their fold, its digest, and the last
position. -/
def Rebuilds (L : Ledger) (streamId : Option String)
    (x : Except (ProjectionError ε) (ReplayResult σ)) : Prop :=
  ∃ (processed : ℕ) (sequence : Option Int),
    (streamId.isSome → sequence = lastSequence (scopeEvents L streamId)) ∧
    x = (fun s ↦ ⟨s, H.jsonDigest (P.dumpState s), processed, lastPosition (scopeEvents L streamId),
      sequence⟩) <$> (History.run P.apply P.initialState (scopeEvents L streamId)).mapError .raised

/-- What a replay says of a scope: the state, its digest and the last position. -/
def ReplayResult.core (result : ReplayResult σ) : σ × String × Int :=
  (result.state, result.stateHash, result.lastGlobalPosition)

theorem Rebuilds.core_eq {x y : Except (ProjectionError ε) (ReplayResult σ)}
    (hx : Rebuilds H P L streamId x) (hy : Rebuilds H P L streamId y) :
    ReplayResult.core <$> x = ReplayResult.core <$> y := by
  obtain ⟨_, _, -, rfl⟩ := hx
  obtain ⟨_, _, -, rfl⟩ := hy
  cases History.run P.apply P.initialState (scopeEvents L streamId) <;> rfl

/-- The events that `rebuild` reads are those behind the checkpoint. -/
theorem rebuildEvents_eq (pre : List EventEnvelope) {post : List EventEnvelope} (hL : L.Consistent)
    (hscope : scopeEvents L streamId = pre ++ post)
    (hposition : checkpoint.elim 0 (·.lastGlobalPosition) = lastPosition pre)
    (hsequence : streamId.isSome → checkpoint.bind (·.lastStreamSequence) = lastSequence pre) :
    rebuildEvents checkpoint L streamId = post := by
  have hes := hL.positioned_scopeEvents streamId
  cases streamId with
  | none =>
    simp only [rebuildEvents, hposition]
    change L = pre ++ post at hscope
    rw [hscope]
    exact filter_behind (fun e he ↦ (hes.present e (by rwa [hscope])).2) (hscope ▸ hes.increasing)
  | some streamId =>
    simp only [rebuildEvents, hsequence rfl]
    change L.readStream streamId = pre ++ post at hscope
    have hnumbers := hL.sequences streamId
    have hincreasing := hnumbers.pairwise_lt
    rw [List.pairwise_map, hscope] at hincreasing
    rw [hscope]
    refine filter_behind (fun e he ↦ ?_) hincreasing
    rw [consecutive_iff] at hnumbers
    have hmem : e.streamSequence ∈ (L.readStream streamId).map (·.streamSequence) :=
      List.mem_map_of_mem (hscope ▸ he)
    rw [hnumbers] at hmem
    obtain ⟨i, -, hi⟩ := List.mem_map.mp hmem
    omega

/-- Folding goes on from a prefix. -/
theorem run_append_of_eq_ok {s s₀ : σ} {pre post : List EventEnvelope}
    (h : History.run P.apply s pre = .ok s₀) :
    History.run P.apply s (pre ++ post) = History.run P.apply s₀ post := by
  induction pre generalizing s with
  | nil => rw [Except.ok.inj h, List.nil_append]
  | cons e pre ih =>
    simp only [History.run_cons, Checked.bind_eq_ok] at h
    obtain ⟨s', hs', hrest⟩ := h
    rw [List.cons_append, History.run_cons, hs', Checked.ok_bind, ih hrest]

/-- A replay that starts at the state of a part of the events goes on with the fold. -/
theorem rebuilds_of_start (pre : List EventEnvelope) {post : List EventEnvelope} {s₀ : σ}
    {sequence : Option Int} (hL : L.Consistent) (hscope : scopeEvents L streamId = pre ++ post)
    (hrun : History.run P.apply P.initialState pre = .ok s₀)
    (hstart : startReplay P checkpoint = .ok ⟨s₀, lastPosition pre, sequence, 0, 0⟩)
    (hevents : rebuildEvents checkpoint L streamId = post)
    (hsequence : streamId.isSome → sequence = lastSequence pre)
    (hstream : ∀ c ∈ checkpoint, c.streamId = streamId) :
    Rebuilds H P L streamId (rebuild H P checkpoint L streamId) := by
  have hes := hL.positioned_scopeEvents streamId
  rw [hscope] at hes
  have hlater : ∀ e ∈ post, lastPosition pre < e.position := by
    intro e he
    rw [lastPosition]
    rcases List.eq_nil_or_concat' pre with rfl | ⟨init, x, rfl⟩
    · exact (hes.present e he).2
    · simpa using (List.pairwise_append.mp hes.increasing).2.2 x (by simp) e he
  have hloop := run_replayEvent P checkpoint
    (s := ⟨s₀, lastPosition pre, sequence, 0, 0⟩) (hes.sublist (List.sublist_append_right pre post))
    (fun e he ↦ (hes.present e (List.mem_append_right pre he)).2) hlater fun c hc s hs e he ↦ by
      have hs : streamId = some s := (hstream c hc).symm.trans hs
      rw [hs] at hscope
      have hmem : e ∈ L.readStream s := by
        change L.readStream s = _ at hscope
        exact hscope ▸ List.mem_append_right pre he
      exact (Ledger.mem_readStream.mp hmem).2
  refine ⟨post.length, (lastSequence post).or sequence, fun hsome ↦ ?_, ?_⟩
  · rw [hsequence hsome, hscope, lastSequence, lastSequence, lastSequence, List.getLast?_append]
    cases post.getLast? <;> rfl
  · have hposition : lastPosition (pre ++ post) =
        (post.getLast?.map (·.position)).getD (lastPosition pre) := by
      rw [lastPosition, lastPosition, List.getLast?_append]
      cases post.getLast? <;> rfl
    rw [rebuild, replay, hstart, hevents, Checked.ok_bind, hloop, hscope, run_append_of_eq_ok hrun,
      hposition]
    cases History.run P.apply s₀ post with
    | error error => rfl
    | ok s => simp [Except.mapError, Functor.map, Except.map, pure, Except.pure]

/-- **From the beginning.** A replay from the beginning is the fold. -/
theorem rebuild_none (hL : L.Consistent) (hversion : 1 ≤ P.version) :
    Rebuilds H P L streamId (rebuild H P none L streamId) :=
  rebuilds_of_start [] hL rfl rfl (Checked.require_bind_of_true hversion)
    (rebuildEvents_eq [] hL rfl rfl fun _ ↦ rfl) (fun _ ↦ rfl) nofun

end ProjectionRunner

/-! ### Checkpoints of a fold -/

open ProjectionRunner

/-- A checkpoint that reflects a ledger: a part of the events of its scope folds to its state, and ends
at its position and sequence number. -/
structure Reflects (P : Projection σ ε) (L : Ledger) (c : ProjectionCheckpoint) : Prop where
  name : c.projectionName = P.name
  version : c.projectionVersion = P.version
  folds : ∃ pre post s, scopeEvents L c.streamId = pre ++ post ∧
    History.run P.apply P.initialState pre = .ok s ∧
    c.state.canonical = (P.dumpState s).canonical ∧ c.lastGlobalPosition = lastPosition pre ∧
    (c.streamId.isSome → c.lastStreamSequence = lastSequence pre)

variable {H : Host} {P : Projection σ ε} {c : ProjectionCheckpoint} {streamId : Option String}

/-- A checkpoint reflects a ledger that has grown since. -/
theorem Reflects.mono (h : Reflects P L c) (hle : L <+: L') : Reflects P L' c := by
  obtain ⟨pre, post, s, hscope, hrest⟩ := h.folds
  obtain ⟨new, hnew⟩ := scopeEvents_of_prefix hle c.streamId
  exact ⟨h.name, h.version, pre, post ++ new, s, by rw [← hnew, hscope, List.append_assoc], hrest⟩

/-- **From a checkpoint.** A replay from a checkpoint that was loaded goes on with the fold. -/
theorem Reflects.rebuild (h : Reflects P L c) (hL : L.Consistent) (hP : P.Faithful) {s : σ}
    (hload : P.loadState c.state = .ok s) :
    Rebuilds H P L c.streamId (rebuild H P (some c) L c.streamId) := by
  obtain ⟨pre, post, s', hscope, hrun, hstate, hposition, hsequence⟩ := h.folds
  obtain rfl := hP s' c.state s hstate hload
  have hversion : 1 ≤ P.version := h.version ▸ c.valid.2.1
  refine rebuilds_of_start pre hL hscope hrun ?_ (rebuildEvents_eq pre hL hscope hposition hsequence)
    hsequence fun c' hc' ↦ Option.some.inj hc' ▸ rfl
  rw [startReplay, Checked.require_bind_of_true hversion]
  change (Checked.require (c.projectionName = P.name ∧ c.projectionVersion = P.version) _ >>= _) = _
  rw [Checked.require_bind_of_true ⟨h.name, h.version⟩, hload, ← hposition]
  rfl

/-- A replay from a checkpoint that cannot be loaded raises what the projection raises. -/
theorem Reflects.rebuild_of_error (h : Reflects P L c) {error : ε}
    (hload : P.loadState c.state = .error error) :
    ProjectionRunner.rebuild H P (some c) L streamId = .error (.raised error) := by
  have hversion : 1 ≤ P.version := h.version ▸ c.valid.2.1
  rw [ProjectionRunner.rebuild, replay, startReplay, Checked.require_bind_of_true hversion]
  change ((Checked.require (c.projectionName = P.name ∧ c.projectionVersion = P.version) _ >>= _) >>= _) =
    _
  rw [Checked.require_bind_of_true ⟨h.name, h.version⟩, hload]
  rfl

/-- **A checkpoint or none.** A replay from a checkpoint yields the state, the digest and the last
position of the replay from the beginning. -/
theorem Reflects.rebuild_eq (h : Reflects P L c) (hL : L.Consistent) (hP : P.Inverts) :
    ReplayResult.core <$> ProjectionRunner.rebuild H P (some c) L c.streamId =
      ReplayResult.core <$> ProjectionRunner.rebuild H P none L c.streamId := by
  obtain ⟨_, _, s, _, _, hstate, _⟩ := h.folds
  exact (h.rebuild hL hP.faithful (hP s c.state hstate)).core_eq
    (rebuild_none hL (h.version ▸ c.valid.2.1))

/-- The checkpoint of a replay reflects the ledger. -/
theorem reflects_of_rebuilds {x : Except (ProjectionError ε) (ReplayResult σ)} {result : ReplayResult σ}
    (hx : Rebuilds H P L streamId x) (hresult : x = .ok result)
    (h : result.checkpoint P streamId = .ok c) : Reflects P L c ∧ c.streamId = streamId := by
  obtain ⟨processed, sequence, hsequence, rfl⟩ := hx
  obtain ⟨s, hs, rfl⟩ := Checked.map_eq_ok.mp hresult
  have hs := Checked.mapError_eq_ok.mp hs
  obtain ⟨hname, hversion, hstream, hposition, hlast, hstate⟩ := ProjectionCheckpoint.of_create h
  refine ⟨⟨hname, hversion, scopeEvents L streamId, [], s, ?_, hs, congrArg _ hstate, hposition,
    fun hsome ↦ ?_⟩, hstream⟩
  · rw [hstream, List.append_nil]
  · rw [hstream] at hsome
    rw [hlast, if_pos hsome, hsequence hsome]

end Blackcell.Kernel
