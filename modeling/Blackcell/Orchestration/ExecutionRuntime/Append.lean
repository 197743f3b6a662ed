import Blackcell.Orchestration.ExecutionRuntime.Journal

/-!
# Reading and appending

The rules of the journal: what a call knows after it has read the state of its run, and after it
has appended a request, while other calls share the ledger.

A call relies on the others only in what `Steady` names: the stream of the run grows, and it stays
readable. An append then ends in one of four ways (`Answer`): it raises; a request with its key was
recorded when the journal looked, or when the store did; or its event is stored, as the next one of
the stream, and the projection accepts it.

## Main definitions

* `Steady` : the assumptions on the other calls.
* `Answer` : the ends of an append.

## Main results

* `meets_rehydrate` : reading the state of the run.
* `meets_append` : appending a request.
-/

namespace Blackcell.Orchestration.ExecutionRuntime

open Blackcell.Kernel Blackcell.Gateway Blackcell.Orchestration.ExecutionPlan

/-! ### Streams that grow -/

section Growth

variable {H : Host} {runId : String} {L L' : Ledger} {E E' : List EventEnvelope}
  {state : Option ExecutionRunState}

theorem Step.isSome {e : EventEnvelope} {before : ExecutionRunState}
    (h : Step H e (some before) state) : state.isSome := by
  cases h <;> rfl

/-- An open run stays open. -/
theorem isSome_of_grows (hbegins : E <+: E') {s : ExecutionRunState}
    (h : project H E = .ok (some s)) (h' : project H E' = .ok state) : state.isSome := by
  obtain ⟨F, rfl⟩ := hbegins
  obtain ⟨_, hs, hF⟩ := History.run_append_eq_ok.mp h'
  obtain rfl := Except.ok.inj (h.symm.trans hs)
  exact History.keeps (fun state ↦ state.isSome)
    (fun e before after _ hbefore hstep ↦ by
      obtain ⟨s, rfl⟩ := Option.isSome_iff_exists.mp hbefore
      exact (apply_eq_ok.mp hstep).isSome) rfl hF

/-- An event whose position is set is projected as before. -/
theorem step_stored {e : EventEnvelope} {before : Option ExecutionRunState} :
    Step H (L.stored e) before state ↔ Step H e before state := by
  rw [← apply_eq_ok, ← apply_eq_ok]
  rfl

theorem executionEventType?_stored {e : EventEnvelope} :
    executionEventType? (L.stored e) = executionEventType? e := rfl

theorem streamOf_append_stored {e : EventEnvelope} (h : e.streamId = "run:" ++ runId) :
    streamOf runId (L ++ [L.stored e]) = streamOf runId L ++ [L.stored e] :=
  Ledger.readStream_append_singleton h

/-- The stream with a step more is readable. -/
theorem Readable.append {e : EventEnvelope} {before : Option ExecutionRunState}
    (h : Readable H runId L before) (hfollows : Follows ("run:" ++ runId) (streamOf runId L) e)
    (hstep : Step H e before state) : Readable H runId (L ++ [L.stored e]) state := by
  have hstream := streamOf_append_stored (L := L) hfollows.stream
  refine ⟨h.isRun, ?_, ?_⟩
  · rw [hstream, validateStream_concat]
    exact ⟨h.valid, hfollows.stream, hfollows.sequence, hfollows.version, hfollows.known,
      hfollows.cause⟩
  · rw [hstream, project_concat]
    exact ⟨before, h.state, step_stored.mpr hstep⟩

theorem Readable.state_unique {state' : Option ExecutionRunState} (h : Readable H runId L state)
    (h' : Readable H runId L state') : state = state' :=
  Except.ok.inj (h.state.symm.trans h'.state)

end Growth

/-! ### Storing an event -/

/-- The world after the key of a request was asked for. -/
def World.ask (w : World) (eventType : ExecutionEventType) (scope : JsonValue) : World :=
  { w with requested := w.requested ++ [(eventType, scope)] }

/-- The world after a stamp was given out. -/
def World.tick (w : World) : World := { w with stamped := w.stamped + 1 }

/-- The world after an event of a caller was stored. -/
def World.store (w : World) (caller : Nat) (e : EventEnvelope) : World :=
  { w with
    ledger := w.ledger ++ [w.ledger.stored e]
    stored := w.stored ++ [(caller, w.ledger.stored e)] }

/-- The store rejects an event, returns the event of an earlier request, or stores it as the next
one of its stream. -/
theorem handle_append (env : Environment) (caller : Nat) (w : World) (e : EventEnvelope) (n : Int) :
    (∃ error, handle env caller (.append e n) w = (.error error, w)) ∨
      (∃ prior, handle env caller (.append e n) w = (.ok prior, w) ∧
        Ledger.idempotentEvent env.host w.ledger e = .ok (some prior)) ∨
      handle env caller (.append e n) w = (.ok (w.ledger.stored e), w.store caller e) ∧
        w.ledger.currentSequence e.streamId = n ∧ e.streamSequence = n + 1 ∧
        w.ledger.Insertable e := by
  cases happend : Ledger.append env.host w.ledger e n with
  | error error => exact .inl ⟨error, by simp [handle, happend]⟩
  | ok r =>
    refine .inr ?_
    obtain ⟨-, ⟨prior, hprior, rfl⟩ | ⟨-, hn, hsequence, hinsert, rfl⟩⟩ :=
      Ledger.append_eq_ok.mp happend
    · exact .inl ⟨prior, by simp [handle, happend], hprior⟩
    · exact .inr ⟨by simp [handle, happend, World.store], hn, hsequence, hinsert⟩

theorem handle_readStream (env : Environment) (caller : Nat) (runId : String) (w : World) :
    handle env caller (.readStream ("run:" ++ runId)) w = (streamOf runId w.ledger, w) := rfl

theorem handle_requestKey (env : Environment) (caller : Nat) (streamId : String)
    (eventType : ExecutionEventType) (scope : JsonValue) (w : World) :
    handle env caller (.requestKey streamId eventType scope) w =
      (keyOf env.host eventType scope, w.ask eventType scope) := rfl

theorem handle_stamp (env : Environment) (caller : Nat) (w : World) :
    handle env caller .stamp w = (env.stamps w.stamped, w.tick) := rfl

/-- A fresh event is stored. -/
theorem handle_append_fresh {env : Environment} {caller : Nat} {w : World} {e : EventEnvelope}
    {n : Int} (hn : w.ledger.currentSequence e.streamId = n) (hsequence : e.streamSequence = n + 1)
    (hinsert : w.ledger.Insertable e) :
    handle env caller (.append e n) w = (.ok (w.ledger.stored e), w.store caller e) := by
  simp [handle, Ledger.append_fresh hn hsequence hinsert, World.store]

/-! ### What a call relies on -/

section Rules

variable {env : Environment} {caller : Nat} {runId : String} {R : World → World → Prop}
  {C : operations.Op → World → Prop} {J : World → Prop} {w w' : World}

/-- The assumptions of a call on the others, and the invariants that its own operations keep: the
stream of the run grows and stays readable. -/
structure Steady (env : Environment) (runId : String) (R : World → World → Prop)
    (C : operations.Op → World → Prop) (J : World → Prop) : Prop where
  refl (w : World) : R w w
  trans {w w' w'' : World} : R w w' → R w' w'' → R w w''
  grows {w w' : World} : R w w' → streamOf runId w.ledger <+: streamOf runId w'.ledger
  readable {w : World} : J w → ∃ state, Readable env.host runId w.ledger state
  asks (w : World) (eventType : ExecutionEventType) (scope : JsonValue) :
    R w (w.ask eventType scope)
  ask {w : World} {streamId : String} {eventType : ExecutionEventType} {scope : JsonValue} :
    J w → C (.requestKey streamId eventType scope) w → J (w.ask eventType scope)
  ticks (w : World) : R w w.tick
  tick {w : World} : J w → C .stamp w → J w.tick

/-- A check that is followed by more. -/
theorem meets_check_bind {α : Type} {p : Prop} [Decidable p] {error : ExecutionRuntimeError}
    {f : Unit → Call α} {Q : Except Failure α → World → Prop} :
    Prog.Meets (handle env caller) R C J ((Prog.ofExcept (check p error)).bind f) Q w ↔
      J w ∧ (p → Prog.Meets (handle env caller) R C J (f ()) Q w) ∧
        (¬p → Q (.error (.runtime error)) w) := by
  rw [Prog.meets_ofExcept_bind]
  by_cases hp : p
  · simpa [check, Checked.require, hp] using fun _ ↦ ⟨fun h ↦ h ⟨⟩, fun h _ ↦ h⟩
  · simp [check, Checked.require, hp]

/-- `_rebuild` reads the state of a world that it passes. -/
theorem meets_rebuild (hS : Steady env runId R C J) (hJ : J w) :
    Prog.Meets (handle env caller) R C J (rebuild env.host runId)
      (fun r w' ↦ R w w' ∧ ∃ state, Readable env.host runId w'.ledger state ∧ r = .ok state) w := by
  obtain ⟨_, hread⟩ := hS.readable hJ
  have hid : streamIdOf runId = .ok ("run:" ++ runId) := streamIdOf_eq_ok.mpr ⟨hread.isRun, rfl⟩
  simp only [rebuild, Prog.bind_eq, Prog.liftM_eq, readStream, hid]
  refine Prog.meets_ofExcept_bind.mpr ⟨hJ, ?_, nofun⟩
  rintro _ ⟨⟩
  refine Prog.meets_perform_bind.mpr ⟨hJ, fun w₁ hR₁ hJ₁ _ ↦ ?_⟩
  obtain ⟨_, hread₁⟩ := hS.readable hJ₁
  refine Prog.meets_ofExcept_bind.mpr ⟨hJ₁, fun _ _ ↦ ?_, fun error herror ↦ ?_⟩
  · refine Prog.meets_perform_bind.mpr ⟨hJ₁, fun w₂ hR₂ hJ₂ _ ↦ ?_⟩
    obtain ⟨state, hread₂⟩ := hS.readable hJ₂
    refine Prog.meets_ofExcept.mpr ⟨hJ₂, hS.trans hR₁ hR₂, state, hread₂, hread₂.state⟩
  · exact absurd (hread₁.valid.symm.trans herror) nofun

/-- **Reading.** `rehydrate` reads the state of a world that it passes, if the run is open. -/
theorem meets_rehydrate (hS : Steady env runId R C J) (hJ : J w) :
    Prog.Meets (handle env caller) R C J (rehydrate env.host runId)
      (fun r w' ↦ R w w' ∧ match r with
        | .ok s => Open env.host runId w'.ledger s
        | .error error => Readable env.host runId w'.ledger none ∧
          error = .runtime .executionRunNotFound) w := by
  simp only [rehydrate, Prog.bind_eq]
  refine (meets_rebuild hS hJ).bind ?_ ?_
  · rintro state w' hJ' ⟨hR, _, hread, ⟨⟩⟩
    cases state with
    | none => exact Prog.meets_raise.mpr ⟨hJ', hR, hread, rfl⟩
    | some s => exact Prog.meets_done.mpr ⟨hJ', hR, hread⟩
  · rintro error w' _ ⟨_, _, _, ⟨⟩⟩

/-! ### Appending -/

section Append

variable (env : Environment) (caller : Nat) (runId : String) (R : World → World → Prop)
  (C : operations.Op → World → Prop) (J : World → Prop) (eventType : ExecutionEventType)
  (payload : Mapping) (actor : String)

/-- The key of a request, given the state that its scope names. -/
def requestKeyOf (current : Option ExecutionRunState) : String :=
  keyOf env.host eventType (requestScope eventType current payload)

/-- A call has read the state of the run, and has asked for the key of its request. -/
structure Asked (w : World) (current : Option ExecutionRunState) (w₁ : World) : Prop where
  read : ∃ w₀, R w w₀ ∧ Readable env.host runId w₀.ledger current ∧ R w₀ w₁
  asked : C (.requestKey ("run:" ++ runId) eventType (requestScope eventType current payload)) w₁
  holds : J w₁

/-- A call has built the event of its request, from the stream and the state that it read. -/
structure Built (w : World) (current : Option ExecutionRunState) (e : EventEnvelope) (w₂ : World) :
    Prop where
  request : ∃ w₁, Asked env runId R C J eventType payload w current w₁ ∧
    R (w₁.ask eventType (requestScope eventType current payload)) w₂
  event : ∃ w₀ stamp, R w w₀ ∧ R w₀ w₂ ∧
    e = requestEvent runId eventType payload actor (requestKeyOf env eventType payload current)
      (streamOf runId w₀.ledger) stamp ∧
    ∀ x ∈ streamOf runId w₀.ledger,
      x.idempotencyKey ≠ some (requestKeyOf env eventType payload current)
  stamped : ∃ w₃, R w w₃ ∧ J w₃ ∧ C .stamp w₃ ∧ e.eventId = (env.stamps w₃.stamped).eventId ∧
    R w₃.tick w₂

/-- Why an append raises. -/
inductive Refusal (w : World) : Prop where
  | malformed (h : ¬(isBlank actor = false ∧ "run_id" ∉ payload.keys))
  | active (w₀ : World) (later : R w w₀) (type : eventType = .goalAdmitted)
      (several : 1 < ((streamOf runId w₀.ledger).filter RunLifecycle.isPublic).length)
  | conflict (w₁ w₂ : World) (current : Option ExecutionRunState) (prior : EventEnvelope)
      (asked : Asked env runId R C J eventType payload w current w₁) (later : R w₁ w₂)
      (recorded : prior ∈ streamOf runId w₂.ledger)
      (key : prior.idempotencyKey = some (requestKeyOf env eventType payload current))
  | rejected (w₂ : World) (current : Option ExecutionRunState) (e : EventEnvelope)
      (built : Built env runId R C J eventType payload actor w current e w₂)
      (rejected : ∀ state, ¬Step env.host e current state)
  | store (w₂ : World) (current : Option ExecutionRunState) (e : EventEnvelope) (error : StoreError)
      (built : Built env runId R C J eventType payload actor w current e w₂)
      (step : ∃ s, Step env.host e current (some s))
      (refused : handle env caller (.append e (e.streamSequence - 1)) w₂ = (.error error, w₂))

/-- **The ends of an append.** -/
inductive Answer (w : World) : Except Failure EventEnvelope → World → Prop where
  | raised (error : Failure) (w' : World) (later : R w w')
      (reason : Refusal env caller runId R C J eventType payload actor w) :
      Answer w (.error error) w'
  | replayed (w₁ : World) (current : Option ExecutionRunState) (prior : EventEnvelope) (w' : World)
      (asked : Asked env runId R C J eventType payload w current w₁)
      (recorded : prior ∈ streamOf runId w₁.ledger)
      (key : prior.idempotencyKey = some (requestKeyOf env eventType payload current))
      (later : R w₁ w') : Answer w (.ok prior) w'
  | repeated (w₂ : World) (current : Option ExecutionRunState) (e prior : EventEnvelope) (w' : World)
      (built : Built env runId R C J eventType payload actor w current e w₂)
      (performed : C (.append e (e.streamSequence - 1)) w₂)
      (recorded : prior ∈ streamOf runId w₂.ledger)
      (key : prior.idempotencyKey = e.idempotencyKey) (later : R w₂ w') : Answer w (.ok prior) w'
  | stored (w₂ : World) (current : Option ExecutionRunState) (e : EventEnvelope)
      (s : ExecutionRunState) (w' : World)
      (built : Built env runId R C J eventType payload actor w current e w₂)
      (performed : C (.append e (e.streamSequence - 1)) w₂)
      (readable : Readable env.host runId w₂.ledger current)
      (follows : Follows ("run:" ++ runId) (streamOf runId w₂.ledger) e)
      (step : Step env.host e current (some s)) (insertable : w₂.ledger.Insertable e)
      (later : R (w₂.store caller e) w') : Answer w (.ok (w₂.ledger.stored e)) w'

end Append

/-- What a call has built, it has built in a later world than the one in which it started. -/
theorem Built.later {J : World → Prop} {eventType : ExecutionEventType} {payload : Mapping}
    {actor : String} {current : Option ExecutionRunState} {e : EventEnvelope} {w₂ : World}
    (hS : Steady env runId R C J)
    (h : Built env runId R C J eventType payload actor w current e w₂) : R w w₂ := by
  obtain ⟨w₀, -, hR, hR', -⟩ := h.event
  exact hS.trans hR hR'

theorem executionEventType?_requestEvent {eventType : ExecutionEventType} {payload : Mapping}
    {actor key : String} {existing : List EventEnvelope} {stamp : Stamp} :
    executionEventType? (requestEvent runId eventType payload actor key existing stamp) =
      some eventType := by
  simp [executionEventType?, requestEvent]

/-- The event of a request is the next one of the stream that was read. -/
theorem follows_requestEvent {eventType : ExecutionEventType} {payload : Mapping}
    {actor key : String} {existing : List EventEnvelope} {stamp : Stamp} :
    Follows ("run:" ++ runId) existing
      (requestEvent runId eventType payload actor key existing stamp) where
  stream := rfl
  sequence := rfl
  version := rfl
  known := .inr (by rw [executionEventType?_requestEvent]; rfl)
  cause p hp := by
    rw [Option.mem_def] at hp
    simp [requestEvent, hp]

/-- An event of the generated run leaves it open. -/
theorem Step.exists_some {e : EventEnvelope} {eventType : ExecutionEventType}
    {before state : Option ExecutionRunState} (h : Step env.host e before state)
    (htype : executionEventType? e = some eventType) : ∃ s, state = some s := by
  cases h with
  | unopened t type => simp [runEventType?_eq_none htype] at type
  | published | opened | changed => exact ⟨_, rfl⟩

/-- What a call that relies on the others reads last is what it reads first, when the stream has
not grown. -/
theorem Steady.readable_eq (hS : Steady env runId R C J) {w₀ w₁ w₂ : World}
    {current : Option ExecutionRunState} (hR₁ : R w₀ w₁) (hR₂ : R w₁ w₂)
    (hread : Readable env.host runId w₁.ledger current) (hJ : J w₂)
    (hlength : (streamOf runId w₂.ledger).length = (streamOf runId w₀.ledger).length) :
    streamOf runId w₂.ledger = streamOf runId w₀.ledger ∧
      Readable env.host runId w₂.ledger current := by
  have h₀₂ := (hS.grows (hS.trans hR₁ hR₂)).eq_of_length hlength.symm
  have h₁₂ := (hS.grows hR₂).eq_of_length_le (by
    rw [hlength]
    exact (hS.grows hR₁).length_le)
  obtain ⟨state, hstate⟩ := hS.readable hJ
  refine ⟨h₀₂.symm, hread.isRun, hstate.valid, ?_⟩
  rw [← h₁₂]
  exact hread.state

/-- The event of an earlier request is recorded in the stream, under the same key. -/
theorem mem_of_idempotentEvent {H : Host} {L : Ledger} {e prior : EventEnvelope}
    (h : L.idempotentEvent H e = .ok (some prior)) :
    prior ∈ L.readStream e.streamId ∧ prior.idempotencyKey = e.idempotencyKey := by
  unfold Ledger.idempotentEvent at h
  split at h
  · simp at h
  · rename_i key hkey
    split at h
    · simp at h
    · rename_i x hx
      split at h
      · obtain rfl : x = prior := by simpa using h
        exact ⟨List.mem_of_find?_eq_some hx, by simpa [hkey] using List.find?_some hx⟩
      · simp at h

/-- The store's part of an append, for an event that the projection accepts after the state that
was read. -/
theorem meets_storeRequest {eventType : ExecutionEventType} {payload : Mapping} {actor : String}
    {current : Option ExecutionRunState} {e : EventEnvelope} {s : ExecutionRunState} {n : Int}
    {w₀ w₁ : World} (hS : Steady env runId R C J) (hJ : J w₁) (hR : R w w₁)
    (hbuilt : ∀ w₂, R w₁ w₂ → Built env runId R C J eventType payload actor w current e w₂)
    (hread : ∃ w', R w₀ w' ∧ R w' w₁ ∧ Readable env.host runId w'.ledger current)
    (hfollows : Follows ("run:" ++ runId) (streamOf runId w₀.ledger) e)
    (hn : n = (streamOf runId w₀.ledger).length) (hstep : Step env.host e current (some s))
    (hstore : ∀ w₂, Built env runId R C J eventType payload actor w current e w₂ → J w₂ →
      Readable env.host runId w₂.ledger current →
      Follows ("run:" ++ runId) (streamOf runId w₂.ledger) e → w₂.ledger.Insertable e →
      J (w₂.store caller e)) :
    Prog.Meets (handle env caller) R C J (storeRequest env.host runId e n)
      (Answer env caller runId R C J eventType payload actor w) w₁ := by
  obtain rfl : n = e.streamSequence - 1 := by
    have := hfollows.sequence
    omega
  refine Prog.meets_perform_bind.mpr ⟨hJ, fun w₂ hR₂ hJ₂ hC₂ ↦ ?_⟩
  have hw₂ := hS.trans hR hR₂
  rcases handle_append env caller w₂ e (e.streamSequence - 1) with
    ⟨error, hhandle⟩ | ⟨prior, hhandle, hprior⟩ | ⟨hhandle, hlength, hsequence, hinsert⟩
  · rw [hhandle]
    exact ⟨hJ₂, .raised _ _ hw₂ (.store w₂ current e error (hbuilt w₂ hR₂) ⟨s, hstep⟩ hhandle)⟩
  · rw [hhandle]
    obtain ⟨hrecorded, hkey⟩ := mem_of_idempotentEvent hprior
    rw [hfollows.stream] at hrecorded
    simp only
    refine (meets_rehydrate hS hJ₂).bind ?_ ?_
    · rintro s' w₃ hJ₃ ⟨hR₃, _⟩
      exact ⟨hJ₃, .repeated w₂ current e prior w₃ (hbuilt w₂ hR₂) hC₂ hrecorded hkey hR₃⟩
    · rintro error w₃ hJ₃ ⟨hR₃, _⟩
      obtain ⟨w', hasked, hR'⟩ := (hbuilt w₂ hR₂).request
      obtain ⟨_, _, _, _, rfl, _⟩ := (hbuilt w₂ hR₂).event
      exact .raised error w₃ (hS.trans hw₂ hR₃)
        (.conflict w' w₂ current prior hasked (hS.trans (hS.asks ..) hR') hrecorded hkey)
  · rw [hhandle]
    obtain ⟨w', hR', hR'', hread'⟩ := hread
    have hlength' : (streamOf runId w₂.ledger).length = (streamOf runId w₀.ledger).length := by
      have hsequence' := hfollows.sequence
      rw [hfollows.stream] at hlength
      change ((streamOf runId w₂.ledger).length : Int) = _ at hlength
      omega
    obtain ⟨hstream, hread₂⟩ :=
      hS.readable_eq hR' (hS.trans hR'' hR₂) hread' hJ₂ hlength'
    rw [← hstream] at hfollows
    have hJ' := hstore w₂ (hbuilt w₂ hR₂) hJ₂ hread₂ hfollows hinsert
    have hopen := hread₂.append hfollows hstep
    refine (meets_rehydrate hS hJ').bind ?_ ?_
    · rintro s' w₃ hJ₃ ⟨hR₃, _⟩
      exact ⟨hJ₃, .stored w₂ current e s w₃ (hbuilt w₂ hR₂) hC₂ hread₂ hfollows hstep hinsert hR₃⟩
    · rintro error w₃ hJ₃ ⟨hR₃, hclosed, -⟩
      exact absurd (isSome_of_grows (hS.grows hR₃) hopen.state hclosed.state) nofun

/-- **Appending.** An append ends in one of the four ways of an answer, provided that the invariants
survive its event. -/
theorem meets_append {eventType : ExecutionEventType} {payload : Mapping} {actor : String}
    (hS : Steady env runId R C J) (hJ : J w)
    (hstore : ∀ w₂ current e s, Built env runId R C J eventType payload actor w current e w₂ →
      J w₂ → Readable env.host runId w₂.ledger current →
      Follows ("run:" ++ runId) (streamOf runId w₂.ledger) e → Step env.host e current (some s) →
      w₂.ledger.Insertable e → J (w₂.store caller e)) :
    Prog.Meets (handle env caller) R C J (append env.host runId eventType payload actor)
      (Answer env caller runId R C J eventType payload actor w) w := by
  obtain ⟨_, hread⟩ := hS.readable hJ
  have hid : streamIdOf runId = .ok ("run:" ++ runId) := streamIdOf_eq_ok.mpr ⟨hread.isRun, rfl⟩
  simp only [append, Prog.bind_eq, Prog.liftM_eq, readStream, requestKey, newStamp, hid]
  refine meets_check_bind.mpr ⟨hJ, fun _ ↦ ?_, fun h ↦ .raised _ w (hS.refl w) (.malformed h)⟩
  refine Prog.meets_ofExcept_bind.mpr ⟨hJ, ?_, by rintro _ ⟨⟩⟩
  rintro _ ⟨⟩
  -- The stream is read in the world `w₀`.
  refine Prog.meets_perform_bind.mpr ⟨hJ, fun w₀ hR₀ hJ₀ _ ↦ ?_⟩
  obtain ⟨_, hread₀⟩ := hS.readable hJ₀
  simp only [handle_readStream]
  refine Prog.meets_ofExcept_bind.mpr ⟨hJ₀, fun _ _ ↦ ?_, fun error herror ↦ ?_⟩
  swap
  · exact absurd (hread₀.valid.symm.trans herror) (by rintro ⟨⟩)
  refine meets_check_bind.mpr ⟨hJ₀, fun _ ↦ ?_, fun h ↦ ?_⟩
  swap
  · rw [Classical.not_imp] at h
    exact .raised _ w₀ hR₀ (.active w₀ hR₀ h.1 (not_le.mp h.2))
  -- The state is read in the world `w₁`, and the key is asked for in the world `w₂`.
  refine (meets_rebuild hS hJ₀).bind ?_ (by rintro _ _ _ ⟨_, _, _, ⟨⟩⟩)
  rintro current w₁ hJ₁ ⟨hR₁, _, hread₁, ⟨⟩⟩
  refine Prog.meets_perform_bind.mpr ⟨hJ₁, fun w₂ hR₂ hJ₂ hC₂ ↦ ?_⟩
  have hasked : Asked env runId R C J eventType payload w current w₂ :=
    ⟨⟨w₁, hS.trans hR₀ hR₁, hread₁, hR₂⟩, hC₂, hJ₂⟩
  have hJ₂' := hS.ask hJ₂ hC₂
  have hR₀₂ := hS.trans hR₁ hR₂
  have hR₂' := hS.asks w₂ eventType (requestScope eventType current payload)
  simp only [handle_requestKey]
  split
  · rename_i prior hprior
    have hrecorded : prior ∈ streamOf runId w₂.ledger :=
      (hS.grows hR₀₂).subset (List.mem_of_find?_eq_some hprior)
    have hkey : prior.idempotencyKey = some (requestKeyOf env eventType payload current) := by
      have h := List.find?_some hprior
      exact of_decide_eq_true h
    refine meets_check_bind.mpr ⟨hJ₂', fun _ ↦ ?_, fun _ ↦ ?_⟩
    · exact ⟨hJ₂', .replayed w₂ current prior _ hasked hrecorded hkey hR₂'⟩
    · exact .raised _ _ (hS.trans hR₀ (hS.trans hR₀₂ hR₂'))
        (.conflict w₂ w₂ current prior hasked (hS.refl w₂) hrecorded hkey)
  · rename_i hnone
    have habsent : ∀ x ∈ streamOf runId w₀.ledger,
        x.idempotencyKey ≠ some (requestKeyOf env eventType payload current) :=
      fun x hx h ↦ List.find?_eq_none.mp hnone x hx (decide_eq_true h)
    -- The event is stamped in the world `w₃`.
    refine Prog.meets_perform_bind.mpr ⟨hJ₂', fun w₃ hR₃ hJ₃ hC₃ ↦ ?_⟩
    simp only [handle_stamp]
    have hJ₃' := hS.tick hJ₃ hC₃
    have hR₂₃ := hS.trans hR₂' hR₃
    have hR₀₃ := hS.trans hR₀₂ hR₂₃
    have hw₃ := hS.trans hR₀ (hS.trans hR₀₃ (hS.ticks w₃))
    have hbuilt : ∀ w₄, R w₃.tick w₄ →
        Built env runId R C J eventType payload actor w current
          (requestEvent runId eventType payload actor (requestKeyOf env eventType payload current)
            (streamOf runId w₀.ledger) (env.stamps w₃.stamped)) w₄ := by
      intro w₄ hR₄
      have hR₃₄ := hS.trans (hS.ticks w₃) hR₄
      exact ⟨⟨w₂, hasked, hS.trans hR₃ hR₃₄⟩, ⟨w₀, _, hR₀, hS.trans hR₀₃ hR₃₄, rfl, habsent⟩,
        w₃, hS.trans hR₀ hR₀₃, hJ₃, hC₃, rfl, hR₄⟩
    refine Prog.meets_ofExcept_bind.mpr ⟨hJ₃', fun state hstate ↦ ?_, fun error herror ↦ ?_⟩
    · have hstep := apply_eq_ok.mp hstate
      obtain ⟨s, rfl⟩ := hstep.exists_some executionEventType?_requestEvent
      exact meets_storeRequest hS hJ₃' hw₃ hbuilt
        ⟨w₁, hR₁, hS.trans hR₂ (hS.trans hR₂₃ (hS.ticks w₃)), hread₁⟩ follows_requestEvent rfl hstep
        fun w₄ hb hJ₄ hread₄ hfollows₄ hinsert₄ ↦
          hstore w₄ current _ s hb hJ₄ hread₄ hfollows₄ hstep hinsert₄
    · refine .raised error _ hw₃ (.rejected _ current _ (hbuilt _ (hS.refl _)) fun state hstep ↦ ?_)
      exact absurd (herror.symm.trans (apply_eq_ok.mpr hstep)) (by rintro ⟨⟩)

end Rules

end Blackcell.Orchestration.ExecutionRuntime
