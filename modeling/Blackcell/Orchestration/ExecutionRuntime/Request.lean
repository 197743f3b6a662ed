import Blackcell.Orchestration.ExecutionRuntime.Phase

/-!
# Requests of a call that runs alone

When no other call shares the run, nothing changes between two operations of a call but the stamps
that were given out and the keys that were asked for. Then an append whose event the projection
accepts, and whose request is new, is stored.

The journal knows a request by a digest of it. What rests on digests is said of the requests that
were made: no two of them have one key (`Distinct`).

## Main definitions

* `Quiet` : what a call that runs alone relies on.
* `Stored` : the world after an accepted request.
* `Journaled` : the stream of a run whose generated events were all appended by the journal.

## Main results

* `meets_request` : a new request that the projection accepts is stored.
* `Journaled.fresh` : a request that changes a running state is new.
-/

namespace Blackcell.Orchestration.ExecutionRuntime

open Blackcell.Kernel Blackcell.Gateway Blackcell.Orchestration.ExecutionPlan

/-! ### Running alone -/

/-- Nothing happened but that stamps were given out and keys were asked for. -/
structure Quiet (w w' : World) : Prop where
  ledger : w'.ledger = w.ledger
  calls : w'.calls = w.calls
  stored : w'.stored = w.stored
  requested : ∀ p ∈ w.requested, p ∈ w'.requested
  stamped : w.stamped ≤ w'.stamped

namespace Quiet

variable {w w' w'' : World}

theorem refl (w : World) : Quiet w w := ⟨rfl, rfl, rfl, fun _ hp ↦ hp, le_rfl⟩

theorem trans (h : Quiet w w') (h' : Quiet w' w'') : Quiet w w'' :=
  ⟨h'.ledger.trans h.ledger, h'.calls.trans h.calls, h'.stored.trans h.stored,
    fun p hp ↦ h'.requested p (h.requested p hp), h.stamped.trans h'.stamped⟩

theorem ask (w : World) (eventType : ExecutionEventType) (scope : JsonValue) :
    Quiet w (w.ask eventType scope) :=
  ⟨rfl, rfl, rfl, fun _ hp ↦ List.mem_append_left _ hp, le_rfl⟩

theorem tick (w : World) : Quiet w w.tick := ⟨rfl, rfl, rfl, fun _ hp ↦ hp, Nat.le_succ _⟩

end Quiet

/-- An invariant of a call that runs alone: it survives keys and stamps. -/
theorem Steady.quiet {env : Environment} {runId : String} {C : operations.Op → World → Prop}
    {J : World → Prop} (hread : ∀ w, J w → ∃ state, Readable env.host runId w.ledger state)
    (hask : ∀ w streamId eventType scope, J w → C (.requestKey streamId eventType scope) w →
      J (w.ask eventType scope))
    (htick : ∀ w, J w → C .stamp w → J w.tick) : Steady env runId Quiet C J where
  refl := Quiet.refl
  trans := Quiet.trans
  grows h := h.ledger ▸ List.prefix_rfl
  readable := hread _
  asks := Quiet.ask
  ask := hask _ _ _ _
  ticks := Quiet.tick
  tick := htick _

/-! ### New requests -/

section Requests

variable {env : Environment} {caller : Nat} {runId : String} {C : operations.Op → World → Prop}
  {J : World → Prop} {w : World} {eventType : ExecutionEventType} {payload : Mapping}
  {actor : String}

/-- The world after a request was stored: its event is the last one of the ledger, and the run is
open with the given state. -/
structure Stored (env : Environment) (runId : String) (eventType : ExecutionEventType)
    (payload : Mapping) (after : String → ExecutionRunState) (w : World) (e : EventEnvelope)
    (w' : World) : Prop where
  type : executionEventType? e = some eventType
  payload : e.payload = ("run_id", .str runId) :: payload
  opened : Open env.host runId w'.ledger ((after e.eventId).noted e)
  ledger : w'.ledger = w.ledger ++ [e]
  calls : w'.calls = w.calls

/-- What a call that runs alone has asked for, it has asked for in the world in which it started. -/
theorem Asked.alone {current current' : Option ExecutionRunState} {w₁ : World}
    (h : Asked env runId Quiet C J eventType payload w current' w₁)
    (hread : Readable env.host runId w.ledger current) : Quiet w w₁ ∧ current' = current := by
  obtain ⟨w₀, hR, hread', hR'⟩ := h.read
  rw [hR.ledger] at hread'
  exact ⟨hR.trans hR', hread'.state_unique hread⟩

/-- What a call that runs alone has built, follows the stream of the world in which it started. -/
theorem Built.alone {current current' : Option ExecutionRunState} {e : EventEnvelope} {w₂ : World}
    (h : Built env runId Quiet C J eventType payload actor w current' e w₂)
    (hread : Readable env.host runId w.ledger current) :
    Quiet w w₂ ∧ current' = current ∧ Follows ("run:" ++ runId) (streamOf runId w.ledger) e ∧
      executionEventType? e = some eventType ∧ e.payload = ("run_id", .str runId) :: payload ∧
      e.idempotencyKey = some (requestKeyOf env eventType payload current) ∧
      e.causationId = (streamOf runId w.ledger).getLast?.map (·.eventId) := by
  obtain ⟨w₁, hasked, hR₁⟩ := h.request
  obtain ⟨hquiet, rfl⟩ := hasked.alone hread
  obtain ⟨w₀, stamp, hR₀, -, rfl, -⟩ := h.event
  rw [hR₀.ledger]
  exact ⟨hquiet.trans ((Quiet.ask ..).trans hR₁), rfl, follows_requestEvent,
    executionEventType?_requestEvent, rfl, rfl, rfl⟩

/-- **New requests.** A request that the projection accepts, with a new key and a new identifier, is
stored. -/
theorem meets_append_new {current : Option ExecutionRunState} {after : String → ExecutionRunState}
    (hS : Steady env runId Quiet C J) (hJ : J w) (hread : Readable env.host runId w.ledger current)
    (hactor : isBlank actor = false) (hkeys : "run_id" ∉ payload.keys)
    (hpublic : eventType = .goalAdmitted →
      ((streamOf runId w.ledger).filter RunLifecycle.isPublic).length ≤ 1)
    (hnew : ∀ w₁, Quiet w w₁ → J w₁ →
      C (.requestKey ("run:" ++ runId) eventType (requestScope eventType current payload)) w₁ →
      ∀ x ∈ streamOf runId w.ledger,
        x.idempotencyKey ≠ some (requestKeyOf env eventType payload current))
    (hid : ∀ w₁, Quiet w w₁ → J w₁ → C .stamp w₁ →
      ∀ x ∈ w.ledger, x.eventId ≠ (env.stamps w₁.stamped).eventId)
    (hstep : ∀ e, Follows ("run:" ++ runId) (streamOf runId w.ledger) e →
      executionEventType? e = some eventType → e.payload = ("run_id", .str runId) :: payload →
      Step env.host e current (some ((after e.eventId).noted e)))
    (hstore : ∀ w₂ e, Built env runId Quiet C J eventType payload actor w current e w₂ → J w₂ →
      Readable env.host runId w₂.ledger current →
      Follows ("run:" ++ runId) (streamOf runId w₂.ledger) e →
      Step env.host e current (some ((after e.eventId).noted e)) → w₂.ledger.Insertable e →
      J (w₂.store caller e)) :
    Prog.Meets (handle env caller) Quiet C J (append env.host runId eventType payload actor)
      (fun r w' ↦ ∃ e, r = .ok e ∧ Stored env runId eventType payload after w e w') w := by
  -- The request is new in every world of the call.
  have hfresh : ∀ {w₁ w₂ : World} {current' x}, Asked env runId Quiet C J eventType payload w current' w₁ →
      w₂.ledger = w.ledger → x ∈ streamOf runId w₂.ledger →
      x.idempotencyKey ≠ some (requestKeyOf env eventType payload current') := by
    intro w₁ w₂ current' x hasked hledger hx
    obtain ⟨hquiet, rfl⟩ := hasked.alone hread
    rw [hledger] at hx
    exact hnew w₁ hquiet hasked.holds hasked.asked x hx
  have hinsertable : ∀ {w₂ : World} {current' e},
      Built env runId Quiet C J eventType payload actor w current' e w₂ →
      w₂.ledger.Insertable e := by
    intro w₂ current' e hbuilt
    obtain ⟨hquiet, rfl, hfollows, -, -, hkey, hcause⟩ := hbuilt.alone hread
    obtain ⟨w₁, hasked, -⟩ := hbuilt.request
    obtain ⟨w₃, hquiet₃, hJ₃, hC₃, hstamp, -⟩ := hbuilt.stamped
    refine ⟨fun x hx ↦ ?_, fun x hx hstream ↦ ?_, fun x hx hstream _ ↦ ?_, fun cause hmem ↦ ?_⟩
    · rw [hquiet.ledger] at hx
      rw [hstamp]
      exact hid w₃ hquiet₃ hJ₃ hC₃ x hx
    · have hx' : x ∈ streamOf runId w₂.ledger :=
        Ledger.mem_readStream.mpr ⟨hx, hstream.trans hfollows.stream⟩
      rw [hquiet.ledger] at hx'
      have hle := streamSequence_le hread.valid hx'
      have hsequence := hfollows.sequence
      omega
    · rw [hkey]
      exact hfresh hasked hquiet.ledger
        (Ledger.mem_readStream.mpr ⟨hx, hstream.trans hfollows.stream⟩)
    · rw [hcause, Option.mem_def, Option.map_eq_some_iff] at hmem
      obtain ⟨x, hx, rfl⟩ := hmem
      rw [hquiet.ledger]
      exact .inr ⟨x, (Ledger.mem_readStream.mp (List.mem_of_getLast? hx)).1, rfl⟩
  refine (meets_append hS hJ fun w₂ current' e s hbuilt hJ₂ hread₂ hfollows₂ hstep₂ hinsert ↦ ?_).mono
    fun r w' _ hanswer ↦ ?_
  · obtain ⟨-, rfl, hfollows, htype, hpayload, -⟩ := hbuilt.alone hread
    exact hstore w₂ e hbuilt hJ₂ hread₂ hfollows₂ (hstep e hfollows htype hpayload) hinsert
  · cases hanswer with
    | raised error w' later reason =>
      exfalso
      cases reason with
      | malformed h => exact h ⟨hactor, hkeys⟩
      | active w₀ later type several =>
        rw [later.ledger] at several
        exact absurd (hpublic type) (by omega)
      | conflict w₁ w₂ current' prior asked later recorded key =>
        obtain ⟨hquiet, -⟩ := asked.alone hread
        exact hfresh asked (hquiet.trans later).ledger recorded key
      | rejected w₂ current' e built rejected =>
        obtain ⟨-, rfl, hfollows, htype, hpayload, -⟩ := built.alone hread
        exact rejected _ (hstep e hfollows htype hpayload)
      | store w₂ current' e error built step refused =>
        obtain ⟨hquiet, rfl, hfollows, -⟩ := built.alone hread
        have hlength : w₂.ledger.currentSequence e.streamId = e.streamSequence - 1 := by
          rw [hfollows.sequence, hfollows.stream, hquiet.ledger]
          exact (Int.add_sub_cancel ..).symm
        rw [handle_append_fresh hlength (by omega) (hinsertable built)] at refused
        simp at refused
    | replayed w₁ current' prior w' asked recorded key later =>
      obtain ⟨hquiet, -⟩ := asked.alone hread
      exact absurd key (hfresh asked hquiet.ledger recorded)
    | repeated w₂ current' e prior w' built performed recorded key later =>
      obtain ⟨hquiet, rfl, -, -, -, hkey, -⟩ := built.alone hread
      obtain ⟨w₁, hasked, -⟩ := built.request
      rw [hkey] at key
      exact absurd key (hfresh hasked hquiet.ledger recorded)
    | stored w₂ current' e s w' built performed readable follows step insertable later =>
      obtain ⟨hquiet, rfl, hfollows, htype, hpayload, -⟩ := built.alone hread
      have hopen := readable.append follows (hstep e hfollows htype hpayload)
      refine ⟨_, rfl, ?_, ?_, ?_, ?_, ?_⟩
      · exact htype
      · exact hpayload
      · rw [later.ledger]
        exact hopen
      · rw [later.ledger, World.store, hquiet.ledger]
      · rw [later.calls, World.store, hquiet.calls]

end Requests

/-! ### Streams that the journal wrote -/

section Journaled

variable {env : Environment} {caller : Nat} {runId : String} {w w' : World}

/-- No two requests of a list have the same key. -/
def Distinct (H : Host) (requested : List (ExecutionEventType × JsonValue)) : Prop :=
  ∀ p ∈ requested, ∀ q ∈ requested, keyOf H p.1 p.2 = keyOf H q.1 q.2 → p = q

/-- The key of a request names its kind. -/
theorem keyOf_type_inj {H : Host} {type type' : ExecutionEventType} {scope scope' : JsonValue}
    (h : keyOf H type scope = keyOf H type' scope') : type = type' := by
  have hlists := congrArg String.toList h
  simp only [keyOf, String.toList_append] at hlists
  have hlength : (H.jsonDigest scope).toList.length = (H.jsonDigest scope').toList.length := by
    rw [String.length_toList, String.length_toList, H.length_jsonDigest, H.length_jsonDigest]
  have hcolon := List.append_inj_left' hlists hlength
  exact StrEnum.value_injective (String.toList_injective (List.append_cancel_right hcolon))

/-- Requests of distinct kinds are distinct. -/
theorem distinct_of_types {H : Host} {requested : List (ExecutionEventType × JsonValue)}
    (h : (requested.map Prod.fst).Nodup) : Distinct H requested :=
  fun _ hp _ hq hkey ↦ List.inj_on_of_nodup_map h hp hq (keyOf_type_inj hkey)

/-- The requests that were made so far are still distinct after an operation. -/
def Unmistaken (env : Environment) (caller : Nat) (o : operations.Op) (w : World) : Prop :=
  Distinct env.host (handle env caller o w).2.requested

/-- How an event came into the stream of a run, after the events `E`: it is a public event, whose
key is none of the journal, or it was requested. -/
inductive Recorded (env : Environment) (runId : String)
    (requested : List (ExecutionEventType × JsonValue)) (E : List EventEnvelope)
    (e : EventEnvelope) : Prop where
  | published (type : executionEventType? e = none)
      (key : ∀ type scope, e.idempotencyKey ≠ some (keyOf env.host type scope))
  | requested (eventType : ExecutionEventType) (current : Option ExecutionRunState)
      (payload : Mapping) (type : executionEventType? e = some eventType)
      (state : project env.host E = .ok current)
      (payloadEq : e.payload = ("run_id", .str runId) :: payload)
      (key : e.idempotencyKey = some (requestKeyOf env eventType payload current))
      (asked : (eventType, requestScope eventType current payload) ∈ requested)

theorem Recorded.mono {requested requested' : List (ExecutionEventType × JsonValue)}
    {E : List EventEnvelope} {e : EventEnvelope} (h : Recorded env runId requested E e)
    (hsubset : ∀ p ∈ requested, p ∈ requested') : Recorded env runId requested' E e := by
  cases h with
  | published type key => exact .published type key
  | requested eventType current payload type state payloadEq key asked =>
    exact .requested eventType current payload type state payloadEq key (hsubset _ asked)

theorem revisionValue_inj {a b : Option Nat} (h : revisionValue a = revisionValue b) : a = b := by
  cases a <;> cases b <;> simp_all [revisionValue, Int.natCast_inj]

/-- The scope of a request holds its payload, and the revision that was current. -/
theorem requestScope_inj {eventType : ExecutionEventType} {current current' : Option ExecutionRunState}
    {payload payload' : Mapping}
    (h : requestScope eventType current payload = requestScope eventType current' payload') :
    payload = payload' ∧ (eventType ≠ .planAdmitted →
      current.bind (·.planRevision) = current'.bind (·.planRevision)) := by
  simp only [requestScope, JsonValue.object.injEq, List.cons.injEq, Prod.mk.injEq, true_and,
    and_true] at h
  obtain ⟨-, hversion, hpayload⟩ := h
  refine ⟨hpayload, fun hne ↦ ?_⟩
  simp only [if_neg hne] at hversion
  exact revisionValue_inj hversion

/-- **Journaled streams.** The stream of the run is readable, its events were published or
requested, and the stamps that are still to be given out are new. -/
structure Journaled (env : Environment) (runId : String) (w : World) : Prop where
  readable : ∃ state, Readable env.host runId w.ledger state
  stamped : ∀ x ∈ w.ledger, ∀ n, w.stamped ≤ n → x.eventId ≠ (env.stamps n).eventId
  recorded : ∀ E e E', streamOf runId w.ledger = E ++ e :: E' →
    Recorded env runId w.requested E e

namespace Journaled

theorem quiet (h : Journaled env runId w) (hquiet : Quiet w w') : Journaled env runId w' where
  readable := by
    rw [hquiet.ledger]
    exact h.readable
  stamped x hx n hn := by
    rw [hquiet.ledger] at hx
    exact h.stamped x hx n (hquiet.stamped.trans hn)
  recorded E e E' hsplit := by
    rw [hquiet.ledger] at hsplit
    exact (h.recorded E e E' hsplit).mono hquiet.requested

/-- An append keeps the stream journaled. -/
theorem store {C : operations.Op → World → Prop} {J : World → Prop}
    {eventType : ExecutionEventType} {payload : Mapping} {actor : String}
    {current : Option ExecutionRunState} {e : EventEnvelope} {state : Option ExecutionRunState}
    (h : Journaled env runId w')
    (hbuilt : Built env runId Quiet C J eventType payload actor w current e w')
    (hread : Readable env.host runId w'.ledger current)
    (hfollows : Follows ("run:" ++ runId) (streamOf runId w'.ledger) e)
    (hstep : Step env.host e current state) : Journaled env runId (w'.store caller e) where
  readable := ⟨state, hread.append hfollows hstep⟩
  stamped x hx n hn := by
    rcases List.mem_append.mp hx with hx | hx
    · exact h.stamped x hx n hn
    · obtain rfl := List.mem_singleton.mp hx
      obtain ⟨w₃, -, -, -, hstamp, hquiet⟩ := hbuilt.stamped
      have hlt : w₃.stamped + 1 ≤ w'.stamped := hquiet.stamped
      change e.eventId ≠ _
      rw [hstamp]
      intro heq
      have hn' : w'.stamped ≤ n := hn
      have := env.stamps_injective heq
      omega
  recorded E x E' hsplit := by
    rw [World.store, streamOf_append_stored hfollows.stream] at hsplit
    rcases History.concat_eq_split hsplit with ⟨rfl, rfl, rfl⟩ | ⟨rest, hrest, -⟩
    · obtain ⟨w₁, hasked, hquiet⟩ := hbuilt.request
      obtain ⟨_, _, _, _, rfl, _⟩ := hbuilt.event
      refine .requested eventType current payload
        (executionEventType?_stored.trans executionEventType?_requestEvent) hread.state rfl rfl
        (hquiet.requested _ (List.mem_append_right _ (List.mem_singleton.mpr rfl)))
    · exact h.recorded E x rest hrest

/-- An event of the stream that has the key of a request recorded that request: its kind and its
payload, made in a state of the same revision. -/
theorem requested_of_key (h : Journaled env runId w) {type : ExecutionEventType}
    {payload : Mapping} {current : Option ExecutionRunState} {x : EventEnvelope}
    (hdistinct : Distinct env.host
      (w.requested ++ [(type, requestScope type current payload)]))
    (hx : x ∈ streamOf runId w.ledger)
    (hkey : x.idempotencyKey = some (requestKeyOf env type payload current)) :
    ∃ E E' prior, streamOf runId w.ledger = E ++ x :: E' ∧ project env.host E = .ok prior ∧
      executionEventType? x = some type ∧ x.payload = ("run_id", .str runId) :: payload ∧
      (type ≠ .planAdmitted →
        prior.bind (·.planRevision) = current.bind (·.planRevision)) := by
  obtain ⟨E, E', hsplit⟩ := List.append_of_mem hx
  cases h.recorded E x E' hsplit with
  | published _ key => exact absurd hkey (key _ _)
  | requested type' prior payload' typeEq state payloadEq key asked =>
    rw [key, Option.some.injEq] at hkey
    have hsame := hdistinct _ (List.mem_append_left _ asked) _
      (List.mem_append_right _ (List.mem_singleton.mpr rfl)) hkey
    obtain ⟨rfl, hscope⟩ := Prod.mk.inj hsame
    obtain ⟨rfl, hrevision⟩ := requestScope_inj hscope
    exact ⟨E, E', prior, hsplit, state, typeEq, payloadEq, hrevision⟩

/-- A request whose key the stream holds was recorded before, with its payload. -/
theorem replayed (h : Journaled env runId w) {state : Option ExecutionRunState}
    (hread : Readable env.host runId w.ledger state) {type : ExecutionEventType}
    {payload : Mapping} {current : Option ExecutionRunState} {x : EventEnvelope}
    (hdistinct : Distinct env.host
      (w.requested ++ [(type, requestScope type current payload)]))
    (hx : x ∈ streamOf runId w.ledger)
    (hkey : x.idempotencyKey = some (requestKeyOf env type payload current)) :
    executionEventType? x = some type ∧ x.payload = ("run_id", .str runId) :: payload ∧
      ∃ before after, Step env.host x before after := by
  obtain ⟨E, E', prior, hsplit, -, htype, hpayload, -⟩ := h.requested_of_key hdistinct hx hkey
  have hstate := hread.state
  rw [hsplit] at hstate
  obtain ⟨before, after, -, hstep, -⟩ := History.split hstate
  exact ⟨htype, hpayload, before, after, apply_eq_ok.mp hstep⟩

/-- **Requests are new.** A request that changes a running state has a key that the stream does not
hold, when its key is no other request's. -/
theorem fresh (h : Journaled env runId w) {s s' : ExecutionRunState}
    (hopen : Open env.host runId w.ledger s) (hrunning : s.status = .running)
    {eventType : ExecutionEventType} {payload : Mapping} {eventId : String}
    (hchange : Change env.host eventId (("run_id", .str runId) :: payload) s eventType s')
    (hdistinct : Distinct env.host
      (w.requested ++ [(eventType, requestScope eventType (some s) payload)]))
    {x : EventEnvelope} (hx : x ∈ streamOf runId w.ledger) :
    x.idempotencyKey ≠ some (requestKeyOf env eventType payload (some s)) := by
  intro hkey
  obtain ⟨E, E', prior, hsplit, state, type, payloadEq, hrevision⟩ :=
    h.requested_of_key hdistinct hx hkey
  have hstate := hopen.state
  rw [hsplit] at hstate
  obtain ⟨_, m, hpre, hstep, hpost⟩ := History.split hstate
  obtain rfl := Except.ok.inj (state.symm.trans hpre)
  rw [← payloadEq] at hchange
  have hstep := apply_eq_ok.mp hstep
  cases hstep with
  | unopened t ht => simp [executionEventType?_eq_none ht] at type
  | published t s ht => simp [executionEventType?_eq_none ht] at type
  | opened runId goal classification locality budget ht =>
    obtain rfl := Option.some.inj (type.symm.trans ht)
    cases hchange
  | changed t s₀ s₁ ht fields run isRun stream sequence active change =>
    obtain rfl := Option.some.inj (type.symm.trans ht)
    have hne : eventType ≠ .planAdmitted := by
      rintro rfl
      cases hchange with
      | planAdmitted plan status => simp [hrunning] at status
    exact change.not_again (unplanned_of_project state) hpost hrunning (hrevision hne).symm hchange

end Journaled

end Journaled

end Blackcell.Orchestration.ExecutionRuntime
