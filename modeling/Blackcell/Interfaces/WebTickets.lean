import Blackcell.Foundation.Checked
import Blackcell.Foundation.SingleUse
import Blackcell.Foundation.StrEnum
import Blackcell.Kernel.Text
import Mathlib.Data.List.Induction
import Mathlib.Order.Defs.LinearOrder

/-!
# Browser tickets and connections

The browser opens its event socket with a ticket that the service issued to an authenticated
principal. The *ticket authority* keeps, for every pending ticket, only the digest of the ticket,
with the principal and the instant at which the ticket expires. Issuing prunes the expired tickets,
refuses a full table, and asks the token factory up to four times for a value whose digest is not
pending. Consuming prunes, takes the entry of the digest out of the table, and refuses an entry that
has expired. The *connection limiter* counts the open sockets.

The factory and the clock answer every call as they like, so the results hold for every factory and
every clock, a monotone one among them. Instants form a linear order, and `later now seconds` is the
sum of floating point numbers `now + seconds`.

## Main definitions

* `ServicePrincipal`, `WebTicketAuthority`, `WebConnectionLimiter`.
* `WebTicketAuthority.issue`, `WebTicketAuthority.consume`, `WebTicketAuthority.pendingCount`.
* `WebTicketAuthority.run` : any sequence of calls, with the replies to them.
* `WebConnectionLimiter.run` : any sequence of acquisitions and releases.

## Main results

* `WebTicketAuthority.sound_run` : what the table and the replies satisfy in every run.
* `WebTicketAuthority.response_issue` : the response of an issued ticket is well formed.
* `WebConnectionLimiter.active_run` : the open connections are those acquired and not released.
* `tickets_single_use_and_bounded` : the guarantees of both over all runs.
-/

namespace Blackcell.Interfaces

open Kernel

/-! ### Principals -/

/-- `ServiceScope`. -/
inductive ServiceScope
  | read
  | run
  | approve
  | admin
  deriving DecidableEq

instance : StrEnum ServiceScope where
  value
    | .read => "read"
    | .run => "run"
    | .approve => "approve"
    | .admin => "admin"
  members := [.read, .run, .approve, .admin]
  mem_members a := by cases a <;> decide
  nodup_values := by decide

/-- `ServicePrincipal`: the scopes are a sorted set. -/
structure ServicePrincipal where
  principalId : String
  scopes : List ServiceScope
  id_not_blank : isBlank principalId = false
  scopes_ne_nil : scopes ≠ []
  scopes_sorted : scopes.Pairwise fun a b ↦ StrEnum.value a < StrEnum.value b

/-! ### Tickets -/

/-- `WebTicketFailureCode`. -/
inductive WebTicketFailureCode
  | invalidConfig
  | generationFailed
  | capacityExceeded
  | invalidTicket
  deriving DecidableEq

instance : StrEnum WebTicketFailureCode where
  value
    | .invalidConfig => "execution-web-ticket-invalid-config"
    | .generationFailed => "execution-web-ticket-generation-failed"
    | .capacityExceeded => "execution-web-ticket-capacity-exceeded"
    | .invalidTicket => "execution-web-ticket-invalid"
  members := [.invalidConfig, .generationFailed, .capacityExceeded, .invalidTicket]
  mem_members a := by cases a <;> decide
  nodup_values := by decide

/-- `_MAX_TICKET_CHARS`. -/
def maxTicketChars : Nat := 128

/-- `[A-Za-z0-9_-]{32,128}\Z`. -/
def isTicket (value : String) : Bool :=
  32 ≤ value.length && value.length ≤ 128 &&
    value.toList.all fun c ↦ c.isAlphanum || c = '_' || c = '-'

/-- `WebSocketTicketResponse`. -/
structure WebSocketTicketResponse where
  ticket : String
  expiresInSeconds : Int
  isTicket_ticket : isTicket ticket = true
  one_le_expires : 1 ≤ expiresInSeconds
  expires_le : expiresInSeconds ≤ 60

/-- `WebSocketTicketResponse.__post_init__`, `none` for the `ValueError`. -/
def WebSocketTicketResponse.create (ticket : String) (expiresInSeconds : Int) :
    Option WebSocketTicketResponse :=
  if h : isTicket ticket = true ∧ 1 ≤ expiresInSeconds ∧ expiresInSeconds ≤ 60 then
    some ⟨ticket, expiresInSeconds, h.1, h.2.1, h.2.2⟩
  else none

/-- `IssuedWebTicket`. -/
structure IssuedWebTicket where
  value : String
  expiresInSeconds : Nat
  deriving DecidableEq

/-- `IssuedWebTicket.response`. -/
def IssuedWebTicket.response (ticket : IssuedWebTicket) : Option WebSocketTicketResponse :=
  WebSocketTicketResponse.create ticket.value ticket.expiresInSeconds

/-! ### The authority -/

section Authority

variable {T D : Type*} [LinearOrder T] [DecidableEq D] (later : T → Nat → T) (sha256 : String → D)

/-- `_PendingTicket`. -/
structure PendingTicket (T : Type*) where
  principal : ServicePrincipal
  expiresAt : T

/-- The pending tickets, in the order in which they were issued, each under its digest. -/
abbrev PendingTickets (T D : Type*) := List (D × PendingTicket T)

/-- The configuration of a `WebTicketAuthority`. -/
structure WebTicketAuthority where
  ttlSeconds : Nat
  maxPending : Nat
  one_le_ttl : 1 ≤ ttlSeconds
  ttl_le : ttlSeconds ≤ 60
  one_le_max : 1 ≤ maxPending
  max_le : maxPending ≤ 1024

/-- `WebTicketAuthority.__init__`. -/
def WebTicketAuthority.create (ttlSeconds maxPending : Int) :
    Except WebTicketFailureCode WebTicketAuthority :=
  if h : (1 ≤ ttlSeconds ∧ ttlSeconds ≤ 60) ∧ 1 ≤ maxPending ∧ maxPending ≤ 1024 then
    .ok ⟨ttlSeconds.toNat, maxPending.toNat, by omega, by omega, by omega, by omega⟩
  else .error .invalidConfig

/-- What the clock answers: an instant, or a value that is no finite number. -/
inductive ClockReading (T : Type*)
  | instant (now : T)
  | unusable

/-- What the token factory answers: a text, another value, or an exception. -/
inductive Draw
  | text (value : String)
  | other
  | raises

/-- `WebTicketAuthority._now`. -/
def ClockReading.now (reading : ClockReading T) : Except WebTicketFailureCode T :=
  match reading with
  | .instant now => .ok now
  | .unusable => .error .generationFailed

/-- `WebTicketAuthority._prune`. -/
def prune (now : T) (pending : PendingTickets T D) : PendingTickets T D :=
  pending.filter fun entry ↦ !decide (entry.2.expiresAt ≤ now)

/-- The digests of the pending tickets. -/
def pendingDigests (pending : PendingTickets T D) : List D := pending.map Prod.fst

namespace WebTicketAuthority

variable (authority : WebTicketAuthority)

/-- The attempts of `issue` to draw a new ticket: the value, once the factory gives one. -/
def drawTicket (pending : PendingTickets T D) : List Draw → Except WebTicketFailureCode String
  | [] => .error .generationFailed
  | .raises :: _ => .error .generationFailed
  | .other :: _ => .error .generationFailed
  | .text value :: draws =>
    if isTicket value = true then
      if sha256 value ∈ pendingDigests pending then drawTicket pending draws else .ok value
    else .error .generationFailed

/-- `WebTicketAuthority.issue` of a principal, when the clock and the factory answer with `reading`
and `factory`: the reply and the pending tickets it leaves. -/
def issue (principal : ServicePrincipal) (reading : ClockReading T) (factory : Nat → Draw)
    (pending : PendingTickets T D) :
    Except WebTicketFailureCode IssuedWebTicket × PendingTickets T D :=
  if 200 < principal.principalId.length ∨ 4 < principal.scopes.length then
    (.error .generationFailed, pending)
  else
    match reading.now with
    | .error code => (.error code, pending)
    | .ok now =>
      if authority.maxPending ≤ (prune now pending).length then
        (.error .capacityExceeded, prune now pending)
      else
        match drawTicket sha256 (prune now pending) ((List.range 4).map factory) with
        | .error code => (.error code, prune now pending)
        | .ok value =>
          (.ok ⟨value, authority.ttlSeconds⟩,
            prune now pending ++ [(sha256 value, ⟨principal, later now authority.ttlSeconds⟩)])

/-- `WebTicketAuthority.consume`: the reply and the pending tickets it leaves. -/
def consume (value : String) (reading : ClockReading T) (pending : PendingTickets T D) :
    Except WebTicketFailureCode ServicePrincipal × PendingTickets T D :=
  if ¬(1 ≤ value.length ∧ value.length ≤ maxTicketChars) ∨ isTicket value = false then
    (.error .invalidTicket, pending)
  else
    match reading.now with
    | .error code => (.error code, pending)
    | .ok now =>
      let left := (prune now pending).filter fun entry ↦ entry.1 ≠ sha256 value
      match (prune now pending).lookup (sha256 value) with
      | none => (.error .invalidTicket, left)
      | some ticket =>
        if ticket.expiresAt ≤ now then (.error .invalidTicket, left)
        else (.ok ticket.principal, left)

/-- `WebTicketAuthority.pending_count`. -/
def pendingCount (reading : ClockReading T) (pending : PendingTickets T D) :
    Except WebTicketFailureCode Nat × PendingTickets T D :=
  match reading.now with
  | .error code => (.error code, pending)
  | .ok now => (.ok (prune now pending).length, prune now pending)

end WebTicketAuthority

/-! ### Runs of the authority -/

/-- A call of the authority, with the answers that the clock and the factory give during it. -/
inductive TicketCall (T : Type*)
  | issue (principal : ServicePrincipal) (reading : ClockReading T) (factory : Nat → Draw)
  | consume (value : String) (reading : ClockReading T)
  | pendingCount (reading : ClockReading T)

/-- What a call returns or raises. -/
inductive TicketReply
  | issued (result : Except WebTicketFailureCode IssuedWebTicket)
  | consumed (result : Except WebTicketFailureCode ServicePrincipal)
  | counted (result : Except WebTicketFailureCode Nat)

/-- A call and the reply to it. -/
abbrev TicketExchange (T : Type*) := TicketCall T × TicketReply

/-- The exchange issued the ticket to the principal, until the instant `expiresAt`. -/
def Issues (exchange : TicketExchange T) (ticket : IssuedWebTicket) (principal : ServicePrincipal)
    (expiresAt : T) : Prop :=
  ∃ now factory, exchange = (.issue principal (.instant now) factory, .issued (.ok ticket)) ∧
    expiresAt = later now ticket.expiresInSeconds

/-- The exchange accepted the value as a ticket of the principal, at the instant `now`. -/
def Accepts (exchange : TicketExchange T) (value : String) (principal : ServicePrincipal)
    (now : T) : Prop :=
  exchange = (.consume value (.instant now), .consumed (.ok principal))

namespace WebTicketAuthority

variable (authority : WebTicketAuthority)

/-- One call: the reply and the pending tickets it leaves. -/
def step (pending : PendingTickets T D) : TicketCall T → TicketReply × PendingTickets T D
  | .issue principal reading factory =>
    let (result, left) := issue later sha256 authority principal reading factory pending
    (.issued result, left)
  | .consume value reading =>
    let (result, left) := consume sha256 value reading pending
    (.consumed result, left)
  | .pendingCount reading =>
    let (result, left) := pendingCount reading pending
    (.counted result, left)

/-- The exchanges of a new authority with its callers, and the pending tickets they leave. A call
works on the table while it holds the lock, so the calls of several threads happen in some order;
the clock was read before, so their readings need not be ordered in the same way. -/
def run (calls : List (TicketCall T)) : List (TicketExchange T) × PendingTickets T D :=
  calls.foldl (fun s call ↦
    let (reply, left) := authority.step later sha256 s.2 call
    (s.1 ++ [(call, reply)], left)) ([], [])

variable {later sha256} {authority}

@[simp] theorem run_nil : authority.run later sha256 [] = ([], []) := rfl

theorem run_concat (calls : List (TicketCall T)) (call : TicketCall T) :
    authority.run later sha256 (calls ++ [call]) =
      ((authority.run later sha256 calls).1 ++
          [(call, (authority.step later sha256 (authority.run later sha256 calls).2 call).1)],
        (authority.step later sha256 (authority.run later sha256 calls).2 call).2) := by
  simp [run, List.foldl_append]

end WebTicketAuthority

/-! ### What one call does -/

omit [DecidableEq D] in
theorem prune_sublist (now : T) (pending : PendingTickets T D) :
    (prune now pending).Sublist pending := List.filter_sublist

omit [LinearOrder T] in
/-- A ticket that is drawn is well formed and not pending. -/
theorem WebTicketAuthority.drawTicket_eq_ok {pending : PendingTickets T D} {draws : List Draw}
    {value : String} (h : drawTicket sha256 pending draws = .ok value) :
    isTicket value = true ∧ sha256 value ∉ pendingDigests pending := by
  induction draws with
  | nil => simp [drawTicket] at h
  | cons draw draws ih =>
    cases draw with
    | raises => simp [drawTicket] at h
    | other => simp [drawTicket] at h
    | text drawn =>
      simp only [drawTicket] at h
      split_ifs at h with hticket hpending
      · exact ih h
      · cases h
        exact ⟨hticket, hpending⟩

/-- The digest under which an exchange stores a pending ticket. -/
def stored (exchange : TicketExchange T) : Option (D × PendingTicket T) :=
  match exchange with
  | (.issue principal (.instant now) _, .issued (.ok ticket)) =>
    some (sha256 ticket.value, ⟨principal, later now ticket.expiresInSeconds⟩)
  | _ => none

/-- The digest under which an exchange takes a pending ticket that it accepts. -/
def taken (exchange : TicketExchange T) : Option D :=
  match exchange with
  | (.consume value (.instant _), .consumed (.ok _)) => some (sha256 value)
  | _ => none

/-- The exchange accepts the pending ticket: it answers with the principal, before the expiry. -/
def AcceptsPending (exchange : TicketExchange T) (ticket : PendingTicket T) : Prop :=
  ∃ value now, Accepts exchange value ticket.principal now ∧ now < ticket.expiresAt

/-- What a call leaves pending: nothing new, or the ticket that it issued, or what remains after the
ticket that it accepted. -/
inductive Leaves (authority : WebTicketAuthority) (pending : PendingTickets T D)
    (exchange : TicketExchange T) : PendingTickets T D → Prop
  | dropping {left} (hsub : left.Sublist pending) (hstored : stored later sha256 exchange = none)
      (htaken : taken sha256 exchange = none) : Leaves authority pending exchange left
  | issuing {kept digest ticket} (hsub : kept.Sublist pending)
      (hcapacity : kept.length < authority.maxPending) (hnew : digest ∉ pendingDigests kept)
      (hstored : stored later sha256 exchange = some (digest, ticket))
      (htaken : taken sha256 exchange = none) :
      Leaves authority pending exchange (kept ++ [(digest, ticket)])
  | accepting {left digest ticket} (hsub : left.Sublist pending)
      (hmem : (digest, ticket) ∈ pending) (hgone : digest ∉ pendingDigests left)
      (haccepts : AcceptsPending exchange ticket)
      (hstored : stored later sha256 exchange = none)
      (htaken : taken sha256 exchange = some digest) : Leaves authority pending exchange left

namespace WebTicketAuthority

variable {later sha256} {authority : WebTicketAuthority}

theorem leaves_issue (principal : ServicePrincipal) (reading : ClockReading T)
    (factory : Nat → Draw) (pending : PendingTickets T D) :
    Leaves later sha256 authority pending
      (.issue principal reading factory,
        .issued (authority.issue later sha256 principal reading factory pending).1)
      (authority.issue later sha256 principal reading factory pending).2 := by
  unfold issue
  split_ifs with hprincipal
  · exact .dropping (List.Sublist.refl _) (by cases reading <;> rfl) rfl
  · cases reading with
    | unusable => exact .dropping (List.Sublist.refl _) rfl rfl
    | instant now =>
      simp only [ClockReading.now]
      split_ifs with hcapacity
      · exact .dropping (prune_sublist now pending) rfl rfl
      · cases hdraw : drawTicket sha256 (prune now pending) ((List.range 4).map factory) with
        | error code => exact .dropping (prune_sublist now pending) rfl rfl
        | ok value =>
          exact .issuing (prune_sublist now pending) (not_le.mp hcapacity)
            (drawTicket_eq_ok sha256 hdraw).2 rfl rfl

theorem leaves_consume (value : String) (reading : ClockReading T) (pending : PendingTickets T D) :
    Leaves later sha256 authority pending
      (.consume value reading, .consumed (consume sha256 value reading pending).1)
      (consume sha256 value reading pending).2 := by
  unfold consume
  split_ifs with hvalue
  · exact .dropping (List.Sublist.refl _) rfl (by cases reading <;> rfl)
  · cases reading with
    | unusable => exact .dropping (List.Sublist.refl _) rfl rfl
    | instant now =>
      simp only [ClockReading.now]
      have hleft : ((prune now pending).filter fun entry ↦ entry.1 ≠ sha256 value).Sublist pending :=
        List.filter_sublist.trans (prune_sublist now pending)
      cases hlookup : (prune now pending).lookup (sha256 value) with
      | none => exact .dropping hleft rfl rfl
      | some ticket =>
        simp only
        split_ifs with hexpired
        · exact .dropping hleft rfl rfl
        · obtain ⟨before, after, hsplit, -⟩ := List.lookup_eq_some_iff.mp hlookup
          have hmem : (sha256 value, ticket) ∈ prune now pending := by simp [hsplit]
          exact .accepting hleft ((prune_sublist now pending).mem hmem) (by simp [pendingDigests])
            ⟨value, now, rfl, not_le.mp hexpired⟩ rfl rfl

omit [DecidableEq D] in
theorem leaves_pendingCount (reading : ClockReading T) (pending : PendingTickets T D) :
    Leaves later sha256 authority pending
      (.pendingCount reading, .counted (pendingCount reading pending).1)
      (pendingCount reading pending).2 := by
  cases reading with
  | unusable => exact .dropping (List.Sublist.refl _) rfl rfl
  | instant now => exact .dropping (prune_sublist now pending) rfl rfl

/-- What a call leaves pending. -/
theorem leaves_step (pending : PendingTickets T D) (call : TicketCall T) :
    Leaves later sha256 authority pending (call, (authority.step later sha256 pending call).1)
      (authority.step later sha256 pending call).2 := by
  cases call with
  | issue principal reading factory => exact leaves_issue principal reading factory pending
  | consume value reading => exact leaves_consume value reading pending
  | pendingCount reading => exact leaves_pendingCount reading pending

end WebTicketAuthority

/-! ### What holds in every run -/

/-- The pending tickets are those that the exchanges left, and the exchanges accepted only these. -/
structure SoundTickets (authority : WebTicketAuthority) (history : List (TicketExchange T))
    (pending : PendingTickets T D) : Prop where
  backed : SingleUse.Backed (stored later sha256) (taken sha256) history pending
  honest : SingleUse.Honest (stored later sha256) (taken sha256) AcceptsPending history
  length_le : pending.length ≤ authority.maxPending

namespace SoundTickets

variable {later sha256} {authority : WebTicketAuthority} {history : List (TicketExchange T)}
  {pending left : PendingTickets T D} {exchange : TicketExchange T}

omit [DecidableEq D] in
theorem nil : SoundTickets later sha256 authority [] [] where
  backed := .nil
  honest := .nil
  length_le := Nat.zero_le _

omit [DecidableEq D] in
/-- **One call.** -/
theorem concat (h : SoundTickets later sha256 authority history pending)
    (hleaves : Leaves later sha256 authority pending exchange left) :
    SoundTickets later sha256 authority (history ++ [exchange]) left := by
  cases hleaves with
  | dropping hsub hstored htaken =>
    refine ⟨(h.backed.sublist hsub).concat fun k _ ↦ ?_, h.honest.concat ?_, ?_⟩
    · simp [SingleUse.Touches, hstored, htaken]
    · simp [htaken]
    · exact hsub.length_le.trans h.length_le
  | issuing hsub hcapacity hnew hstored htaken =>
    refine ⟨(h.backed.sublist hsub).put hnew hstored htaken, h.honest.concat ?_, ?_⟩
    · simp [htaken]
    · simpa using Nat.succ_le_of_lt hcapacity
  | @accepting _ digest ticket hsub hmem hgone haccepts hstored htaken =>
    refine ⟨(h.backed.sublist hsub).concat fun k hk ↦ ?_, h.honest.concat fun k hk ↦ ?_, ?_⟩
    · have hne : digest ≠ k := fun heq ↦ hgone (heq ▸ hk)
      simp [SingleUse.Touches, hstored, htaken, hne]
    · obtain rfl : digest = k := Option.some.inj (htaken.symm.trans hk)
      exact ⟨ticket, h.backed.holds _ _ hmem, haccepts⟩
    · exact hsub.length_le.trans h.length_le

end SoundTickets

/-- **Every run is sound.** -/
theorem WebTicketAuthority.sound_run (authority : WebTicketAuthority)
    (calls : List (TicketCall T)) :
    SoundTickets later sha256 authority (authority.run later sha256 calls).1
      (authority.run later sha256 calls).2 := by
  induction calls using List.reverseRecOn with
  | nil => exact .nil
  | append_singleton calls call ih =>
    rw [run_concat]
    exact ih.concat (leaves_step _ call)

/-- The response of an issued ticket is well formed. -/
theorem WebTicketAuthority.response_issue {authority : WebTicketAuthority}
    {principal : ServicePrincipal} {reading : ClockReading T} {factory : Nat → Draw}
    {pending : PendingTickets T D} {ticket : IssuedWebTicket}
    (h : (authority.issue later sha256 principal reading factory pending).1 = .ok ticket) :
    ∃ response, ticket.response = some response ∧ response.ticket = ticket.value ∧
      response.expiresInSeconds = authority.ttlSeconds := by
  unfold issue at h
  split_ifs at h with hprincipal
  cases reading with
  | unusable => cases h
  | instant now =>
    simp only [ClockReading.now] at h
    split_ifs at h with hcapacity
    cases hdraw : drawTicket sha256 (prune now pending) ((List.range 4).map factory) with
    | error code => simp [hdraw] at h
    | ok value =>
      simp only [hdraw, Except.ok.injEq] at h
      subst h
      have hticket := (drawTicket_eq_ok sha256 hdraw).1
      have hlower := authority.one_le_ttl
      have hupper := authority.ttl_le
      refine ⟨⟨value, authority.ttlSeconds, hticket, by omega, by omega⟩, ?_, rfl, rfl⟩
      have hbounds : isTicket value = true ∧ (1 : Int) ≤ authority.ttlSeconds ∧
          (authority.ttlSeconds : Int) ≤ 60 := ⟨hticket, by omega, by omega⟩
      exact dif_pos hbounds

/-! ### Readings of the log -/

omit [LinearOrder T] [DecidableEq D] in
theorem taken_of_accepts {exchange : TicketExchange T} {value : String}
    {principal : ServicePrincipal} {now : T} (h : Accepts exchange value principal now) :
    taken sha256 exchange = some (sha256 value) ∧ stored later sha256 exchange = none := by
  subst h
  exact ⟨rfl, rfl⟩

variable {later sha256}

omit [LinearOrder T] [DecidableEq D] in
theorem stored_eq_some {exchange : TicketExchange T} {digest : D} {pending : PendingTicket T} :
    stored later sha256 exchange = some (digest, pending) ↔
      ∃ ticket, Issues later exchange ticket pending.principal pending.expiresAt ∧
        sha256 ticket.value = digest := by
  constructor
  · intro h
    unfold stored at h
    split at h
    · obtain ⟨rfl, rfl⟩ := Prod.mk.injEq .. ▸ Option.some.inj h
      exact ⟨_, ⟨_, _, rfl, rfl⟩, rfl⟩
    · cases h
  · obtain ⟨principal, expiresAt⟩ := pending
    rintro ⟨ticket, ⟨now, factory, rfl, rfl⟩, rfl⟩
    rfl

namespace WebTicketAuthority

variable (authority : WebTicketAuthority) (calls : List (TicketCall T))

/-- **An accepted ticket was issued.** It was issued to the principal that the acceptance returns,
expires later than the acceptance, and was neither issued again nor accepted in between. -/
theorem issued_of_accepts {pre post : List (TicketExchange T)} {exchange : TicketExchange T}
    {value : String} {principal : ServicePrincipal} {now : T}
    (hrun : (authority.run later sha256 calls).1 = pre ++ exchange :: post)
    (haccepts : Accepts exchange value principal now) :
    ∃ before issuance after ticket expiresAt, pre = before ++ issuance :: after ∧
      Issues later issuance ticket principal expiresAt ∧ sha256 ticket.value = sha256 value ∧
      now < expiresAt ∧
      ∀ between ∈ after, ∀ value' principal' now', Accepts between value' principal' now' →
        sha256 value' ≠ sha256 value := by
  obtain ⟨pending, ⟨before, issuance, after, rfl, hstored, huntouched⟩, value₀, now₀, heq, hbefore⟩ :=
    (authority.sound_run later sha256 calls).honest pre exchange post _ hrun
      (taken_of_accepts later sha256 haccepts).1
  obtain ⟨ticket, hissues, hdigest⟩ := stored_eq_some.mp hstored
  -- the exchange tells the value, the principal and the instant of the acceptance
  have hsame : (value₀ = value ∧ now₀ = now) ∧ pending.principal = principal := by
    simpa using heq.symm.trans haccepts
  obtain ⟨⟨rfl, rfl⟩, rfl⟩ := hsame
  refine ⟨before, issuance, after, ticket, pending.expiresAt, rfl, hissues, hdigest, hbefore, ?_⟩
  intro between hmem value' principal' now' haccepts' hsame
  refine huntouched between hmem (.inl ?_)
  rw [(taken_of_accepts later sha256 haccepts').1, hsame]

/-- **Single use.** Between two acceptances of a ticket it was issued again. -/
theorem reissued_of_accepts {pre mid post : List (TicketExchange T)}
    {first second : TicketExchange T} {value value' : String}
    {principal principal' : ServicePrincipal} {now now' : T}
    (hrun : (authority.run later sha256 calls).1 = pre ++ first :: mid ++ second :: post)
    (hfirst : Accepts first value principal now) (hsecond : Accepts second value' principal' now')
    (hsame : sha256 value' = sha256 value) :
    ∃ issuance ∈ mid, ∃ ticket principal₀ expiresAt,
      Issues later issuance ticket principal₀ expiresAt ∧ sha256 ticket.value = sha256 value := by
  obtain ⟨htaken, hstored⟩ := taken_of_accepts later sha256 hfirst
  have htaken' : taken sha256 second = some (sha256 value) := by
    rw [(taken_of_accepts later sha256 hsecond).1, hsame]
  obtain ⟨issuance, hmem, pending, hissuance⟩ :=
    (authority.sound_run later sha256 calls).honest.stored_between hrun htaken hstored htaken'
  obtain ⟨ticket, hissues, hdigest⟩ := stored_eq_some.mp hissuance
  exact ⟨issuance, hmem, ticket, _, _, hissues, hdigest⟩

end WebTicketAuthority

end Authority

/-! ### Connections -/

/-- `WebConnectionLimiter`. -/
structure WebConnectionLimiter where
  maximum : Nat
  one_le_maximum : 1 ≤ maximum
  maximum_le : maximum ≤ 256

/-- `WebConnectionLimiter.__init__`. -/
def WebConnectionLimiter.create (maxConnections : Int) :
    Except WebTicketFailureCode WebConnectionLimiter :=
  if h : 1 ≤ maxConnections ∧ maxConnections ≤ 256 then
    .ok ⟨maxConnections.toNat, by omega, by omega⟩
  else .error .invalidConfig

/-- A call of the limiter. -/
inductive ConnectionCall
  | acquire
  | release
  deriving DecidableEq

/-- What a call of the limiter returns or raises. -/
inductive ConnectionReply
  | acquired
  | refused
  | released
  | underflow
  deriving DecidableEq

namespace WebConnectionLimiter

variable (limiter : WebConnectionLimiter)

/-- `WebConnectionLimiter.acquire` and `WebConnectionLimiter.release`: the reply, and the number of
active connections after it. -/
def step (active : Nat) : ConnectionCall → ConnectionReply × Nat
  | .acquire => if limiter.maximum ≤ active then (.refused, active) else (.acquired, active + 1)
  | .release => if active < 1 then (.underflow, active) else (.released, active - 1)

/-- The replies of a new limiter, and the number of active connections. -/
def run (calls : List ConnectionCall) : List ConnectionReply × Nat :=
  calls.foldl (fun s call ↦
    let (reply, active) := limiter.step s.2 call
    (s.1 ++ [reply], active)) ([], 0)

theorem run_concat (calls : List ConnectionCall) (call : ConnectionCall) :
    limiter.run (calls ++ [call]) =
      ((limiter.run calls).1 ++ [(limiter.step (limiter.run calls).2 call).1],
        (limiter.step (limiter.run calls).2 call).2) := by
  simp [run, List.foldl_append]

/-- One call: the active connections change with the reply, and stay within the maximum. -/
theorem step_spec {active : Nat} (call : ConnectionCall) (h : active ≤ limiter.maximum) :
    (limiter.step active call).2 + [(limiter.step active call).1].count .released =
        active + [(limiter.step active call).1].count .acquired ∧
      (limiter.step active call).2 ≤ limiter.maximum := by
  cases call with
  | acquire =>
    simp only [step]
    split_ifs with hfull
    · exact ⟨rfl, h⟩
    · exact ⟨rfl, Nat.succ_le_of_lt (not_le.mp hfull)⟩
  | release =>
    simp only [step]
    split_ifs with hnone
    · exact ⟨rfl, h⟩
    · exact ⟨Nat.sub_add_cancel (not_lt.mp hnone), (Nat.sub_le _ _).trans h⟩

/-- **The open connections.** They are those acquired and not released, at most the maximum. -/
theorem active_run (calls : List ConnectionCall) :
    (limiter.run calls).2 + (limiter.run calls).1.count .released =
        (limiter.run calls).1.count .acquired ∧
      (limiter.run calls).2 ≤ limiter.maximum := by
  induction calls using List.reverseRecOn with
  | nil => exact ⟨rfl, Nat.zero_le _⟩
  | append_singleton calls call ih =>
    obtain ⟨hcount, hle⟩ := ih
    obtain ⟨hstep, hmax⟩ := limiter.step_spec call hle
    rw [run_concat, List.count_append, List.count_append]
    exact ⟨by omega, hmax⟩

end WebConnectionLimiter

/-- **Tickets are used once, and tickets and connections are bounded.** In every run of a ticket
authority, whatever the clock and the token factory answer, an accepted ticket was issued to the
principal that the acceptance returns, expires later, and was not accepted since it was issued;
between two acceptances of a ticket it was issued again; and no more tickets are pending than the
maximum. Tickets are identified by their digests, as the authority does. In every run of a limiter,
the active connections are those acquired and not released, at most the maximum. -/
theorem tickets_single_use_and_bounded {T D : Type*} [LinearOrder T] [DecidableEq D]
    (later : T → Nat → T) (sha256 : String → D) (authority : WebTicketAuthority)
    (limiter : WebConnectionLimiter) (calls : List (TicketCall T))
    (connections : List ConnectionCall) :
    (∀ pre exchange post value principal now,
        (authority.run later sha256 calls).1 = pre ++ exchange :: post →
        Accepts exchange value principal now →
        ∃ before issuance after ticket expiresAt, pre = before ++ issuance :: after ∧
          Issues later issuance ticket principal expiresAt ∧ sha256 ticket.value = sha256 value ∧
          now < expiresAt ∧
          ∀ between ∈ after, ∀ value' principal' now', Accepts between value' principal' now' →
            sha256 value' ≠ sha256 value) ∧
      (∀ pre first mid second post value value' principal principal' now now',
        (authority.run later sha256 calls).1 = pre ++ first :: mid ++ second :: post →
        Accepts first value principal now → Accepts second value' principal' now' →
        sha256 value' = sha256 value →
        ∃ issuance ∈ mid, ∃ ticket principal₀ expiresAt,
          Issues later issuance ticket principal₀ expiresAt ∧
            sha256 ticket.value = sha256 value) ∧
      (authority.run later sha256 calls).2.length ≤ authority.maxPending ∧
      (limiter.run connections).2 + (limiter.run connections).1.count .released =
        (limiter.run connections).1.count .acquired ∧
      (limiter.run connections).2 ≤ limiter.maximum :=
  ⟨fun _ _ _ _ _ _ hrun haccepts ↦ authority.issued_of_accepts calls hrun haccepts,
    fun _ _ _ _ _ _ _ _ _ _ _ hrun hfirst hsecond hsame ↦
      authority.reissued_of_accepts calls hrun hfirst hsecond hsame,
    (authority.sound_run later sha256 calls).length_le, limiter.active_run connections⟩

end Blackcell.Interfaces
