import Blackcell.Bootstrap.EventFeed

/-!
# Requests and their events

The requests that the runtime service admits, and how `bootstrap/runtime_service.py` reads them back
from the events that recorded them: the payload of such an event, the one event of an admission stream,
the decoded request of an event, and the references of an event to others. The conversion between a
request and its JSON value is that of `msgspec`, which is given by a pair of functions.

## Main definitions

* `ProjectRequest`, `IntentRequest`, `RunRequest` : the requests, besides the plan.
* `Codec`, `Contracts` : the conversions.
* `requestEventPayload` : the payload of an admission event.
* `requiredEvent`, `decodeRequest`, `requireReference` : the readers.
* `requireIdempotent`, `requireRunIdempotent` : the comparison with an earlier admission.
-/

namespace Blackcell.Bootstrap

open Blackcell.Kernel
open Blackcell.Interfaces.Http hiding check check_eq_ok
open Blackcell.Orchestration Blackcell.Orchestration.RunLifecycle

/-- `ProjectRequest`. -/
structure ProjectRequest where
  projectId : String
  root : String
  configurationDigest : String
  idempotencyKey : String
  deriving DecidableEq

/-- `IntentRequest`. -/
structure IntentRequest where
  intentId : String
  projectId : String
  objective : String
  constraints : List String
  assumptions : List String
  unresolvedQuestions : List String
  idempotencyKey : String
  deriving DecidableEq

/-- `RunRequest`. -/
structure RunRequest where
  runId : String
  projectId : String
  intentId : String
  planId : String
  idempotencyKey : String
  deriving DecidableEq

/-- The conversions of `msgspec` for a type of requests. -/
structure Codec (α : Type) where
  /-- `msgspec.to_builtins`. -/
  toBuiltins : α → Mapping
  /-- `msgspec.convert(raw, type=..., strict=True)`, `none` when it raises. -/
  convert : Mapping → Option α

/-- The conversions of the requests. -/
structure Contracts where
  project : Codec ProjectRequest
  intent : Codec IntentRequest
  plan : Codec PlanRequest
  run : Codec RunRequest

/-- `_project_stream`. -/
def projectStream (projectId : String) : String := "project:" ++ projectId

/-- `_intent_stream`. -/
def intentStream (intentId : String) : String := "intent:" ++ intentId

/-- `_plan_stream`. -/
def planStream (planId : String) : String := "plan:" ++ planId

/-- `_run_stream`. -/
def runStream (runId : String) : String := "run:" ++ runId

/-- `_principal`: the text of a principal. -/
def isPrincipal (s : String) : Bool :=
  s ≠ "" && s.length ≤ 200 && (chars s).all fun c ↦ 0x21 ≤ c.toNat && c.toNat ≤ 0x7e

/-! ### Events -/

variable (H : Host)

/-- `_request_event_payload`. -/
def requestEventPayload (request : Mapping) (principalId : String) (references extra : Option Mapping) :
    Mapping :=
  [("request", .object request), ("request_digest", .str (H.jsonDigest (.object request))),
    ("principal_id", .str principalId)] ++
    (match references with
      | some references => [("references", .object references)]
      | none => []) ++
    extra.getD []

/-- The checks that every admission event passes: its kind, version, place and source. -/
def IsAdmissionEvent (eventType : String) (e : EventEnvelope) : Prop :=
  e.eventType = eventType ∧ e.schemaVersion = 1 ∧ e.streamSequence = 1 ∧ e.source = runtimeEventSource

instance (eventType : String) (e : EventEnvelope) : Decidable (IsAdmissionEvent eventType e) :=
  inferInstanceAs (Decidable (_ ∧ _))

/-- `_required_event`, of the first two events of a stream. -/
def requiredEvent (eventType : String) : List EventEnvelope → Except RuntimeApiFailureCode EventEnvelope
  | [] => .error .notFound
  | [e] => if IsAdmissionEvent eventType e then .ok e else .error .conflict
  | _ :: _ :: _ => .error .conflict

/-- `_request_value`. -/
def requestValue (e : EventEnvelope) : Except RuntimeApiFailureCode Mapping :=
  Checked.ofOption (e.payload.get "request").fields? .conflict

/-- `_decode_request`. -/
def decodeRequest {α : Type} (codec : Codec α) (e : EventEnvelope) :
    Except RuntimeApiFailureCode α := do
  let raw ← requestValue e
  let request ← Checked.ofOption (codec.convert raw) .conflict
  Checked.require (e.payload.get "request_digest" = .str (H.jsonDigest (.object raw)))
    RuntimeApiFailureCode.conflict
  return request

/-- `_event_principal`. -/
def eventPrincipal (e : EventEnvelope) : Except RuntimeApiFailureCode String :=
  if e.payload.get "principal_id" = .str e.actor then .ok e.actor else .error .conflict

/-- `_event_reference`. -/
def eventReference (e : EventEnvelope) : JsonValue :=
  .object [("event_id", .str e.eventId), ("event_digest", .str (e.payloadHash H))]

/-- `_require_reference`. -/
def requireReference (owner : EventEnvelope) (name : String) (expected : EventEnvelope) :
    Except RuntimeApiFailureCode PUnit := do
  let references ← Checked.ofOption (owner.payload.get "references").fields? .conflict
  let reference ← Checked.ofOption (references.get name).fields? .conflict
  Checked.require (reference.get "event_id" = .str expected.eventId ∧
    reference.get "event_digest" = .str (expected.payloadHash H)) RuntimeApiFailureCode.conflict

/-- `_require_idempotent`, of the first two events of a stream. -/
def requireIdempotent (eventType : String) (payload : Mapping) :
    List EventEnvelope → Except RuntimeApiFailureCode EventEnvelope
  | [existing] =>
    if IsAdmissionEvent eventType existing ∧ existing.payloadHash H = H.jsonDigest (.object payload)
    then .ok existing
    else .error .conflict
  | _ => .error .conflict

/-- `_require_run_idempotent`, of the events of a stream. -/
def requireRunIdempotent (payload : Mapping) :
    List EventEnvelope → Except RuntimeApiFailureCode EventEnvelope
  | existing :: _ =>
    if IsAdmissionEvent (StrEnum.value RunEventType.runQueued) existing ∧
      existing.payloadHash H = H.jsonDigest (.object payload)
    then .ok existing
    else .error .conflict
  | [] => .error .conflict

end Blackcell.Bootstrap
