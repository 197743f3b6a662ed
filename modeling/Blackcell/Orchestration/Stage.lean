import Blackcell.Foundation.Checked
import Blackcell.Kernel.Event
import Blackcell.Orchestration.RunLifecycle.State

/-!
# Stages after a run

What the lifecycles of review and verification share. Both are folds of a stream of their own, whose
events are all of the stage and follow each other without a gap, and both read the payloads of their
events with the same readers. The error that a reader raises is that of the stage.

## Main definitions

* `identifier`, `digest`, `failure`, `positiveInteger`, `nonnegativeInteger` : the readers.
* `checkOrder`, `checkChain` : the events are those of one stream, and each is caused by the one
  before it.

## Main results

* `checkOrder_append`, `checkChain_append` : what is checked of a stream holds of its prefixes.
-/

namespace Blackcell.Orchestration.Stage

open Blackcell.Kernel

/-- A text that `_identifier` accepts. -/
def isStageIdentifier (s : String) : Bool := isIdentifier ['.', '_', '-'] s

/-- A text that `_failure` accepts. -/
def isFailureCode (s : String) : Bool :=
  match chars s with
  | [] => false
  | c :: cs => (c.isDigit || c.isLower) && cs.length ≤ 127 &&
      cs.all fun d ↦ d.isDigit || d.isLower || d = '-'

/-- `_MAX_FINDINGS`. -/
def maxFindings : Nat := 64

/-! ### Readers -/

section Readers

variable {ε : Type} (error : ε)

/-- `_text`. -/
def text (v : JsonValue) : Except ε String := do
  let s ← Checked.ofOption v.text? error
  Checked.require (s ≠ "") error
  pure s

/-- `_identifier`. -/
def identifier (v : JsonValue) : Except ε String := do
  let s ← text error v
  Checked.require (isStageIdentifier s) error
  pure s

/-- `_digest`. -/
def digest (v : JsonValue) : Except ε String := do
  let s ← text error v
  Checked.require (isHexDigest s) error
  pure s

/-- `None if value is None else _digest(value)`. -/
def optionalDigest (v : JsonValue) : Except ε (Option String) :=
  if v = .null then pure none else some <$> digest error v

/-- `_failure`. -/
def failure (v : JsonValue) : Except ε String := do
  let s ← text error v
  Checked.require (isFailureCode s) error
  pure s

/-- `_positive_integer`. -/
def positiveInteger (v : JsonValue) : Except ε Nat := do
  let n ← Checked.ofOption v.int? error
  Checked.require (1 ≤ n) error
  pure n.toNat

/-- `_nonnegative_integer`, of at most `_MAX_FINDINGS`. -/
def findingCount (v : JsonValue) : Except ε Nat := do
  let n ← Checked.ofOption v.int? error
  Checked.require (0 ≤ n ∧ n ≤ maxFindings) error
  pure n.toNat

/-- `_mapping`. -/
def mapping (v : JsonValue) : Except ε Mapping := Checked.ofOption v.fields? error

/-- `_exact`. -/
def exact (m : Mapping) (keys : List String) : Except ε PUnit := Checked.require (m.exact keys) error

/-- An aware instant: `datetime.fromisoformat(_text(value))`, whose offset the constructors demand. -/
def instant (H : Host) (v : JsonValue) : Except ε Timestamp := do
  let s ← text error v
  let parsed ← Checked.ofOption (H.fromisoformat s) error
  Checked.require (parsed.aware) error
  pure parsed.instant

/-- `_principal`. -/
def principal (e : EventEnvelope) : Except ε String := do
  let s ← identifier error (e.payload.get "principal_id")
  Checked.require (s = e.actor) error
  pure s

end Readers

/-! ### Streams -/

section Streams

variable {ε : Type} (error : ε)

/-- The events are those of a stream, numbered from `sequence` on, and of the given types. -/
def checkOrder (streamId : String) (types : List String) :
    Int → List EventEnvelope → Except ε PUnit
  | _, [] => pure ⟨⟩
  | sequence, e :: es => do
    Checked.require (e.streamId = streamId ∧ e.streamSequence = sequence ∧ e.schemaVersion = 1 ∧
      e.source = RunLifecycle.runtimeEventSource ∧ e.eventType ∈ types) error
    checkOrder streamId types (sequence + 1) es

/-- The events are of one correlation, and each is caused by the one before it. -/
def checkChain : List EventEnvelope → Except ε PUnit
  | previous :: e :: es => do
    Checked.require (e.correlationId = previous.correlationId ∧
      e.causationId = some previous.eventId) error
    checkChain (e :: es)
  | _ => pure ⟨⟩

variable {error} {streamId : String} {types : List String} {p q : List EventEnvelope}

/-- What is checked of the order of a stream holds of its prefixes. -/
theorem checkOrder_append {sequence : Int}
    (h : checkOrder error streamId types sequence (p ++ q) = .ok ⟨⟩) :
    checkOrder error streamId types sequence p = .ok ⟨⟩ := by
  induction p generalizing sequence with
  | nil => rfl
  | cons e p ih =>
    simp only [List.cons_append, checkOrder, Checked.bind_eq_ok, Checked.require_eq_ok,
      Checked.exists_unit] at h ⊢
    exact ⟨h.1, ih h.2⟩

/-- What is checked of the chain of a stream holds of its prefixes. -/
theorem checkChain_append (h : checkChain error (p ++ q) = .ok ⟨⟩) :
    checkChain error p = .ok ⟨⟩ := by
  induction p with
  | nil => rfl
  | cons e p ih =>
    cases p with
    | nil => rfl
    | cons e' p =>
      simp only [List.cons_append, checkChain, Checked.bind_eq_ok, Checked.require_eq_ok,
        Checked.exists_unit] at h ih ⊢
      exact ⟨h.1, ih h.2⟩

/-- The events of a stream are of the types of the stage. -/
theorem eventType_mem {sequence : Int} (h : checkOrder error streamId types sequence p = .ok ⟨⟩) :
    ∀ e ∈ p, e.streamId = streamId ∧ e.eventType ∈ types := by
  induction p generalizing sequence with
  | nil => simp
  | cons e p ih =>
    simp only [checkOrder, Checked.bind_eq_ok, Checked.require_eq_ok, Checked.exists_unit] at h
    exact List.forall_mem_cons.mpr ⟨⟨h.1.1, h.1.2.2.2.2⟩, ih h.2⟩

end Streams

/-! ### What was read -/

section Read

variable {ε : Type} {error : ε}

@[simp] theorem text_eq_ok {v : JsonValue} {s : String} :
    text error v = .ok s ↔ v = .str s ∧ s ≠ "" := by
  simp only [text, Checked.bind_eq_ok, Checked.ofOption_eq_ok, JsonValue.text?_eq_some,
    Checked.require_eq_ok, Checked.exists_unit, Checked.pure_eq_ok]
  constructor
  · rintro ⟨_, rfl, hne, rfl⟩
    exact ⟨rfl, hne⟩
  · rintro ⟨rfl, hne⟩
    exact ⟨s, rfl, hne, rfl⟩

theorem identifier_eq_ok {v : JsonValue} {s : String} (h : identifier error v = .ok s) :
    v = .str s ∧ isStageIdentifier s := by
  simp only [identifier, Checked.bind_eq_ok, text_eq_ok, Checked.require_eq_ok, Checked.exists_unit,
    Checked.pure_eq_ok] at h
  obtain ⟨_, ⟨rfl, -⟩, hid, rfl⟩ := h
  exact ⟨rfl, hid⟩

/-- A digest is read as it is. -/
theorem digest_of_isHexDigest {s : String} (h : isHexDigest s = true) :
    digest error (.str s) = .ok s := by
  have hne : s ≠ "" := by
    rintro rfl
    exact absurd h (by decide)
  simp [digest, h, hne]

theorem principal_eq_ok {e : EventEnvelope} {s : String} (h : principal error e = .ok s) :
    e.payload.get "principal_id" = .str s ∧ s = e.actor := by
  simp only [principal, Checked.bind_eq_ok, Checked.require_eq_ok, Checked.exists_unit,
    Checked.pure_eq_ok] at h
  obtain ⟨_, hid, hactor, rfl⟩ := h
  exact ⟨(identifier_eq_ok hid).1, hactor⟩

end Read

end Blackcell.Orchestration.Stage
