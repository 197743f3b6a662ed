import Blackcell.Kernel.Json
import Blackcell.Kernel.Text

/-!
# The event envelope

The occurrence record of `kernel/events.py`, and the parts of Python's standard library that the
event contracts rest on: SHA-256 over canonical JSON, base-16 integers, ISO timestamps, and the
character classes of texts. The library is a structure, so that each result holds for every
implementation that keeps the documented laws; a timestamp is the instant in microseconds.

## Main definitions

* `Host` : the standard library as the runtime uses it.
* `Host.jsonDigest` : `json_digest`.
* `EventEnvelope` : one recorded occurrence.
-/

namespace Blackcell.Kernel

/-- An instant, in microseconds. -/
abbrev Timestamp := Int

/-- A parsed `datetime`: its instant, and whether it carries a UTC offset. -/
structure Datetime where
  instant : Timestamp
  aware : Bool
  deriving DecidableEq

/-- The standard library as the runtime uses it, with the laws that its documentation states. -/
structure Host where
  /-- `hashlib.sha256(...).hexdigest()` of the canonical text of a value with sorted keys. -/
  hexdigest : JsonValue → String
  hexdigest_isHex : ∀ v, isHex 64 (hexdigest v) = true
  /-- `int(text, 16)` succeeds. -/
  parsesBase16 : String → Bool
  parsesBase16_of_isHex : ∀ n s, 0 < n → isHex n s = true → parsesBase16 s = true
  /-- `datetime.fromisoformat`, `none` when it raises `ValueError`. -/
  fromisoformat : String → Option Datetime
  /-- `datetime.isoformat` of an instant in UTC. -/
  isoformat : Timestamp → String
  /-- `str.casefold`. -/
  casefold : String → String
  /-- The characters that match `\w` in a regular expression. -/
  isWord : Char → Bool
  /-- The characters that match `\d` in a regular expression. -/
  isDecimal : Char → Bool

namespace Host

variable (H : Host)

/-- `json_digest`: the digest of the canonical text of a value. -/
def jsonDigest (v : JsonValue) : String := digestPrefix ++ H.hexdigest v.canonical

theorem isHexDigest_jsonDigest (v : JsonValue) : isHexDigest (H.jsonDigest v) = true :=
  isHexDigest_append (H.hexdigest_isHex _)

theorem length_jsonDigest (v : JsonValue) : (H.jsonDigest v).length = 71 :=
  length_digestPrefix_append (H.hexdigest_isHex _)

theorem hasDigestPrefix_jsonDigest (v : JsonValue) : hasDigestPrefix (H.jsonDigest v) = true :=
  hasDigestPrefix_append _

theorem isHex_zeros : isHex 64 (String.ofList (List.replicate 64 '0')) = true := by decide

/-- A hexadecimal text is read in base 16, with capital letters or without. -/
theorem all_of_isHex (n : Nat) (s : String) (hn : 0 < n) (hs : isHex n s = true) :
    (s ≠ "" && (chars s).all fun c ↦ isHexChar c || ('A' ≤ c && c ≤ 'F')) = true := by
  rw [isHex_iff] at hs
  have hne : s ≠ "" := by
    rintro rfl
    simp at hs
    omega
  simp only [hne, ne_eq, not_false_eq_true, decide_true, Bool.true_and, chars_eq, List.all_eq_true,
    Bool.or_eq_true]
  exact fun c hc ↦ .inl (hs.2 c hc)

/-- A host given by finite tables of digests and timestamps: outside of the tables every digest is
the same, and no text is a timestamp. Its texts are those of ASCII. -/
def ofTables (digests : List (JsonValue × { s : String // isHex 64 s = true }))
    (instants : List (String × Datetime)) (texts : List (Timestamp × String)) : Host where
  hexdigest v := ((digests.lookup v).getD ⟨_, isHex_zeros⟩).1
  hexdigest_isHex v := ((digests.lookup v).getD _).2
  parsesBase16 s := s ≠ "" && (chars s).all fun c ↦ isHexChar c || ('A' ≤ c && c ≤ 'F')
  parsesBase16_of_isHex := all_of_isHex
  fromisoformat s := instants.lookup s
  isoformat t := (texts.lookup t).getD ""
  casefold s := s.map Char.toLower
  isWord c := c.isAlphanum || c = '_'
  isDecimal := Char.isDigit

end Host

/-- One recorded occurrence of the event ledger. `payload_hash` is not a field: the constructor
of the source refuses an envelope in which it is not `json_digest(payload)`. -/
structure EventEnvelope where
  eventId : String
  streamId : String
  streamSequence : Int
  eventType : String
  schemaVersion : Int
  recordedAt : Timestamp
  effectiveAt : Timestamp
  correlationId : String
  causationId : Option String
  actor : String
  source : String
  payload : Mapping
  idempotencyKey : Option String
  globalPosition : Option Int
  deriving DecidableEq

namespace EventEnvelope

variable (H : Host) (e : EventEnvelope)

/-- What `__post_init__` checks of the fields of an envelope, besides its payload. -/
structure IsConstructed : Prop where
  texts : ∀ s ∈ [e.eventId, e.streamId, e.eventType, e.correlationId, e.actor, e.source],
    isBlank s = false
  causationId : ∀ s ∈ e.causationId, isBlank s = false
  idempotencyKey : ∀ s ∈ e.idempotencyKey, isBlank s = false
  streamSequence : 1 ≤ e.streamSequence
  schemaVersion : 1 ≤ e.schemaVersion
  globalPosition : ∀ p ∈ e.globalPosition, 1 ≤ p

instance : Decidable e.IsConstructed :=
  decidable_of_iff
    ((∀ s ∈ [e.eventId, e.streamId, e.eventType, e.correlationId, e.actor, e.source],
        isBlank s = false) ∧ (∀ s ∈ e.causationId, isBlank s = false) ∧
      (∀ s ∈ e.idempotencyKey, isBlank s = false) ∧ 1 ≤ e.streamSequence ∧ 1 ≤ e.schemaVersion ∧
        ∀ p ∈ e.globalPosition, 1 ≤ p)
    ⟨fun ⟨h₁, h₂, h₃, h₄, h₅, h₆⟩ ↦ ⟨h₁, h₂, h₃, h₄, h₅, h₆⟩,
      fun ⟨h₁, h₂, h₃, h₄, h₅, h₆⟩ ↦ ⟨h₁, h₂, h₃, h₄, h₅, h₆⟩⟩

theorem IsConstructed.eventId_ne_empty {e : EventEnvelope} (h : e.IsConstructed) :
    e.eventId ≠ "" := by
  intro hempty
  have hblank := h.texts e.eventId List.mem_cons_self
  rw [hempty] at hblank
  exact absurd hblank (by decide)

/-- `payload_hash`. -/
def payloadHash : String := H.jsonDigest (.object e.payload)

/-- `idempotency_hash`: the semantic content of the event, without its ledger metadata. -/
def idempotencyHash : String :=
  H.jsonDigest (.object [
    ("actor", .str e.actor),
    ("causation_id", .ofText? e.causationId),
    ("correlation_id", .str e.correlationId),
    ("effective_at", .str (H.isoformat e.effectiveAt)),
    ("event_type", .str e.eventType),
    ("payload_hash", .str (e.payloadHash H)),
    ("schema_version", .int e.schemaVersion),
    ("source", .str e.source),
    ("stream_id", .str e.streamId)])

end EventEnvelope

end Blackcell.Kernel
