import Blackcell.Orchestration.RunLifecycle.Transition

/-!
# Accepted run histories

Properties of an accepted stream are stated about its events alone: which claims precede an event,
and which claim is still open when it is recorded. This file defines these notions without the
fold, and carries an invariant of the transitions to every point of an accepted stream.

## Main definitions

* `claims`, `claimsOf` : the claims of a stream, and those of one node.
* `SinceClaim` : the last claim of a stream that no event has closed, with the events after it.

## Main results

* `SinceClaim.unique` : at most one claim is open.
* `history_at`, `history_end` : an invariant of the transitions holds before each public event of
  an accepted stream, and at its end.
* `observed_end` : the same at the end, for an invariant of the accepted events.
* `event_of_foldRunLifecycle` : the events of an accepted stream are of the run, and of known types.
-/

namespace Blackcell.Orchestration.RunLifecycle

open Blackcell.Kernel

/-- The claims of a stream. -/
def claims (es : List EventEnvelope) : List EventEnvelope :=
  es.filter fun e ↦ runEventType? e = some .nodeClaimed

/-- The claims of one node. -/
def claimsOf (nodeId : String) (es : List EventEnvelope) : List EventEnvelope :=
  (claims es).filter fun e ↦ e.payload.get "node_id" = .str nodeId

/-- The event opens a lease or closes one. -/
def movesLease (e : EventEnvelope) : Prop :=
  ∃ kind, runEventType? e = some kind ∧ (kind = .nodeClaimed ∨ kind.releases = true)

/-- The claim `c` is open at the end of the stream, and `between` are the events after it: no claim
and no closing event is among them. -/
def SinceClaim (es : List EventEnvelope) (c : EventEnvelope) (between : List EventEnvelope) :
    Prop :=
  ∃ before, es = before ++ c :: between ∧ runEventType? c = some .nodeClaimed ∧
    ∀ e ∈ between, ¬movesLease e

/-- No event of the stream changes the fold: it is the prefix up to `run.queued`. -/
def Quiet (es : List EventEnvelope) : Prop :=
  ∀ e ∈ es, runEventType? e = none ∨ runEventType? e = some .runQueued

/-! ### The open claim -/

section

variable {es between : List EventEnvelope} {c e : EventEnvelope}

theorem sinceClaim_append_claim (h : runEventType? e = some .nodeClaimed) :
    SinceClaim (es ++ [e]) e [] :=
  ⟨es, rfl, h, by simp⟩

theorem SinceClaim.append (h : SinceClaim es c between) (he : ¬movesLease e) :
    SinceClaim (es ++ [e]) c (between ++ [e]) := by
  obtain ⟨before, rfl, hc, hbetween⟩ := h
  refine ⟨before, by simp, hc, fun e' he' ↦ ?_⟩
  rcases List.mem_append.mp he' with hold | hnew
  · exact hbetween e' hold
  · rwa [List.mem_singleton.mp hnew]

/-- The open claim after one more event: that event, or the claim that was open before it. -/
theorem SinceClaim.of_append (h : SinceClaim (es ++ [e]) c between) :
    (runEventType? e = some .nodeClaimed ∧ c = e ∧ between = []) ∨
      ¬movesLease e ∧ ∃ between', between = between' ++ [e] ∧ SinceClaim es c between' := by
  obtain ⟨before, hsplit, hc, hbetween⟩ := h
  rcases List.eq_nil_or_concat between with rfl | ⟨between', last, rfl⟩
  · obtain ⟨-, hlast⟩ := List.append_inj' hsplit rfl
    obtain rfl : e = c := by simpa using hlast
    exact .inl ⟨hc, rfl, rfl⟩
  · rw [List.concat_eq_append] at *
    rw [show before ++ c :: (between' ++ [last]) = (before ++ c :: between') ++ [last] by simp]
      at hsplit
    obtain ⟨hes, hlast⟩ := List.append_inj' hsplit rfl
    obtain rfl : e = last := by simpa using hlast
    refine .inr ⟨hbetween e (by simp), between', rfl, before, hes, hc, fun e' he' ↦ ?_⟩
    exact hbetween e' (by simp [he'])

/-- A claim opens a lease, so it does not leave an earlier one open. -/
theorem movesLease_of_claim (h : runEventType? e = some .nodeClaimed) : movesLease e :=
  ⟨_, h, .inl rfl⟩

theorem not_movesLease {kind : RunEventType} (h : runEventType? e = some kind)
    (hclaim : kind ≠ .nodeClaimed) (hrelease : kind.releases = false) : ¬movesLease e := by
  rintro ⟨kind', hkind', hmoves⟩
  obtain rfl : kind = kind' := by simpa [h] using hkind'
  rcases hmoves with hmoves | hmoves
  · exact hclaim hmoves
  · simp [hrelease] at hmoves

theorem not_movesLease_of_none (h : runEventType? e = none) : ¬movesLease e := by
  rintro ⟨kind, hkind, -⟩
  simp [h] at hkind

/-- A closing event leaves no claim open. -/
theorem not_sinceClaim_of_releases {kind : RunEventType} (h : runEventType? e = some kind)
    (hrelease : kind.releases = true) : ¬SinceClaim (es ++ [e]) c between := by
  intro hopen
  rcases hopen.of_append with ⟨hclaim, -, -⟩ | ⟨hstill, -⟩
  · obtain rfl : kind = .nodeClaimed := by simpa [h] using hclaim
    exact absurd hrelease (by decide)
  · exact hstill ⟨kind, h, .inr hrelease⟩

/-- **Uniqueness.** At most one claim is open. -/
theorem SinceClaim.unique {c' : EventEnvelope} {between' : List EventEnvelope}
    (h : SinceClaim es c between) (h' : SinceClaim es c' between') :
    c = c' ∧ between = between' := by
  induction es using List.reverseRecOn generalizing between between' with
  | nil =>
    obtain ⟨before, hnil, -⟩ := h
    simp at hnil
  | append_singleton es e ih =>
    rcases h.of_append with ⟨hclaim, rfl, rfl⟩ | ⟨hstill, between₁, rfl, hopen⟩
    · rcases h'.of_append with ⟨-, rfl, rfl⟩ | ⟨hstill, -⟩
      · exact ⟨rfl, rfl⟩
      · exact absurd (movesLease_of_claim hclaim) hstill
    · rcases h'.of_append with ⟨hclaim, -, -⟩ | ⟨-, between₂, rfl, hopen'⟩
      · exact absurd (movesLease_of_claim hclaim) hstill
      · obtain ⟨rfl, rfl⟩ := ih hopen hopen'
        exact ⟨rfl, rfl⟩

theorem not_sinceClaim_of_quiet (h : Quiet es) : ¬SinceClaim es c between := by
  rintro ⟨before, rfl, hc, -⟩
  rcases h c (by simp) with hnone | hqueued
  · simp [hc] at hnone
  · simp [hc] at hqueued

end

/-! ### The claims of a stream -/

section

variable {es : List EventEnvelope} {e : EventEnvelope}

theorem claims_append_claim (h : runEventType? e = some .nodeClaimed) :
    claims (es ++ [e]) = claims es ++ [e] := by
  simp [claims, h]

theorem claims_append_of_ne (h : runEventType? e ≠ some .nodeClaimed) :
    claims (es ++ [e]) = claims es := by
  simp [claims, h]

theorem claimsOf_append_claim {nodeId : String} (h : runEventType? e = some .nodeClaimed)
    (hnode : e.payload.get "node_id" = .str nodeId) (k : String) :
    (claimsOf k (es ++ [e])).length =
      (claimsOf k es).length + if k = nodeId then 1 else 0 := by
  by_cases hk : k = nodeId
  · simp [claimsOf, claims_append_claim h, hnode, hk]
  · simp [claimsOf, claims_append_claim h, hnode, hk, Ne.symm hk]

theorem claims_of_quiet (h : Quiet es) : claims es = [] := by
  simp only [claims, List.filter_eq_nil_iff, decide_eq_true_eq]
  intro e he hclaim
  rcases h e he with hnone | hqueued
  · simp [hclaim] at hnone
  · simp [hclaim] at hqueued

end

/-! ### Invariants of accepted streams -/

/-- The folded state of a run is read off the accumulated state. -/
structure Folds (deps : NodeDependencies) (s : FoldState) (state : RunLifecycleState) : Prop where
  status : state.status = s.status
  cancellation : state.cancellationRequested = s.cancellationRequested
  lease : state.activeLease = s.active
  nodes : state.nodes = deps.known.map s.nodes

section

variable {H : Host} {runId : String} {deps : NodeDependencies} {events : List EventEnvelope}
  {state : RunLifecycleState}

theorem checkStream_append {sequence : Int} {p q : List EventEnvelope}
    (h : checkStream runId sequence (p ++ q) = .ok ⟨⟩) : checkStream runId sequence p = .ok ⟨⟩ := by
  induction p generalizing sequence with
  | nil => rfl
  | cons e p ih =>
    simp only [List.cons_append, checkStream, Checked.bind_eq_ok, check_eq_ok,
      Checked.exists_unit] at h ⊢
    exact ⟨h.1, ih h.2⟩

/-- Every event of an accepted stream is one of the run, and of a known type. -/
theorem event_of_checkStream {sequence : Int} {es : List EventEnvelope}
    (h : checkStream runId sequence es = .ok ⟨⟩) :
    ∀ e ∈ es, e.streamId = "run:" ++ runId ∧ isKnown e = true := by
  induction es generalizing sequence with
  | nil => simp
  | cons e es ih =>
    simp only [checkStream, Checked.bind_eq_ok, check_eq_ok, Checked.exists_unit] at h
    exact List.forall_mem_cons.mpr ⟨⟨h.1.1, h.1.2.2.2⟩, ih h.2⟩

theorem event_of_foldRunLifecycle (h : foldRunLifecycle H runId deps events = .ok state) :
    ∀ e ∈ events, e.streamId = "run:" ++ runId ∧ isKnown e = true := by
  simp only [foldRunLifecycle, Checked.bind_eq_ok, check_eq_ok, Checked.exists_unit] at h
  obtain ⟨-, _, -, -, hstream, -⟩ := h
  exact event_of_checkStream hstream

theorem checkCausation_append {p q : List EventEnvelope}
    (h : checkCausation (p ++ q) = .ok ⟨⟩) : checkCausation p = .ok ⟨⟩ := by
  induction p with
  | nil => rfl
  | cons e p ih =>
    cases p with
    | nil => rfl
    | cons e' p =>
      simp only [List.cons_append, checkCausation, Checked.bind_eq_ok, check_eq_ok,
        Checked.exists_unit] at h ih ⊢
      exact ⟨h.1, ih h.2⟩

/-- **Prefixes.** An accepted stream folds to the state that its rest is read from, and if this
state can end a stream then the prefix is accepted. -/
theorem foldRunLifecycle_append {p q : List EventEnvelope}
    (h : foldRunLifecycle H runId deps (p ++ q) = .ok state) (hpublic : p.filter isPublic ≠ []) :
    ∃ queued rest s₁ s, p.filter isPublic = queued :: rest ∧
      runEventType? queued = some .runQueued ∧
      History.run (foldEvent H runId deps) .initial rest = .ok s₁ ∧
      History.run (observe H runId deps) s₁ q = .ok s ∧ acceptsEnd deps s ∧ Folds deps s state ∧
      (acceptsEnd deps s₁ →
        ∃ state₁, foldRunLifecycle H runId deps p = .ok state₁ ∧ Folds deps s₁ state₁) := by
  obtain ⟨queued, rest, hfilter⟩ := List.exists_cons_of_ne_nil hpublic
  have hne : p ≠ [] := by
    rintro rfl
    simp at hpublic
  simp only [foldRunLifecycle, List.filter_append, hfilter, List.cons_append, Checked.bind_eq_ok,
    present_eq_ok, check_eq_ok, Checked.exists_unit, Checked.pure_eq_ok] at h ⊢
  obtain ⟨hrun, last, -, hdeps, hstream, hqueued, hvalid, hcorrelation, hcausation, s, hfold, hend,
    rfl⟩ := h
  obtain ⟨s₁, hfold₁, hfold₂⟩ := History.run_append_eq_ok.mp hfold
  rw [History.run_filter] at hfold₂
  refine ⟨queued, rest, s₁, s, rfl, hqueued, hfold₁, hfold₂, hend, ⟨rfl, rfl, rfl, rfl⟩,
    fun hend₁ ↦ ?_⟩
  refine ⟨_, ⟨hrun, p.getLast hne, List.getLast?_eq_some_getLast hne, hdeps,
    checkStream_append hstream, hqueued, hvalid, fun e he ↦ hcorrelation e ?_,
    checkCausation_append hcausation, s₁, hfold₁, hend₁, rfl⟩, ⟨rfl, rfl, rfl, rfl⟩⟩
  rcases List.mem_cons.mp he with rfl | hmem
  · simp
  · simp [hmem]

section Observed

variable (I : List EventEnvelope → FoldState → Prop)
  (hinit : ∀ es, Quiet es → I es .initial)
  (hstep : ∀ es e s s', I es s → observe H runId deps s e = .ok s' → I (es ++ [e]) s')

include hinit hstep

/-- An invariant of the accepted events holds after the accepted public events of a stream. -/
theorem invariant_of_observed {queued : EventEnvelope} {rest : List EventEnvelope} {s : FoldState}
    (hfilter : events.filter isPublic = queued :: rest)
    (hqueued : runEventType? queued = some .runQueued)
    (h : History.run (foldEvent H runId deps) .initial rest = .ok s) : I events s := by
  obtain ⟨before, rest', rfl, hbefore, -, rfl⟩ := List.filter_eq_cons_iff.mp hfilter
  rw [History.run_filter] at h
  have hquiet : Quiet (before ++ [queued]) := by
    intro e he
    rcases List.mem_append.mp he with hmem | hmem
    · exact .inl (by simpa [isPublic] using hbefore e hmem)
    · exact .inr (by rwa [List.mem_singleton.mp hmem])
  have hI := History.invariant (fun es s ↦ I ((before ++ [queued]) ++ es) s)
    (by simpa using hinit _ hquiet)
    (fun es e s s' hI hs ↦ by
      rw [← List.append_assoc]
      exact hstep _ e s s' hI hs) h
  simpa using hI

/-- **Invariants of events, at the end.** An invariant of the accepted events holds at the end of an
accepted stream. -/
theorem observed_end (h : foldRunLifecycle H runId deps events = .ok state) :
    ∃ s, I events s ∧ acceptsEnd deps s ∧ Folds deps s state := by
  have hpublic : events.filter isPublic ≠ [] := by
    intro hnil
    simp [foldRunLifecycle, hnil] at h
  obtain ⟨queued, rest, s₁, s, hfilter, hqueued, hfold, hrest, hend, hfolds, -⟩ :=
    foldRunLifecycle_append (q := []) (by simpa using h) hpublic
  obtain rfl : s₁ = s := by simpa using hrest
  exact ⟨s₁, invariant_of_observed I hinit hstep hfilter hqueued hfold, hend, hfolds⟩

end Observed

variable (I : List EventEnvelope → FoldState → Prop)
  (hinit : ∀ es, Quiet es → I es .initial)
  (hstep : ∀ es e s s', I es s → Transition H deps s e s' → I (es ++ [e]) s')

include hinit hstep

/-- An invariant of the transitions holds after the accepted public events of a stream. -/
theorem invariant_of_run {queued : EventEnvelope} {rest : List EventEnvelope} {s : FoldState}
    (hfilter : events.filter isPublic = queued :: rest)
    (hqueued : runEventType? queued = some .runQueued)
    (h : History.run (foldEvent H runId deps) .initial rest = .ok s) : I events s :=
  invariant_of_observed I hinit
    (fun es e s s' hI hs ↦ hstep es e s s' hI (transition_of_observe hs)) hfilter hqueued h

/-- **Invariants, at the end.** An invariant of the transitions holds at the end of an accepted
stream. -/
theorem history_end (h : foldRunLifecycle H runId deps events = .ok state) :
    ∃ s, I events s ∧ acceptsEnd deps s ∧ Folds deps s state :=
  observed_end I hinit (fun es e s s' hI hs ↦ hstep es e s s' hI (transition_of_observe hs)) h

/-- **Invariants, at an event.** An invariant of the transitions holds just before each public
event of an accepted stream; the event is a transition, and the rest of the stream is accepted. -/
theorem history_at (h : foldRunLifecycle H runId deps events = .ok state)
    {pre post : List EventEnvelope} {e : EventEnvelope} (hsplit : events = pre ++ e :: post)
    {kind : RunEventType} (hkind : runEventType? e = some kind) (hnew : kind ≠ .runQueued) :
    ∃ s₁ s₂ s, I pre s₁ ∧ Transition H deps s₁ e s₂ ∧
      History.run (observe H runId deps) s₂ post = .ok s ∧ acceptsEnd deps s ∧
      Folds deps s state := by
  -- The first public event is `run.queued`, so it precedes `e`.
  have hpublic : pre.filter isPublic ≠ [] := by
    intro hnil
    have hfirst : events.filter isPublic = e :: post.filter isPublic := by
      simp [hsplit, hnil, isPublic, hkind]
    simp [foldRunLifecycle, hfirst, hkind, hnew] at h
  obtain ⟨queued, rest, s₁, s, hfilter, hqueued, hfold, hrest, hend, hfolds, -⟩ :=
    foldRunLifecycle_append (hsplit ▸ h) hpublic
  simp only [History.run_cons, Checked.bind_eq_ok] at hrest
  obtain ⟨s₂, he, hpost⟩ := hrest
  exact ⟨s₁, s₂, s, invariant_of_run I hinit hstep hfilter hqueued hfold,
    transition_of_observe he, hpost, hend, hfolds⟩

end

/-! ### A sample stream

A run of two nodes, the second depending on the first. Its digests are those of SHA-256. -/

namespace Sample

/-- The two declared nodes. -/
def dependencies : NodeDependencies := ⟨[("build", []), ("check", ["build"])], by decide⟩

/-- The request of the run. -/
def request : Mapping := [("idempotency_key", .str "start-1"), ("intent_id", .str "intent-1"),
  ("plan_id", .str "plan-1"), ("project_id", .str "project-1"), ("run_id", .str "run-1"),
  ("schema_version", .str "run-request/v1")]

/-- The request to cancel the run. -/
def cancelRequest : Mapping :=
  [("idempotency_key", .str "cancel-1"), ("schema_version", .str "execution-cancel-run-request/v1")]

/-- A lease of the sample run: its node, its token, and the digests of its documents. -/
structure Lease where
  nodeId : String
  fence : Nat
  baseCommit : String
  headCommit : String
  leaseHex : { s : String // isHex 64 s = true }
  specHex : { s : String // isHex 64 s = true }

/-- The lease on the first node. -/
def build : Lease where
  nodeId := "build"
  fence := 1
  baseCommit := "1111111111111111111111111111111111111111"
  headCommit := "2222222222222222222222222222222222222222"
  leaseHex := hexText 0x39124d4e3bf02bbb9e4cf786cda35e7cde0b687cdbcfe14a1c47b72eebd0e864
  specHex := hexText 0x1dcce04e692eb0c3303153754fe41370b618b980ee5472f6b21aedcc5157dd96

/-- The lease on the second node. -/
def check : Lease where
  nodeId := "check"
  fence := 2
  baseCommit := "2222222222222222222222222222222222222222"
  headCommit := "3333333333333333333333333333333333333333"
  leaseHex := hexText 0xa0affa892ea1adc42fdeed52163e1c6890f5461a410d04f94f1dd3e8383df7b7
  specHex := hexText 0xc5fc2e48001d4c4bfbe6e8b3810d6e334bdffc90aba09d773e8592fb4c955ace

namespace Lease

variable (l : Lease)

/-- The digest of the lease document. -/
def leaseDigest : JsonValue := .str (digestPrefix ++ l.leaseHex.1)

/-- The digest of the worktree specification. -/
def specDigest : JsonValue := .str (digestPrefix ++ l.specHex.1)

/-- The lease document. -/
def document : Mapping := [("attempt", .int 1), ("fencing_token", .int l.fence),
  ("node_id", .str l.nodeId), ("run_id", .str "run-1"),
  ("schema_version", .str "blackcell.worktree-lease/v1"), ("worker_id", .str "worker-1")]

/-- The worktree specification, without the lease document. -/
def specHead : Mapping := [("allowed_paths", .list [.str "src"]),
  ("base_commit", .str l.baseCommit), ("isolation_root", .str "/isolation"),
  ("lease_digest", l.leaseDigest), ("max_changed_paths", .int 2),
  ("repository_root", .str "/repository"), ("schema_version", .str "blackcell.worktree-spec/v1")]

/-- The worktree specification. -/
def spec : Mapping := ("lease", .object l.document) :: l.specHead

/-- An inspection of the worktree. -/
def inspection (headCommit : String) (changedPaths : List JsonValue) : Mapping :=
  [("allowed_paths", .list [.str "src"]), ("base_commit", .str l.baseCommit),
    ("branch_name", .str ("blackcell/execution-worktree/" ++ l.specHex.1)),
    ("changed_path_limit_exceeded", .bool false), ("changed_paths", .list changedPaths),
    ("head_commit", .str headCommit), ("lease_digest", l.leaseDigest),
    ("max_changed_paths", .int 2), ("out_of_scope_paths", .list []),
    ("schema_version", .str "blackcell.worktree-inspection/v1"), ("spec_digest", l.specDigest),
    ("uncommitted_paths", .list []),
    ("worktree_path", .str ("/isolation/worktree-" ++ l.specHex.1))]

/-- The inspection of the fresh worktree. -/
def fresh : Mapping := l.inspection l.baseCommit []

/-- The inspection of the finished worktree. -/
def finished : Mapping := l.inspection l.headCommit [.str "src/a.py"]

end Lease

/-- SHA-256 on the documents of the sample run, which are written with sorted keys. -/
def host : Host := .ofTables
  [(.object request,
      hexText 0x5dd5246602eb102f0e77371cc698a4aa877b8899280616a58abba0c689958c70),
    (.object cancelRequest,
      hexText 0xa52494f1787124d2b1f2853f6724d61df91dc639207ef1936e5d444ea65520ff),
    (.object build.document, build.leaseHex),
    (.object check.document, check.leaseHex),
    (.object build.specHead, build.specHex),
    (.object check.specHead, check.specHex),
    (.object build.fresh,
      hexText 0xc0b706ca40e6e52374fdafa717db055487d8eb12a5f57fca8c4b3a45f134314e),
    (.object build.finished,
      hexText 0x68bf0c53cb2f73ee4c9611a50cf760c592663204531d83233968406ee7ed9d94),]
  [("2026-01-01T00:05:00+00:00", ⟨1767225900000000, true⟩)] []

/-- An entry of a stream: its identity, its source, its type, its actor and its payload. -/
structure Entry where
  eventId : String
  source : String
  eventType : String
  actor : String
  payload : Mapping

/-- A public event of the run. -/
def entry (eventId : String) (kind : RunEventType) (actor : String) (payload : Mapping) : Entry :=
  ⟨eventId, runtimeEventSource, StrEnum.value kind, actor,
    ("principal_id", .str actor) :: payload⟩

/-- The stream of the sample run with the given entries, from a sequence number on. -/
def stream : Int → Option String → List Entry → List EventEnvelope
  | _, _, [] => []
  | sequence, causation, entry :: entries =>
    ⟨entry.eventId, "run:run-1", sequence, entry.eventType, 1, 1767225600000000, 1767225600000000,
      "queued", causation, entry.actor, entry.source, entry.payload, none, none⟩ ::
      stream (sequence + 1) (some entry.eventId) entries

/-- `run.queued`. -/
def queued : Entry := entry "queued" .runQueued "user-1" [("request", .object request),
  ("request_digest", .str (host.jsonDigest (.object request))), ("references", .list []),
  ("status", .str "queued")]

/-- The payload of an event about a lease. -/
def leasePayload (l : Lease) (status : String) (fields : Mapping) : Mapping :=
  [("run_id", .str "run-1"), ("node_id", .str l.nodeId), ("lease_digest", l.leaseDigest),
    ("status", .str status)] ++ fields

/-- `node.claimed`. -/
def claimed (l : Lease) : Entry := entry (l.nodeId ++ "-claimed") .nodeClaimed "worker-1"
  (leasePayload l "claimed" [("attempt", .int 1), ("fencing_token", .int l.fence),
    ("worker_id", .str "worker-1"), ("expires_at", .str "2026-01-01T00:05:00+00:00"),
    ("worktree_spec_digest", l.specDigest), ("worktree_spec", .object l.spec)])

/-- The digest of an inspection, and the inspection. -/
def evidence (inspection : Mapping) : Mapping :=
  [("inspection_digest", .str (host.jsonDigest (.object inspection))),
    ("inspection", .object inspection)]

/-- `node.worktree-prepared`. -/
def prepared (l : Lease) : Entry :=
  entry (l.nodeId ++ "-prepared") .nodeWorktreePrepared "worker-1"
    (leasePayload l "worktree-prepared" (evidence l.fresh))

/-- `node.provider-dispatch-started`. -/
def dispatched (l : Lease) : Entry :=
  entry (l.nodeId ++ "-dispatched") .nodeProviderDispatchStarted "worker-1"
    (leasePayload l "provider-dispatch-started"
      [("provider_request_id", .str ("change-" ++ l.leaseHex.1)), ("context_digest", l.specDigest),
        ("context_artifact_digest", l.specDigest)])

/-- `node.succeeded`. -/
def succeeded (l : Lease) : Entry :=
  entry (l.nodeId ++ "-succeeded") .nodeSucceeded "worker-1"
    (leasePayload l "succeeded" ([("result_digest", l.specDigest),
      ("head_commit", .str l.headCommit), ("retained_worktree", .bool true)] ++
      evidence l.finished))

/-- An event that closes the run. -/
def closed (kind : RunEventType) (status : String) (retained : Bool) : Entry :=
  entry "closed" kind "worker-1" [("run_id", .str "run-1"), ("status", .str status),
    ("retained_worktree", .bool retained)]

/-- The first node is claimed, dispatched and finished; then the second one is claimed. -/
def started : List EventEnvelope := stream 1 none
  [queued, claimed build, prepared build, dispatched build, succeeded build, claimed check]

theorem started_accepted :
    ∃ state, foldRunLifecycle host "run-1" dependencies started = .ok state := by
  have h : (foldRunLifecycle host "run-1" dependencies started).isOk = true := by
    decide +kernel
  exact Checked.exists_of_isOk h

end Sample

end Blackcell.Orchestration.RunLifecycle
