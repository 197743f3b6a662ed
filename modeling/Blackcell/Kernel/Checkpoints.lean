import Blackcell.Kernel.Projection

/-!
# Stored checkpoints

The table of checkpoints of `kernel/projections.py`, and its use while the ledger grows. A checkpoint is
saved under the name and the version of its projection and under its scope, a stream or the whole ledger.
A save that would go back, or that contradicts the stored checkpoint of its position, is refused.

## Main definitions

* `CheckpointRow`, `CheckpointStore.load`, `CheckpointStore.save` : the table.
* `ReplayWorld`, `ReplayStep` : appends, replays and saves, in any order.
* `ReplayWorld.Sound` : every checkpoint of a projection reflects the ledger.

## Main results

* `CheckpointStore.position_of_save` : positions never regress.
* `ReplayWorld.Sound.run` : every run of appends, replays and saves.
* `ReplayWorld.position_of_run` : positions never regress in a run.
-/

namespace Blackcell.Kernel

variable {σ ε : Type}

/-- A row of `projection_checkpoints`. The state is the parsed text of `state_json`. -/
structure CheckpointRow where
  projectionName : String
  projectionVersion : Int
  scope : String
  lastGlobalPosition : Int
  lastStreamSequence : Option Int
  stateJson : JsonValue
  stateHash : String

/-- The primary key of a row. -/
def CheckpointRow.key (row : CheckpointRow) : String × Int × String :=
  (row.projectionName, row.projectionVersion, row.scope)

/-- `projection_checkpoints`. -/
abbrev CheckpointTable := List CheckpointRow

namespace CheckpointStore

/-- `_scope`. -/
def scopeOf : Option String → Except (ProjectionError ε) String
  | none => .ok "*"
  | some streamId => if streamId = "*" ∨ isBlank streamId then .error .value else .ok streamId

variable (H : Host) (table : CheckpointTable)

/-- `_checkpoint_from_row`. -/
def checkpointFromRow (row : CheckpointRow) : Except (ProjectionError ε) ProjectionCheckpoint := do
  let c ← ProjectionCheckpoint.create row.projectionName row.projectionVersion
    (if row.scope = "*" then none else some row.scope) row.lastGlobalPosition row.lastStreamSequence
    row.stateJson
  Checked.require (c.stateHash H = row.stateHash) .value
  return c

/-- The row of a checkpoint. -/
def rowOf (c : ProjectionCheckpoint) (scope : String) : CheckpointRow :=
  ⟨c.projectionName, c.projectionVersion, scope, c.lastGlobalPosition, c.lastStreamSequence,
    c.state.canonical, c.stateHash H⟩

/-- The row with a key. -/
def find (key : String × Int × String) : Option CheckpointRow := table.find? fun row ↦ row.key = key

/-- Insert a row, or update the row with its key. -/
def upsert (row : CheckpointRow) : CheckpointTable :=
  (table.filter fun other ↦ other.key ≠ row.key) ++ [row]

/-- `CheckpointStore.load`. -/
def load (projectionName : String) (projectionVersion : Int) (streamId : Option String) :
    Except (ProjectionError ε) (Option ProjectionCheckpoint) := do
  let scope ← scopeOf streamId
  match find table (projectionName, projectionVersion, scope) with
  | none => return none
  | some row =>
    let c ← checkpointFromRow H row
    return some c

/-- `CheckpointStore.save`: the stored checkpoint, and the table. -/
def save (c : ProjectionCheckpoint) (expectedPosition : Option Int) :
    Except (ProjectionError ε) (ProjectionCheckpoint × CheckpointTable) := do
  let scope ← scopeOf c.streamId
  let row := find table (c.projectionName, c.projectionVersion, scope)
  let currentPosition := row.elim 0 (·.lastGlobalPosition)
  Checked.require (∀ expected ∈ expectedPosition, expected = currentPosition) .conflict
  Checked.require (currentPosition ≤ c.lastGlobalPosition) .conflict
  match row with
  | none => return (c, upsert table (rowOf H c scope))
  | some row =>
    if c.lastGlobalPosition = row.lastGlobalPosition then
      Checked.require (row.stateHash = c.stateHash H ∧ row.lastStreamSequence = c.lastStreamSequence)
        .conflict
      let existing ← checkpointFromRow H row
      return (existing, table)
    else
      return (c, upsert table (rowOf H c scope))

/-! ### Rows -/

variable {H} {table} {c c' : ProjectionCheckpoint}

theorem find_upsert (row : CheckpointRow) (key : String × Int × String) :
    find (upsert table row) key = if row.key = key then some row else find table key := by
  rw [find, upsert, List.find?_append, List.find?_filter]
  split
  case isTrue heq =>
    subst heq
    have hnone : table.find? (fun other ↦ decide (decide (other.key ≠ row.key) = true ∧
        decide (other.key = row.key) = true)) = none := List.find?_eq_none.mpr (by simp)
    rw [hnone]
    simp
  case isFalse hne =>
    have hsame : table.find? (fun other ↦ decide (decide (other.key ≠ row.key) = true ∧
        decide (other.key = key) = true)) = find table key := by
      refine congrArg (table.find? ·) (funext fun other ↦ ?_)
      by_cases h : other.key = key
      · simp [h, Ne.symm hne]
      · simp [h]
    rw [hsame]
    simp [hne]

/-- A scope names its stream. -/
theorem streamId_of_scopeOf {streamId : Option String} {scope : String}
    (h : scopeOf (ε := ε) streamId = .ok scope) :
    streamId = if scope = "*" then none else some scope := by
  unfold scopeOf at h
  split at h
  case h_1 => rw [← Except.ok.inj h, if_pos rfl]
  case h_2 =>
    split at h
    case isTrue => exact nomatch h
    case isFalse hscope => rw [← Except.ok.inj h, if_neg fun hstar ↦ hscope (.inl hstar)]

/-- A checkpoint is read back from its row, with the keys of its state sorted. -/
theorem checkpointFromRow_rowOf {scope : String} (h : scopeOf (ε := ε) c.streamId = .ok scope) :
    checkpointFromRow (ε := ε) H (rowOf H c scope) = .ok { c with state := c.state.canonical } := by
  have hhash : H.jsonDigest c.state.canonical = H.jsonDigest c.state := by
    rw [Host.jsonDigest, Host.jsonDigest, JsonValue.canonical_canonical]
  have hstream : (if (rowOf H c scope).scope = "*" then none else some (rowOf H c scope).scope) =
      c.streamId := (streamId_of_scopeOf h).symm
  rw [checkpointFromRow, hstream]
  change (ProjectionCheckpoint.create c.projectionName c.projectionVersion c.streamId
    c.lastGlobalPosition c.lastStreamSequence c.state.canonical >>= _) = _
  rw [ProjectionCheckpoint.create_of_valid]
  exact Checked.require_bind_of_true hhash

/-- What an accepted save does: it returns the stored checkpoint of its position, or stores the
checkpoint in place of one with a smaller position. -/
theorem save_eq_ok {expectedPosition : Option Int} {table' : CheckpointTable}
    (h : save (ε := ε) H table c expectedPosition = .ok (c', table')) :
    ∃ scope, scopeOf (ε := ε) c.streamId = .ok scope ∧
      (∀ row ∈ find table (c.projectionName, c.projectionVersion, scope),
        row.lastGlobalPosition ≤ c.lastGlobalPosition) ∧
      (table' = table ∨ table' = upsert table (rowOf H c scope)) := by
  simp only [save, Checked.bind_eq_ok, Checked.require_eq_ok, Checked.exists_unit] at h
  obtain ⟨scope, hscope, -, hposition, h⟩ := h
  refine ⟨scope, hscope, fun row hrow ↦ ?_, ?_⟩
  · simpa [Option.mem_def.mp hrow] using hposition
  · split at h
    case h_1 => exact .inr (Prod.mk.inj (Except.ok.inj h)).2.symm
    case h_2 row hrow =>
      split at h
      case isTrue =>
        simp only [Checked.bind_eq_ok, Checked.exists_unit, Checked.pure_eq_ok, Prod.mk.injEq] at h
        obtain ⟨-, existing, -, -, rfl⟩ := h
        exact .inl rfl
      case isFalse => exact .inr (Prod.mk.inj (Except.ok.inj h)).2.symm

/-- The position of the stored checkpoint of a key. -/
def position? (table : CheckpointTable) (key : String × Int × String) : Option Int :=
  (find table key).map (·.lastGlobalPosition)

/-- **No regress.** A save keeps every stored checkpoint, or moves it to a later position. -/
theorem position_of_save {expectedPosition : Option Int} {table' : CheckpointTable}
    (h : save (ε := ε) H table c expectedPosition = .ok (c', table')) {key : String × Int × String}
    {p : Int} (hp : position? table key = some p) :
    ∃ q, position? table' key = some q ∧ p ≤ q := by
  obtain ⟨scope, -, hposition, rfl | rfl⟩ := save_eq_ok h
  · exact ⟨p, hp, le_rfl⟩
  · rw [position?, find_upsert]
    split
    case isTrue hkey =>
      obtain ⟨row, hrow, rfl⟩ := Option.map_eq_some_iff.mp hp
      exact ⟨c.lastGlobalPosition, rfl, hposition row (by rw [← hkey] at hrow; exact hrow)⟩
    case isFalse => exact ⟨p, hp, le_rfl⟩

end CheckpointStore

/-! ### Runs -/

open ProjectionRunner

/-- The ledger, the table of checkpoints, and the checkpoints of the replays that have been made. -/
structure ReplayWorld where
  ledger : Ledger
  consistent : ledger.Consistent
  table : CheckpointTable
  results : List ProjectionCheckpoint

/-- What happens to the ledger and to the table of checkpoints. -/
inductive ReplayStep (P : Projection σ ε) where
  /-- A batch of events is appended. -/
  | append (batch : List EventEnvelope) (expectedSequences : List (String × Int))
  /-- The projection is replayed over a scope, from the stored checkpoint or from the beginning. -/
  | replay (streamId : Option String) (stored : Bool)
  /-- The checkpoint of a replay is saved, at any later time. -/
  | save (index : ℕ) (expectedPosition : Option Int)
  /-- Another projection saves a checkpoint. -/
  | other (c : ProjectionCheckpoint) (expectedPosition : Option Int)
    (different : (c.projectionName, c.projectionVersion) ≠ (P.name, P.version))

namespace ReplayWorld

/-- The world at the start. -/
def initial : ReplayWorld := ⟨[], .nil, [], []⟩

variable (H : Host) (P : Projection σ ε)

/-- The stored checkpoint of a scope, or none. -/
def prior (w : ReplayWorld) (streamId : Option String) (stored : Bool) :
    Except (ProjectionError ε) (Option ProjectionCheckpoint) :=
  if stored then CheckpointStore.load H w.table P.name P.version streamId else .ok none

/-- The checkpoint of a replay over a scope, from the stored checkpoint or from the beginning. -/
def replayed (w : ReplayWorld) (streamId : Option String) (stored : Bool) :
    Except (ProjectionError ε) ProjectionCheckpoint := do
  let checkpoint ← prior H P w streamId stored
  let result ← rebuild H P checkpoint w.ledger streamId
  result.checkpoint P streamId

/-- A step; a call that raises changes nothing. -/
def step (w : ReplayWorld) : ReplayStep P → ReplayWorld
  | .append batch expectedSequences =>
    match h : Ledger.appendMany H w.ledger batch expectedSequences with
    | .ok (_, L) => { w with ledger := L, consistent := (w.consistent.appendMany h).1 }
    | .error _ => w
  | .replay streamId stored =>
    match replayed H P w streamId stored with
    | .ok c => { w with results := w.results ++ [c] }
    | .error _ => w
  | .save index expectedPosition =>
    match w.results[index]? with
    | none => w
    | some c =>
      match CheckpointStore.save (ε := ε) H w.table c expectedPosition with
      | .ok (_, table) => { w with table := table }
      | .error _ => w
  | .other c expectedPosition _ =>
    match CheckpointStore.save (ε := ε) H w.table c expectedPosition with
    | .ok (_, table) => { w with table := table }
    | .error _ => w

/-- A run. -/
def run (w : ReplayWorld) (steps : List (ReplayStep P)) : ReplayWorld := steps.foldl (step H P) w

/-- Every checkpoint of the projection reflects the ledger. -/
structure Sound (w : ReplayWorld) : Prop where
  results : ∀ c ∈ w.results, Reflects P w.ledger c
  rows : ∀ scope row, CheckpointStore.find w.table (P.name, P.version, scope) = some row →
    ∃ c, CheckpointStore.checkpointFromRow (ε := ε) H row = .ok c ∧ Reflects P w.ledger c ∧
      c.streamId = if scope = "*" then none else some scope

variable {H} {P} {w : ReplayWorld}

theorem sound_initial : initial.Sound H P := ⟨nofun, nofun⟩

theorem Sound.of_ledger (h : w.Sound H P) {L : Ledger} {hL : L.Consistent} (hle : w.ledger <+: L) :
    Sound H P { w with ledger := L, consistent := hL } where
  results c hc := (h.results c hc).mono hle
  rows scope row hrow := by
    obtain ⟨c, hc, hreflects, hstream⟩ := h.rows scope row hrow
    exact ⟨c, hc, hreflects.mono hle, hstream⟩

/-- A checkpoint that is loaded reflects the ledger. -/
theorem Sound.load (h : w.Sound H P) {streamId : Option String} {c : ProjectionCheckpoint}
    (hload : CheckpointStore.load (ε := ε) H w.table P.name P.version streamId = .ok (some c)) :
    Reflects P w.ledger c ∧ c.streamId = streamId := by
  simp only [CheckpointStore.load, Checked.bind_eq_ok] at hload
  obtain ⟨scope, hscope, hload⟩ := hload
  split at hload
  case h_1 => cases hload
  case h_2 row hrow =>
    obtain ⟨c', hc', hreflects, hstream⟩ := h.rows scope row hrow
    rw [hc', Checked.ok_bind] at hload
    obtain rfl := Option.some.inj (Except.ok.inj hload)
    exact ⟨hreflects, hstream.trans (CheckpointStore.streamId_of_scopeOf hscope).symm⟩

/-- The checkpoint of a scope can be read. -/
theorem Sound.exists_load (h : w.Sound H P) {streamId : Option String} {scope : String}
    (hscope : CheckpointStore.scopeOf (ε := ε) streamId = .ok scope) :
    ∃ checkpoint, CheckpointStore.load (ε := ε) H w.table P.name P.version streamId = .ok checkpoint ∧
      ∀ c ∈ checkpoint, Reflects P w.ledger c ∧ c.streamId = streamId := by
  have hload : ∃ checkpoint,
      CheckpointStore.load (ε := ε) H w.table P.name P.version streamId = .ok checkpoint := by
    rw [CheckpointStore.load, hscope, Checked.ok_bind]
    cases hrow : CheckpointStore.find w.table (P.name, P.version, scope) with
    | none => exact ⟨none, rfl⟩
    | some row =>
      obtain ⟨c, hc, -⟩ := h.rows scope row hrow
      dsimp only
      exact ⟨some c, by rw [hc, Checked.ok_bind]; rfl⟩
  obtain ⟨checkpoint, hload⟩ := hload
  exact ⟨checkpoint, hload, fun c hc ↦ h.load (Option.mem_def.mp hc ▸ hload)⟩

/-- A replay in a sound world is the fold, unless the stored checkpoint cannot be loaded. -/
theorem Sound.replayed (h : w.Sound H P) (hP : P.Faithful) {streamId : Option String} {stored : Bool}
    {c : ProjectionCheckpoint} (hreplayed : replayed H P w streamId stored = .ok c) :
    Reflects P w.ledger c := by
  simp only [ReplayWorld.replayed, Checked.bind_eq_ok] at hreplayed
  obtain ⟨checkpoint, hprior, result, hresult, hcheckpoint⟩ := hreplayed
  have hversion : 1 ≤ P.version := by
    obtain ⟨-, hversion, -⟩ := ProjectionCheckpoint.of_create hcheckpoint
    exact hversion ▸ c.valid.2.1
  cases checkpoint with
  | none => exact (reflects_of_rebuilds (rebuild_none w.consistent hversion) hresult hcheckpoint).1
  | some stored =>
    have hload : CheckpointStore.load (ε := ε) H w.table P.name P.version streamId =
        .ok (some stored) := by
      unfold prior at hprior
      split at hprior
      · exact hprior
      · cases hprior
    obtain ⟨hreflects, rfl⟩ := h.load hload
    cases hstate : P.loadState stored.state with
    | error error =>
      rw [hreflects.rebuild_of_error hstate] at hresult
      cases hresult
    | ok s =>
      exact (reflects_of_rebuilds (hreflects.rebuild w.consistent hP hstate) hresult hcheckpoint).1

/-- A save keeps the world sound, when the saved checkpoint is that of another projection, or reflects
the ledger. -/
theorem Sound.save (h : w.Sound H P) {c c' : ProjectionCheckpoint} {expectedPosition : Option Int}
    {table : CheckpointTable}
    (hsave : CheckpointStore.save (ε := ε) H w.table c expectedPosition = .ok (c', table))
    (hc : (c.projectionName, c.projectionVersion) = (P.name, P.version) → Reflects P w.ledger c) :
    Sound H P { w with table := table } := by
  refine ⟨h.results, fun scope row hrow ↦ ?_⟩
  obtain ⟨scope', hscope', -, rfl | rfl⟩ := CheckpointStore.save_eq_ok hsave
  · exact h.rows scope row hrow
  · rw [CheckpointStore.find_upsert] at hrow
    split at hrow
    case isFalse => exact h.rows scope row hrow
    case isTrue hkey =>
      obtain rfl := Option.some.inj hrow
      simp only [CheckpointRow.key, CheckpointStore.rowOf, Prod.mk.injEq] at hkey
      obtain ⟨hname, hversion, rfl⟩ := hkey
      have hreflects := hc (Prod.ext hname hversion)
      obtain ⟨pre, post, s, hevents, hrun, hstate, hrest⟩ := hreflects.folds
      refine ⟨_, CheckpointStore.checkpointFromRow_rowOf hscope', ⟨hname, hversion, pre, post, s, hevents,
        hrun, ?_, hrest⟩, CheckpointStore.streamId_of_scopeOf hscope'⟩
      rw [JsonValue.canonical_canonical, hstate]

/-- **One step.** -/
theorem Sound.step (h : w.Sound H P) (hP : P.Faithful) (s : ReplayStep P) : (w.step H P s).Sound H P := by
  cases s with
  | append batch expectedSequences =>
    rw [ReplayWorld.step]
    split
    case h_1 happend => exact h.of_ledger (w.consistent.appendMany happend).2.1
    case h_2 => exact h
  | replay streamId stored =>
    rw [ReplayWorld.step]
    split
    case h_1 c hc =>
      exact ⟨List.forall_mem_append.mpr
        ⟨h.results, List.forall_mem_singleton.mpr (h.replayed hP hc)⟩, h.rows⟩
    case h_2 => exact h
  | save index expectedPosition =>
    rw [ReplayWorld.step]
    split
    case h_1 => exact h
    case h_2 c hc =>
      split
      case h_1 hsave => exact h.save hsave fun _ ↦ h.results c (List.mem_of_getElem? hc)
      case h_2 => exact h
  | other c expectedPosition different =>
    rw [ReplayWorld.step]
    split
    case h_1 hsave => exact h.save hsave fun hsame ↦ absurd hsame different
    case h_2 => exact h

/-- **Runs.** Appends, replays and saves, in any order, keep the world sound. -/
theorem Sound.run (h : w.Sound H P) (hP : P.Faithful) (steps : List (ReplayStep P)) :
    (w.run H P steps).Sound H P := by
  induction steps generalizing w with
  | nil => exact h
  | cons s steps ih => exact ih (h.step hP s)

/-- The ledger only grows. -/
theorem ledger_step (w : ReplayWorld) (s : ReplayStep P) : w.ledger <+: (w.step H P s).ledger := by
  cases s <;> rw [ReplayWorld.step]
  case append =>
    split
    case h_1 happend => exact (w.consistent.appendMany happend).2.1
    case h_2 => exact List.prefix_rfl
  all_goals
    repeat' split
    all_goals exact List.prefix_rfl

theorem ledger_run (w : ReplayWorld) (steps : List (ReplayStep P)) :
    w.ledger <+: (w.run H P steps).ledger := by
  induction steps generalizing w with
  | nil => exact List.prefix_rfl
  | cons s steps ih => exact (w.ledger_step s).trans (ih _)

/-- **No regress.** A step keeps every stored checkpoint, or moves it to a later position. -/
theorem position_of_step (w : ReplayWorld) (s : ReplayStep P) {key : String × Int × String} {p : Int}
    (hp : CheckpointStore.position? w.table key = some p) :
    ∃ q, CheckpointStore.position? (w.step H P s).table key = some q ∧ p ≤ q := by
  cases s <;> rw [ReplayWorld.step]
  case append => split <;> exact ⟨p, hp, le_rfl⟩
  case replay => split <;> exact ⟨p, hp, le_rfl⟩
  case save =>
    split
    case h_1 => exact ⟨p, hp, le_rfl⟩
    case h_2 =>
      split
      case h_1 hsave => exact CheckpointStore.position_of_save hsave hp
      case h_2 => exact ⟨p, hp, le_rfl⟩
  case other =>
    split
    case h_1 hsave => exact CheckpointStore.position_of_save hsave hp
    case h_2 => exact ⟨p, hp, le_rfl⟩

/-- **No regress.** A run keeps every stored checkpoint, or moves it to a later position. -/
theorem position_of_run (w : ReplayWorld) (steps : List (ReplayStep P)) {key : String × Int × String}
    {p : Int} (hp : CheckpointStore.position? w.table key = some p) :
    ∃ q, CheckpointStore.position? (w.run H P steps).table key = some q ∧ p ≤ q := by
  induction steps generalizing w p with
  | nil => exact ⟨p, hp, le_rfl⟩
  | cons s steps ih =>
    obtain ⟨q, hq, hle⟩ := position_of_step w s hp
    obtain ⟨r, hr, hle'⟩ := ih _ hq
    exact ⟨r, hr, hle.trans hle'⟩

theorem run_append (w : ReplayWorld) (steps later : List (ReplayStep P)) :
    w.run H P (steps ++ later) = (w.run H P steps).run H P later :=
  List.foldl_append

end ReplayWorld

end Blackcell.Kernel
