import Blackcell.Bootstrap.ReviewEvidence

/-!
# The budget of the evidence of a review

The excerpts that a review is shown are cut at one cap, which is the share of an item in the budget of all
of them. Up to 128 items the cap leaves room for every form of an excerpt, so that the assembly of the
evidence never fails for its budget, and all excerpts together are within it.

## Main definitions

* `nodeSources` : the artifacts that the evidence of a node shows, in order.
* `Displays` : evidence shows an artifact within a cap.

## Main results

* `raises_assembleNodes` : within a cap, no excerpt fails for the budget.
* `forall₂_evidenceForNode` : the evidence of a node shows its artifacts.
* `excerpts_withinBudget` : artifacts and the evidence of materials within 128 items.
-/

namespace Blackcell.Bootstrap

open Blackcell.Kernel Blackcell.Orchestration Blackcell.Orchestration.Review
open Blackcell.Orchestration.Changes (ChangeContext ChangeProposal FileChange TextOperation)

variable {H : Host} {repr : FiniteFloat → String} {D : BytesDigest}

/-! ### What evidence shows -/

/-- Evidence shows an artifact within a cap. -/
def Displays (cap : ℕ) (source : ReviewExcerptSource) (e : ReviewEvidence) : Prop :=
  (∀ data, source = .ofBytes data → IsExcerptOf data cap e.excerpt) ∧
    e.excerpt.utf8ByteSize ≤ cap

/-- The artifacts that the evidence of an operation shows. -/
def operationSources (c : ChangeMaterial repr D) (change : FileChange D) :
    List ReviewExcerptSource :=
  (if change.operation = .create then []
    else [.ofBytes (utf8 ((c.context.before change.path).getD ""))]) ++
  (if change.operation = .delete then [] else [.ofBytes (utf8 (change.content.getD ""))]) ++ [c.effect]

/-- The artifacts that the evidence of a check shows. -/
def checkSources (check : VerifiedCheckMaterial) : List ReviewExcerptSource :=
  [.ofBytes check.commandBytes, .ofBytes check.resultBytes, check.stdout, check.stderr]

/-- The artifacts that the evidence of a node shows. -/
def nodeSources (m : VerifiedNodeMaterial repr D) : List ReviewExcerptSource :=
  .ofBytes m.outcomeBytes ::
    ((if m.expectation.repositoryWrite then
      (changeMaterial m).toList.flatMap fun c ↦ c.proposal.operations.flatMap (operationSources c)
    else []) ++ m.checks.flatMap checkSources)

/-- A step does not fail for the budget. -/
abbrev Affords {α : Type} (x : Assembly α) : Prop := Checked.Raises (· ≠ .evidenceBudgetExceeded) x

/-! ### One item -/

section Item

variable {cap : ℕ} {kind : ReviewEvidenceKind} {nodeId digest : String}
  {source : ReviewExcerptSource} {path checkId : Option String} {operation : Option TextOperation}
  {e : ReviewEvidence} {data : List UInt8}

theorem affords_mapError {ε α : Type} (x : Except ε α) :
    Affords (x.mapError fun _ ↦ ReviewEvidenceFailureCode.definitionMismatch) := by
  cases x with
  | ok a => exact Checked.raises_ok a
  | error => exact Checked.raises_error fun h ↦ nomatch h

theorem affords_excerpt (hcap : 71 < cap) (hmax : cap ≤ maxReviewExcerptBytes) :
    Affords (boundedReviewExcerpt source cap) := by
  obtain ⟨data, rfl⟩ := source.exists_eq_ofBytes
  obtain ⟨excerpt, hexcerpt, -⟩ := boundedReviewExcerpt_ofBytes data hcap hmax
  rw [hexcerpt]
  exact Checked.raises_ok _

theorem affords_appendReviewEvidence (hcap : 71 < cap) (hmax : cap ≤ maxReviewExcerptBytes) :
    Affords (appendReviewEvidence kind nodeId digest source path checkId operation cap) := by
  exact Checked.raises_bind (affords_excerpt hcap hmax) fun excerpt ↦ affords_mapError _

theorem affords_appendTextEvidence (hcap : 71 < cap) (hmax : cap ≤ maxReviewExcerptBytes) :
    Affords (appendTextEvidence kind nodeId digest data path checkId operation cap) := by
  refine Checked.raises_bind ?_ fun source ↦ affords_appendReviewEvidence hcap hmax
  exact Checked.raises_bind (Checked.raises_require (by decide)) fun _ ↦ Checked.raises_ok _

/-- Evidence shows the artifact that it was taken from. -/
theorem shows_of_append (hcap : 71 < cap) (hmax : cap ≤ maxReviewExcerptBytes)
    (h : appendReviewEvidence kind nodeId digest source path checkId operation cap = .ok e) :
    Displays cap source e := by
  simp only [appendReviewEvidence, Checked.bind_eq_ok, Checked.mapError_eq_ok] at h
  obtain ⟨excerpt, hexcerpt, he⟩ := h
  have he : e.excerpt = excerpt := by
    simp only [ReviewEvidence.create] at he
    split at he <;> cases he
    rfl
  subst he
  have hbytes : ∀ data, source = .ofBytes data →
      IsExcerptOf data cap e.excerpt ∧ (utf8 e.excerpt).length ≤ cap := by
    rintro data rfl
    obtain ⟨excerpt, hok, hshown, hsize, -⟩ := boundedReviewExcerpt_ofBytes data hcap hmax
    cases hexcerpt.symm.trans hok
    exact ⟨hshown, hsize⟩
  obtain ⟨data, hdata⟩ := source.exists_eq_ofBytes
  exact ⟨fun data hdata ↦ (hbytes data hdata).1, length_utf8 e.excerpt ▸ (hbytes data hdata).2⟩

theorem shows_of_appendText (hcap : 71 < cap) (hmax : cap ≤ maxReviewExcerptBytes)
    (h : appendTextEvidence kind nodeId digest data path checkId operation cap = .ok e) :
    Displays cap (.ofBytes data) e := by
  simp only [appendTextEvidence, reviewExcerptSource, Checked.bind_eq_ok, Checked.require_eq_ok,
    Checked.exists_unit, Checked.pure_eq_ok] at h
  obtain ⟨_, ⟨-, rfl⟩, h⟩ := h
  exact shows_of_append hcap hmax h

end Item

/-! ### All items -/

/-- A traversal whose parts match gives a whole that matches. -/
theorem forall₂_flatten_of_mapM {ε α β γ : Type} {f : α → Except ε (List β)} {g : α → List γ}
    {R : γ → β → Prop} (hf : ∀ a es, f a = .ok es → List.Forall₂ R (g a) es) {l : List α}
    {r : List (List β)} (h : l.mapM f = .ok r) : List.Forall₂ R (l.flatMap g) r.flatten := by
  rw [← List.flatMap_id]
  exact List.rel_flatMap (Checked.mapM_eq_ok.mp h) fun a es ↦ hf a es

section Node

variable {cap : ℕ} {m : VerifiedNodeMaterial repr D} {c : ChangeMaterial repr D} {nodeId : String}
  {change : FileChange D} {check : VerifiedCheckMaterial} {es : List ReviewEvidence}

theorem affords_defined {α : Type} {x : Option α} : Affords (defined x) :=
  Checked.raises_ofOption (by decide)

theorem affords_contentEvidence {kind : ReviewEvidenceKind} {digest : String}
    {content : Option String} (hcap : 71 < cap) (hmax : cap ≤ maxReviewExcerptBytes) :
    Affords (contentEvidence kind nodeId digest content cap change) := by
  refine Checked.raises_bind affords_defined fun _ ↦ ?_
  exact Checked.raises_bind (affords_appendTextEvidence hcap hmax) fun _ ↦ Checked.raises_ok _

theorem affords_operationEvidence (hcap : 71 < cap) (hmax : cap ≤ maxReviewExcerptBytes) :
    Affords (operationEvidence nodeId c cap change) := by
  refine Checked.raises_bind ?_ fun before ↦ Checked.raises_bind ?_ fun after ↦
    Checked.raises_bind (affords_appendReviewEvidence hcap hmax) fun _ ↦ Checked.raises_ok _
  · unfold beforeEvidence
    split
    · exact Checked.raises_ok _
    · exact affords_contentEvidence hcap hmax
  · unfold afterEvidence
    split
    · exact Checked.raises_ok _
    · exact affords_contentEvidence hcap hmax

theorem affords_changeEvidence (hcap : 71 < cap) (hmax : cap ≤ maxReviewExcerptBytes) :
    Affords (changeEvidence m cap) := by
  unfold changeEvidence
  split
  · refine Checked.raises_bind affords_defined fun c ↦ ?_
    exact Checked.raises_bind
      (Checked.raises_mapM (fun _ ↦ affords_operationEvidence hcap hmax) _) fun _ ↦ Checked.raises_ok _
  · exact Checked.raises_ok _

theorem affords_checkEvidence (hcap : 71 < cap) (hmax : cap ≤ maxReviewExcerptBytes) :
    Affords (checkEvidence nodeId cap check) := by
  refine Checked.raises_bind (affords_appendTextEvidence hcap hmax) fun _ ↦ ?_
  refine Checked.raises_bind (affords_appendTextEvidence hcap hmax) fun _ ↦ ?_
  refine Checked.raises_bind (affords_appendReviewEvidence hcap hmax) fun _ ↦ ?_
  exact Checked.raises_bind (affords_appendReviewEvidence hcap hmax) fun _ ↦ Checked.raises_ok _

/-- The evidence of a node does not fail for the budget. -/
theorem affords_evidenceForNode (hcap : 71 < cap) (hmax : cap ≤ maxReviewExcerptBytes) :
    Affords (evidenceForNode m cap) := by
  refine Checked.raises_bind (affords_appendTextEvidence hcap hmax) fun _ ↦ ?_
  refine Checked.raises_bind (affords_changeEvidence hcap hmax) fun _ ↦ ?_
  exact Checked.raises_bind
    (Checked.raises_mapM (fun _ ↦ affords_checkEvidence hcap hmax) _) fun _ ↦ Checked.raises_ok _

theorem forall₂_contentEvidence {kind : ReviewEvidenceKind} {digest : String}
    {content : Option String} (hcap : 71 < cap) (hmax : cap ≤ maxReviewExcerptBytes)
    (h : contentEvidence kind nodeId digest content cap change = .ok es) :
    List.Forall₂ (Displays cap) [.ofBytes (utf8 (content.getD ""))] es := by
  simp only [contentEvidence, Checked.bind_eq_ok, Checked.pure_eq_ok, defined,
    Checked.ofOption_eq_ok] at h
  obtain ⟨text, rfl, e, he, rfl⟩ := h
  exact .cons (shows_of_appendText hcap hmax he) .nil

theorem forall₂_operationEvidence (hcap : 71 < cap) (hmax : cap ≤ maxReviewExcerptBytes)
    (h : operationEvidence nodeId c cap change = .ok es) :
    List.Forall₂ (Displays cap) (operationSources c change) es := by
  simp only [operationEvidence, Checked.bind_eq_ok, Checked.pure_eq_ok] at h
  obtain ⟨before, hbefore, after, hafter, effect, heffect, rfl⟩ := h
  refine List.rel_append (List.rel_append ?_ ?_) (.cons (shows_of_append hcap hmax heffect) .nil)
  · unfold beforeEvidence at hbefore
    split at hbefore <;> rename_i hop
    · cases hbefore
      rw [if_pos hop]
      exact .nil
    · rw [if_neg hop]
      exact forall₂_contentEvidence hcap hmax hbefore
  · unfold afterEvidence at hafter
    split at hafter <;> rename_i hop
    · cases hafter
      rw [if_pos hop]
      exact .nil
    · rw [if_neg hop]
      exact forall₂_contentEvidence hcap hmax hafter

theorem forall₂_checkEvidence (hcap : 71 < cap) (hmax : cap ≤ maxReviewExcerptBytes)
    (h : checkEvidence nodeId cap check = .ok es) :
    List.Forall₂ (Displays cap) (checkSources check) es := by
  simp only [checkEvidence, Checked.bind_eq_ok, Checked.pure_eq_ok] at h
  obtain ⟨command, hcommand, result, hresult, stdout, hstdout, stderr, hstderr, rfl⟩ := h
  exact .cons (shows_of_appendText hcap hmax hcommand) <|
    .cons (shows_of_appendText hcap hmax hresult) <|
    .cons (shows_of_append hcap hmax hstdout) <| .cons (shows_of_append hcap hmax hstderr) .nil

/-- The evidence of a node shows its artifacts. -/
theorem forall₂_evidenceForNode (hcap : 71 < cap) (hmax : cap ≤ maxReviewExcerptBytes)
    (h : evidenceForNode m cap = .ok es) : List.Forall₂ (Displays cap) (nodeSources m) es := by
  simp only [evidenceForNode, Checked.bind_eq_ok, Checked.pure_eq_ok] at h
  obtain ⟨outcome, houtcome, changes, hchanges, checks, hchecks, rfl⟩ := h
  refine .cons (shows_of_appendText hcap hmax houtcome) (List.rel_append ?_ ?_)
  · unfold changeEvidence at hchanges
    split at hchanges <;> rename_i hwrite
    · simp only [Checked.bind_eq_ok, Checked.pure_eq_ok, defined, Checked.ofOption_eq_ok] at hchanges
      obtain ⟨c, hc, evidence, hevidence, rfl⟩ := hchanges
      rw [if_pos hwrite, hc, Option.toList_some, List.flatMap_singleton]
      exact forall₂_flatten_of_mapM (fun _ _ ↦ forall₂_operationEvidence hcap hmax) hevidence
    · cases hchanges
      rw [if_neg hwrite]
      exact .nil
  · exact forall₂_flatten_of_mapM (fun _ _ ↦ forall₂_checkEvidence hcap hmax) hchecks

theorem length_operationSources (c : ChangeMaterial repr D) (change : FileChange D) :
    (operationSources c change).length = operationItemCount change := by
  unfold operationSources operationItemCount
  cases change.operation <;> rfl

theorem length_flatMap_checkSources (checks : List VerifiedCheckMaterial) :
    (checks.flatMap checkSources).length = 4 * checks.length := by
  induction checks with
  | nil => rfl
  | cons check checks ih =>
    rw [List.flatMap_cons, List.length_append, ih, List.length_cons]
    change 4 + _ = _
    omega

theorem proposal_of_changeMaterial (h : changeMaterial m = some c) : m.proposal = some c.proposal := by
  simp only [changeMaterial, Option.bind_eq_bind, Option.bind_eq_some_iff, Option.pure_def,
    Option.some.injEq] at h
  obtain ⟨context, -, proposal, hproposal, -, -, -, -, -, -, -, -, rfl⟩ := h
  exact hproposal

theorem one_le_evidenceItemCount {n : ℕ} (h : evidenceItemCount m = .ok n) : 1 ≤ n := by
  unfold evidenceItemCount at h
  split at h
  · simp only [Checked.bind_eq_ok, Checked.pure_eq_ok] at h
    obtain ⟨proposal, -, rfl⟩ := h
    omega
  · cases h
    omega

/-- As many artifacts are shown as were counted. -/
theorem length_nodeSources {n : ℕ} (hcount : evidenceItemCount m = .ok n)
    (h : evidenceForNode m cap = .ok es) : (nodeSources m).length = n := by
  have hchanges : ∃ changes, changeEvidence m cap = .ok changes := by
    simp only [evidenceForNode, Checked.bind_eq_ok] at h
    obtain ⟨-, -, changes, hchanges, -⟩ := h
    exact ⟨changes, hchanges⟩
  obtain ⟨changes, hchanges⟩ := hchanges
  rw [nodeSources, List.length_cons, List.length_append, length_flatMap_checkSources]
  unfold evidenceItemCount at hcount
  by_cases hwrite : m.expectation.repositoryWrite = true
  · simp only [hwrite, if_true, Checked.bind_eq_ok, Checked.pure_eq_ok, defined,
      Checked.ofOption_eq_ok] at hcount
    simp only [changeEvidence, hwrite, if_true, Checked.bind_eq_ok, defined,
      Checked.ofOption_eq_ok] at hchanges
    obtain ⟨proposal, hproposal, rfl⟩ := hcount
    obtain ⟨c, hc, -⟩ := hchanges
    cases hproposal.symm.trans (proposal_of_changeMaterial hc)
    rw [if_pos hwrite, hc, Option.toList_some, List.flatMap_singleton, List.length_flatMap]
    have hlengths : (c.proposal.operations.map fun change ↦ (operationSources c change).length) =
        c.proposal.operations.map operationItemCount :=
      List.map_congr_left fun change _ ↦ length_operationSources c change
    rw [hlengths]
    omega
  · simp only [hwrite, Bool.false_eq_true, if_false, Checked.pure_eq_ok] at hcount ⊢
    subst hcount
    rw [List.length_nil]
    omega

end Node

/-! ### The evidence of a run -/

section Run

variable {cap n : ℕ} {materials : List (VerifiedNodeMaterial repr D)}
  {assembled : List (ReviewPlanNode × List ReviewEvidence)}

/-- The artifacts that the evidence of a run shows. -/
def runSources (materials : List (VerifiedNodeMaterial repr D)) : List ReviewExcerptSource :=
  materials.flatMap nodeSources

theorem affords_assembleNodes (hcap : 71 < cap) (hmax : cap ≤ maxReviewExcerptBytes) :
    Affords (assembleNodes materials cap) := by
  refine Checked.raises_mapM (fun m ↦ ?_) materials
  exact Checked.raises_bind (affords_mapError _) fun node ↦
    Checked.raises_bind (affords_evidenceForNode hcap hmax) fun _ ↦ Checked.raises_ok _

/-- A node of the plan comes with the evidence of its node. -/
theorem forall₂_assembleNodes (h : assembleNodes materials cap = .ok assembled) :
    List.Forall₂ (fun m entry ↦ evidenceForNode m cap = .ok entry.2) materials assembled := by
  rw [assembleNodes, Checked.mapM_eq_ok] at h
  refine h.imp fun m entry hentry ↦ ?_
  simp only [Checked.bind_eq_ok, Checked.pure_eq_ok] at hentry
  obtain ⟨node, -, evidence, hevidence, rfl⟩ := hentry
  exact hevidence

/-- The evidence of a run shows its artifacts, as many as were counted. -/
theorem forall₂_runSources (hcap : 71 < cap) (hmax : cap ≤ maxReviewExcerptBytes)
    (h : assembleNodes materials cap = .ok assembled) :
    List.Forall₂ (Displays cap) (runSources materials) (assembled.flatMap (·.2)) :=
  List.rel_flatMap (forall₂_assembleNodes h) fun _ _ ↦ forall₂_evidenceForNode hcap hmax

/-- As many artifacts of a run are shown as were counted. -/
theorem length_runSources (hcount : itemCount materials = .ok n)
    (hentries : List.Forall₂ (fun m entry ↦ evidenceForNode m cap = .ok entry.2) materials assembled) :
    (runSources materials).length = n := by
  simp only [itemCount, Checked.map_eq_ok, Checked.mapM_eq_ok] at hcount
  obtain ⟨counts, hcounts, rfl⟩ := hcount
  induction hcounts generalizing assembled with
  | nil => rfl
  | cons hcount _ ih =>
    cases hentries with
    | cons hentry hentries =>
      rw [runSources, List.flatMap_cons, List.length_append, List.sum_cons,
        length_nodeSources hcount hentry]
      exact congrArg _ (ih hentries)

theorem one_le_itemCount (hne : materials ≠ []) (hcount : itemCount materials = .ok n) : 1 ≤ n := by
  simp only [itemCount, Checked.map_eq_ok, Checked.mapM_eq_ok] at hcount
  obtain ⟨counts, hcounts, rfl⟩ := hcount
  cases hcounts with
  | nil => exact absurd rfl hne
  | cons hcount _ =>
    have hone : 1 ≤ _ := one_le_evidenceItemCount hcount
    rw [List.sum_cons]
    omega

/-- Evidence that shows artifacts within their cap is within the budget. -/
theorem excerptBytes_le {sources : List ReviewExcerptSource} {evidence : List ReviewEvidence}
    (h : List.Forall₂ (Displays (maximumExcerptBytes sources.length)) sources evidence) :
    excerptBytes evidence ≤ maxReviewEvidenceBytes := by
  have hlength : (evidence.map fun e ↦ e.excerpt.utf8ByteSize).length = sources.length := by
    rw [List.length_map, h.length_eq]
  have hsizes : ∀ e ∈ evidence, e.excerpt.utf8ByteSize ≤ maximumExcerptBytes sources.length := by
    exact ((List.forall₂_and_left _ _).mp (h.flip.imp fun _ _ hshown ↦ ⟨hshown.2, hshown⟩)).1
  refine sum_le_maxReviewEvidenceBytes ?_
  rw [hlength]
  exact List.forall_mem_map.mpr hsizes

/-- The assembly of counted evidence: it does not fail for the budget. -/
theorem affords_assembleEvidence (hne : materials ≠ []) (hcount : itemCount materials = .ok n)
    (hn : n ≤ maxReviewEvidenceItems) : Affords (assembleEvidence materials) := by
  have hone := one_le_itemCount hne hcount
  have hcap := lt_maximumExcerptBytes hone hn
  have hmax := maximumExcerptBytes_le n
  rw [assembleEvidence, hcount, Checked.ok_bind, affordable,
    Checked.require_bind_of_true ⟨hone, hn⟩, affordable, Checked.require_bind_of_true (by omega)]
  cases hassembled : assembleNodes materials (maximumExcerptBytes n) with
  | error e => exact Checked.raises_error (affords_assembleNodes hcap hmax e hassembled)
  | ok assembled =>
    have hshown := forall₂_runSources hcap hmax hassembled
    have hlength := length_runSources hcount (forall₂_assembleNodes hassembled)
    have hbytes := excerptBytes_le (hlength.symm ▸ hshown)
    change Affords (affordable _ >>= _)
    rw [affordable, Checked.require_bind_of_true ⟨hshown.length_eq.symm.trans hlength, hbytes⟩]
    exact Checked.raises_ok _

/-- The evidence of a run that has been counted shows its artifacts, within the budget. -/
theorem assembleEvidence_spec {nodes : List ReviewPlanNode} {evidence : List ReviewEvidence}
    (hne : materials ≠ []) (hcount : itemCount materials = .ok n) (hn : n ≤ maxReviewEvidenceItems)
    (h : assembleEvidence materials = .ok (nodes, evidence)) :
    evidence.length = n ∧
      List.Forall₂ (Displays (maximumExcerptBytes n)) (runSources materials) evidence ∧
      excerptBytes evidence ≤ maxReviewEvidenceBytes := by
  have hcap := lt_maximumExcerptBytes (one_le_itemCount hne hcount) hn
  simp only [assembleEvidence, affordable, Checked.bind_eq_ok, Checked.require_eq_ok,
    Checked.exists_unit, Checked.pure_eq_ok, Prod.mk.injEq] at h
  obtain ⟨count, hcount', -, -, assembled, hassembled, ⟨hlength, hbytes⟩, rfl, rfl⟩ := h
  cases hcount.symm.trans hcount'
  exact ⟨hlength, forall₂_runSources hcap (maximumExcerptBytes_le n) hassembled, hbytes⟩

/-- The context of counted materials does not fail for the budget. -/
theorem affords_contextOfMaterials {request : ReviewContextRequest} (hne : materials ≠ [])
    (hcount : itemCount materials = .ok n) (hn : n ≤ maxReviewEvidenceItems) :
    Affords (contextOfMaterials H request materials) := by
  refine Checked.raises_bind (Checked.raises_require nofun) fun _ ↦ ?_
  refine Checked.raises_bind (affords_assembleEvidence hne hcount hn) fun (nodes, evidence) ↦ ?_
  refine Checked.raises_bind (affords_mapError _) fun acceptance ↦ affords_mapError _

end Run

/-- Artifacts within the number of items have excerpts within the budget. -/
theorem excerpts_of_artifacts (data : List (List UInt8))
    (hn : data.length ≤ maxReviewEvidenceItems) :
    ∃ excerpts, List.Forall₂ (fun bytes excerpt ↦
        boundedReviewExcerpt (.ofBytes bytes) (maximumExcerptBytes data.length) = .ok excerpt ∧
        IsExcerptOf bytes (maximumExcerptBytes data.length) excerpt ∧
        excerpt.utf8ByteSize ≤ maximumExcerptBytes data.length) data excerpts ∧
      (excerpts.map (·.utf8ByteSize)).sum ≤ maxReviewEvidenceBytes := by
  have hexcerpt : ∀ bytes ∈ data, ∃ excerpt,
      (boundedReviewExcerpt (.ofBytes bytes) (maximumExcerptBytes data.length) = .ok excerpt ∧
        IsExcerptOf bytes (maximumExcerptBytes data.length) excerpt ∧
        excerpt.utf8ByteSize ≤ maximumExcerptBytes data.length) ∧
      excerpt.utf8ByteSize ≤ maximumExcerptBytes data.length := by
    intro bytes hbytes
    have hcap := lt_maximumExcerptBytes (List.length_pos_of_mem hbytes) hn
    obtain ⟨excerpt, hok, hshown, hsize, -⟩ :=
      boundedReviewExcerpt_ofBytes bytes hcap (maximumExcerptBytes_le _)
    rw [length_utf8] at hsize
    exact ⟨excerpt, ⟨hok, hshown, hsize⟩, hsize⟩
  obtain ⟨excerpts, hexcerpts, hsizes⟩ := Checked.exists_forall₂_iff.mpr hexcerpt
  refine ⟨excerpts, hexcerpts, sum_le_maxReviewEvidenceBytes ?_⟩
  rw [List.length_map, ← hexcerpts.length_eq]
  exact List.forall_mem_map.mpr hsizes

/-- **The budget of excerpts.** Up to 128 artifacts have excerpts within their cap and within the budget
of all of them; and up to 128 items the evidence of the nodes of a run, which are some, never fails for
the budget and shows each artifact within its cap, all of them within the budget. -/
theorem excerpts_withinBudget (H : Host) (request : ReviewContextRequest) :
    (∀ data : List (List UInt8), data.length ≤ maxReviewEvidenceItems →
      ∃ excerpts, List.Forall₂ (fun bytes excerpt ↦
          boundedReviewExcerpt (.ofBytes bytes) (maximumExcerptBytes data.length) = .ok excerpt ∧
          IsExcerptOf bytes (maximumExcerptBytes data.length) excerpt ∧
          excerpt.utf8ByteSize ≤ maximumExcerptBytes data.length) data excerpts ∧
        (excerpts.map (·.utf8ByteSize)).sum ≤ maxReviewEvidenceBytes) ∧
    ∀ (materials : List (VerifiedNodeMaterial repr D)) (n : ℕ), materials ≠ [] →
      itemCount materials = .ok n → n ≤ maxReviewEvidenceItems →
      contextOfMaterials H request materials ≠ .error .evidenceBudgetExceeded ∧
      ∀ nodes evidence, assembleEvidence materials = .ok (nodes, evidence) →
        evidence.length = n ∧
        List.Forall₂ (Displays (maximumExcerptBytes n)) (runSources materials) evidence ∧
        excerptBytes evidence ≤ maxReviewEvidenceBytes := by
  refine ⟨excerpts_of_artifacts, fun materials n hne hcount hn ↦ ⟨?_, ?_⟩⟩
  · exact fun h ↦ affords_contextOfMaterials hne hcount hn _ h rfl
  · exact fun nodes evidence ↦ assembleEvidence_spec hne hcount hn

/-- A digest that is the same for all bytes. -/
def readerDigest : BytesDigest where
  hexdigest _ := String.ofList (List.replicate 64 '0')
  isHex_hexdigest _ := by decide

/-- A node that reads and passes one check, as it was verified. -/
def readerMaterial (repr : FiniteFloat → String) (D : BytesDigest) : VerifiedNodeMaterial repr D :=
  let zeros := "sha256:0000000000000000000000000000000000000000000000000000000000000000"
  let commit := "0000000000000000000000000000000000000000"
  let link : ExecutionArtifacts.ExecutionArtifactLink :=
    ⟨zeros, 4, "application/octet-stream", none, by decide +kernel⟩
  let check : ExecutionArtifacts.CheckArtifacts :=
    ⟨"unit", zeros, zeros, true, link, link, link, link, by decide +kernel⟩
  { expectation := {
      nodeId := "reader", objective := "Read.", constraints := [], dependsOn := []
      repositoryWrite := false, effects := [.repositoryRead], allowedPaths := []
      maxChangedPaths := 0, checks := [⟨"unit", ["test"], 0, .int 60⟩], status := "succeeded"
      attempt := 1, fencingToken := 1, leaseDigest := some zeros, worktreeSpecDigest := some zeros
      baseCommit := some commit, headCommit := some commit, failureCode := none
      resultDigest := some zeros, providerContextDigest := none }
    manifest := ⟨"run", "reader", 1, 1, zeros, zeros, commit, some commit, false, .succeeded, none,
      ⟨none, none, none, none⟩, [check], by decide +kernel, by decide +kernel⟩
    outcomeLink := link
    outcomeBytes := utf8 "done"
    context := none
    proposal := none
    effect := none
    checks := [⟨⟨"unit", ["test"], 0, .int 60, 1024, 1024, by decide +kernel⟩, zeros, true, check,
      utf8 "test", utf8 "pass", .ofBytes [0xff], .ofBytes []⟩] }

/-- What the review of that node is asked for. -/
def readerRequest (repr : FiniteFloat → String) (D : BytesDigest) : ReviewContextRequest where
  runId := "run"
  projectId := "project"
  intentId := "intent"
  planId := "plan"
  objective := "Read."
  constraints := []
  baseCommit := "0000000000000000000000000000000000000000"
  stateDigest := "sha256:0000000000000000000000000000000000000000000000000000000000000000"
  nodes := [(readerMaterial repr D).expectation]
  requireExactConstraints := true

/-- A text and a byte that is none, and the five items of a node that reads. -/
theorem excerpts_withinBudget_reader :
    (∃ excerpts, List.Forall₂ (fun bytes excerpt ↦
        boundedReviewExcerpt (.ofBytes bytes) (maximumExcerptBytes 2) = .ok excerpt ∧
        IsExcerptOf bytes (maximumExcerptBytes 2) excerpt ∧
        excerpt.utf8ByteSize ≤ maximumExcerptBytes 2) [utf8 "text", [0xff]] excerpts ∧
      (excerpts.map (·.utf8ByteSize)).sum ≤ maxReviewEvidenceBytes) ∧
    contextOfMaterials (.ofTables [] [] []) (readerRequest (fun _ ↦ "0.0") readerDigest)
      [readerMaterial (fun _ ↦ "0.0") readerDigest] ≠ .error .evidenceBudgetExceeded :=
  let h := @excerpts_withinBudget (fun _ ↦ "0.0") readerDigest (.ofTables [] [] [])
    (readerRequest (fun _ ↦ "0.0") readerDigest)
  ⟨h.1 [utf8 "text", [0xff]] (by decide),
    (h.2 [readerMaterial _ _] 5 (List.cons_ne_nil _ _) rfl (by decide)).1⟩

end Blackcell.Bootstrap
