import Mathlib.Data.List.Sort
import Mathlib.Data.List.Nodup
import Mathlib.Data.List.Perm.Subperm
import Mathlib.Logic.Function.Basic

/-!
# Kahn's order

The order of the nodes of a finite graph in which each node is taken when all of its dependencies
have been taken. A counter for each node says how many of its dependencies are still to be taken;
the nodes whose counter is zero are ready, in sorted order. The search ends when no node is ready,
and the graph has a cycle exactly if it ends early.

## Main definitions

* `Kahn.State`, `Kahn.settle`, `Kahn.rounds` : the counters and the ready nodes, one dependent, and
  the search.
* `Kahn.order` : the nodes in the order in which they are taken.

## Main results

* `Kahn.rounds_enough` : there are at most as many rounds as nodes.
* `Kahn.mem_order_of_length` : an order with as many elements as there are nodes has all of them.
-/

namespace Kahn

universe u

variable {α : Type u} [LinearOrder α]

/-- The counters, and the nodes that are ready. -/
structure State (α : Type u) where
  remaining : α → Int
  ready : List α

/-- One dependency of a node has been taken. -/
def settle (s : State α) (b : α) : State α where
  remaining := Function.update s.remaining b (s.remaining b - 1)
  ready := if s.remaining b - 1 = 0 then (s.ready ++ [b]).insertionSort (· ≤ ·) else s.ready

section

variable (nodes : List α) (dependsOn : α → List α)

/-- The nodes that depend on a node, once for each time that they name it. -/
def dependents (a : α) : List α :=
  nodes.flatMap fun b ↦ ((dependsOn b).filter (· = a)).map fun _ ↦ b

/-- The rounds of the search: each takes the first node that is ready. -/
def rounds : Nat → State α → List α → List α
  | 0, _, taken => taken
  | n + 1, s, taken =>
    match s.ready with
    | [] => taken
    | a :: ready =>
      rounds n (((dependents nodes dependsOn a).insertionSort (· ≤ ·)).foldl settle
        { s with ready := ready }) (taken ++ [a])

/-- The state before the first round. -/
def initial : State α where
  remaining a := (dependsOn a).length
  ready := (nodes.filter fun a ↦ (dependsOn a).length = 0).insertionSort (· ≤ ·)

/-- The nodes in the order in which they are taken. -/
def order : List α := rounds nodes dependsOn nodes.length (initial nodes dependsOn) []

end

/-! ### Counters -/

section

variable {nodes : List α} {dependsOn : α → List α} {s : State α} {taken : List α} {a b : α}

theorem mem_dependents : b ∈ dependents nodes dependsOn a ↔ b ∈ nodes ∧ a ∈ dependsOn b := by
  simp only [dependents, List.mem_flatMap, List.mem_map, List.mem_filter, decide_eq_true_eq]
  constructor
  · rintro ⟨c, hc, d, ⟨hd, rfl⟩, rfl⟩
    exact ⟨hc, hd⟩
  · rintro ⟨hb, ha⟩
    exact ⟨b, hb, a, ⟨ha, rfl⟩, rfl⟩

theorem nodup_dependents (hnodes : nodes.Nodup) (hdeps : ∀ b ∈ nodes, (dependsOn b).Nodup) :
    (dependents nodes dependsOn a).Nodup := by
  refine List.nodup_flatMap.mpr ⟨fun b hb ↦ ?_, hnodes.imp fun hne ↦ ?_⟩
  · -- A node names a dependency at most once.
    rw [List.map_const', List.nodup_replicate, ← List.countP_eq_length_filter]
    exact List.nodup_iff_count_le_one.mp (hdeps b hb) a
  · intro c hc hc'
    obtain ⟨-, -, rfl⟩ := List.mem_map.mp hc
    obtain ⟨-, -, rfl⟩ := List.mem_map.mp hc'
    exact hne rfl

/-- The counters and the ready nodes after each of the given nodes was settled once. -/
theorem foldl_settle {bs : List α} (hbs : bs.Nodup) :
    (∀ c, (bs.foldl settle s).remaining c = s.remaining c - if c ∈ bs then 1 else 0) ∧
      (bs.foldl settle s).ready.Perm (s.ready ++ bs.filter fun c ↦ s.remaining c = 1) := by
  induction bs generalizing s with
  | nil => simp
  | cons b bs ih =>
    obtain ⟨hb, hbs⟩ := List.nodup_cons.mp hbs
    obtain ⟨hremaining, hready⟩ := ih (s := settle s b) hbs
    have hother : ∀ c ∈ bs, (settle s b).remaining c = s.remaining c := by
      intro c hc
      have hne : c ≠ b := fun h ↦ hb (h ▸ hc)
      simp [settle, Function.update_of_ne hne]
    refine ⟨fun c ↦ ?_, ?_⟩
    · rw [List.foldl_cons, hremaining]
      by_cases hc : c = b
      · subst hc
        simp [settle, hb]
      · simp [settle, hc]
    · rw [List.foldl_cons]
      refine hready.trans ?_
      have hfilter : (bs.filter fun c ↦ (settle s b).remaining c = 1) =
          bs.filter fun c ↦ s.remaining c = 1 :=
        List.filter_congr fun c hc ↦ by rw [hother c hc]
      rw [hfilter, List.filter_cons]
      by_cases hone : s.remaining b = 1
      · have hsettled : (settle s b).ready.Perm (s.ready ++ [b]) := by
          have hzero : s.remaining b - 1 = 0 := by omega
          rw [settle, if_pos hzero]
          exact List.perm_insertionSort _ _
        simpa [hone] using hsettled.append_right (bs.filter fun c ↦ decide (s.remaining c = 1))
      · have hkeep : (settle s b).ready = s.ready := by
          have hne : s.remaining b - 1 ≠ 0 := by omega
          simp [settle, hne]
        simp [hkeep, hone]

/-! ### The invariant of the search -/

/-- **The search.** The nodes that were taken or are ready are distinct; each counter says how many
dependencies are still to be taken, and is zero for these nodes. -/
structure Valid (nodes : List α) (dependsOn : α → List α) (s : State α) (taken : List α) : Prop where
  nodup : (taken ++ s.ready).Nodup
  subset : ∀ a ∈ taken ++ s.ready, a ∈ nodes
  count : ∀ a ∈ nodes, s.remaining a = ((dependsOn a).filter (· ∉ taken)).length
  zero : ∀ a ∈ taken ++ s.ready, s.remaining a = 0

theorem valid_initial (hnodes : nodes.Nodup) :
    Valid nodes dependsOn (initial nodes dependsOn) [] where
  nodup := (List.perm_insertionSort _ _).nodup_iff.mpr (hnodes.filter _)
  subset a ha := (List.mem_filter.mp ((List.mem_insertionSort _).mp ha)).1
  count a _ := by simp [initial]
  zero a ha := by
    have hlength := (List.mem_filter.mp ((List.mem_insertionSort _).mp ha)).2
    simpa [initial] using hlength

/-- Taking one of the dependencies of a node leaves one less. -/
theorem length_filter_taken (hdeps : (dependsOn b).Nodup) (ha : a ∉ taken) :
    (((dependsOn b).filter (· ∉ taken ++ [a])).length : Int) =
      ((dependsOn b).filter (· ∉ taken)).length - if a ∈ dependsOn b then 1 else 0 := by
  have herase : (dependsOn b).filter (· ∉ taken ++ [a]) =
      ((dependsOn b).filter (· ∉ taken)).erase a := by
    rw [(hdeps.filter _).erase_eq_filter, List.filter_filter]
    refine List.filter_congr fun c _ ↦ ?_
    by_cases hc : c = a <;> simp [hc]
  rw [herase, List.length_erase]
  by_cases hmem : a ∈ dependsOn b
  · have hfilter : a ∈ (dependsOn b).filter (· ∉ taken) := by simp [hmem, ha]
    have hpos := List.length_pos_of_mem hfilter
    rw [if_pos hfilter, if_pos hmem]
    omega
  · have hfilter : a ∉ (dependsOn b).filter (· ∉ taken) := by simp [hmem]
    rw [if_neg hfilter, if_neg hmem]
    omega

/-- A round keeps the invariant. -/
theorem Valid.round (h : Valid nodes dependsOn s taken) (hnodes : nodes.Nodup)
    (hdeps : ∀ b ∈ nodes, (dependsOn b).Nodup) {ready : List α} (hready : s.ready = a :: ready) :
    Valid nodes dependsOn (((dependents nodes dependsOn a).insertionSort (· ≤ ·)).foldl settle
      { s with ready := ready }) (taken ++ [a]) := by
  set bs := (dependents nodes dependsOn a).insertionSort (· ≤ ·)
  have hperm : bs.Perm (dependents nodes dependsOn a) := List.perm_insertionSort _ _
  have hnodup : bs.Nodup := hperm.nodup_iff.mpr (nodup_dependents hnodes hdeps)
  have hmem : ∀ c, c ∈ bs ↔ c ∈ nodes ∧ a ∈ dependsOn c := fun c ↦
    hperm.mem_iff.trans mem_dependents
  obtain ⟨hremaining, hadded⟩ := foldl_settle (s := { s with ready := ready }) hnodup
  have hnew : a ∉ taken := fun ha ↦
    (List.nodup_append.mp h.nodup).2.2 a ha a (by simp [hready]) rfl
  -- A node that was taken or is ready has no dependency left, so it does not depend on `a`.
  have hsettled : ∀ c ∈ taken ++ s.ready, c ∉ bs := by
    intro c hc hcs
    have hzero := (h.count c (h.subset c hc)).symm.trans (h.zero c hc)
    have hempty : (dependsOn c).filter (· ∉ taken) = [] := List.length_eq_zero_iff.mp (by omega)
    have hfilter : a ∈ (dependsOn c).filter (· ∉ taken) := by simp [((hmem c).mp hcs).2, hnew]
    rw [hempty] at hfilter
    cases hfilter
  have hsplit : ((taken ++ [a]) ++ (bs.foldl settle { s with ready := ready }).ready).Perm
      ((taken ++ s.ready) ++ bs.filter fun c ↦ s.remaining c = 1) := by
    refine (hadded.append_left _).trans (.of_eq ?_)
    simp [hready]
  refine ⟨hsplit.nodup_iff.mpr (List.nodup_append.mpr ⟨h.nodup, hnodup.filter _, ?_⟩),
    fun c hc ↦ ?_, fun c hc ↦ ?_, fun c hc ↦ ?_⟩
  · rintro c hc _ hc' rfl
    exact hsettled c hc (List.mem_filter.mp hc').1
  · rcases List.mem_append.mp (hsplit.mem_iff.mp hc) with hc | hc
    · exact h.subset c hc
    · exact ((hmem c).mp (List.mem_filter.mp hc).1).1
  · rw [hremaining, length_filter_taken (hdeps c hc) hnew, ← h.count c hc]
    simp [hmem, hc]
  · rw [hremaining]
    rcases List.mem_append.mp (hsplit.mem_iff.mp hc) with hc | hc
    · simp [h.zero c hc, hsettled c hc]
    · obtain ⟨hcs, hone⟩ := List.mem_filter.mp hc
      simp_all

/-! ### The order -/

/-- The rounds keep the nodes that were taken distinct. -/
theorem Valid.rounds {n : Nat} (h : Valid nodes dependsOn s taken) (hnodes : nodes.Nodup)
    (hdeps : ∀ b ∈ nodes, (dependsOn b).Nodup) :
    (rounds nodes dependsOn n s taken).Nodup ∧
      ∀ a ∈ rounds nodes dependsOn n s taken, a ∈ nodes := by
  induction n generalizing s taken with
  | zero =>
    exact ⟨(List.nodup_append.mp h.nodup).1, fun a ha ↦ h.subset a (List.mem_append_left _ ha)⟩
  | succ n ih =>
    rw [Kahn.rounds]
    split
    · exact ⟨(List.nodup_append.mp h.nodup).1, fun a ha ↦ h.subset a (List.mem_append_left _ ha)⟩
    · rename_i a ready hready
      exact ih (h.round hnodes hdeps hready)

/-- **Enough rounds.** When there are as many rounds as nodes that were not taken, further rounds
change nothing. -/
theorem rounds_enough {n : Nat} (h : Valid nodes dependsOn s taken) (hnodes : nodes.Nodup)
    (hdeps : ∀ b ∈ nodes, (dependsOn b).Nodup) (hn : nodes.length ≤ taken.length + n) :
    rounds nodes dependsOn (n + 1) s taken = rounds nodes dependsOn n s taken := by
  induction n generalizing s taken with
  | zero =>
    have hlength := (List.subperm_of_subset h.nodup h.subset).length_le
    have hready : s.ready = [] := List.length_eq_zero_iff.mp (by
      rw [List.length_append] at hlength
      omega)
    simp [Kahn.rounds, hready]
  | succ n ih =>
    rw [Kahn.rounds, Kahn.rounds]
    split
    · rfl
    · rename_i a ready hready
      refine ih (h.round hnodes hdeps hready) ?_
      rw [List.length_append, List.length_singleton]
      omega

/-- **Complete orders.** The order of all nodes has each of them. -/
theorem mem_order_of_length (hnodes : nodes.Nodup) (hdeps : ∀ b ∈ nodes, (dependsOn b).Nodup)
    (hlength : (order nodes dependsOn).length = nodes.length) (ha : a ∈ nodes) :
    a ∈ order nodes dependsOn := by
  obtain ⟨hnodup, hsubset⟩ := (valid_initial hnodes).rounds (n := nodes.length) hnodes hdeps
  have hperm := (List.subperm_of_subset hnodup hsubset).perm_of_length_le hlength.ge
  exact hperm.mem_iff.mpr ha

end

end Kahn
