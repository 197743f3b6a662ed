import Blackcell.Foundation.Acyclic
import Blackcell.Foundation.Kahn
import Mathlib.Data.List.Chain

/-!
# Topological orders

A list in which each element comes after all of its dependencies. Such an order of all nodes of a
finite graph exists exactly if the graph is acyclic, and Kahn's search finds it. The order decides
which elements are comparable: of two elements that are, the later one depends on the earlier one, so
it is enough to compare neighbours.

## Main definitions

* `IsTopological` : each element comes after its dependencies.
* `WritersOrdered` : a graph without cycles in which any two writing nodes are comparable.
* `Ancestors` : a table that knows the ancestors of some elements.

## Main results

* `IsTopological.isAcyclic` : the elements of an order are on no cycle.
* `Kahn.mem_order` : Kahn's search takes every node of an acyclic graph.
* `Ancestors.extend` : the ancestors of an element are its dependencies and their ancestors.
* `IsTopological.isChain_iff` : neighbours are related exactly if any two elements are.
-/

universe u

open Relation

variable {α : Type u} {dependsOn : α → List α}

/-- An acyclic relation is acyclic against its direction. -/
theorem IsAcyclic.swap {r : α → α → Prop} (h : IsAcyclic r) : IsAcyclic (Function.swap r) :=
  fun a hcycle ↦ h a (transGen_swap.mp hcycle)

/-- The first element names the second one as a dependency. -/
def Needs (dependsOn : α → List α) (a b : α) : Prop := b ∈ dependsOn a

/-- Each element of the list comes after all of its dependencies. -/
def IsTopological (dependsOn : α → List α) (order : List α) : Prop :=
  ∀ pre a post, order = pre ++ a :: post → ∀ d ∈ dependsOn a, d ∈ pre

namespace IsTopological

variable {order : List α}

theorem nil : IsTopological dependsOn [] := by
  intro pre a post h
  simp at h

/-- An order is continued by an element whose dependencies it has. -/
theorem concat (h : IsTopological dependsOn order) {a : α} (ha : ∀ d ∈ dependsOn a, d ∈ order) :
    IsTopological dependsOn (order ++ [a]) := by
  intro pre b post hsplit d hd
  rcases List.eq_nil_or_concat' post with rfl | ⟨post, c, rfl⟩
  · obtain ⟨rfl, hb⟩ := List.append_inj' hsplit rfl
    obtain rfl := List.singleton_inj.mp hb
    exact ha d hd
  · rw [← List.cons_append, ← List.append_assoc] at hsplit
    exact h pre b post (List.append_inj' hsplit rfl).1 d hd

theorem of_append {pre post : List α} (h : IsTopological dependsOn (pre ++ post)) :
    IsTopological dependsOn pre :=
  fun l a r hsplit d hd ↦ h l a (r ++ post) (by rw [hsplit, List.append_assoc, List.cons_append]) d hd

/-- Whatever an element depends on comes before it. -/
theorem mem_of_transGen (h : IsTopological dependsOn order) {a b : α}
    (hab : TransGen (Needs dependsOn) a b) {pre post : List α} (hsplit : order = pre ++ a :: post) :
    b ∈ pre := by
  induction hab with
  | single hd => exact h pre a post hsplit _ hd
  | tail _ hd ih =>
    obtain ⟨l, r, rfl⟩ := List.append_of_mem ih
    rw [List.append_assoc, List.cons_append] at hsplit
    exact List.mem_append_left _ (h l _ _ hsplit _ hd)

/-- **No cycles.** A graph whose nodes have a topological order is acyclic. -/
theorem isAcyclic (h : IsTopological dependsOn order) (hnodup : order.Nodup)
    (hnodes : ∀ a, dependsOn a ≠ [] → a ∈ order) : IsAcyclic (Needs dependsOn) := by
  intro a hcycle
  have hmem : a ∈ order := by
    obtain ⟨b, hb, -⟩ := TransGen.head'_iff.mp hcycle
    exact hnodes a (List.ne_nil_of_mem hb)
  obtain ⟨pre, post, hsplit⟩ := List.append_of_mem hmem
  have hbefore := h.mem_of_transGen hcycle hsplit
  rw [hsplit] at hnodup
  exact (List.nodup_append.mp hnodup).2.2 a hbefore a List.mem_cons_self rfl

/-- No element of an order depends on a later one. -/
theorem pairwise (h : IsTopological dependsOn order) (hnodup : order.Nodup) :
    order.Pairwise fun a b ↦ ¬TransGen (Needs dependsOn) a b := by
  rw [List.pairwise_iff_forall_sublist]
  intro a b hsub hab
  obtain ⟨pre, rest, rfl, ha, hb⟩ := List.append_sublist_iff.mp
    (show List.Sublist ([a] ++ [b]) order from hsub)
  obtain ⟨l, r, rfl⟩ := List.append_of_mem (List.singleton_sublist.mp ha)
  rw [List.append_assoc, List.cons_append] at h hnodup
  have hbefore := h.mem_of_transGen hab rfl
  exact (List.nodup_append.mp hnodup).2.2 b hbefore b
    (List.mem_cons_of_mem _ (List.mem_append_right _ (List.singleton_sublist.mp hb))) rfl

/-- **Neighbours.** Among some elements of an order, each depends on the one before it exactly if any
two of them are comparable. -/
theorem isChain_iff (h : IsTopological dependsOn order) (hnodup : order.Nodup) (p : α → Bool) :
    (order.filter p).IsChain (fun a b ↦ TransGen (Needs dependsOn) b a) ↔
      ∀ a ∈ order, ∀ b ∈ order, p a → p b → a ≠ b →
        TransGen (Needs dependsOn) a b ∨ TransGen (Needs dependsOn) b a := by
  have htrans : IsTrans α fun a b ↦ TransGen (Needs dependsOn) b a :=
    ⟨fun _ _ _ hab hbc ↦ hbc.trans hab⟩
  rw [List.isChain_iff_pairwise]
  constructor
  · intro hpairs a ha b hb hpa hpb hne
    have hsymm : Std.Symm fun a b ↦
        TransGen (Needs dependsOn) a b ∨ TransGen (Needs dependsOn) b a :=
      ⟨fun _ _ ↦ Or.symm⟩
    exact (hpairs.imp fun hab ↦ Or.inr hab).forall (List.mem_filter.mpr ⟨ha, hpa⟩)
      (List.mem_filter.mpr ⟨hb, hpb⟩) hne
  · intro hcomparable
    have hlater := (h.pairwise hnodup).filter p
    have hdistinct : (order.filter p).Pairwise (· ≠ ·) := hnodup.filter p
    refine (hlater.and hdistinct).imp_of_mem fun {a b} ha hb hab ↦ ?_
    obtain ⟨ha, hpa⟩ := List.mem_filter.mp ha
    obtain ⟨hb, hpb⟩ := List.mem_filter.mp hb
    exact (hcomparable a ha b hb hpa hpb hab.2).resolve_left hab.1

end IsTopological

/-! ### Ordered writers -/

/-- A finite graph without cycles in which any two writing nodes are comparable. -/
structure WritersOrdered (r : α → α → Prop) (nodes : List α) (writes : α → Prop) : Prop where
  closed : ∀ a b, r a b → b ∈ nodes
  acyclic : IsAcyclic r
  comparable : ∀ a ∈ nodes, ∀ b ∈ nodes, writes a → writes b → a ≠ b → TransGen r a b ∨ TransGen r b a

/-! ### Tables of ancestors -/

/-- The table knows the ancestors of the given elements. -/
def Ancestors [BEq α] (dependsOn : α → List α) (table : List (α × List α)) (known : List α) : Prop :=
  ∀ a ∈ known, ∃ l, table.lookup a = some l ∧ ∀ b, b ∈ l ↔ TransGen (Needs dependsOn) a b

namespace Ancestors

variable [BEq α] {table : List (α × List α)} {known : List α}

theorem nil : Ancestors dependsOn table [] := nofun

/-- The ancestors of an element whose dependencies are known. -/
theorem mem_iff (h : Ancestors dependsOn table known) {a : α} (ha : ∀ d ∈ dependsOn a, d ∈ known)
    {b : α} : (b ∈ dependsOn a ∨ ∃ d ∈ dependsOn a, ∃ l, table.lookup d = some l ∧ b ∈ l) ↔
      TransGen (Needs dependsOn) a b := by
  constructor
  · rintro (hb | ⟨d, hd, l, hl, hb⟩)
    · exact .single hb
    · obtain ⟨l', hl', hmem⟩ := h d (ha d hd)
      obtain rfl := Option.some.inj (hl.symm.trans hl')
      exact .head hd ((hmem b).mp hb)
  · intro hab
    obtain ⟨d, hd, hdb⟩ := TransGen.head'_iff.mp hab
    rcases reflTransGen_iff_eq_or_transGen.mp hdb with rfl | hdb
    · exact .inl hd
    · obtain ⟨l, hl, hmem⟩ := h d (ha d hd)
      exact .inr ⟨d, hd, l, hl, (hmem b).mpr hdb⟩

/-- **Tables.** A table that keeps what it knows and adds the ancestors of one more element. -/
theorem extend (h : Ancestors dependsOn table known) {a : α} {table' : List (α × List α)}
    {l : List α} (hkeep : ∀ b ∈ known, table'.lookup b = table.lookup b)
    (hnew : table'.lookup a = some l)
    (hl : ∀ b, b ∈ l ↔ TransGen (Needs dependsOn) a b) :
    Ancestors dependsOn table' (known ++ [a]) := by
  intro b hb
  rcases List.mem_append.mp hb with hb | hb
  · rw [hkeep b hb]
    exact h b hb
  · obtain rfl := List.mem_singleton.mp hb
    exact ⟨l, hnew, hl⟩

end Ancestors

/-! ### Kahn's search -/

namespace Kahn

section

variable [LinearOrder α] {nodes : List α} {s : State α} {taken : List α}

/-- A node without remaining dependencies was taken or is ready. -/
def Complete (nodes : List α) (s : State α) (taken : List α) : Prop :=
  ∀ a ∈ nodes, s.remaining a = 0 → a ∈ taken ++ s.ready

theorem complete_initial : Complete nodes (initial nodes dependsOn) [] := by
  intro a ha hzero
  simpa [initial, ha] using hzero

/-- The dependencies of a node that is ready were taken. -/
theorem Valid.mem_taken (h : Valid nodes dependsOn s taken) {a : α} (ha : a ∈ s.ready) :
    ∀ d ∈ dependsOn a, d ∈ taken := by
  have hmem : a ∈ taken ++ s.ready := List.mem_append_right _ ha
  have hzero := (h.count a (h.subset a hmem)).symm.trans (h.zero a hmem)
  have hempty : (dependsOn a).filter (· ∉ taken) = [] := List.length_eq_zero_iff.mp (by omega)
  intro d hd
  by_contra hnew
  have hfilter : d ∈ (dependsOn a).filter (· ∉ taken) := by simp [hd, hnew]
  rw [hempty] at hfilter
  cases hfilter

/-- A round loses no node. -/
theorem Complete.round (h : Complete nodes s taken) (hnodes : nodes.Nodup)
    (hdeps : ∀ b ∈ nodes, (dependsOn b).Nodup) {a : α} {ready : List α}
    (hready : s.ready = a :: ready) :
    Complete nodes (((dependents nodes dependsOn a).insertionSort (· ≤ ·)).foldl settle
      { s with ready := ready }) (taken ++ [a]) := by
  have hnodup : ((dependents nodes dependsOn a).insertionSort (· ≤ ·)).Nodup :=
    (List.perm_insertionSort _ _).nodup_iff.mpr (nodup_dependents hnodes hdeps)
  obtain ⟨hremaining, hadded⟩ := foldl_settle (s := { s with ready := ready }) hnodup
  intro c hc hzero
  rw [hremaining] at hzero
  rw [List.mem_append, hadded.mem_iff, List.mem_append (s := ready), List.mem_filter]
  by_cases hdependent : c ∈ (dependents nodes dependsOn a).insertionSort (· ≤ ·)
  · rw [if_pos hdependent] at hzero
    exact .inr (.inr ⟨hdependent, decide_eq_true (by omega)⟩)
  · rw [if_neg hdependent, Int.sub_zero] at hzero
    have hold := h c hc hzero
    rw [hready] at hold
    simp only [List.mem_append, List.mem_cons, List.not_mem_nil, or_false] at hold ⊢
    tauto

/-- The rounds keep the order topological. -/
theorem isTopological_rounds {n : Nat} (h : Valid nodes dependsOn s taken)
    (htaken : IsTopological dependsOn taken) (hnodes : nodes.Nodup)
    (hdeps : ∀ b ∈ nodes, (dependsOn b).Nodup) :
    IsTopological dependsOn (rounds nodes dependsOn n s taken) := by
  induction n generalizing s taken with
  | zero => exact htaken
  | succ n ih =>
    rw [Kahn.rounds]
    split
    · exact htaken
    · rename_i a ready hready
      exact ih (h.round hnodes hdeps hready)
        (htaken.concat (h.mem_taken (hready ▸ List.mem_cons_self)))

/-- **The search finds an order.** -/
theorem isTopological_order (hnodes : nodes.Nodup) (hdeps : ∀ b ∈ nodes, (dependsOn b).Nodup) :
    IsTopological dependsOn (order nodes dependsOn) :=
  isTopological_rounds (valid_initial hnodes) .nil hnodes hdeps

theorem nodup_order (hnodes : nodes.Nodup) (hdeps : ∀ b ∈ nodes, (dependsOn b).Nodup) :
    (order nodes dependsOn).Nodup :=
  ((valid_initial hnodes).rounds hnodes hdeps).1

theorem subset_order (hnodes : nodes.Nodup) (hdeps : ∀ b ∈ nodes, (dependsOn b).Nodup) :
    ∀ a ∈ order nodes dependsOn, a ∈ nodes :=
  ((valid_initial hnodes).rounds hnodes hdeps).2

/-- The rounds end with all nodes, when there are enough of them and the graph is acyclic. -/
theorem mem_rounds {n : Nat} (h : Valid nodes dependsOn s taken) (hcomplete : Complete nodes s taken)
    (hnodes : nodes.Nodup) (hdeps : ∀ b ∈ nodes, (dependsOn b).Nodup)
    (hclosed : ∀ b ∈ nodes, ∀ d ∈ dependsOn b, d ∈ nodes)
    (hacyclic : IsAcyclic (Needs dependsOn)) (hn : nodes.length ≤ taken.length + n) :
    ∀ a ∈ nodes, a ∈ rounds nodes dependsOn n s taken := by
  induction n generalizing s taken with
  | zero =>
    have hnodup := (List.nodup_append.mp h.nodup).1
    have hsubset : ∀ a ∈ taken, a ∈ nodes := fun a ha ↦ h.subset a (List.mem_append_left _ ha)
    have hperm := (List.subperm_of_subset hnodup hsubset).perm_of_length_le hn
    exact fun a ha ↦ hperm.mem_iff.mpr ha
  | succ n ih =>
    rw [Kahn.rounds]
    split
    · rename_i hready
      -- A first node that was not taken would be ready.
      intro a ha
      by_contra hnew
      obtain ⟨m, hm, hmissing, hfirst⟩ :=
        hacyclic.swap.exists_minimal nodes (· ∉ taken) ⟨a, ha, hnew⟩
      have hempty : (dependsOn m).filter (· ∉ taken) = [] := by
        rw [List.filter_eq_nil_iff]
        intro d hd
        simpa using hfirst d (hclosed m hm d hd) hd
      have hzero : s.remaining m = 0 := by rw [h.count m hm, hempty]; rfl
      have hmem := hcomplete m hm hzero
      rw [hready, List.append_nil] at hmem
      exact hmissing hmem
    · rename_i a ready hready
      refine ih (h.round hnodes hdeps hready) (hcomplete.round hnodes hdeps hready) ?_
      rw [List.length_append, List.length_singleton]
      omega

/-- **Acyclic graphs.** The search takes every node of an acyclic graph. -/
theorem mem_order (hnodes : nodes.Nodup) (hdeps : ∀ b ∈ nodes, (dependsOn b).Nodup)
    (hclosed : ∀ b ∈ nodes, ∀ d ∈ dependsOn b, d ∈ nodes)
    (hacyclic : IsAcyclic (Needs dependsOn)) : ∀ a ∈ nodes, a ∈ order nodes dependsOn :=
  mem_rounds (valid_initial hnodes) complete_initial hnodes hdeps hclosed hacyclic (by simp)

end

end Kahn
