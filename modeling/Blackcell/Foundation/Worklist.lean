import Blackcell.Foundation.Checked
import Mathlib.Algebra.BigOperators.Group.Finset.Basic
import Mathlib.Data.List.Basic

/-!
# Worklists

A search that visits what can be reached from a list of pending nodes: it takes a node from the
worklist, passes over it if it was seen, and else appends the nodes that follow it. The nodes that
follow a node are looked up, and the lookup may fail.

## Main definitions

* `Worklist.search` : the search, with the top of the worklist at its head.
* `Worklist.cost` : the number of nodes that follow a node.

## Main results

* `Worklist.sound` : what is closed under the lookup, and holds of the pending nodes, holds of all
  visited nodes.
* `Worklist.complete` : the visited nodes are closed under the lookup, if the search has a step for
  each node that is ever pending.
-/

namespace Worklist

universe u v

variable {α : Type u} {ε : Type v} [DecidableEq α] (next : α → Except ε (List α))

/-- Visit the pending nodes, and what follows them. -/
def search : Nat → List α → List α → Except ε (List α)
  | _, [], seen => .ok seen
  | 0, _ :: _, seen => .ok seen
  | n + 1, a :: pending, seen =>
    if a ∈ seen then search n pending seen
    else
      match next a with
      | .error e => .error e
      | .ok followers => search n (followers.reverse ++ pending) (a :: seen)

/-- The number of nodes that follow a node. -/
def cost (a : α) : Nat :=
  match next a with
  | .ok followers => followers.length
  | .error _ => 0

variable {next} {n : Nat} {pending seen result : List α}

/-- **Soundness.** A property that is passed on from a node to those that follow it holds of all
visited nodes, when it holds of the pending ones and of those seen before. -/
theorem sound (p : α → Prop) (hnext : ∀ a followers, p a → next a = .ok followers → ∀ b ∈ followers, p b)
    (hpending : ∀ a ∈ pending, p a) (hseen : ∀ a ∈ seen, p a)
    (h : search next n pending seen = .ok result) : ∀ a ∈ result, p a := by
  induction n generalizing pending seen with
  | zero =>
    obtain rfl : seen = result := by cases pending <;> simpa [search] using h
    exact hseen
  | succ n ih =>
    cases pending with
    | nil =>
      obtain rfl : seen = result := by simpa [search] using h
      exact hseen
    | cons a pending =>
      obtain ⟨ha, hpending⟩ := List.forall_mem_cons.mp hpending
      rw [search] at h
      split at h
      · exact ih hpending hseen h
      · split at h
        · cases h
        · rename_i followers hfollowers
          refine ih (fun b hb ↦ ?_) (List.forall_mem_cons.mpr ⟨ha, hseen⟩) h
          rcases List.mem_append.mp hb with hb | hb
          · exact hnext a followers ha hfollowers b (List.mem_reverse.mp hb)
          · exact hpending b hb

/-- Visiting a node for the first time takes its cost from what is still to be visited. -/
theorem sum_sdiff_insert {nodes : Finset α} {a : α} (ha : a ∈ nodes) (hseen : a ∉ seen) :
    ∑ b ∈ nodes \ (a :: seen).toFinset, cost next b + cost next a =
      ∑ b ∈ nodes \ seen.toFinset, cost next b := by
  have hmem : a ∈ nodes \ seen.toFinset := by simp [ha, hseen]
  have herase : nodes \ (a :: seen).toFinset = (nodes \ seen.toFinset).erase a := by
    ext b
    simp only [Finset.mem_sdiff, List.mem_toFinset, List.mem_cons, Finset.mem_erase]
    tauto
  rw [herase, Finset.sum_erase_add _ _ hmem]

/-- **Completeness.** The pending nodes are visited, and so is what follows a visited node, when
there are steps for all nodes that are ever pending. -/
theorem complete {nodes : Finset α} (hnext : ∀ a ∈ nodes, ∀ followers, next a = .ok followers →
      ∀ b ∈ followers, b ∈ nodes) (hpending : ∀ a ∈ pending, a ∈ nodes)
    (hclosed : ∀ a ∈ seen, ∃ followers, next a = .ok followers ∧
      ∀ b ∈ followers, b ∈ seen ∨ b ∈ pending)
    (hsteps : pending.length + ∑ a ∈ nodes \ seen.toFinset, cost next a ≤ n)
    (h : search next n pending seen = .ok result) :
    (∀ a ∈ pending, a ∈ result) ∧ (∀ a ∈ seen, a ∈ result) ∧
      ∀ a ∈ result, ∃ followers, next a = .ok followers ∧ ∀ b ∈ followers, b ∈ result := by
  induction n generalizing pending seen with
  | zero =>
    obtain rfl : pending = [] := List.length_eq_zero_iff.mp (by omega)
    obtain rfl : seen = result := by simpa [search] using h
    simpa using hclosed
  | succ n ih =>
    cases pending with
    | nil =>
      obtain rfl : seen = result := by simpa [search] using h
      simpa using hclosed
    | cons a pending =>
      obtain ⟨ha, hpending⟩ := List.forall_mem_cons.mp hpending
      rw [List.length_cons] at hsteps
      rw [search] at h
      split at h
      · rename_i hmem
        -- What follows a seen node may be the node that was passed over.
        have hclosed' : ∀ b ∈ seen, ∃ followers, next b = .ok followers ∧
            ∀ c ∈ followers, c ∈ seen ∨ c ∈ pending := by
          intro b hb
          obtain ⟨followers, hfollowers, hall⟩ := hclosed b hb
          refine ⟨followers, hfollowers, fun c hc ↦ ?_⟩
          rcases hall c hc with hseen | hpending
          · exact .inl hseen
          · rcases List.mem_cons.mp hpending with rfl | hpending
            · exact .inl hmem
            · exact .inr hpending
        obtain ⟨hpend, hseen, hresult⟩ := ih hpending hclosed' (by omega) h
        exact ⟨List.forall_mem_cons.mpr ⟨hseen a hmem, hpend⟩, hseen, hresult⟩
      · rename_i hmem
        split at h
        · cases h
        · rename_i followers hfollowers
          have hcost : cost next a = followers.length := by simp [cost, hfollowers]
          have hsum : ∑ b ∈ nodes \ (a :: seen).toFinset, cost next b + cost next a =
              ∑ b ∈ nodes \ seen.toFinset, cost next b := sum_sdiff_insert ha hmem
          have hpending' : ∀ b ∈ followers.reverse ++ pending, b ∈ nodes := by
            intro b hb
            rcases List.mem_append.mp hb with hb | hb
            · exact hnext a ha followers hfollowers b (List.mem_reverse.mp hb)
            · exact hpending b hb
          have hclosed' : ∀ b ∈ a :: seen, ∃ followers', next b = .ok followers' ∧
              ∀ c ∈ followers', c ∈ a :: seen ∨ c ∈ followers.reverse ++ pending := by
            intro b hb
            rcases List.mem_cons.mp hb with rfl | hb
            · exact ⟨followers, hfollowers, fun c hc ↦ .inr (by simp [hc])⟩
            · obtain ⟨followers', hfollowers', hall⟩ := hclosed b hb
              refine ⟨followers', hfollowers', fun c hc ↦ ?_⟩
              rcases hall c hc with hseen | hpending
              · exact .inl (List.mem_cons_of_mem _ hseen)
              · rcases List.mem_cons.mp hpending with rfl | hpending
                · exact .inl List.mem_cons_self
                · exact .inr (List.mem_append_right _ hpending)
          have hsteps' : (followers.reverse ++ pending).length +
              ∑ b ∈ nodes \ (a :: seen).toFinset, cost next b ≤ n := by
            rw [List.length_append, List.length_reverse]
            omega
          obtain ⟨hpend, hseen, hresult⟩ := ih hpending' hclosed' hsteps' h
          exact ⟨List.forall_mem_cons.mpr ⟨hseen a List.mem_cons_self, fun b hb ↦
            hpend b (List.mem_append_right _ hb)⟩, fun b hb ↦ hseen b (List.mem_cons_of_mem _ hb),
            hresult⟩

end Worklist
