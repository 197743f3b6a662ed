import Mathlib.Data.List.Basic
import Mathlib.Algebra.Order.Group.Int

/-!
# Consecutive numbers

A list of numbers that counts upwards from a given number without a gap, as the sequence numbers
of a log do.

## Main definitions

* `Consecutive n xs` : the list is `n + 1, n + 2, …`.

## Main results

* `consecutive_append` : where a list of consecutive numbers can be cut.
* `consecutive_iff` : such a list is determined by its first number and its length.
* `consecutive_map_iff` : each element has the number of its place.
-/

/-- The numbers that follow `n`, in order and without a gap. -/
def Consecutive : Int → List Int → Prop
  | _, [] => True
  | n, x :: xs => x = n + 1 ∧ Consecutive (n + 1) xs

@[simp] theorem consecutive_nil (n : Int) : Consecutive n [] := trivial

@[simp] theorem consecutive_cons {n x : Int} {xs : List Int} :
    Consecutive n (x :: xs) ↔ x = n + 1 ∧ Consecutive (n + 1) xs :=
  Iff.rfl

/-- The second part of a list goes on where the first one ends. -/
theorem consecutive_append {n : Int} {xs ys : List Int} :
    Consecutive n (xs ++ ys) ↔ Consecutive n xs ∧ Consecutive (n + xs.length) ys := by
  induction xs generalizing n with
  | nil => simp
  | cons x xs ih =>
    have hlength : n + 1 + (xs.length : Int) = n + (x :: xs).length := by
      rw [List.length_cons]
      push_cast
      omega
    rw [List.cons_append, consecutive_cons, consecutive_cons, ih, and_assoc, hlength]

/-- The numbers are determined by the first one and their count. -/
theorem consecutive_iff {n : Int} {xs : List Int} :
    Consecutive n xs ↔ xs = (List.range xs.length).map fun i : ℕ ↦ n + 1 + i := by
  induction xs generalizing n with
  | nil => simp
  | cons x xs ih =>
    have hshift (i : ℕ) : n + 1 + ((i + 1 : ℕ) : Int) = n + 1 + 1 + i := by
      push_cast
      omega
    rw [consecutive_cons, ih, List.length_cons, List.range_succ_eq_map, List.map_cons, List.map_map,
      List.cons_eq_cons]
    simp only [Function.comp_def, Nat.succ_eq_add_one, hshift, Int.natCast_zero, add_zero]

/-- A list is numbered consecutively when each of its elements has the number of its place. -/
theorem consecutive_map_iff {α : Type*} {n : Int} {l : List α} {f : α → Int} {k : ℕ} :
    Consecutive (n + k) (l.map f) ↔ ∀ p ∈ l.zipIdx k, f p.1 = n + 1 + p.2 := by
  induction l generalizing k with
  | nil => simp
  | cons a l ih =>
    have hk : n + (k : Int) + 1 = n + ((k + 1 : ℕ) : Int) := by
      push_cast
      omega
    have hk' : n + 1 + (k : Int) = n + ((k + 1 : ℕ) : Int) := by
      push_cast
      omega
    rw [List.map_cons, consecutive_cons, hk, ih, List.zipIdx_cons, List.forall_mem_cons, hk']

/-- A later number of the list is greater. -/
theorem Consecutive.pairwise_lt {n : Int} {xs : List Int} (h : Consecutive n xs) :
    xs.Pairwise (· < ·) := by
  rw [consecutive_iff.mp h, List.pairwise_map]
  exact List.pairwise_lt_range.imp fun hij ↦ by omega
