import Mathlib.Data.List.Basic
import Mathlib.Data.List.Nodup

/-!
# Records

A sequence of records is written as one list by writing a terminator after each of them. The records
can be read back if none of them contains the terminator, and what can be read was written so.

## Main definitions

* `Records.terminate` : records, each followed by the terminator.
* `Records.terminated?` : the records of a list.
* `Records.cut?` : what stands before and after the first separator of a list.

## Main results

* `Records.splitOn_eq_iff` : the parts of a list are what was joined, without the separator.
* `Records.terminated?_eq_some` : exactly the terminated records are read.
* `Records.terminate_inj` : terminated records can be told apart.
-/

namespace Records

universe u

variable {α : Type u} {sep : α} {l front back : List α} {records : List (List α)}

/-! ### Parts -/

section Parts

variable [DecidableEq α]

/-- The parts of a list do not contain the separator. -/
theorem notMem_of_mem_splitOn {r : List α} (h : r ∈ l.splitOn sep) : sep ∉ r := by
  induction l generalizing r with
  | nil =>
    rw [List.splitOn_nil, List.mem_singleton] at h
    rw [h]
    exact List.not_mem_nil
  | cons a l ih =>
    rw [List.splitOn_cons_eq_if_modifyHead] at h
    split at h
    · rcases List.mem_cons.mp h with rfl | h
      · exact List.not_mem_nil
      · exact ih h
    · rename_i hne
      obtain ⟨head, tail, hsplit⟩ := List.exists_cons_of_ne_nil (List.splitOn_ne_nil sep l)
      rw [hsplit, List.modifyHead_cons] at h
      rcases List.mem_cons.mp h with rfl | h
      · rw [List.mem_cons, not_or]
        exact ⟨fun heq ↦ hne (beq_iff_eq.mpr heq.symm), ih (hsplit ▸ List.mem_cons_self)⟩
      · exact ih (hsplit ▸ List.mem_cons_of_mem _ h)

/-- **Parts.** The parts of a list are what was joined to it, without the separator. -/
theorem splitOn_eq_iff : l.splitOn sep = records ↔
    records ≠ [] ∧ [sep].intercalate records = l ∧ ∀ r ∈ records, sep ∉ r := by
  constructor
  · rintro rfl
    exact ⟨List.splitOn_ne_nil _ _, List.intercalate_splitOn _, fun _ ↦ notMem_of_mem_splitOn⟩
  · rintro ⟨hne, rfl, hmem⟩
    exact List.splitOn_intercalate _ hmem hne

end Parts

/-! ### Terminated records -/

/-- Records, each followed by the terminator. -/
def terminate (sep : α) (records : List (List α)) : List α := records.flatMap (· ++ [sep])

@[simp] theorem terminate_nil : terminate sep [] = [] := rfl

@[simp] theorem terminate_cons (r : List α) :
    terminate sep (r :: records) = r ++ sep :: terminate sep records := by
  simp [terminate]

/-- Terminated records are joined records with a terminator at the end. -/
theorem terminate_eq_intercalate (h : records ≠ []) :
    terminate sep records = [sep].intercalate records ++ [sep] := by
  induction records with
  | nil => exact absurd rfl h
  | cons r records ih =>
    cases records with
    | nil => simp
    | cons r' records =>
      rw [terminate_cons, ih (List.cons_ne_nil _ _), List.intercalate_cons_cons]
      simp

variable [DecidableEq α]

/-- The records of a list that ends in a terminator, or is empty. -/
def terminated? (sep : α) (payload : List α) : Option (List (List α)) :=
  if payload = [] then some []
  else if payload.getLast? = some sep then some (payload.dropLast.splitOn sep)
  else none

/-- **Records.** Exactly the terminated records are read, which do not contain the terminator. -/
theorem terminated?_eq_some {payload : List α} : terminated? sep payload = some records ↔
    payload = terminate sep records ∧ ∀ r ∈ records, sep ∉ r := by
  unfold terminated?
  split
  · rename_i hnil
    rw [Option.some.injEq, hnil]
    constructor
    · rintro rfl
      simp
    · rintro ⟨heq, -⟩
      cases records with
      | nil => rfl
      | cons r records => simp at heq
  · rename_i hne
    split
    · rename_i hlast
      obtain ⟨init, rfl⟩ := List.getLast?_eq_some_iff.mp hlast
      rw [Option.some.injEq, List.dropLast_concat, splitOn_eq_iff]
      constructor
      · rintro ⟨hrecords, hjoin, hmem⟩
        exact ⟨by rw [terminate_eq_intercalate hrecords, hjoin], hmem⟩
      · rintro ⟨heq, hmem⟩
        have hrecords : records ≠ [] := by
          rintro rfl
          simp at heq
        rw [terminate_eq_intercalate hrecords] at heq
        exact ⟨hrecords, (List.append_cancel_right heq).symm, hmem⟩
    · rename_i hlast
      refine ⟨nofun, fun ⟨heq, _⟩ ↦ absurd ?_ hlast⟩
      have hrecords : records ≠ [] := by
        rintro rfl
        exact hne heq
      rw [heq, terminate_eq_intercalate hrecords, List.getLast?_concat]

/-- Terminated records can be told apart. -/
theorem terminate_inj {records' : List (List α)} (h : ∀ r ∈ records, sep ∉ r)
    (h' : ∀ r ∈ records', sep ∉ r) :
    terminate sep records = terminate sep records' ↔ records = records' := by
  refine ⟨fun heq ↦ ?_, congrArg _⟩
  have hread := terminated?_eq_some.mpr ⟨heq, h'⟩
  exact Option.some.inj ((terminated?_eq_some.mpr ⟨rfl, h⟩).symm.trans hread)

/-! ### The first separator -/

/-- What stands before and after the first separator. -/
def cut? (sep : α) : List α → Option (List α × List α)
  | [] => none
  | a :: l => if a = sep then some ([], l) else (cut? sep l).map (Prod.map (a :: ·) id)

/-- A list is cut at its first separator. -/
theorem cut?_eq_some : cut? sep l = some (front, back) ↔ l = front ++ sep :: back ∧ sep ∉ front := by
  induction l generalizing front with
  | nil => simp [cut?]
  | cons a l ih =>
    rw [cut?]
    split
    · rename_i heq
      subst heq
      cases front with
      | nil => simp
      | cons b front =>
        simp only [Option.some.injEq, Prod.mk.injEq, reduceCtorEq, false_and, false_iff]
        rintro ⟨heq, hmem⟩
        exact hmem ((List.cons.inj heq).1 ▸ List.mem_cons_self)
    · rename_i hne
      cases front with
      | nil => simp [hne]
      | cons b front =>
        simp only [Option.map_eq_some_iff, Prod.exists, Prod.map_apply, id, Prod.mk.injEq,
          List.cons.injEq, List.cons_append, List.mem_cons, not_or]
        constructor
        · rintro ⟨front', back', hcut, ⟨rfl, rfl⟩, rfl⟩
          obtain ⟨hl, hmem⟩ := ih.mp hcut
          exact ⟨⟨rfl, hl⟩, Ne.symm hne, hmem⟩
        · rintro ⟨⟨rfl, hl⟩, -, hmem⟩
          exact ⟨front, back, ih.mpr ⟨hl, hmem⟩, ⟨rfl, rfl⟩, rfl⟩

end Records
