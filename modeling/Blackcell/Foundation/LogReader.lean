import Mathlib.Data.List.Basic

/-!
# Reading a growing log with a cursor

A log that only grows is read in windows of bounded length. The reader keeps the number of entries
that it has passed, its cursor, and goes on behind them. Whatever is appended between two reads, what
was read is exactly the part of the log between the place where the reader started and its cursor.

## Main definitions

* `LogReader.window` : the next entries behind a cursor.
* `LogReader.Exact` : what was read is what lies between the start and the cursor.

## Main results

* `LogReader.Exact.grow` : the log may grow.
* `LogReader.Exact.advance` : reading a window.
* `LogReader.Exact.caughtUp` : a reader at the end of the log has read all of it.
-/

universe u

namespace LogReader

variable {α : Type u} {log log' read : List α} {start cursor n : ℕ}

/-- The next entries behind a cursor, at most `n` of them. -/
def window (log : List α) (cursor n : ℕ) : List α := (log.drop cursor).take n

theorem length_window : (window log cursor n).length = min n (log.length - cursor) := by
  rw [window, List.length_take, List.length_drop]

/-- The entries that were read are those between the start and the cursor. -/
structure Exact (log : List α) (start cursor : ℕ) (read : List α) : Prop where
  between : read = (log.take cursor).drop start
  start_le : start ≤ cursor
  inside : cursor = start ∨ cursor ≤ log.length

/-- A reader that has not moved has read nothing. -/
theorem Exact.initial (log : List α) (start : ℕ) : Exact log start start [] where
  between := by simp
  start_le := Nat.le_refl _
  inside := .inl rfl

/-- The log grows behind the cursor. -/
theorem Exact.grow (h : Exact log start cursor read) (hlog : log <+: log') :
    Exact log' start cursor read := by
  obtain ⟨rest, rfl⟩ := hlog
  rcases h.inside with rfl | hinside
  · exact ⟨h.between.trans (by simp), h.start_le, .inl rfl⟩
  · refine ⟨?_, h.start_le, .inr (by rw [List.length_append]; omega)⟩
    rw [List.take_append_of_le_length hinside]
    exact h.between

/-- A window is read, and the cursor moves behind it. -/
theorem Exact.advance (h : Exact log start cursor read) (n : ℕ) :
    Exact log start (cursor + (window log cursor n).length) (read ++ window log cursor n) := by
  have hstart := h.start_le
  rcases Nat.le_total cursor log.length with hinside | houtside
  · have hwindow : window log cursor n = (log.drop cursor).take (window log cursor n).length := by
      rw [length_window, window]
      exact List.take_eq_take_iff.mpr (by simp)
    refine ⟨?_, Nat.le_trans hstart (Nat.le_add_right _ _), .inr ?_⟩
    · rw [List.take_add, List.drop_append_of_le_length (by rw [List.length_take]; omega), ← h.between,
        ← hwindow]
    · rw [length_window]
      omega
  · have hnothing : window log cursor n = [] := by
      rw [window, List.drop_of_length_le houtside, List.take_nil]
    rw [hnothing, List.append_nil, List.length_nil, Nat.add_zero]
    exact h

/-- A reader at the end of the log has read all that follows its start. -/
theorem Exact.caughtUp (h : Exact log start cursor read) (hend : log.length ≤ cursor) :
    read = log.drop start := by
  rw [h.between, List.take_of_length_le hend]

end LogReader
