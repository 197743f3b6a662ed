import Blackcell.Foundation.Checked

/-!
# Failures of a kind

A boundary turns what goes wrong behind it into errors of its own, and what it does not catch
escapes. Whether a computation fails with an error of some kind is read off its parts: a sequence
fails that way if its head does, or if its tail does behind what the head returns; a traversal fails
at the first element that does not pass.

## Main definitions

* `Checked.Fails` : a computation fails with an error of some kind.

## Main results

* `Checked.fails_bind`, `Checked.fails_mapM`, `Checked.fails_forEach` : sequences and traversals.
* `Checked.not_fails_iff` : a computation that does not fail with an error of a kind.
-/

namespace Checked

universe u v

variable {ε : Type u} {α β : Type v} {p : ε → Prop}

/-- A computation fails with an error of some kind. -/
def Fails (p : ε → Prop) (x : Except ε α) : Prop := ∃ e, p e ∧ x = .error e

@[simp] theorem fails_ok {a : α} : Fails p (.ok a : Except ε α) ↔ False := by
  simp [Fails]

@[simp] theorem fails_pure {a : α} : Fails p (pure a : Except ε α) ↔ False := fails_ok

@[simp] theorem fails_error {e : ε} : Fails p (.error e : Except ε α) ↔ p e := by
  simp [Fails]

@[simp] theorem fails_throw {e : ε} : Fails p (throw e : Except ε α) ↔ p e := fails_error

/-- **Sequences.** A sequence fails where its head fails, or behind what its head returns. -/
theorem fails_bind {x : Except ε α} {f : α → Except ε β} :
    Fails p (x >>= f) ↔ Fails p x ∨ ∃ a, x = .ok a ∧ Fails p (f a) := by
  cases x <;> simp

theorem fails_map {x : Except ε α} {f : α → β} : Fails p (f <$> x) ↔ Fails p x := by
  cases x with
  | ok a => exact iff_of_false (by simp [Fails, Functor.map, Except.map]) (by simp)
  | error e => exact fails_error.trans fails_error.symm

theorem fails_mapError {ε' : Type*} {p : ε' → Prop} {x : Except ε α} {f : ε → ε'} :
    Fails p (x.mapError f) ↔ Fails (fun e ↦ p (f e)) x := by
  cases x <;> simp [Except.mapError]

theorem fails_require {q : Prop} [Decidable q] {e : ε} : Fails p (require q e) ↔ ¬q ∧ p e := by
  unfold require
  split <;> simp_all

theorem fails_ofOption {x : Option α} {e : ε} : Fails p (ofOption x e) ↔ x = none ∧ p e := by
  cases x <;> simp [ofOption]

theorem fails_ite {q : Prop} [Decidable q] {x y : Except ε α} :
    Fails p (if q then x else y) ↔ (q ∧ Fails p x) ∨ (¬q ∧ Fails p y) := by
  split <;> simp_all

/-- An accepted traversal accepts each element. -/
theorem exists_ok_of_mem_mapM {γ : Type*} {f : γ → Except ε α} {l : List γ} {r : List α} {c : γ}
    (h : l.mapM f = .ok r) (hc : c ∈ l) : ∃ a, f c = .ok a := by
  rw [mapM_eq_ok] at h
  induction h with
  | nil => cases hc
  | cons ha _ ih =>
    rcases List.mem_cons.mp hc with rfl | hc
    · exact ⟨_, ha⟩
    · exact ih hc

/-- **Traversals.** A traversal fails at an element that only accepted ones precede. -/
theorem fails_mapM {γ : Type*} {f : γ → Except ε α} {l : List γ} :
    Fails p (l.mapM f) ↔
      ∃ before c after, l = before ++ c :: after ∧ (∀ d ∈ before, ∃ a, f d = .ok a) ∧
        Fails p (f c) := by
  induction l with
  | nil => simp
  | cons c l ih =>
    rw [List.mapM_cons, fails_bind]
    constructor
    · rintro (h | ⟨a, ha, h⟩)
      · exact ⟨[], c, l, rfl, by simp, h⟩
      · obtain h | ⟨as, -, h⟩ := fails_bind.mp h
        · obtain ⟨before, d, after, rfl, hbefore, hd⟩ := ih.mp h
          exact ⟨c :: before, d, after, rfl, List.forall_mem_cons.mpr ⟨⟨a, ha⟩, hbefore⟩, hd⟩
        · exact (fails_pure.mp h).elim
    · rintro ⟨before, d, after, hsplit, hbefore, hd⟩
      cases before with
      | nil =>
        cases hsplit
        exact .inl hd
      | cons b before =>
        cases hsplit
        obtain ⟨⟨a, ha⟩, hbefore⟩ := List.forall_mem_cons.mp hbefore
        exact .inr ⟨a, ha, fails_bind.mpr (.inl (ih.mpr ⟨before, d, after, rfl, hbefore, hd⟩))⟩

/-- A check of every element fails at an element that only accepted ones precede. -/
theorem fails_forEach {γ : Type*} {check : γ → Except ε PUnit} {l : List γ} :
    Fails p (forEach l check) ↔
      ∃ before c after, l = before ++ c :: after ∧ (∀ d ∈ before, check d = .ok ⟨⟩) ∧
        Fails p (check c) := by
  induction l with
  | nil => simp [forEach]
  | cons c l ih =>
    rw [forEach, fails_bind, exists_unit]
    constructor
    · rintro (h | ⟨hc, h⟩)
      · exact ⟨[], c, l, rfl, by simp, h⟩
      · obtain ⟨before, d, after, rfl, hbefore, hd⟩ := ih.mp h
        exact ⟨c :: before, d, after, rfl, List.forall_mem_cons.mpr ⟨hc, hbefore⟩, hd⟩
    · rintro ⟨before, d, after, hsplit, hbefore, hd⟩
      cases before with
      | nil =>
        cases hsplit
        exact .inl hd
      | cons b before =>
        cases hsplit
        obtain ⟨hb, hbefore⟩ := List.forall_mem_cons.mp hbefore
        exact .inr ⟨hb, ih.mpr ⟨before, d, after, rfl, hbefore, hd⟩⟩

/-- A computation returns, fails with an error of the kind, or fails with another error. -/
theorem not_fails_iff {x : Except ε α} :
    ¬Fails p x ↔ (∃ a, x = .ok a) ∨ ∃ e, ¬p e ∧ x = .error e := by
  cases x <;> simp

end Checked
