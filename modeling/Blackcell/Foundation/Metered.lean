import Mathlib.Data.Nat.Basic
import Mathlib.Tactic.NormNum

/-!
# Metered computations

A metered computation advances a state, of which an amount can be read that has been spent so far:
commands that were run, or seconds that were waited for. An error does not undo what was spent. The
rules of this file bound what a computation spends by what its parts spend, separately for the runs
that return and for those that raise an error.

## Main definitions

* `Metered` : a computation whose state survives its errors.
* `Metered.Takes` : bounds on what a computation spends, when it returns and when it raises.

## Main results

* `Metered.Takes.bind`, `Metered.Takes.recover` : sequences and handled errors.
* `Metered.Takes.then` : a sequence within one bound, which its head uses up in part.
-/

/-- A computation that advances a state, which an error does not undo. -/
abbrev Metered (σ ε α : Type) := ExceptT ε (StateM σ) α

namespace Metered

variable {σ ε α β : Type} {s s' s'' : σ} {a : α} {b : β} {e : ε}

/-- Perform a computation from a state. -/
def exec (x : Metered σ ε α) (s : σ) : Except ε α × σ := x s

/-- A computation, given by what it does from each state. -/
def step (f : σ → Except ε α × σ) : Metered σ ε α := f

@[simp] theorem exec_step (f : σ → Except ε α × σ) : (step f).exec s = f s := rfl

/-- A check that spends nothing. -/
def check (x : Except ε α) : Metered σ ε α := step fun s ↦ (x, s)

@[simp] theorem exec_check (x : Except ε α) : (check x : Metered σ ε α).exec s = (x, s) := rfl

@[simp] theorem exec_pure : (pure a : Metered σ ε α).exec s = (.ok a, s) := rfl

@[simp] theorem exec_throw : (throw e : Metered σ ε α).exec s = (.error e, s) := rfl

theorem exec_bind_of_ok {x : Metered σ ε α} {f : α → Metered σ ε β} (h : x.exec s = (.ok a, s')) :
    (x >>= f).exec s = (f a).exec s' := by
  change (ExceptT.bindCont f (x s).1) (x s).2 = _
  rw [show x s = (.ok a, s') from h]
  rfl

theorem exec_bind_of_error {x : Metered σ ε α} {f : α → Metered σ ε β}
    (h : x.exec s = (.error e, s')) : (x >>= f).exec s = (.error e, s') := by
  change (ExceptT.bindCont f (x s).1) (x s).2 = _
  rw [show x s = (.error e, s') from h]
  rfl

@[simp] theorem exec_map (g : α → β) (x : Metered σ ε α) :
    (g <$> x).exec s = ((x.exec s).1.map g, (x.exec s).2) := by
  change (x >>= fun a ↦ pure (g a)).exec s = _
  rcases hr : x.exec s with ⟨e | a, s'⟩
  · exact exec_bind_of_error hr
  · exact exec_bind_of_ok hr

theorem exec_tryCatch_of_ok {x : Metered σ ε α} {handler : ε → Metered σ ε α}
    (h : x.exec s = (.ok a, s')) : (tryCatch x handler).exec s = (.ok a, s') := by
  change (match (x s).1 with | .ok a => ExceptT.pure a | .error e => handler e) (x s).2 = _
  rw [show x s = (.ok a, s') from h]
  rfl

theorem exec_tryCatch_of_error {x : Metered σ ε α} {handler : ε → Metered σ ε α}
    (h : x.exec s = (.error e, s')) : (tryCatch x handler).exec s = (handler e).exec s' := by
  change (match (x s).1 with | .ok a => ExceptT.pure a | .error e => handler e) (x s).2 = _
  rw [show x s = (.error e, s') from h]
  rfl

/-- A sequence that returns is a head that returns, and a tail after it. -/
theorem exec_bind_eq_ok {x : Metered σ ε α} {f : α → Metered σ ε β} :
    (x >>= f).exec s = (.ok b, s'') ↔
      ∃ a s', x.exec s = (.ok a, s') ∧ (f a).exec s' = (.ok b, s'') := by
  rcases hr : x.exec s with ⟨e | a, s'⟩
  · rw [exec_bind_of_error hr]
    simp
  · rw [exec_bind_of_ok hr]
    constructor
    · exact fun h ↦ ⟨a, s', rfl, h⟩
    · rintro ⟨a', t, heq, h⟩
      obtain ⟨ha, rfl⟩ := Prod.mk.inj heq
      obtain rfl := Except.ok.inj ha
      exact h

theorem exec_pure_eq_ok {a' : α} :
    (pure a : Metered σ ε α).exec s = (.ok a', s') ↔ a = a' ∧ s = s' := by
  rw [exec_pure, Prod.mk.injEq, Except.ok.injEq]

theorem exec_check_eq_ok {x : Except ε α} :
    (check x : Metered σ ε α).exec s = (.ok a, s') ↔ x = .ok a ∧ s = s' := by
  rw [exec_check, Prod.mk.injEq]

theorem exec_map_eq_ok {g : α → β} {x : Metered σ ε α} :
    (g <$> x).exec s = (.ok b, s') ↔ ∃ a, x.exec s = (.ok a, s') ∧ g a = b := by
  rw [exec_map]
  rcases x.exec s with ⟨e | a, t⟩ <;> simp [Except.map, and_comm]

/-- Errors are handled after the head of a sequence as they are before it. -/
theorem exec_tryCatch_bind_of_ok {x : Metered σ ε α} {f : α → Metered σ ε β}
    {handler : ε → Metered σ ε β} (h : x.exec s = (.ok a, s')) :
    (tryCatch (x >>= f) handler).exec s = (tryCatch (f a) handler).exec s' := by
  rcases hr : (f a).exec s' with ⟨e | b, s''⟩
  · rw [exec_tryCatch_of_error hr, exec_tryCatch_of_error ((exec_bind_of_ok h).trans hr)]
  · rw [exec_tryCatch_of_ok hr, exec_tryCatch_of_ok ((exec_bind_of_ok h).trans hr)]

/-- A computation with a handler returns a value of its own, or one of its handler. -/
theorem exec_tryCatch_eq_ok {x : Metered σ ε α} {handler : ε → Metered σ ε α} :
    (tryCatch x handler).exec s = (.ok a, s'') ↔ x.exec s = (.ok a, s'') ∨
      ∃ e s', x.exec s = (.error e, s') ∧ (handler e).exec s' = (.ok a, s'') := by
  rcases hr : x.exec s with ⟨e | a', s'⟩
  · rw [exec_tryCatch_of_error hr]
    simp
  · rw [exec_tryCatch_of_ok hr]
    simp

/-! ### Bounds -/

variable (spent : σ → ℕ)

/-- The computation spends at most so much when it returns, and at most so much when it raises. -/
structure Takes (returns raises : ℕ) (x : Metered σ ε α) : Prop where
  of_ok : ∀ s a s', x.exec s = (.ok a, s') → spent s' ≤ spent s + returns
  of_error : ∀ s e s', x.exec s = (.error e, s') → spent s' ≤ spent s + raises

variable {spent} {m n p q k : ℕ} {x : Metered σ ε α} {f : α → Metered σ ε β}

/-- Larger bounds may be taken. -/
theorem Takes.mono (h : Takes spent m n x) (hm : m ≤ p) (hn : n ≤ q) : Takes spent p q x where
  of_ok s a s' hx := (h.of_ok s a s' hx).trans (Nat.add_le_add_left hm _)
  of_error s e s' hx := (h.of_error s e s' hx).trans (Nat.add_le_add_left hn _)

theorem takes_pure (a : α) : Takes spent m n (pure a : Metered σ ε α) where
  of_ok s a' s' hx := by
    obtain ⟨-, rfl⟩ := Prod.mk.inj (exec_pure.symm.trans hx)
    exact Nat.le_add_right _ _
  of_error s e s' hx := by cases (Prod.mk.inj (exec_pure.symm.trans hx)).1

theorem takes_throw (e : ε) : Takes spent m n (throw e : Metered σ ε α) where
  of_ok s a s' hx := by cases (Prod.mk.inj (exec_throw.symm.trans hx)).1
  of_error s e' s' hx := by
    obtain ⟨-, rfl⟩ := Prod.mk.inj (exec_throw.symm.trans hx)
    exact Nat.le_add_right _ _

/-- A computation that changes nothing of what was spent. -/
theorem takes_step {f : σ → Except ε α × σ} (h : ∀ s, spent (f s).2 ≤ spent s + k) :
    Takes spent k k (step f) where
  of_ok s a s' hx := by
    have := h s
    rwa [← exec_step f, hx] at this
  of_error s e s' hx := by
    have := h s
    rwa [← exec_step f, hx] at this

theorem takes_check (x : Except ε α) : Takes spent m n (check x : Metered σ ε α) :=
  (takes_step fun _ ↦ Nat.le_refl _).mono (Nat.zero_le _) (Nat.zero_le _)

/-- A sequence whose head is a check that fails. -/
theorem takes_refused (e : ε) {f : α → Metered σ ε β} :
    Takes spent m n (check (.error e) >>= f) where
  of_ok s b s' hb := by cases (Prod.mk.inj ((exec_bind_of_error rfl).symm.trans hb)).1
  of_error s e' s' he := by
    obtain ⟨-, rfl⟩ := Prod.mk.inj ((exec_bind_of_error (exec_check _)).symm.trans he)
    exact Nat.le_add_right _ _

/-- **Sequences.** What the head and the tail spend adds up; an error is raised by the head, or by
the tail after the head has returned. -/
theorem Takes.bind (hx : Takes spent m n x) (hf : ∀ a, Takes spent p q (f a)) :
    Takes spent (m + p) (max n (m + q)) (x >>= f) where
  of_ok s b s'' hb := by
    rcases hr : x.exec s with ⟨e | a, s'⟩
    · cases (Prod.mk.inj ((exec_bind_of_error hr).symm.trans hb)).1
    · have hhead := hx.of_ok s a s' hr
      have htail := (hf a).of_ok s' b s'' ((exec_bind_of_ok hr).symm.trans hb)
      omega
  of_error s e s'' he := by
    rcases hr : x.exec s with ⟨e' | a, s'⟩
    · obtain ⟨-, rfl⟩ := Prod.mk.inj ((exec_bind_of_error hr).symm.trans he)
      have hhead := hx.of_error s e' s' hr
      omega
    · have hhead := hx.of_ok s a s' hr
      have htail := (hf a).of_error s' e s'' ((exec_bind_of_ok hr).symm.trans he)
      omega

/-- A sequence within one bound, a part of which its head uses up. -/
theorem Takes.then (hx : Takes spent k k x) (hk : k ≤ n)
    (hf : ∀ a, Takes spent (n - k) (n - k) (f a)) : Takes spent n n (x >>= f) :=
  (hx.bind hf).mono (by omega) (by omega)

/-- A sequence whose head spends nothing. -/
theorem Takes.free (hx : Takes spent 0 0 x) (hf : ∀ a, Takes spent m n (f a)) :
    Takes spent m n (x >>= f) :=
  (hx.bind hf).mono (by omega) (by omega)

/-- A computation that raises an error at its end does not return. -/
theorem Takes.raising (hx : Takes spent m n x) (e : ε) :
    Takes spent k (max m n) (x >>= fun _ ↦ (throw e : Metered σ ε β)) where
  of_ok s b s'' hb := by
    rcases hr : x.exec s with ⟨e' | a, s'⟩
    · cases (Prod.mk.inj ((exec_bind_of_error hr).symm.trans hb)).1
    · cases (Prod.mk.inj ((exec_bind_of_ok hr).symm.trans hb)).1
  of_error s e' s'' he := by
    have hbound := (hx.bind fun _ ↦ takes_throw (m := 0) (n := 0) (α := β) e).of_error s e' s'' he
    omega

/-- **Handled errors.** The handler goes on after what the computation has spent. -/
theorem Takes.recover {handler : ε → Metered σ ε α} (hx : Takes spent m n x)
    (hhandler : ∀ e, Takes spent p q (handler e)) :
    Takes spent (max m (n + p)) (n + q) (tryCatch x handler) where
  of_ok s a s'' ha := by
    rcases hr : x.exec s with ⟨e | a', s'⟩
    · have hhead := hx.of_error s e s' hr
      have htail := (hhandler e).of_ok s' a s'' ((exec_tryCatch_of_error hr).symm.trans ha)
      omega
    · obtain ⟨-, rfl⟩ := Prod.mk.inj ((exec_tryCatch_of_ok hr).symm.trans ha)
      have hhead := hx.of_ok s a' s' hr
      omega
  of_error s e s'' he := by
    rcases hr : x.exec s with ⟨e' | a', s'⟩
    · have hhead := hx.of_error s e' s' hr
      have htail := (hhandler e').of_error s' e s'' ((exec_tryCatch_of_error hr).symm.trans he)
      omega
    · cases (Prod.mk.inj ((exec_tryCatch_of_ok hr).symm.trans he)).1

/-- Errors that are handled without spending anything. -/
theorem Takes.handled {handler : ε → Metered σ ε α} (hx : Takes spent m n x)
    (hhandler : ∀ e, Takes spent 0 0 (handler e)) :
    Takes spent (max m n) n (tryCatch x handler) :=
  (hx.recover hhandler).mono (by omega) (by omega)

/-- What is made of the value of a computation. -/
theorem Takes.map (hx : Takes spent m n x) (g : α → β) : Takes spent m n (g <$> x) where
  of_ok s b s' hb := by
    rw [exec_map] at hb
    rcases hr : x.exec s with ⟨e | a, s''⟩
    · rw [hr] at hb
      cases (Prod.mk.inj hb).1
    · rw [hr] at hb
      obtain ⟨-, rfl⟩ := Prod.mk.inj hb
      exact hx.of_ok s a _ hr
  of_error s e s' he := by
    rw [exec_map] at he
    rcases hr : x.exec s with ⟨e' | a, s''⟩
    · rw [hr] at he
      obtain ⟨-, rfl⟩ := Prod.mk.inj he
      exact hx.of_error s e' _ hr
    · rw [hr] at he
      cases (Prod.mk.inj he).1

/-- The end of a computation, whether it returns or raises. -/
theorem Takes.exec_le (hx : Takes spent m n x) (s : σ) :
    spent (x.exec s).2 ≤ spent s + max m n := by
  rcases hr : x.exec s with ⟨e | a, s'⟩
  · have := hx.of_error s e s' hr
    simp only [ge_iff_le]
    omega
  · have := hx.of_ok s a s' hr
    simp only [ge_iff_le]
    omega

end Metered
