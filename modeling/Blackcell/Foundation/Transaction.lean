import Blackcell.Foundation.Checked

/-!
# Transactions

A computation on a mutable store that may raise an error in the middle of its work, and leaves
behind what it had written until then. Run atomically, it commits what it wrote when it returns,
and is rolled back when it raises. A statement about an atomic run is therefore a statement about
the runs that return, and the rules of this file take such a run apart, step by step.

## Main definitions

* `Transaction` : a computation that returns or raises, and the store that it leaves.
* `Transaction.atomically` : commit or roll back.

## Main results

* `Transaction.bind_eq_ok` : a sequence that returns is a head and a tail that return.
* `Transaction.atomically_eq_ok`, `Transaction.atomically_eq_error` : the two ends of an atomic run.
-/

universe u

variable {σ ε α β γ : Type u}

/-- A computation on a store: what it returns or raises, and the store it leaves. -/
def Transaction (σ ε α : Type u) : Type u := σ → Except ε α × σ

namespace Transaction

/-- Run a computation, and another on its result. An error ends the sequence where it is. -/
def bind (x : Transaction σ ε α) (f : α → Transaction σ ε β) : Transaction σ ε β := fun s ↦
  match x s with
  | (.ok a, t) => f a t
  | (.error e, t) => (.error e, t)

instance : Monad (Transaction σ ε) where
  pure a s := (.ok a, s)
  bind := bind

/-- Read the store. -/
def read (f : σ → α) : Transaction σ ε α := fun s ↦ (.ok (f s), s)

/-- A computation that reads the store and may raise. -/
def check (f : σ → Except ε α) : Transaction σ ε α := fun s ↦ (f s, s)

/-- Write the store. -/
def write (f : σ → α × σ) : Transaction σ ε α := fun s ↦ (.ok (f s).1, (f s).2)

/-- Raise another error in place of one. -/
def mapError (f : ε → ε) (x : Transaction σ ε α) : Transaction σ ε α := fun s ↦
  match x s with
  | (.ok a, t) => (.ok a, t)
  | (.error e, t) => (.error (f e), t)

/-- Perform a computation for each element, in order. -/
def mapEach (f : γ → Transaction σ ε α) : List γ → Transaction σ ε (List α)
  | [] => pure []
  | c :: cs => do
    let a ← f c
    let as ← mapEach f cs
    pure (a :: as)

/-- Commit what the computation wrote when it returns; roll it back when it raises. -/
def atomically (x : Transaction σ ε α) : Transaction σ ε α := fun s ↦
  match x s with
  | (.ok a, t) => (.ok a, t)
  | (.error e, _) => (.error e, s)

variable {s t : σ} {a a' : α} {b : β} {x : Transaction σ ε α} {f : α → Transaction σ ε β}

@[simp] theorem pure_eq_ok : (pure a : Transaction σ ε α) s = (.ok a', t) ↔ a = a' ∧ s = t := by
  simp [pure]

@[simp] theorem read_eq_ok {g : σ → α} :
    (read g : Transaction σ ε α) s = (.ok a, t) ↔ g s = a ∧ s = t := by
  simp [read]

@[simp] theorem check_eq_ok {g : σ → Except ε α} :
    check g s = (.ok a, t) ↔ g s = .ok a ∧ s = t := by
  simp [check]

@[simp] theorem write_eq_ok {g : σ → α × σ} :
    (write g : Transaction σ ε α) s = (.ok a, t) ↔ g s = (a, t) := by
  simp [write, Prod.ext_iff]

/-- A sequence that returns is a head that returns, followed by a tail that returns. -/
@[simp] theorem bind_eq_ok :
    (x >>= f) s = (.ok b, t) ↔ ∃ a u, x s = (.ok a, u) ∧ f a u = (.ok b, t) := by
  change bind x f s = _ ↔ _
  unfold bind
  rcases x s with ⟨r | a, u⟩ <;> simp

/-- A sequence that raises raises in its head, or in its tail. -/
theorem bind_eq_error {e : ε} : (x >>= f) s = (.error e, t) ↔
    x s = (.error e, t) ∨ ∃ a u, x s = (.ok a, u) ∧ f a u = (.error e, t) := by
  change bind x f s = _ ↔ _
  unfold bind
  rcases x s with ⟨r | a, u⟩ <;> simp

/-- An atomic run that returns has committed what it wrote. -/
theorem atomically_eq_ok : atomically x s = (.ok a, t) ↔ x s = (.ok a, t) := by
  unfold atomically
  rcases x s with ⟨r | a, u⟩ <;> simp

/-- **Rollback.** An atomic run that raises leaves the store as it was. -/
theorem atomically_eq_error {e : ε} (h : atomically x s = (.error e, t)) : t = s := by
  unfold atomically at h
  rcases hx : x s with ⟨r | a, u⟩
  · simp only [hx, Prod.mk.injEq] at h
    exact h.2.symm
  · simp [hx] at h

@[simp] theorem mapError_eq_ok {g : ε → ε} : mapError g x s = (.ok a, t) ↔ x s = (.ok a, t) := by
  unfold mapError
  rcases x s with ⟨r | a, u⟩ <;> simp

end Transaction
