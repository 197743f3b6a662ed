import Blackcell.Foundation.Checked

/-!
# Sessions

A session is a computation that reads and advances a state, and may raise an error; the state is lost
with an error. The rules of `Checked` say what a session has done when it returns, and which errors
it raises.

## Main definitions

* `Session` : a session.
* `Session.Raises` : the errors of a session, wherever it starts.

## Main results

* `Session.bind_eq_ok` : a sequence that returns is a head that returns, and a tail after it.
* `Session.raises_bind` : a sequence raises what its head and its tail raise.
-/

universe u

/-- A computation that reads and advances a state, and may raise an error. -/
abbrev Session (σ ε α : Type u) := StateT σ (Except ε) α

namespace Session

variable {σ ε α β : Type u} {s s' s'' : σ} {a : α} {b : β}

/-- A check within a session. -/
def check (x : Except ε α) : Session σ ε α := fun s ↦ x.map fun a ↦ (a, s)

@[simp] theorem check_eq_ok {x : Except ε α} :
    check x s = .ok (a, s') ↔ x = .ok a ∧ s' = s := by
  cases x <;> simp [check, Except.map, eq_comm]

@[simp] theorem pure_eq_ok {a' : α} :
    (pure a' : Session σ ε α) s = .ok (a, s') ↔ a = a' ∧ s' = s := by
  change Except.ok (a', s) = .ok (a, s') ↔ _
  simp [eq_comm]

@[simp] theorem get_eq_ok {r : σ} : (get : Session σ ε σ) s = .ok (r, s') ↔ r = s ∧ s' = s := by
  simp [get, getThe, MonadStateOf.get, StateT.get, pure, Except.pure, eq_comm]

/-- **Sequences.** A sequence that returns is a head that returns, and a tail after it. -/
@[simp] theorem bind_eq_ok {x : Session σ ε α} {f : α → Session σ ε β} :
    (x >>= f) s = .ok (b, s'') ↔ ∃ a s', x s = .ok (a, s') ∧ f a s' = .ok (b, s'') := by
  change (x s >>= fun p ↦ f p.1 p.2) = _ ↔ _
  rw [Checked.bind_eq_ok, Prod.exists]

/-! ### Errors -/

/-- The errors that a session raises, wherever it starts. -/
def Raises (p : ε → Prop) (x : Session σ ε α) : Prop := ∀ s, Checked.Raises p (x s)

variable {p : ε → Prop}

theorem raises_pure (a : α) : Raises p (pure a : Session σ ε α) := fun _ ↦ Checked.raises_ok _

theorem raises_get : Raises p (get : Session σ ε σ) := fun _ ↦ Checked.raises_ok _

theorem raises_check {x : Except ε α} (h : Checked.Raises p x) :
    Raises p (check x : Session σ ε α) := by
  intro s
  cases x with
  | ok a => exact Checked.raises_ok _
  | error e => exact Checked.raises_error (h e rfl)

/-- A sequence raises, from a state, what its head raises and what its tail raises after it. -/
theorem raises_bind_at {x : Session σ ε α} {f : α → Session σ ε β} {s : σ}
    (hx : Checked.Raises p (x s))
    (hf : ∀ a s', x s = .ok (a, s') → Checked.Raises p (f a s')) :
    Checked.Raises p ((x >>= f) s) := by
  intro e he
  change (x s >>= fun p ↦ f p.1 p.2) = _ at he
  cases hxs : x s with
  | ok r => exact hf r.1 r.2 hxs e (by rwa [hxs] at he)
  | error e' =>
    rw [hxs, Checked.error_bind] at he
    obtain rfl := Except.error.inj he
    exact hx _ hxs

/-- **Errors.** A sequence raises what its head and its tail raise. -/
theorem raises_bind {x : Session σ ε α} {f : α → Session σ ε β} (hx : Raises p x)
    (hf : ∀ a, Raises p (f a)) : Raises p (x >>= f) :=
  fun s ↦ raises_bind_at (hx s) fun a s' _ ↦ hf a s'

end Session
