import Mathlib.Data.List.Nodup
import Mathlib.Logic.Function.Basic

/-!
# Compensation

A store is updated at some of its keys, one after the other. When this stops, wherever it stops, the
keys that were touched are given their first values back, and then the store is the first one again;
when it does not stop, the store has the new values at these keys, and differs nowhere else.

## Main definitions

* `AgreesOff` : two stores that agree outside of some keys.
* `updateAll` : the store after a list of updates.

## Main results

* `AgreesOff.restore` : a key that is given its first value back is out of the way.
* `agreesOff_nil` : two stores that agree outside of no key are equal.
* `updateAll_of_mem`, `updateAll_of_notMem` : the store after updates at distinct keys.
-/

universe u v

namespace Compensation

variable {κ : Type u} {α : Type v} {f g : κ → α} {keys : List κ} {k : κ} {a : α}

/-- Two stores agree outside of some keys. -/
def AgreesOff (keys : List κ) (f g : κ → α) : Prop := ∀ k ∉ keys, f k = g k

theorem AgreesOff.refl (keys : List κ) (f : κ → α) : AgreesOff keys f f := fun _ _ ↦ rfl

/-- Stores that agree outside of no key are equal. -/
@[simp] theorem agreesOff_nil : AgreesOff [] f g ↔ f = g := by
  simp [AgreesOff, funext_iff]

/-- More keys may differ. -/
theorem AgreesOff.mono {keys' : List κ} (h : AgreesOff keys f g) (hsub : keys ⊆ keys') :
    AgreesOff keys' f g :=
  fun k hk ↦ h k fun hmem ↦ hk (hsub hmem)

variable [DecidableEq κ]

/-- An update at one of the keys. -/
theorem AgreesOff.update (h : AgreesOff keys f g) (hk : k ∈ keys) (a : α) :
    AgreesOff keys (Function.update f k a) g := by
  intro k' hk'
  have hne : k' ≠ k := fun heq ↦ hk' (heq ▸ hk)
  rw [Function.update_of_ne hne]
  exact h k' hk'

/-- **Restoration.** A key that is given its first value back is one of the others. -/
theorem AgreesOff.restore (h : AgreesOff (k :: keys) f g) :
    AgreesOff keys (Function.update f k (g k)) g := by
  intro k' hk'
  by_cases heq : k' = k
  · rw [heq, Function.update_self]
  · rw [Function.update_of_ne heq]
    exact h k' (by simp [heq, hk'])

/-- The store after a list of updates. -/
def updateAll (f : κ → α) : List (κ × α) → κ → α
  | [] => f
  | (k, a) :: updates => updateAll (Function.update f k a) updates

theorem updateAll_of_notMem {updates : List (κ × α)} (hk : k ∉ updates.map Prod.fst) :
    updateAll f updates k = f k := by
  induction updates generalizing f with
  | nil => rfl
  | cons p updates ih =>
    obtain ⟨k', a⟩ := p
    rw [List.map_cons, List.mem_cons, not_or] at hk
    rw [updateAll, ih hk.2, Function.update_of_ne hk.1]

/-- **Updates** at distinct keys are all in effect at the end. -/
theorem updateAll_of_mem {updates : List (κ × α)} (hnodup : (updates.map Prod.fst).Nodup)
    (hmem : (k, a) ∈ updates) : updateAll f updates k = a := by
  induction updates generalizing f with
  | nil => cases hmem
  | cons p updates ih =>
    obtain ⟨k', a'⟩ := p
    rw [List.map_cons, List.nodup_cons] at hnodup
    rcases List.mem_cons.mp hmem with heq | hmem
    · obtain ⟨rfl, rfl⟩ := Prod.mk.inj heq
      rw [updateAll, updateAll_of_notMem hnodup.1, Function.update_self]
    · exact ih hnodup.2 hmem

end Compensation
