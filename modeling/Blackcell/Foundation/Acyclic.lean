import Mathlib.Data.Fintype.Card
import Mathlib.Data.Set.Finite.Basic
import Mathlib.Order.WellFounded
import Mathlib.Logic.Relation

/-!
# Acyclic relations on finite sets

A relation without cycles is well-founded on every finite set, so each nonempty part of the set has
an element without predecessors in that part.

## Main definitions

* `IsAcyclic` : no element reaches itself in one or more steps.

## Main results

* `IsAcyclic.exists_minimal` : minimal elements exist.
-/

universe u

variable {α : Type u}

/-- No element reaches itself in one or more steps. -/
def IsAcyclic (r : α → α → Prop) : Prop := ∀ a, ¬Relation.TransGen r a a

namespace IsAcyclic

variable {r : α → α → Prop}

/-- An acyclic relation is well-founded on a finite type. -/
theorem wellFounded [Finite α] (h : IsAcyclic r) : WellFounded r := by
  have : Std.Irrefl (Relation.TransGen r) := ⟨h⟩
  have hwf : WellFounded (Relation.TransGen r) := Finite.wellFounded_of_trans_of_irrefl _
  exact Subrelation.wf .single hwf

/-- A part of an acyclic relation is acyclic. -/
theorem comap {β : Type*} (h : IsAcyclic r) (f : β → α) : IsAcyclic fun a b ↦ r (f a) (f b) :=
  fun a hcycle ↦ h (f a) (hcycle.lift f fun _ _ ↦ id)

/-- **Minimal elements.** Among the listed elements with a property there is one whose listed
predecessors do not have it. -/
theorem exists_minimal (h : IsAcyclic r) (l : List α) (p : α → Prop) (hp : ∃ a ∈ l, p a) :
    ∃ a ∈ l, p a ∧ ∀ b ∈ l, r b a → ¬p b := by
  have hfinite : Finite { a // a ∈ l } := List.finite_toSet l
  have hwf := (h.comap (Subtype.val : { a // a ∈ l } → α)).wellFounded
  obtain ⟨a, ha, hpa⟩ := hp
  obtain ⟨m, hpm, hmin⟩ := hwf.has_min { x | p x.1 } ⟨⟨a, ha⟩, hpa⟩
  exact ⟨m.1, m.2, hpm, fun b hb hr hpb ↦ hmin ⟨b, hb⟩ hpb hr⟩

end IsAcyclic
