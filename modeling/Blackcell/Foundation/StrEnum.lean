import Mathlib.Data.List.Nodup

/-!
# Enumerations with a text value

An enumeration whose members are written as distinct texts. Reading a text back gives the member
whose value it is, and no other.

## Main definitions

* `StrEnum` : a type with a complete list of members and distinct values.
* `StrEnum.ofValue?` : the member that a text stands for, if there is one.

## Main results

* `StrEnum.ofValue?_eq_some` : a text is read as a member exactly when it is the value of it.
-/

universe u

/-- A type whose members are written as distinct texts. -/
class StrEnum (α : Type u) where
  /-- The text of a member. -/
  value : α → String
  /-- All members. -/
  members : List α
  mem_members : ∀ a, a ∈ members
  nodup_values : (members.map value).Nodup

namespace StrEnum

variable {α : Type u} [StrEnum α]

theorem value_injective : Function.Injective (value : α → String) :=
  fun a b h ↦ List.inj_on_of_nodup_map nodup_values (mem_members a) (mem_members b) h

@[simp] theorem value_inj {a b : α} : value a = value b ↔ a = b := value_injective.eq_iff

/-- The member whose value is the text. -/
def ofValue? (s : String) : Option α := members.find? fun a ↦ decide (value a = s)

@[simp] theorem ofValue?_value (a : α) : ofValue? (value a) = some a := by
  cases h : (ofValue? (value a) : Option α) with
  | none => simpa using List.find?_eq_none.mp h a (mem_members a)
  | some b =>
    have hb : value b = value a := by simpa using List.find?_some h
    rw [value_injective hb]

theorem ofValue?_eq_some {s : String} {a : α} : ofValue? s = some a ↔ value a = s := by
  constructor
  · intro h
    simpa using List.find?_some h
  · rintro rfl
    exact ofValue?_value a

end StrEnum
