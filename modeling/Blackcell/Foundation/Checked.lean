import Mathlib.Data.List.Forall2
import Mathlib.Logic.Basic

/-!
# Checked computations

A validator accepts its input by returning a value and rejects it by raising an error. This file
collects the rules by which an accepted computation is taken apart: which conditions it checked,
and what its intermediate results were. A rejected computation says nothing, so every rule is
about `Except.ok`.

## Main definitions

* `Checked.require` : raise an error unless a decidable condition holds.
* `Checked.ofOption` : raise an error unless an optional value is present.
* `Checked.certify` : a value with a property of it.
* `Checked.forEach` : check every element of a list.
* `Checked.Ensures` : the values that a computation returns.
* `Checked.Raises` : the errors that a computation raises.

## Main results

* `Checked.bind_eq_ok` : an accepted sequence is an accepted head and an accepted tail.
* `Checked.require_eq_ok` : an accepted condition holds.
* `Checked.mapM_eq_ok` : an accepted traversal accepts each element.
-/

namespace Checked

universe u v

variable {ε : Type u} {α β : Type v}

/-- Raise `e` unless the condition holds. -/
def require (p : Prop) [Decidable p] (e : ε) : Except ε PUnit :=
  if p then .ok ⟨⟩ else .error e

/-- Raise `e` unless the value is present. -/
def ofOption (x : Option α) (e : ε) : Except ε α :=
  match x with
  | some a => .ok a
  | none => .error e

/-- The value together with a property of it; raise `e` when it does not have the property. -/
def certify {γ : Type v} (p : γ → Prop) [DecidablePred p] (a : γ) (e : ε) : Except ε { a // p a } :=
  if h : p a then .ok ⟨a, h⟩ else .error e

/-- Check every element, in order. -/
def forEach {γ : Type*} (l : List γ) (check : γ → Except ε PUnit) : Except ε PUnit :=
  match l with
  | [] => .ok ⟨⟩
  | a :: as => check a >>= fun _ ↦ forEach as check

@[simp] theorem pure_eq_ok {a b : α} : (pure a : Except ε α) = .ok b ↔ a = b := by
  simp [pure, Except.pure]

@[simp] theorem throw_eq_ok {e : ε} {b : α} : (throw e : Except ε α) = .ok b ↔ False := by
  simp [throw, throwThe, MonadExceptOf.throw]

@[simp] theorem ok_bind {a : α} {f : α → Except ε β} : (Except.ok a >>= f) = f a := rfl

@[simp] theorem error_bind {e : ε} {f : α → Except ε β} : (Except.error e >>= f) = .error e := rfl

/-- An accepted sequence is an accepted head followed by an accepted tail. -/
@[simp] theorem bind_eq_ok {x : Except ε α} {f : α → Except ε β} {b : β} :
    (x >>= f) = .ok b ↔ ∃ a, x = .ok a ∧ f a = .ok b := by
  cases x <;> simp

@[simp] theorem map_eq_ok {x : Except ε α} {f : α → β} {b : β} :
    (f <$> x) = .ok b ↔ ∃ a, x = .ok a ∧ f a = b := by
  cases x <;> simp [Functor.map, Except.map]

theorem mapError_eq_ok {ε' : Type*} {x : Except ε α} {f : ε → ε'} {a : α} :
    x.mapError f = .ok a ↔ x = .ok a := by
  cases x <;> simp [Except.mapError]

/-- A check returns nothing, so there is one way in which it can be accepted. -/
@[simp] theorem exists_unit {p : PUnit → Prop} : (∃ u, p u) ↔ p ⟨⟩ :=
  ⟨fun ⟨_, h⟩ ↦ h, fun h ↦ ⟨_, h⟩⟩

@[simp] theorem require_eq_ok {p : Prop} [Decidable p] {e : ε} {u : PUnit} :
    require p e = .ok u ↔ p := by
  unfold require
  split <;> simp_all

/-- What was certified is the value itself. -/
@[simp] theorem certify_eq_ok {γ : Type v} {p : γ → Prop} [DecidablePred p] {a : γ} {e : ε}
    {r : { a // p a }} : certify p a e = .ok r ↔ r.1 = a := by
  unfold certify
  split
  · simp [Subtype.ext_iff, eq_comm]
  · rename_i h
    simpa using fun hr : r.1 = a ↦ h (hr ▸ r.2)

/-- A condition that holds does not change what follows it. -/
theorem require_bind_of_true {p : Prop} [Decidable p] {e : ε} {f : PUnit → Except ε β} (h : p) :
    (require p e >>= f) = f ⟨⟩ := by
  simp [require, h]

@[simp] theorem ofOption_eq_ok {x : Option α} {e : ε} {a : α} :
    ofOption x e = .ok a ↔ x = some a := by
  cases x <;> simp [ofOption]

@[simp] theorem forEach_eq_ok {γ : Type*} {l : List γ} {check : γ → Except ε PUnit} {u : PUnit} :
    forEach l check = .ok u ↔ ∀ a ∈ l, check a = .ok ⟨⟩ := by
  induction l with
  | nil => simp [forEach]
  | cons a as ih => simp [forEach, ih]

/-- An accepted traversal accepts each element. -/
theorem mapM_eq_ok {γ : Type*} {f : γ → Except ε α} {l : List γ} {r : List α} :
    l.mapM f = .ok r ↔ List.Forall₂ (fun c a ↦ f c = .ok a) l r := by
  induction l generalizing r with
  | nil => cases r <;> simp
  | cons c l ih =>
    simp only [List.mapM_cons, bind_eq_ok, pure_eq_ok, ih, List.forall₂_cons_left_iff]
    constructor
    · rintro ⟨a, ha, as, has, rfl⟩
      exact ⟨a, as, ha, has, rfl⟩
    · rintro ⟨a, as, ha, has, rfl⟩
      exact ⟨a, ha, as, has, rfl⟩

/-- Each result of a list of computations is the result of one of them. -/
theorem exists_of_mem_mapM {γ : Type*} {f : γ → Except ε α} {l : List γ} {r : List α} {a : α}
    (h : l.mapM f = .ok r) (ha : a ∈ r) : ∃ c ∈ l, f c = .ok a := by
  rw [mapM_eq_ok] at h
  induction h with
  | nil => cases ha
  | cons hc _ ih =>
    rcases List.mem_cons.mp ha with rfl | ha
    · exact ⟨_, List.mem_cons_self, hc⟩
    · obtain ⟨c, hmem, hc⟩ := ih ha
      exact ⟨c, List.mem_cons_of_mem _ hmem, hc⟩

/-- A traversal that reads written elements returns what was written. -/
theorem eq_of_mapM_map {γ : Type*} {f : γ → Except ε α} {g : α → γ}
    (h : ∀ a b, f (g a) = .ok b → b = a) {l r : List α} (hr : (l.map g).mapM f = .ok r) :
    r = l := by
  rw [mapM_eq_ok, List.forall₂_map_left_iff] at hr
  have heq : List.Forall₂ (· = ·) l r := hr.imp fun a b hab ↦ (h a b hab).symm
  rw [List.forall₂_eq_eq_eq] at heq
  exact heq.symm

/-- A list whose elements are the images of those of another list is its image. -/
theorem forall₂_eq_map {γ δ : Type*} {g : δ → γ} {l : List γ} {r : List δ} :
    List.Forall₂ (fun c d ↦ c = g d) l r ↔ l = r.map g := by
  rw [← List.forall₂_eq_eq_eq, List.forall₂_map_right_iff]

/-- A list can be matched by elements with a property when each of its elements can. -/
theorem exists_forall₂_iff {γ δ : Type*} {R : γ → δ → Prop} {p : δ → Prop} {l : List γ} :
    (∃ r, List.Forall₂ R l r ∧ ∀ d ∈ r, p d) ↔ ∀ c ∈ l, ∃ d, R c d ∧ p d := by
  induction l with
  | nil => simp
  | cons c l ih =>
    simp only [List.forall₂_cons_left_iff, List.forall_mem_cons, ← ih]
    constructor
    · rintro ⟨_, ⟨d, r, hd, hr, rfl⟩, hp⟩
      obtain ⟨hpd, hpr⟩ := List.forall_mem_cons.mp hp
      exact ⟨⟨d, hd, hpd⟩, r, hr, hpr⟩
    · rintro ⟨⟨d, hd, hpd⟩, r, hr, hpr⟩
      exact ⟨d :: r, ⟨d, r, hd, hr, rfl⟩, List.forall_mem_cons.mpr ⟨hpd, hpr⟩⟩

theorem ofOption_some {a : α} {e : ε} : ofOption (some a) e = .ok a := rfl

/-! ### Results -/

/-- A computation that is accepted returns a value. -/
theorem exists_of_isOk {x : Except ε α} (h : x.isOk = true) : ∃ a, x = .ok a := by
  cases x with
  | ok a => exact ⟨a, rfl⟩
  | error => exact absurd h (by simp [Except.isOk, Except.toBool])

/-- An accepted computation returns values of a kind only. -/
def Ensures (q : α → Prop) (x : Except ε α) : Prop := ∀ a, x = .ok a → q a

theorem ensures_pure {q : α → Prop} {a : α} (h : q a) : Ensures q (pure a : Except ε α) := by
  rintro _ ⟨⟩
  exact h

theorem ensures_error {q : α → Prop} {e : ε} : Ensures q (.error e) := by
  rintro _ ⟨⟩

/-- What a sequence returns is what its tail returns. -/
theorem ensures_bind {q : β → Prop} {x : Except ε α} {f : α → Except ε β}
    (hf : ∀ a, x = .ok a → Ensures q (f a)) : Ensures q (x >>= f) := by
  intro b hb
  obtain ⟨a, ha, hfa⟩ := bind_eq_ok.mp hb
  exact hf a ha b hfa

/-! ### Rejections -/

/-- A rejected computation raises errors of a kind only. -/
def Raises (p : ε → Prop) (x : Except ε α) : Prop := ∀ e, x = .error e → p e

variable {p : ε → Prop}

theorem raises_ok (a : α) : Raises p (.ok a : Except ε α) := nofun

theorem raises_error {e : ε} (h : p e) : Raises p (.error e : Except ε α) := by
  rintro _ ⟨⟩
  exact h

theorem raises_bind {x : Except ε α} {f : α → Except ε β} (hx : Raises p x)
    (hf : ∀ a, Raises p (f a)) : Raises p (x >>= f) := by
  cases x with
  | ok a => exact hf a
  | error e => exact raises_error (hx e rfl)

theorem raises_map {x : Except ε α} {f : α → β} (hx : Raises p x) : Raises p (f <$> x) := by
  cases x with
  | ok a => exact raises_ok _
  | error e => exact raises_error (hx e rfl)

theorem raises_require {q : Prop} [Decidable q] {e : ε} (h : p e) : Raises p (require q e) := by
  unfold require
  split
  · exact raises_ok _
  · exact raises_error h

theorem raises_ofOption {x : Option α} {e : ε} (h : p e) : Raises p (ofOption x e) := by
  cases x with
  | none => exact raises_error h
  | some a => exact raises_ok a

theorem raises_mapM {γ : Type*} {f : γ → Except ε α} (hf : ∀ c, Raises p (f c)) (l : List γ) :
    Raises p (l.mapM f) := by
  induction l with
  | nil => exact raises_ok _
  | cons c l ih =>
    rw [List.mapM_cons]
    exact raises_bind (hf c) fun _ ↦ raises_bind ih fun _ ↦ raises_ok _

end Checked
