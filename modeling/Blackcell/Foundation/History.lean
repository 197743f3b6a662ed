import Blackcell.Foundation.Checked
import Mathlib.Data.List.Induction

/-!
# Validated histories

A history is a list of events, validated by folding a partial step function over it: an event that
the step function rejects makes the whole history invalid. This file packages the two arguments
made about such histories. An invariant that relates the events read so far to the folded state is
kept by each accepted step (`History.invariant`), and an accepted history is accepted up to any
event, at that event, and after it (`History.split`).

## Main definitions

* `History.run` : fold a partial step function over the events.

## Main results

* `History.invariant` : an invariant kept by one step holds along an accepted history.
* `History.split` : the states around an event of an accepted history.
* `History.keeps` : a property of states kept by each step holds after the history.
-/

namespace History

variable {E S ε : Type*} (step : S → E → Except ε S)

/-- Fold a partial step function over the events, stopping at the first rejected one. -/
def run : S → List E → Except ε S
  | s, [] => .ok s
  | s, e :: es => step s e >>= fun s' => run s' es

variable {step}

@[simp] theorem run_nil (s : S) : run step s [] = .ok s := rfl

@[simp] theorem run_cons (s : S) (e : E) (es : List E) :
    run step s (e :: es) = (step s e >>= fun s' => run step s' es) := rfl

theorem run_append_eq_ok {s s' : S} {es fs : List E} :
    run step s (es ++ fs) = .ok s' ↔ ∃ m, run step s es = .ok m ∧ run step m fs = .ok s' := by
  induction es generalizing s with
  | nil => simp
  | cons e es ih =>
    simp only [List.cons_append, run_cons, Checked.bind_eq_ok, ih]
    constructor
    · rintro ⟨a, ha, m, hm, hs⟩
      exact ⟨m, ⟨a, ha, hm⟩, hs⟩
    · rintro ⟨m, ⟨a, ha, hm⟩, hs⟩
      exact ⟨a, ha, m, hm, hs⟩

/-- Folding the events that satisfy a predicate is folding all events with a step function that
passes over the others. -/
theorem run_filter (p : E → Bool) (s : S) (es : List E) :
    run step s (es.filter p) = run (fun s e ↦ if p e then step s e else .ok s) s es := by
  induction es generalizing s with
  | nil => rfl
  | cons e es ih =>
    by_cases hp : p e = true
    · simp [hp, ih]
    · simp [hp, ih]

/-- **Splitting.** An accepted history is accepted up to each of its events, at that event, and
from there to its end. -/
theorem split {s s' : S} {pre post : List E} {e : E} (h : run step s (pre ++ e :: post) = .ok s') :
    ∃ m m', run step s pre = .ok m ∧ step m e = .ok m' ∧ run step m' post = .ok s' := by
  obtain ⟨m, hpre, hrest⟩ := run_append_eq_ok.mp h
  simp only [run_cons, Checked.bind_eq_ok] at hrest
  obtain ⟨m', he, hpost⟩ := hrest
  exact ⟨m, m', hpre, he, hpost⟩

/-- An event of a history that grew by one is the new event, or was there before. -/
theorem concat_eq_split {es pre post : List E} {a e : E} (h : es ++ [a] = pre ++ e :: post) :
    pre = es ∧ e = a ∧ post = [] ∨ ∃ rest, es = pre ++ e :: rest ∧ post = rest ++ [a] := by
  rcases List.eq_nil_or_concat' post with rfl | ⟨rest, b, rfl⟩
  · obtain ⟨rfl, hlast⟩ := List.append_inj' h rfl
    exact .inl ⟨rfl, (List.singleton_inj.mp hlast).symm, rfl⟩
  · rw [← List.cons_append, ← List.append_assoc] at h
    obtain ⟨rfl, hlast⟩ := List.append_inj' h rfl
    exact .inr ⟨rest, rfl, by rw [List.singleton_inj.mp hlast]⟩

/-- **Invariants.** A relation between the events read so far and the folded state that holds of
the empty history and is kept by each accepted step holds along every accepted history. -/
theorem invariant (I : List E → S → Prop) {s₀ : S} (h0 : I [] s₀)
    (hstep : ∀ pre e s s', I pre s → step s e = .ok s' → I (pre ++ [e]) s')
    {es : List E} {s : S} (h : run step s₀ es = .ok s) : I es s := by
  induction es using List.reverseRecOn generalizing s with
  | nil => simp_all
  | append_singleton es e ih =>
    obtain ⟨m, hm, he⟩ := run_append_eq_ok.mp h
    simp only [run_cons, run_nil, Checked.bind_eq_ok, Except.ok.injEq, exists_eq_right] at he
    exact hstep es e m s (ih hm) he

/-- A property of states kept by each accepted step holds after every accepted history. -/
theorem keeps (P : S → Prop) {s s' : S} {es : List E}
    (hstep : ∀ e s s', e ∈ es → P s → step s e = .ok s' → P s') (hs : P s)
    (h : run step s es = .ok s') : P s' := by
  induction es generalizing s with
  | nil => simp_all
  | cons e es ih =>
    simp only [run_cons, Checked.bind_eq_ok] at h
    obtain ⟨m, hm, hrest⟩ := h
    exact ih (fun e' s s' he' => hstep e' s s' (List.mem_cons_of_mem _ he'))
      (hstep e s m List.mem_cons_self hs hm) hrest

end History
