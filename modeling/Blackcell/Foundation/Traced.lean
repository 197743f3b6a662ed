import Mathlib.Data.List.Basic

/-!
# Computations that leave a trace

A computation that performs operations in the world leaves the trace of these operations, and then
returns or raises an error. What was done before the error stays done. The rules of this file say
what is in the trace of a sequence and of the loops of a program, in particular which rounds of a
loop are reached.

## Main definitions

* `Traced` : a trace, and a result or an error.
* `Traced.tryFinally` : a computation whose end is followed by another one in any case.
* `Traced.select`, `Traced.each` : loops over a list.

## Main results

* `Traced.select_eq_of_ok` : a selecting loop in which every round returns.
* `Traced.forall_mem_each_iff` : a loop reaches all its rounds if all but the last one return.
-/

/-- The trace of a computation, and what it returns or raises. -/
@[ext]
structure Traced (ω ε α : Type) where
  trace : List ω
  result : Except ε α

namespace Traced

variable {ω ε α β : Type}

/-- Return without doing anything. -/
def done (a : α) : Traced ω ε α := ⟨[], .ok a⟩

/-- Perform an operation with a known outcome. -/
def act (events : List ω) (outcome : Except ε α) : Traced ω ε α := ⟨events, outcome⟩

/-- One computation, and another one on its result. -/
def bind (x : Traced ω ε α) (f : α → Traced ω ε β) : Traced ω ε β :=
  match x.result with
  | .ok a => ⟨x.trace ++ (f a).trace, (f a).result⟩
  | .error e => ⟨x.trace, .error e⟩

instance : Monad (Traced ω ε) where
  pure := done
  bind := bind

/-- Replace the errors of a computation. -/
def mapError (x : Traced ω ε α) (f : ε → ε) : Traced ω ε α := ⟨x.trace, x.result.mapError f⟩

/-- `try: ... finally: ...`: an error of the second computation replaces what the first one ended
with. -/
def tryFinally (x : Traced ω ε α) (final : Traced ω ε Unit) : Traced ω ε α :=
  match final.result with
  | .ok _ => ⟨x.trace ++ final.trace, x.result⟩
  | .error e => ⟨x.trace ++ final.trace, .error e⟩

@[simp] theorem pure_eq (a : α) : (pure a : Traced ω ε α) = ⟨[], .ok a⟩ := rfl

theorem bind_of_ok {x : Traced ω ε α} {a : α} (f : α → Traced ω ε β) (h : x.result = .ok a) :
    x >>= f = ⟨x.trace ++ (f a).trace, (f a).result⟩ := by
  simp [Bind.bind, bind, h]

theorem bind_of_error {x : Traced ω ε α} {e : ε} (f : α → Traced ω ε β) (h : x.result = .error e) :
    x >>= f = ⟨x.trace, .error e⟩ := by
  simp [Bind.bind, bind, h]

/-- What a sequence does. -/
theorem mem_trace_bind {x : Traced ω ε α} {f : α → Traced ω ε β} {e : ω} :
    e ∈ (x >>= f).trace ↔ e ∈ x.trace ∨ ∃ a, x.result = .ok a ∧ e ∈ (f a).trace := by
  cases h : x.result with
  | ok a => simp [bind_of_ok f h]
  | error err => simp [bind_of_error f h]

@[simp] theorem trace_mapError (x : Traced ω ε α) (f : ε → ε) :
    (x.mapError f).trace = x.trace := rfl

@[simp] theorem trace_tryFinally (x : Traced ω ε α) (final : Traced ω ε Unit) :
    (x.tryFinally final).trace = x.trace ++ final.trace := by
  unfold tryFinally
  split <;> rfl

/-! ### Loops -/

variable {ι : Type}

/-- The elements for which a loop finds a condition to hold. -/
def select (p : ι → Traced ω ε Bool) : List ι → Traced ω ε (List ι)
  | [] => done []
  | a :: as => (p a).bind fun keep ↦ (select p as).bind fun rest ↦
      done (if keep then a :: rest else rest)

example (p : ι → Traced ω ε Bool) : select p [] = done [] := by rw [select]

/-- Perform a computation for each element. -/
def each (f : ι → Traced ω ε Unit) : List ι → Traced ω ε Unit
  | [] => done ()
  | a :: as => (f a).bind fun _ ↦ each f as

example (f : ι → Traced ω ε Unit) : each f [] = done () := by rw [each]

/-- **Selection.** A selecting loop in which every round returns. -/
theorem select_eq_of_ok {p : ι → Traced ω ε Bool} {q : ι → Bool} {l : List ι}
    (h : ∀ a ∈ l, (p a).result = .ok (q a)) :
    select p l = ⟨l.flatMap fun a ↦ (p a).trace, .ok (l.filter q)⟩ := by
  induction l with
  | nil => rfl
  | cons a l ih =>
    have hhead := h a (by simp)
    have htail := ih fun b hb ↦ h b (by simp [hb])
    cases hq : q a <;> simp [select, bind, done, hhead, htail, hq]

/-- A selecting loop raises if one of its rounds does. -/
theorem result_select_of_error {p : ι → Traced ω ε Bool} {l : List ι} {a : ι} {e : ε} (ha : a ∈ l)
    (h : (p a).result = .error e) : ∃ e', (select p l).result = .error e' := by
  induction l with
  | nil => cases ha
  | cons b l ih =>
    cases hb : (p b).result with
    | error e' => exact ⟨e', by simp [select, bind, hb]⟩
    | ok keep =>
      have hmem : a ∈ l := by
        rcases List.mem_cons.mp ha with rfl | hmem
        · simp [h] at hb
        · exact hmem
      obtain ⟨e', he'⟩ := ih hmem
      exact ⟨e', by simp [select, bind, hb, he']⟩

theorem mem_trace_select {p : ι → Traced ω ε Bool} {l : List ι} {e : ω}
    (h : e ∈ (select p l).trace) : ∃ a ∈ l, e ∈ (p a).trace := by
  induction l with
  | nil => cases h
  | cons a l ih =>
    cases ha : (p a).result with
    | error err =>
      simp only [select, bind, ha] at h
      exact ⟨a, by simp, h⟩
    | ok keep =>
      have hmem : e ∈ (p a).trace ∨ e ∈ (select p l).trace := by
        cases hl : (select p l).result <;> simpa [select, bind, done, ha, hl] using h
      rcases hmem with hhead | htail
      · exact ⟨a, by simp, hhead⟩
      · obtain ⟨b, hb, he⟩ := ih htail
        exact ⟨b, by simp [hb], he⟩

theorem each_cons_of_ok {f : ι → Traced ω ε Unit} {a : ι} {l : List ι} {u : Unit}
    (h : (f a).result = .ok u) :
    each f (a :: l) = ⟨(f a).trace ++ (each f l).trace, (each f l).result⟩ := by
  simp [each, bind, h]

theorem each_cons_of_error {f : ι → Traced ω ε Unit} {a : ι} {l : List ι} {e : ε}
    (h : (f a).result = .error e) : each f (a :: l) = ⟨(f a).trace, .error e⟩ := by
  simp [each, bind, h]

/-- A loop in which every round returns. -/
theorem each_eq_of_ok {f : ι → Traced ω ε Unit} {l : List ι}
    (h : ∀ a ∈ l, (f a).result = .ok ()) :
    each f l = ⟨l.flatMap fun a ↦ (f a).trace, .ok ()⟩ := by
  induction l with
  | nil => rfl
  | cons a l ih =>
    rw [each_cons_of_ok (h a (by simp)), ih fun b hb ↦ h b (by simp [hb])]
    simp

theorem result_each_of_error {f : ι → Traced ω ε Unit} {l : List ι} {a : ι} {e : ε} (ha : a ∈ l)
    (h : (f a).result = .error e) : ∃ e', (each f l).result = .error e' := by
  induction l with
  | nil => cases ha
  | cons b l ih =>
    cases hb : (f b).result with
    | error e' => exact ⟨e', by rw [each_cons_of_error hb]⟩
    | ok u =>
      have hmem : a ∈ l := by
        rcases List.mem_cons.mp ha with rfl | hmem
        · simp [h] at hb
        · exact hmem
      obtain ⟨e', he'⟩ := ih hmem
      exact ⟨e', by rw [each_cons_of_ok hb, he']⟩

/-- What is in the trace of a loop is in the trace of a round, and all of that round is. -/
theorem mem_trace_each {f : ι → Traced ω ε Unit} {l : List ι} {e : ω}
    (h : e ∈ (each f l).trace) :
    ∃ a ∈ l, e ∈ (f a).trace ∧ (f a).trace ⊆ (each f l).trace := by
  induction l with
  | nil => cases h
  | cons a l ih =>
    cases ha : (f a).result with
    | error err =>
      rw [each_cons_of_error ha] at h ⊢
      exact ⟨a, by simp, h, List.Subset.refl _⟩
    | ok u =>
      rw [each_cons_of_ok ha] at h ⊢
      rcases List.mem_append.mp h with hhead | htail
      · exact ⟨a, by simp, hhead, List.subset_append_left _ _⟩
      · obtain ⟨b, hb, he, hsub⟩ := ih htail
        exact ⟨b, by simp [hb], he, List.subset_append_of_subset_right _ hsub⟩

/-- **The rounds that a loop reaches.** Every round starts by leaving its mark. The marks of all
rounds are in the trace exactly if every round but the last one returns. -/
theorem forall_mem_each_iff {f : ι → Traced ω ε Unit} {l : List ι} (mark : ι → ω)
    (hnodup : l.Nodup) (hmark : ∀ a ∈ l, mark a ∈ (f a).trace)
    (hother : ∀ a ∈ l, ∀ b ∈ l, mark a ∈ (f b).trace → a = b) :
    (∀ a ∈ l, mark a ∈ (each f l).trace) ↔ ∀ a ∈ l.dropLast, (f a).result = .ok () := by
  induction l with
  | nil => simp
  | cons a l ih =>
    obtain ⟨hnew, hnodup⟩ := List.nodup_cons.mp hnodup
    have htail := ih hnodup (fun b hb ↦ hmark b (by simp [hb]))
      fun b hb c hc ↦ hother b (by simp [hb]) c (by simp [hc])
    have hhead : ∀ b ∈ l, mark b ∉ (f a).trace := fun b hb hmem ↦
      hnew (hother b (by simp [hb]) a (by simp) hmem ▸ hb)
    rcases List.eq_nil_or_concat' l with rfl | ⟨init, last, rfl⟩
    · cases ha : (f a).result with
      | ok u => simp [each_cons_of_ok ha, hmark]
      | error e => simp [each_cons_of_error ha, hmark]
    · have hdrop : (a :: (init ++ [last])).dropLast = a :: (init ++ [last]).dropLast :=
        List.dropLast_cons_of_ne_nil (by simp)
      rw [hdrop]
      cases ha : (f a).result with
      | ok u =>
        rw [each_cons_of_ok ha, List.forall_mem_cons, List.forall_mem_cons, ha, ← htail]
        constructor
        · rintro ⟨-, h⟩
          exact ⟨rfl, fun b hb ↦ (List.mem_append.mp (h b hb)).resolve_left (hhead b hb)⟩
        · rintro ⟨-, h⟩
          exact ⟨by simp [hmark], fun b hb ↦ by simp [h b hb]⟩
      | error e =>
        rw [each_cons_of_error ha, List.forall_mem_cons, List.forall_mem_cons, ha]
        constructor
        · rintro ⟨-, h⟩
          exact absurd (h last (by simp)) (hhead last (by simp))
        · rintro ⟨h, -⟩
          cases h

end Traced
