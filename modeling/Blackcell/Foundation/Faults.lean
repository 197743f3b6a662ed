import Blackcell.Foundation.Resumption

/-!
# Operations that fail

An operation on a store can fail before it has done anything, after it has done all of it, or with a
part of it done. A program that performs such operations cannot tell these failures apart, and has
to leave the store in order after each of them. The rules of this file follow a program operation by
operation, through its successes and its failures, and through what it does at its end in any case.

## Main definitions

* `Prog.attempt`, `Prog.tryFinally`, `Prog.onException` : handled failures.
* `Faulty.Fault` : the failure of an operation.
* `Faulty.handle` : a handler whose operations fail where an oracle says so.
* `Faulty.Withstands` : an invariant of the store at every point, and a postcondition at the end.

## Main results

* `Faulty.withstands_act_bind` : one operation.
* `Faulty.Withstands.tryFinally`, `Faulty.Withstands.onException` : handled failures.
* `Faulty.Withstands.run`, `Faulty.Withstands.stopAfter` : complete runs, and runs that are stopped.
-/

namespace Prog

variable {I : Interface} {ε α β : Type}

/-- Run the program, and return its error in place of raising it. -/
def attempt : Prog I ε α → Prog I ε (Except ε α)
  | done a => done (.ok a)
  | raise e => done (.error e)
  | call o next => call o fun r ↦ (next r).attempt

/-- `try: ... finally: ...` -/
def tryFinally (p : Prog I ε α) (final : Prog I ε PUnit) : Prog I ε α :=
  p.attempt.bind fun r ↦ final.bind fun _ ↦ ofExcept r

/-- `try: ... except ...: ...; raise`, for the errors of a class. -/
def onException (p : Prog I ε α) (caught : ε → Bool) (handler : Prog I ε PUnit) : Prog I ε α :=
  p.attempt.bind fun
    | .ok a => done a
    | .error e => if caught e then handler.bind fun _ ↦ raise e else raise e

theorem meets_attempt {W : Type} {handle : (o : I.Op) → W → I.Res o × W}
    {R : W → W → Prop} {C : I.Op → W → Prop} {J : W → Prop} {p : Prog I ε α}
    {Q : Except ε (Except ε α) → W → Prop} {w : W} :
    p.attempt.Meets handle R C J Q w ↔ p.Meets handle R C J (fun r ↦ Q (.ok r)) w := by
  induction p generalizing w with
  | done a => rfl
  | raise e => rfl
  | call o next ih => simp only [attempt, meets_call, ih]

end Prog

namespace Faulty

/-- What an operation has done when it fails. -/
inductive Progress (τ : Type) where
  | nothing
  | everything
  | part (left : τ)

/-- How an operation fails. -/
structure Fault (ε τ : Type) where
  error : ε
  progress : Progress τ

variable {σ ε τ α β Op : Type} {Val : Op → Type}

/-- Operations that return a value or raise an error. -/
abbrev Operations (ε : Type) (Val : Op → Type) : Interface := ⟨Op, fun o ↦ Except ε (Val o)⟩

/-- Perform an operation; raise its error. -/
def act (o : Op) : Prog (Operations ε Val) ε (Val o) := .call o .ofExcept

variable (perform : (o : Op) → σ → Except ε (Val o) × σ) (leave : Op → τ → σ → σ)

/-- The store that a failure leaves. -/
def Progress.store (o : Op) (s : σ) : Progress τ → σ
  | nothing => s
  | everything => (perform o s).2
  | part left => leave o left s

/-- Perform an operation on a store, the `n`-th one of a run, unless it fails. -/
def handle (fault : ℕ → Option (Fault ε τ)) (o : Op) (w : σ × ℕ) :
    Except ε (Val o) × (σ × ℕ) :=
  match fault w.2 with
  | none => ((perform o w.1).1, ((perform o w.1).2, w.2 + 1))
  | some f => (.error f.error, (f.progress.store perform leave o w.1, w.2 + 1))

/-- Wherever its operations fail, the program keeps the invariant, and ends with the postcondition.
-/
def Withstands (fault : ℕ → Option (Fault ε τ)) (J : σ → Prop) (p : Prog (Operations ε Val) ε α)
    (Q : Except ε α → σ → Prop) (s : σ) : Prop :=
  ∀ n, p.Meets (handle perform leave fault) Eq (fun _ _ ↦ True) (fun w ↦ J w.1)
    (fun r w ↦ Q r w.1) (s, n)

variable {perform leave} {fault : ℕ → Option (Fault ε τ)} {J : σ → Prop} {s : σ}
  {p : Prog (Operations ε Val) ε α} {Q : Except ε α → σ → Prop}

theorem withstands_done {a : α} (hJ : J s) (hQ : Q (.ok a) s) :
    Withstands perform leave fault J (.done a) Q s :=
  fun _ ↦ ⟨hJ, hQ⟩

theorem withstands_raise {e : ε} (hJ : J s) (hQ : Q (.error e) s) :
    Withstands perform leave fault J (.raise e) Q s :=
  fun _ ↦ ⟨hJ, hQ⟩

theorem withstands_ofExcept {x : Except ε α} (hJ : J s) (hQ : Q x s) :
    Withstands perform leave fault J (.ofExcept x) Q s :=
  fun _ ↦ Prog.meets_ofExcept.mpr ⟨hJ, hQ⟩

/-- A computation without operations that is followed by more. -/
theorem withstands_ofExcept_bind {x : Except ε β} {f : β → Prog (Operations ε Val) ε α} (hJ : J s)
    (hok : ∀ b, x = .ok b → Withstands perform leave fault J (f b) Q s)
    (herror : ∀ e, x = .error e → Q (.error e) s) :
    Withstands perform leave fault J ((Prog.ofExcept x).bind f) Q s :=
  fun n ↦ Prog.meets_ofExcept_bind.mpr ⟨hJ, fun b hb ↦ hok b hb n, herror⟩

/-- **One operation.** It returns, raises an error of its own, or fails and leaves the store in one
of the states of a failure. -/
theorem withstands_act_bind {o : Op} {f : Val o → Prog (Operations ε Val) ε α} (hJ : J s)
    (hok : ∀ a s', perform o s = (.ok a, s') → Withstands perform leave fault J (f a) Q s')
    (herror : ∀ e s', perform o s = (.error e, s') → J s' ∧ Q (.error e) s')
    (hfault : ∀ n g, fault n = some g → J (g.progress.store perform leave o s) ∧
      Q (.error g.error) (g.progress.store perform leave o s)) :
    Withstands perform leave fault J ((act o).bind f) Q s := by
  refine fun n ↦ ⟨hJ, ?_⟩
  rintro _ rfl - -
  rcases hg : fault n with - | g
  · rcases hr : perform o s with ⟨e | a, s'⟩
    · simp only [handle, hg, hr]
      exact herror e s' hr
    · simp only [handle, hg, hr]
      exact hok a s' hr (n + 1)
  · simp only [handle, hg]
    exact hfault n g hg

/-- The last operation of a program. -/
theorem withstands_act {o : Op} {Q : Except ε (Val o) → σ → Prop} (hJ : J s)
    (hperform : J (perform o s).2 ∧ Q (perform o s).1 (perform o s).2)
    (hfault : ∀ n g, fault n = some g → J (g.progress.store perform leave o s) ∧
      Q (.error g.error) (g.progress.store perform leave o s)) :
    Withstands perform leave fault J (act o) Q s := by
  refine fun n ↦ ⟨hJ, ?_⟩
  rintro _ rfl - -
  rcases hg : fault n with - | g
  · simp only [handle, hg]
    exact Prog.meets_ofExcept.mpr hperform
  · simp only [handle, hg]
    exact hfault n g hg

/-- A weaker postcondition may be taken. -/
theorem Withstands.mono {Q' : Except ε α → σ → Prop} (h : Withstands perform leave fault J p Q s)
    (hQ : ∀ r s', J s' → Q r s' → Q' r s') : Withstands perform leave fault J p Q' s :=
  fun n ↦ (h n).mono fun r w ↦ hQ r w.1

/-- Programs in sequence. -/
theorem Withstands.bind {p : Prog (Operations ε Val) ε β} {f : β → Prog (Operations ε Val) ε α}
    {A : Except ε β → σ → Prop} (h : Withstands perform leave fault J p A s)
    (hok : ∀ b s', J s' → A (.ok b) s' → Withstands perform leave fault J (f b) Q s')
    (herror : ∀ e s', J s' → A (.error e) s' → Q (.error e) s') :
    Withstands perform leave fault J (p.bind f) Q s :=
  fun n ↦ (h n).bind (fun b w hJ hA ↦ hok b w.1 hJ hA w.2) fun e w ↦ herror e w.1

/-- **`finally`.** The last part is performed after every end of the first one, and its own failures
come before those of the first one. -/
theorem Withstands.tryFinally {final : Prog (Operations ε Val) ε PUnit} {A : Except ε α → σ → Prop}
    (h : Withstands perform leave fault J p A s)
    (hfinal : ∀ r s', J s' → A r s' → Withstands perform leave fault J final (fun
      | .ok _, t => Q r t
      | .error e, t => Q (.error e) t) s') :
    Withstands perform leave fault J (p.tryFinally final) Q s := by
  refine fun n ↦ Prog.meets_bind.mpr (Prog.meets_attempt.mpr ((h n).mono fun r w hJ hA ↦ ?_))
  refine Prog.meets_bind.mpr ((hfinal r w.1 hJ hA w.2).mono fun u t hJ' hQ ↦ ?_)
  cases u with
  | ok _ => exact Prog.meets_ofExcept.mpr ⟨hJ', hQ⟩
  | error _ => exact hQ

/-- **`except`.** The handler is performed after the errors of its class. -/
theorem Withstands.onException {caught : ε → Bool} {handler : Prog (Operations ε Val) ε PUnit}
    {A : Except ε α → σ → Prop} (h : Withstands perform leave fault J p A s)
    (hok : ∀ a s', J s' → A (.ok a) s' → Q (.ok a) s')
    (hpass : ∀ e s', J s' → A (.error e) s' → caught e = false → Q (.error e) s')
    (hhandler : ∀ e s', J s' → A (.error e) s' → caught e = true →
      Withstands perform leave fault J handler (fun
        | .ok _, t => Q (.error e) t
        | .error e', t => Q (.error e') t) s') :
    Withstands perform leave fault J (p.onException caught handler) Q s := by
  refine fun n ↦ Prog.meets_bind.mpr (Prog.meets_attempt.mpr ((h n).mono fun r w hJ hA ↦ ?_))
  cases r with
  | ok a => exact ⟨hJ, hok a w.1 hJ hA⟩
  | error e =>
    cases hcaught : caught e with
    | false =>
      simp only [hcaught, Bool.false_eq_true, if_false]
      exact ⟨hJ, hpass e w.1 hJ hA hcaught⟩
    | true =>
      simp only [hcaught, if_true]
      refine Prog.meets_bind.mpr ((hhandler e w.1 hJ hA hcaught w.2).mono fun u t hJ' hQ ↦ ?_)
      cases u with
      | ok _ => exact ⟨hJ', hQ⟩
      | error _ => exact hQ

/-- One operation of a run without failures. -/
theorem withstands_act_bind_of_reliable {o : Op} {f : Val o → Prog (Operations ε Val) ε α}
    {a : Val o} {s' : σ} (hfault : ∀ n, fault n = none) (hJ : J s)
    (hperform : perform o s = (.ok a, s')) (h : Withstands perform leave fault J (f a) Q s') :
    Withstands perform leave fault J ((act o).bind f) Q s := by
  refine withstands_act_bind hJ (fun b t ht ↦ ?_) (fun e t ht ↦ ?_) fun n g hg ↦ ?_
  · obtain ⟨hb, rfl⟩ := Prod.mk.inj (hperform.symm.trans ht)
    obtain rfl := Except.ok.inj hb
    exact h
  · cases (Prod.mk.inj (hperform.symm.trans ht)).1
  · rw [hfault n] at hg
    cases hg

/-- The last operation of a run without failures. -/
theorem withstands_act_of_reliable {o : Op} {Q : Except ε (Val o) → σ → Prop} {a : Val o} {s' : σ}
    (hfault : ∀ n, fault n = none) (hJ : J s) (hperform : perform o s = (.ok a, s')) (hJ' : J s')
    (hQ : Q (.ok a) s') : Withstands perform leave fault J (act o) Q s := by
  refine withstands_act hJ (by rw [hperform]; exact ⟨hJ', hQ⟩) fun n g hg ↦ ?_
  rw [hfault n] at hg
  cases hg

/-! ### Errors that are not told apart -/

/-- What holds after a return, and what holds after any error. -/
def Ends (G : α → σ → Prop) (E : σ → Prop) : Except ε α → σ → Prop
  | .ok a, s => G a s
  | .error _, s => E s

section Ends

variable {E : σ → Prop} {G : α → σ → Prop}

/-- One operation, whose failures leave the invariant and what is to hold after an error. -/
theorem withstands_act_bind_of_left {o : Op} {f : Val o → Prog (Operations ε Val) ε α}
    (hstart : J s ∧ E s) (hend : J (perform o s).2 ∧ E (perform o s).2)
    (hpart : ∀ left, J (leave o left s) ∧ E (leave o left s))
    (hok : ∀ a s', perform o s = (.ok a, s') →
      Withstands perform leave fault J (f a) (Ends G E) s') :
    Withstands perform leave fault J ((act o).bind f) (Ends G E) s := by
  refine withstands_act_bind hstart.1 hok (fun e s' hs' ↦ ?_) fun n g _ ↦ ?_
  · rw [hs'] at hend
    exact hend
  · obtain ⟨e, progress⟩ := g
    cases progress with
    | nothing => exact hstart
    | everything => exact hend
    | part left => exact hpart left

/-- The last operation, whose failures leave the invariant and what is to hold after an error. -/
theorem withstands_act_of_left {o : Op} {G : Val o → σ → Prop}
    (hstart : J s ∧ E s) (hend : J (perform o s).2 ∧ E (perform o s).2)
    (hpart : ∀ left, J (leave o left s) ∧ E (leave o left s))
    (hok : ∀ a s', perform o s = (.ok a, s') → G a s') :
    Withstands perform leave fault J (act o) (Ends G E) s := by
  refine withstands_act hstart.1 ⟨hend.1, ?_⟩ fun n g _ ↦ ?_
  · rcases hr : perform o s with ⟨e | a, s'⟩
    · rw [hr] at hend
      exact hend.2
    · exact hok a s' hr
  · obtain ⟨e, progress⟩ := g
    cases progress with
    | nothing => exact hstart
    | everything => exact hend
    | part left => exact hpart left

/-- Programs in sequence. -/
theorem Withstands.bind_ends {p : Prog (Operations ε Val) ε β} {f : β → Prog (Operations ε Val) ε α}
    {A : β → σ → Prop} {B : σ → Prop} (h : Withstands perform leave fault J p (Ends A B) s)
    (hok : ∀ b s', J s' → A b s' → Withstands perform leave fault J (f b) (Ends G E) s')
    (herror : ∀ s', J s' → B s' → E s') :
    Withstands perform leave fault J (p.bind f) (Ends G E) s :=
  h.bind hok fun _ ↦ herror

/-- `finally`, whose own failures leave what is to hold after an error. -/
theorem Withstands.tryFinally_ends {final : Prog (Operations ε Val) ε PUnit}
    {A : α → σ → Prop} {B : σ → Prop} (h : Withstands perform leave fault J p (Ends A B) s)
    (hok : ∀ a s', J s' → A a s' →
      Withstands perform leave fault J final (Ends (fun _ ↦ G a) E) s')
    (herror : ∀ s', J s' → B s' →
      Withstands perform leave fault J final (Ends (fun _ ↦ E) E) s') :
    Withstands perform leave fault J (p.tryFinally final) (Ends G E) s := by
  refine h.tryFinally fun r s' hJ hA ↦ ?_
  cases r with
  | ok a => exact (hok a s' hJ hA).mono fun u t _ hQ ↦ by cases u <;> exact hQ
  | error e => exact (herror s' hJ hA).mono fun u t _ hQ ↦ by cases u <;> exact hQ

/-- `except`, whose handler leaves what is to hold after an error. -/
theorem Withstands.onException_ends {caught : ε → Bool}
    {handler : Prog (Operations ε Val) ε PUnit} {B : σ → Prop}
    (h : Withstands perform leave fault J p (Ends G B) s) (hpass : ∀ s', J s' → B s' → E s')
    (hhandler : ∀ s', J s' → B s' →
      Withstands perform leave fault J handler (Ends (fun _ ↦ E) E) s') :
    Withstands perform leave fault J (p.onException caught handler) (Ends G E) s := by
  refine h.onException (fun _ _ _ hG ↦ hG) (fun _ s' hJ hE _ ↦ hpass s' hJ hE) ?_
  intro e s' hJ hE _
  exact (hhandler s' hJ hE).mono fun u t _ hQ ↦ by cases u <;> exact hQ

end Ends

/-- A complete run ends with the postcondition. -/
theorem Withstands.run (h : Withstands perform leave fault J p Q s) (n : ℕ) :
    Q (p.run (handle perform leave fault) (s, n)).1
      (p.run (handle perform leave fault) (s, n)).2.1 :=
  (h n).of_run (fun _ ↦ rfl) (.of_forall (fun _ _ ↦ trivial) _ _)

/-- **Crashes.** A run that is stopped leaves the invariant. -/
theorem Withstands.stopAfter (h : Withstands perform leave fault J p Q s) (k n : ℕ) :
    J (p.stopAfter (handle perform leave fault) k (s, n)).1 := by
  have hstop := Prog.Meets.of_reaches (fun _ ↦ rfl) (h n) (Prog.Reaches.stopAfter k p (s, n))
  exact hstop

/-- A complete run leaves the invariant. -/
theorem Withstands.run_invariant (h : Withstands perform leave fault J p Q s) (n : ℕ) :
    J (p.run (handle perform leave fault) (s, n)).2.1 := by
  have hend := Prog.Meets.of_reaches (fun _ ↦ rfl) (h n)
    (Prog.Reaches.of_run (.of_forall (fun _ _ ↦ trivial) p (s, n)))
  exact hend

end Faulty
