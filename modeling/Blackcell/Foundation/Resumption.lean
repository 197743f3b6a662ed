import Blackcell.Foundation.Checked

/-!
# Resumable programs

A program that asks its surroundings to perform operations: it returns, raises an error, or
performs an operation and goes on with the result. Between two operations it can be stopped for
ever, as by a crash, or be interleaved with other programs that share its surroundings. A program
is a finite tree, so a run of it that is not stopped always ends.

The surroundings are a *handler*: a function that performs an operation on a shared world. The
rules of this file reduce a statement about all points at which a program can stop, and about the
result it ends with, to one statement for each operation (`Meets`).

## Main definitions

* `Prog` : programs over an interface of operations.
* `Prog.run` : the complete run of a program.
* `Prog.Reaches`, `Prog.stopAfter` : a run that may stop before any operation, and where it stops.
* `Prog.Along` : every operation of the complete run satisfies an assumption.
* `Prog.Meets` : an invariant at every point of the run, and a postcondition at its end.

## Main results

* `Prog.Meets.of_reaches`, `Prog.Meets.of_run` : what a program that meets its specification
  leaves behind when it stops, and when it ends.
* `Prog.meets_bind`, `Prog.meets_tryCatch` : the rules of sequence and of handled errors.
-/

universe u

/-- The operations that a program can perform, with the type of the result of each. -/
structure Interface where
  Op : Type
  Res : Op → Type

/-- A program: it returns a value, raises an error, or performs an operation and continues. -/
inductive Prog (I : Interface) (ε α : Type) where
  | done (a : α)
  | raise (e : ε)
  | call (o : I.Op) (next : I.Res o → Prog I ε α)

namespace Prog

variable {I : Interface} {ε α β : Type}

/-- Run one program and then another on its result. -/
def bind : Prog I ε α → (α → Prog I ε β) → Prog I ε β
  | done a, f => f a
  | raise e, _ => raise e
  | call o next, f => call o fun r ↦ (next r).bind f

/-- Run a handler when the program raises an error. -/
def tryCatch : Prog I ε α → (ε → Prog I ε α) → Prog I ε α
  | done a, _ => done a
  | raise e, handler => handler e
  | call o next, handler => call o fun r ↦ (next r).tryCatch handler

/-- Perform one operation. -/
def perform (o : I.Op) : Prog I ε (I.Res o) := call o done

/-- A computation that performs no operation. -/
def ofExcept : Except ε α → Prog I ε α
  | .ok a => done a
  | .error e => raise e

instance : Monad (Prog I ε) where
  pure := done
  bind := bind

instance : MonadExceptOf ε (Prog I ε) where
  throw := raise
  tryCatch := tryCatch

instance : MonadLift (Except ε) (Prog I ε) where
  monadLift := ofExcept

@[simp] theorem bind_eq (p : Prog I ε α) (f : α → Prog I ε β) : p >>= f = p.bind f := rfl

@[simp] theorem pure_eq (a : α) : (pure a : Prog I ε α) = done a := rfl

@[simp] theorem throw_eq (e : ε) : (throw e : Prog I ε α) = raise e := rfl

@[simp] theorem tryCatch_eq (p : Prog I ε α) (handler : ε → Prog I ε α) :
    MonadExcept.tryCatch p handler = p.tryCatch handler := rfl

@[simp] theorem liftM_eq (x : Except ε α) : (liftM x : Prog I ε α) = ofExcept x := rfl

@[simp] theorem monadLift_eq (x : Except ε α) :
    (MonadLift.monadLift x : Prog I ε α) = ofExcept x := rfl

/-! ### Running under a handler -/

variable {W : Type u} (handle : (o : I.Op) → W → I.Res o × W)

/-- The complete run: the result of the program and the world that it leaves. -/
def run : Prog I ε α → W → Except ε α × W
  | done a, w => (.ok a, w)
  | raise e, w => (.error e, w)
  | call o next, w => (next (handle o w).1).run (handle o w).2

/-- The worlds in which a program that satisfies an assumption on its operations can be stopped:
before its first operation, between two, or at its end. -/
inductive Reaches (C : I.Op → W → Prop) : Prog I ε α → W → W → Prop
  | stop (p : Prog I ε α) (w : W) : Reaches C p w w
  | step {o : I.Op} {next : I.Res o → Prog I ε α} {w w' : W} (hC : C o w)
      (h : Reaches C (next (handle o w).1) (handle o w).2 w') : Reaches C (call o next) w w'

/-- The world in which a program is stopped after at most so many operations. -/
def stopAfter : Nat → Prog I ε α → W → W
  | n + 1, call o next, w => stopAfter n (next (handle o w).1) (handle o w).2
  | _, _, w => w

/-- Every operation of the complete run satisfies an assumption. -/
def Along (C : I.Op → W → Prop) : Prog I ε α → W → Prop
  | done _, _ => True
  | raise _, _ => True
  | call o next, w => C o w ∧ (next (handle o w).1).Along C (handle o w).2

/-- The program keeps an invariant at every point at which it can be stopped, and ends with a
postcondition, provided that its operations satisfy an assumption. Before each operation the others
may change the world within a rely, and keep the invariant. -/
def Meets (R : W → W → Prop) (C : I.Op → W → Prop) (J : W → Prop) :
    Prog I ε α → (Except ε α → W → Prop) → W → Prop
  | done a, Q, w => J w ∧ Q (.ok a) w
  | raise e, Q, w => J w ∧ Q (.error e) w
  | call o next, Q, w => J w ∧ ∀ w', R w w' → J w' → C o w' →
      (next (handle o w').1).Meets R C J Q (handle o w').2

section Rules

variable {handle} {R : W → W → Prop} {C : I.Op → W → Prop} {J : W → Prop} {w w' : W}

@[simp] theorem meets_done {a : α} {Q : Except ε α → W → Prop} :
    Meets handle R C J (done a : Prog I ε α) Q w ↔ J w ∧ Q (.ok a) w := Iff.rfl

@[simp] theorem meets_raise {e : ε} {Q : Except ε α → W → Prop} :
    Meets handle R C J (raise e : Prog I ε α) Q w ↔ J w ∧ Q (.error e) w := Iff.rfl

@[simp] theorem meets_call {o : I.Op} {next : I.Res o → Prog I ε α} {Q : Except ε α → W → Prop} :
    Meets handle R C J (call o next) Q w ↔ J w ∧ ∀ w', R w w' → J w' → C o w' →
      Meets handle R C J (next (handle o w').1) Q (handle o w').2 := Iff.rfl

/-- The invariant holds where the program starts. -/
theorem Meets.start {p : Prog I ε α} {Q : Except ε α → W → Prop} (h : Meets handle R C J p Q w) :
    J w := by
  cases p <;> exact h.1

/-- **Sequence.** A sequence meets a specification exactly when its head ends in a world from
which its tail meets it. -/
theorem meets_bind {p : Prog I ε α} {f : α → Prog I ε β} {Q : Except ε β → W → Prop} :
    Meets handle R C J (p.bind f) Q w ↔
      Meets handle R C J p (fun r w' ↦ match r with
        | .ok a => Meets handle R C J (f a) Q w'
        | .error e => Q (.error e) w') w := by
  induction p generalizing w with
  | done a => exact ⟨fun h ↦ ⟨h.start, h⟩, fun h ↦ h.2⟩
  | raise e => rfl
  | call o next ih => simp only [bind, meets_call, ih]

/-- **Handled errors.** An error passes the rest of the run to its handler. -/
theorem meets_tryCatch {p : Prog I ε α} {handler : ε → Prog I ε α} {Q : Except ε α → W → Prop} :
    Meets handle R C J (p.tryCatch handler) Q w ↔
      Meets handle R C J p (fun r w' ↦ match r with
        | .ok a => Q (.ok a) w'
        | .error e => Meets handle R C J (handler e) Q w') w := by
  induction p generalizing w with
  | done a => rfl
  | raise e => exact ⟨fun h ↦ ⟨h.start, h⟩, fun h ↦ h.2⟩
  | call o next ih => simp only [tryCatch, meets_call, ih]

/-- A computation without operations stays where it is. -/
theorem meets_ofExcept {x : Except ε α} {Q : Except ε α → W → Prop} :
    Meets handle R C J (ofExcept x : Prog I ε α) Q w ↔ J w ∧ Q x w := by
  cases x <;> rfl

/-- A computation without operations that is followed by more. -/
theorem meets_ofExcept_bind {x : Except ε α} {f : α → Prog I ε β} {Q : Except ε β → W → Prop} :
    Meets handle R C J ((ofExcept x).bind f) Q w ↔
      J w ∧ (∀ a, x = .ok a → Meets handle R C J (f a) Q w) ∧
        ∀ e, x = .error e → Q (.error e) w := by
  rw [meets_bind, meets_ofExcept]
  cases x <;> simp

/-- An accepted computation without operations that is followed by more. -/
theorem Meets.ok_bind {x : Except ε α} {a : α} {f : α → Prog I ε β} {Q : Except ε β → W → Prop}
    (hx : x = .ok a) (hf : Meets handle R C J (f a) Q w) :
    Meets handle R C J ((ofExcept x).bind f) Q w := by
  subst hx
  exact hf

/-- An operation that is followed by more. -/
theorem meets_perform_bind {o : I.Op} {f : I.Res o → Prog I ε α} {Q : Except ε α → W → Prop} :
    Meets handle R C J ((perform o).bind f) Q w ↔ J w ∧ ∀ w', R w w' → J w' → C o w' →
      Meets handle R C J (f (handle o w').1) Q (handle o w').2 := Iff.rfl

/-- **Consequence.** A weaker postcondition may be taken. -/
theorem Meets.mono {p : Prog I ε α} {Q Q' : Except ε α → W → Prop}
    (h : Meets handle R C J p Q w) (hQ : ∀ r w', J w' → Q r w' → Q' r w') :
    Meets handle R C J p Q' w := by
  induction p generalizing w with
  | done a => exact ⟨h.1, hQ _ _ h.1 h.2⟩
  | raise e => exact ⟨h.1, hQ _ _ h.1 h.2⟩
  | call o next ih => exact ⟨h.1, fun w' hR hJ hC ↦ ih _ (h.2 w' hR hJ hC)⟩

/-- The rule of sequence with a named intermediate assertion. -/
theorem Meets.bind {p : Prog I ε α} {f : α → Prog I ε β} {A : Except ε α → W → Prop}
    {Q : Except ε β → W → Prop} (h : Meets handle R C J p A w)
    (hok : ∀ a w', J w' → A (.ok a) w' → Meets handle R C J (f a) Q w')
    (herr : ∀ e w', J w' → A (.error e) w' → Q (.error e) w') :
    Meets handle R C J (p.bind f) Q w := by
  refine meets_bind.mpr (h.mono fun r w' hJ hA ↦ ?_)
  cases r with
  | ok a => exact hok a w' hJ hA
  | error e => exact herr e w' hJ hA

/-- A stronger invariant that the others do not break may be kept instead. -/
theorem Meets.of_stronger {K : W → Prop} {p : Prog I ε α} {Q : Except ε α → W → Prop}
    (hKJ : ∀ w, K w → J w) (hstable : ∀ w w', R w w' → K w → J w' → K w')
    (h : Meets handle R C K p Q w) : Meets handle R C J p (fun r w' ↦ K w' ∧ Q r w') w := by
  induction p generalizing w with
  | done a => exact ⟨hKJ w h.1, h⟩
  | raise e => exact ⟨hKJ w h.1, h⟩
  | call o next ih =>
    exact ⟨hKJ w h.1, fun w' hR hJ hC ↦ ih _ (h.2 w' hR (hstable w w' hR h.1 hJ) hC)⟩

/-- The program keeps the invariant, wherever it starts and whatever it returns. -/
def Keeps (handle : (o : I.Op) → W → I.Res o × W) (R : W → W → Prop) (C : I.Op → W → Prop)
    (J : W → Prop) (p : Prog I ε α) : Prop :=
  ∀ w, J w → Meets handle R C J p (fun _ _ ↦ True) w

theorem Meets.keeps {p : Prog I ε α} {Q : W → Except ε α → W → Prop}
    (h : ∀ w, J w → Meets handle R C J p (Q w) w) : Keeps handle R C J p :=
  fun w hJ ↦ (h w hJ).mono fun _ _ _ _ ↦ trivial

theorem keeps_done (a : α) : Keeps handle R C J (done a : Prog I ε α) := fun _ hJ ↦ ⟨hJ, trivial⟩

theorem keeps_raise (e : ε) : Keeps handle R C J (raise e : Prog I ε α) := fun _ hJ ↦ ⟨hJ, trivial⟩

theorem keeps_ofExcept (x : Except ε α) : Keeps handle R C J (ofExcept x : Prog I ε α) :=
  fun _ hJ ↦ meets_ofExcept.mpr ⟨hJ, trivial⟩

theorem keeps_perform {o : I.Op} (h : ∀ w, J w → C o w → J (handle o w).2) :
    Keeps handle R C J (perform o : Prog I ε (I.Res o)) :=
  fun _ hJ ↦ ⟨hJ, fun w' _ hJ' hC ↦ ⟨h w' hJ' hC, trivial⟩⟩

theorem keeps_bind {p : Prog I ε α} {f : α → Prog I ε β} (hp : Keeps handle R C J p)
    (hf : ∀ a, Keeps handle R C J (f a)) : Keeps handle R C J (p.bind f) :=
  fun w hJ ↦ (hp w hJ).bind (fun a w' hJ' _ ↦ hf a w' hJ') fun _ _ _ _ ↦ trivial

theorem keeps_tryCatch {p : Prog I ε α} {handler : ε → Prog I ε α} (hp : Keeps handle R C J p)
    (hf : ∀ e, Keeps handle R C J (handler e)) : Keeps handle R C J (p.tryCatch handler) :=
  fun w hJ ↦ meets_tryCatch.mpr ((hp w hJ).mono fun r w' hJ' _ ↦ by
    cases r with
    | ok a => trivial
    | error e => exact hf e w' hJ')

/-- Wherever a program that meets a specification is stopped, the invariant holds. -/
theorem Meets.of_reaches {p : Prog I ε α} {Q : Except ε α → W → Prop} (hR : ∀ w, R w w)
    (h : Meets handle R C J p Q w) (hr : Reaches handle C p w w') : J w' := by
  induction hr with
  | stop p w => exact h.start
  | step hC _ ih => exact ih (h.2 _ (hR _) h.1 hC)

/-- A program that meets a specification ends with its postcondition. -/
theorem Meets.of_run {p : Prog I ε α} {Q : Except ε α → W → Prop} (hR : ∀ w, R w w)
    (h : Meets handle R C J p Q w) (ha : Along handle C p w) :
    Q (p.run handle w).1 (p.run handle w).2 := by
  induction p generalizing w with
  | done a => exact h.2
  | raise e => exact h.2
  | call o next ih => exact ih _ (h.2 _ (hR _) h.1 ha.1) ha.2

/-- What a program reaches, it also reaches when more follows. -/
theorem Reaches.bind {p : Prog I ε α} {f : α → Prog I ε β} (hr : Reaches handle C p w w') :
    Reaches handle C (p.bind f) w w' := by
  induction hr with
  | stop p w => exact .stop _ _
  | step hC _ ih => exact .step hC ih

/-- A program without an assumption on its operations can be stopped after any number of them. -/
theorem Reaches.stopAfter (n : Nat) (p : Prog I ε α) (w : W) :
    Reaches handle (fun _ _ ↦ True) p w (p.stopAfter handle n w) := by
  induction n generalizing p w with
  | zero => cases p <;> exact .stop _ _
  | succ n ih =>
    cases p with
    | done a => exact .stop _ _
    | raise e => exact .stop _ _
    | call o next => exact .step trivial (ih _ _)

/-- The end of a complete run is reached. -/
theorem Reaches.of_run {p : Prog I ε α} (ha : Along handle C p w) :
    Reaches handle C p w (p.run handle w).2 := by
  induction p generalizing w with
  | done a => exact .stop _ _
  | raise e => exact .stop _ _
  | call o next ih => exact .step ha.1 (ih _ ha.2)

/-- What holds of every operation holds along every run. -/
theorem Along.of_forall (h : ∀ o w, C o w) (p : Prog I ε α) (w : W) : Along handle C p w := by
  induction p generalizing w with
  | done a => trivial
  | raise e => trivial
  | call o next ih => exact ⟨h o w, ih _ _⟩

theorem Along.and {C' : I.Op → W → Prop} {p : Prog I ε α} (h : Along handle C p w)
    (h' : Along handle C' p w) : Along handle (fun o w ↦ C o w ∧ C' o w) p w := by
  induction p generalizing w with
  | done a => trivial
  | raise e => trivial
  | call o next ih => exact ⟨⟨h.1, h'.1⟩, ih _ h.2 h'.2⟩

/-- A weaker assumption may be taken. -/
theorem Along.mono {C' : I.Op → W → Prop} {p : Prog I ε α} (h : Along handle C p w)
    (hC : ∀ o w, C o w → C' o w) : Along handle C' p w := by
  induction p generalizing w with
  | done a => trivial
  | raise e => trivial
  | call o next ih => exact ⟨hC _ _ h.1, ih _ h.2⟩

end Rules

end Prog
