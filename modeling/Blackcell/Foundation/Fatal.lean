import Blackcell.Foundation.Resumption

/-!
# Fatal results

Some results of operations leave a program no way to return: whatever it does afterwards, it raises. A
program that returned all the same has met none of them.

## Main definitions

* `Prog.Performs` : all operations of a program are of a kind.
* `Prog.Dies` : a program raises after a fatal result of one of its operations.
* `Prog.Wary` : a program keeps the invariant under which its fatal results are fatal.

## Main results

* `Prog.Wary.bind` : programs in sequence.
* `Prog.Wary.along` : a wary program that returns has met no fatal result.
-/

universe u

namespace Prog

variable {I : Interface} {ε α β : Type}

/-! ### Kinds of operations -/

/-- All operations of the program are of a kind. -/
def Performs (P : I.Op → Prop) : Prog I ε α → Prop
  | done _ | raise _ => True
  | call o next => P o ∧ ∀ r, (next r).Performs P

section Performs

variable {P : I.Op → Prop} {p : Prog I ε α}

theorem performs_done (a : α) : (done a : Prog I ε α).Performs P := trivial

theorem performs_raise (e : ε) : (raise e : Prog I ε α).Performs P := trivial

theorem performs_ofExcept (x : Except ε α) : (ofExcept x : Prog I ε α).Performs P := by
  cases x <;> trivial

theorem performs_perform {o : I.Op} (h : P o) : (perform o : Prog I ε (I.Res o)).Performs P :=
  ⟨h, fun _ ↦ trivial⟩

theorem performs_bind {f : α → Prog I ε β} (hp : p.Performs P) (hf : ∀ a, (f a).Performs P) :
    (p.bind f).Performs P := by
  induction p with
  | done a => exact hf a
  | raise e => trivial
  | call o next ih => exact ⟨hp.1, fun r ↦ ih r (hp.2 r)⟩

theorem performs_tryCatch {handler : ε → Prog I ε α} (hp : p.Performs P)
    (hf : ∀ e, (handler e).Performs P) : (p.tryCatch handler).Performs P := by
  induction p with
  | done a => trivial
  | raise e => exact hf e
  | call o next ih => exact ⟨hp.1, fun r ↦ ih r (hp.2 r)⟩

end Performs

/-! ### Fatal results -/

section Dies

variable {W : Type u} (handle : (o : I.Op) → W → I.Res o × W) (R : W → W → Prop)
  (C : I.Op → W → Prop) (J : W → Prop) (fatal : (o : I.Op) → I.Res o → Prop)

/-- **Fatal results.** After a fatal result of any of its operations, in a world of the invariant, the
program raises. -/
def Dies : Prog I ε α → Prop
  | done _ | raise _ => True
  | call o next => ∀ r, (fatal o r → ∀ w, J w →
      Meets handle R C J (next r) (fun r _ ↦ ∃ e, r = .error e) w) ∧ (next r).Dies

variable {handle R C J fatal} {p : Prog I ε α} {w : W}

/-- A program whose operations have no fatal results. -/
theorem Performs.dies {P : I.Op → Prop} (h : p.Performs P) (hP : ∀ o, P o → ∀ r, ¬fatal o r) :
    p.Dies handle R C J fatal := by
  induction p with
  | done | raise => trivial
  | call o next ih => exact fun r ↦ ⟨fun hr ↦ absurd hr (hP o h.1 r), ih r (h.2 r)⟩

/-- **Sequence.** An error of the head is one of the sequence. -/
theorem Dies.bind {f : α → Prog I ε β} (hp : p.Dies handle R C J fatal)
    (hf : ∀ a, (f a).Dies handle R C J fatal) : (p.bind f).Dies handle R C J fatal := by
  induction p with
  | done a => exact hf a
  | raise e => trivial
  | call o next ih =>
    refine fun r ↦ ⟨fun hr w hJ ↦ ?_, ih r (hp r).2⟩
    refine ((hp r).1 hr w hJ).bind ?_ fun e _ _ _ ↦ ⟨e, rfl⟩
    rintro a w' - ⟨_, h⟩
    cases h

/-- The program keeps the invariant, and raises after a fatal result of any of its operations. -/
structure Wary (handle : (o : I.Op) → W → I.Res o × W) (R : W → W → Prop) (C : I.Op → W → Prop)
    (J : W → Prop) (fatal : (o : I.Op) → I.Res o → Prop) (p : Prog I ε α) : Prop where
  keeps : Keeps handle R C J p
  dies : p.Dies handle R C J fatal

theorem wary_done (a : α) : Wary handle R C J fatal (done a : Prog I ε α) :=
  ⟨keeps_done a, trivial⟩

theorem wary_raise (e : ε) : Wary handle R C J fatal (raise e : Prog I ε α) :=
  ⟨keeps_raise e, trivial⟩

theorem wary_ofExcept (x : Except ε α) : Wary handle R C J fatal (ofExcept x : Prog I ε α) := by
  cases x with
  | ok a => exact wary_done a
  | error e => exact wary_raise e

theorem Wary.bind {f : α → Prog I ε β} (hp : Wary handle R C J fatal p)
    (hf : ∀ a, Wary handle R C J fatal (f a)) : Wary handle R C J fatal (p.bind f) :=
  ⟨keeps_bind hp.keeps fun a ↦ (hf a).keeps, hp.dies.bind fun a ↦ (hf a).dies⟩

/-- A computation without operations that is followed by more. -/
theorem wary_ofExcept_bind {x : Except ε α} {f : α → Prog I ε β}
    (hf : ∀ a, x = .ok a → Wary handle R C J fatal (f a)) :
    Wary handle R C J fatal ((ofExcept x).bind f) := by
  cases x with
  | ok a => exact hf a rfl
  | error e => exact wary_raise e

/-- An operation that is followed by more. -/
theorem wary_perform_bind {o : I.Op} {f : I.Res o → Prog I ε α}
    (hkeeps : ∀ w, J w → C o w → J (handle o w).2)
    (hfatal : ∀ r, fatal o r → ∀ w, J w →
      Meets handle R C J (f r) (fun r _ ↦ ∃ e, r = .error e) w)
    (hf : ∀ r, Wary handle R C J fatal (f r)) : Wary handle R C J fatal ((perform o).bind f) :=
  ⟨keeps_bind (keeps_perform hkeeps) fun r ↦ (hf r).keeps, fun r ↦ ⟨hfatal r, (hf r).dies⟩⟩

/-- **Survival.** A wary program that returns has met no fatal result. -/
theorem Wary.along (hp : Wary handle R C J fatal p) (hR : ∀ w, R w w) (hJ : J w)
    (halong : Along handle C p w) {a : α} (hreturns : (p.run handle w).1 = .ok a) :
    Along handle (fun o w ↦ ¬fatal o (handle o w).1) p w := by
  have hmeets := hp.keeps w hJ
  have hdies := hp.dies
  clear hp hJ
  induction p generalizing w with
  | done | raise => trivial
  | call o next ih =>
    have hnext := hmeets.2 w (hR w) hmeets.1 halong.1
    refine ⟨fun hfatal ↦ ?_, ih _ halong.2 hreturns hnext (hdies _).2⟩
    obtain ⟨e, he⟩ := ((hdies _).1 hfatal _ hnext.start).of_run hR halong.2
    rw [run, he] at hreturns
    cases hreturns

end Dies

end Prog
