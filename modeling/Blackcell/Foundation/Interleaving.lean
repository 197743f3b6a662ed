import Mathlib.Data.List.Basic

/-!
# Interleaved programs

Programs that share a store and work on it by atomic operations. A program is what it does next: it is
done, or it performs an operation and goes on with the reply. A pool of programs takes turns in any
order, and an environment may change the store between any two turns. The rule of this file is that of
rely and guarantee: each program is proved on its own, against every change of the store that the
others may make, and then holds in every interleaving.

## Main definitions

* `Program` : a program over operations and their replies, a monad.
* `Program.Reads` : a program whose operations leave the store as it is.
* `Program.Safe` : what a program guarantees, and what it leaves when it is done.
* `Pool`, `Pool.run` : programs that take turns.

## Main results

* `Program.Safe.bind` : programs in sequence.
* `Program.safe_of_reads` : a program that only reads.
* `Pool.Safe.run` : every interleaving.
-/

universe u

/-- A program over operations and their replies. -/
inductive Program (Op : Type u) (Reply : Op → Type u) (α : Type u) : Type u
  | done (result : α)
  | op (o : Op) (next : Reply o → Program Op Reply α)

namespace Program

variable {Op : Type u} {Reply : Op → Type u} {α β σ : Type u}

/-- Run a program, and another one on its result. -/
def bind (p : Program Op Reply α) (f : α → Program Op Reply β) : Program Op Reply β :=
  match p with
  | .done a => f a
  | .op o next => .op o fun r ↦ bind (next r) f

instance : Monad (Program Op Reply) where
  pure := .done
  bind := bind

/-- Perform one operation. -/
def perform (o : Op) : Program Op Reply (Reply o) := .op o .done

@[simp] theorem pure_eq (a : α) : (pure a : Program Op Reply α) = .done a := rfl

@[simp] theorem done_bind (a : α) (f : α → Program Op Reply β) : (done a >>= f) = f a := rfl

@[simp] theorem op_bind (o : Op) (next : Reply o → Program Op Reply α)
    (f : α → Program Op Reply β) : (op o next >>= f) = op o fun r ↦ next r >>= f := rfl

variable (apply : (o : Op) → σ → Reply o × σ)

/-- One turn of a program on the store. -/
def step (p : Program Op Reply α) (s : σ) : Program Op Reply α × σ :=
  match p with
  | .done a => (.done a, s)
  | .op o next => (next (apply o s).1, (apply o s).2)

/-- Every operation of the program leaves the store as it is, and its results satisfy `q`. -/
def Reads (q : α → Prop) : Program Op Reply α → Prop
  | .done a => q a
  | .op o next => (∀ s, (apply o s).2 = s) ∧ ∀ r, Reads q (next r)

/-- The changes that a program made to the store: the stores before and after its turns. -/
abbrev Changes (σ : Type u) := List (σ × σ)

/-- **Safe programs.** Whatever the others do within `rely`, each turn of the program is within `rely`
too, and when it is done, its result, its changes and every later store satisfy `post`. -/
def Safe (rely : σ → σ → Prop) (post : Changes σ → α → σ → Prop) :
    Changes σ → Program Op Reply α → σ → Prop
  | changes, .done a, s => ∀ t, rely s t → post changes a t
  | changes, .op o next, s => ∀ t, rely s t →
      rely t (apply o t).2 ∧
        Safe rely post (changes ++ [(t, (apply o t).2)]) (next (apply o t).1) (apply o t).2

variable {apply} {rely : σ → σ → Prop} {post : Changes σ → α → σ → Prop} {changes : Changes σ}
  {p : Program Op Reply α} {s t : σ}

/-- A program that is safe stays safe while others work. -/
theorem Safe.later (htrans : ∀ {a b c}, rely a b → rely b c → rely a c)
    (h : Safe apply rely post changes p s) (hst : rely s t) : Safe apply rely post changes p t := by
  cases p with
  | done a => exact fun u htu ↦ h u (htrans hst htu)
  | op o next => exact fun u htu ↦ h u (htrans hst htu)

/-- A program guarantees less than what it guarantees. -/
theorem Safe.mono {post' : Changes σ → α → σ → Prop} (h : Safe apply rely post changes p s)
    (hpost : ∀ changes a t, post changes a t → post' changes a t) :
    Safe apply rely post' changes p s := by
  induction p generalizing changes s with
  | done a => exact fun t hst ↦ hpost _ _ _ (h t hst)
  | op o next ih => exact fun t hst ↦ ⟨(h t hst).1, ih _ (h t hst).2⟩

/-- A program is done later than it starts. -/
theorem Safe.after (h : Safe apply rely post changes p t)
    (htrans : ∀ {a b c}, rely a b → rely b c → rely a c) (hst : rely s t) :
    Safe apply rely (fun changes a u ↦ rely s u ∧ post changes a u) changes p t := by
  induction p generalizing changes t with
  | done a => exact fun u htu ↦ ⟨htrans hst htu, h u htu⟩
  | op o next ih =>
    intro u htu
    obtain ⟨hguarantee, hnext⟩ := h u htu
    exact ⟨hguarantee, ih _ hnext (htrans hst (htrans htu hguarantee))⟩

/-- A program that begins with an operation. -/
theorem safe_perform_bind {o : Op} {f : Reply o → Program Op Reply α}
    (h : ∀ t, rely s t → rely t (apply o t).2 ∧
      Safe apply rely post (changes ++ [(t, (apply o t).2)]) (f (apply o t).1) (apply o t).2) :
    Safe apply rely post changes (perform o >>= f) s := h

/-- A program in sequence: the second one starts where the first one is done. -/
theorem Safe.bind {post' : Changes σ → β → σ → Prop} {f : α → Program Op Reply β}
    (h : Safe apply rely post changes p s)
    (hf : ∀ changes a t, (∀ u, rely t u → post changes a u) →
      Safe apply rely post' changes (f a) t) :
    Safe apply rely post' changes (p >>= f) s := by
  induction p generalizing changes s with
  | done a => exact hf _ _ _ h
  | op o next ih =>
    intro t hst
    obtain ⟨hguarantee, hnext⟩ := h t hst
    exact ⟨hguarantee, ih _ hnext⟩

/-- The changes of a program that only reads are none. -/
def Quiet (changes : Changes σ) : Prop := ∀ c ∈ changes, c.2 = c.1

variable {q : α → Prop}

/-- A program that only reads is safe: it changes nothing, and leaves what holds at every later
store. -/
theorem safe_of_reads (hrefl : ∀ s, rely s s)
    (htrans : ∀ {a b c}, rely a b → rely b c → rely a c) (hp : p.Reads apply q)
    (hpost : ∀ changes' a t, Quiet changes' → q a → rely s t → post (changes ++ changes') a t) :
    Safe apply rely post changes p s := by
  induction p generalizing changes s with
  | done a =>
    intro t hst
    simpa using hpost [] a t (by simp [Quiet]) hp hst
  | op o next ih =>
    intro t hst
    obtain ⟨hsame, hnext⟩ := hp
    rw [hsame t]
    refine ⟨hrefl t, ih _ (hnext _) fun changes' a u hquiet ha htu ↦ ?_⟩
    have hquiet' : Quiet ((t, t) :: changes') := List.forall_mem_cons.mpr ⟨rfl, hquiet⟩
    simpa using hpost _ a u hquiet' ha (htrans hst htu)

theorem reads_bind {q' : β → Prop} {f : α → Program Op Reply β} (hp : p.Reads apply q)
    (hf : ∀ a, q a → (f a).Reads apply q') : (p >>= f).Reads apply q' := by
  induction p with
  | done a => exact hf a hp
  | op o next ih => exact ⟨hp.1, fun r ↦ ih r (hp.2 r)⟩

end Program

/-! ### Pools -/

/-- Programs that share a store, each with the changes that it made. -/
structure Pool (Op : Type u) (Reply : Op → Type u) (α σ : Type u) where
  store : σ
  threads : List (Program Op Reply α × Program.Changes σ)

namespace Pool

variable {Op : Type u} {Reply : Op → Type u} {α σ ε : Type u}

/-- A turn: of a program of the pool, or of the environment. -/
inductive Turn (ε : Type u) where
  | thread (index : ℕ)
  | environment (e : ε)

variable (apply : (o : Op) → σ → Reply o × σ) (environment : ε → σ → σ)

/-- The pool after a turn. -/
def next (pool : Pool Op Reply α σ) : Turn ε → Pool Op Reply α σ
  | .thread index =>
    match pool.threads[index]? with
    | none => pool
    | some (.done _, _) => pool
    | some (.op o resume, changes) =>
      { store := (apply o pool.store).2
        threads := pool.threads.set index
          (resume (apply o pool.store).1, changes ++ [(pool.store, (apply o pool.store).2)]) }
  | .environment e => { pool with store := environment e pool.store }

/-- The pool after a schedule. -/
def run (pool : Pool Op Reply α σ) (schedule : List (Turn ε)) : Pool Op Reply α σ :=
  schedule.foldl (next apply environment) pool

/-- The pool at the start. -/
def start (store : σ) (programs : List (Program Op Reply α)) : Pool Op Reply α σ where
  store := store
  threads := programs.map fun p ↦ (p, [])

/-- Every program of the pool is safe where it stands. -/
def Safe (rely : σ → σ → Prop) (post : ℕ → Program.Changes σ → α → σ → Prop)
    (pool : Pool Op Reply α σ) : Prop :=
  ∀ index (p : Program Op Reply α) changes, pool.threads[index]? = some (p, changes) →
    p.Safe apply rely (post index) changes pool.store

variable {apply environment} {rely : σ → σ → Prop}
  {post : ℕ → Program.Changes σ → α → σ → Prop} {pool : Pool Op Reply α σ}

/-- **One turn.** It is within `rely`, and leaves every program safe. -/
theorem Safe.next (hrefl : ∀ s, rely s s) (htrans : ∀ {a b c}, rely a b → rely b c → rely a c)
    (henvironment : ∀ e s, rely s (environment e s)) (h : pool.Safe apply rely post) (turn : Turn ε) :
    (pool.next apply environment turn).Safe apply rely post ∧
      rely pool.store (pool.next apply environment turn).store := by
  cases turn with
  | environment e =>
    exact ⟨fun index p changes hp ↦ (h index p changes hp).later htrans (henvironment e _),
      henvironment e _⟩
  | thread index =>
    rw [Pool.next]
    split
    case h_1 => exact ⟨h, hrefl _⟩
    case h_2 => exact ⟨h, hrefl _⟩
    case h_3 o resume changes hthread =>
      obtain ⟨hguarantee, hresume⟩ := h index _ _ hthread pool.store (hrefl _)
      refine ⟨fun index' p changes' hp ↦ ?_, hguarantee⟩
      dsimp only at hp ⊢
      by_cases hindex : index = index'
      · subst hindex
        have hlength := (List.getElem?_eq_some_iff.mp hthread).1
        rw [List.getElem?_set_self hlength, Option.some.injEq, Prod.mk.injEq] at hp
        obtain ⟨rfl, rfl⟩ := hp
        exact hresume
      · rw [List.getElem?_set_ne hindex] at hp
        exact (h index' p changes' hp).later htrans hguarantee

/-- **Every interleaving.** -/
theorem Safe.run (hrefl : ∀ s, rely s s) (htrans : ∀ {a b c}, rely a b → rely b c → rely a c)
    (henvironment : ∀ e s, rely s (environment e s)) (h : pool.Safe apply rely post)
    (schedule : List (Turn ε)) :
    (pool.run apply environment schedule).Safe apply rely post ∧
      rely pool.store (pool.run apply environment schedule).store := by
  induction schedule generalizing pool with
  | nil => exact ⟨h, hrefl _⟩
  | cons turn schedule ih =>
    obtain ⟨hnext, hstep⟩ := h.next hrefl htrans henvironment turn
    obtain ⟨hrun, hrest⟩ := ih hnext
    exact ⟨hrun, htrans hstep hrest⟩

end Pool
