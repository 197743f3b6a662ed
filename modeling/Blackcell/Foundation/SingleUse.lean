import Mathlib.Data.List.Nodup

/-!
# Tables whose entries are used once

A table holds values under keys. A value is stored under a key that the table does not hold, and is
taken from the table when it is used, or dropped. The log of the table tells which entry of it
stored a value and which one took it. This file derives from the log that each stored value is
taken at most once: whatever is taken under a key is the value that was stored last under it, and
nothing touched the key in between.

## Main definitions

* `SingleUse.Holds` : the value that the log stored last under a key, not taken since.
* `SingleUse.Backed` : a table all of whose values the log holds.
* `SingleUse.Honest` : a log that takes only what it holds.

## Main results

* `SingleUse.Backed.put`, `SingleUse.Backed.sublist`, `SingleUse.Backed.concat` : what the operations
  do to a backed table.
* `SingleUse.Honest.stored_between` : between two uses of one key a value was stored under it.
-/

namespace SingleUse

variable {ι K V : Type*} {stores : ι → Option (K × V)} {takes : ι → Option K}

/-- The entry stores a value under the key, or takes it. -/
def Touches (stores : ι → Option (K × V)) (takes : ι → Option K) (e : ι) (k : K) : Prop :=
  takes e = some k ∨ ∃ v, stores e = some (k, v)

/-- The value was stored under the key, which no later entry touches. -/
def Holds (stores : ι → Option (K × V)) (takes : ι → Option K) (log : List ι) (k : K) (v : V) :
    Prop :=
  ∃ pre e post, log = pre ++ e :: post ∧ stores e = some (k, v) ∧
    ∀ e' ∈ post, ¬Touches stores takes e' k

theorem Holds.concat {log : List ι} {e : ι} {k : K} {v : V} (h : Holds stores takes log k v)
    (he : ¬Touches stores takes e k) : Holds stores takes (log ++ [e]) k v := by
  obtain ⟨pre, e₀, post, rfl, hstores, huntouched⟩ := h
  refine ⟨pre, e₀, post ++ [e], by simp, hstores, fun e' he' ↦ ?_⟩
  rcases List.mem_append.mp he' with hmem | hmem
  · exact huntouched e' hmem
  · rwa [List.mem_singleton.mp hmem]

theorem holds_concat_self (log : List ι) {e : ι} {k : K} {v : V} (he : stores e = some (k, v)) :
    Holds stores takes (log ++ [e]) k v :=
  ⟨log, e, [], rfl, he, by simp⟩

/-- A table with distinct keys whose values the log holds. -/
structure Backed (stores : ι → Option (K × V)) (takes : ι → Option K) (log : List ι)
    (table : List (K × V)) : Prop where
  nodup : (table.map Prod.fst).Nodup
  holds : ∀ k v, (k, v) ∈ table → Holds stores takes log k v

namespace Backed

variable {log : List ι} {table : List (K × V)} {e : ι}

theorem nil : Backed stores takes [] [] := ⟨List.nodup_nil, by simp⟩

/-- Entries may be dropped. -/
theorem sublist {table' : List (K × V)} (h : Backed stores takes log table)
    (hsub : table'.Sublist table) : Backed stores takes log table' where
  nodup := h.nodup.sublist (hsub.map Prod.fst)
  holds k v hmem := h.holds k v (hsub.mem hmem)

/-- The log may grow by an entry that touches no key of the table. -/
theorem concat (h : Backed stores takes log table)
    (he : ∀ k ∈ table.map Prod.fst, ¬Touches stores takes e k) :
    Backed stores takes (log ++ [e]) table where
  nodup := h.nodup
  holds k v hmem := (h.holds k v hmem).concat (he k (List.mem_map_of_mem hmem))

/-- A value is stored under a new key. -/
theorem put {k : K} {v : V} (h : Backed stores takes log table)
    (hnew : k ∉ table.map Prod.fst) (hstores : stores e = some (k, v)) (htakes : takes e = none) :
    Backed stores takes (log ++ [e]) (table ++ [(k, v)]) where
  nodup := by
    rw [List.map_append, List.nodup_append]
    refine ⟨h.nodup, by simp, fun a ha b hb hab ↦ hnew ?_⟩
    have hb : b = k := by simpa using hb
    rwa [← hb, ← hab]
  holds k' v' hmem := by
    rcases List.mem_append.mp hmem with hold | hlast
    · refine (h.holds k' v' hold).concat ?_
      rintro (htake | ⟨w, hw⟩)
      · simp [htakes] at htake
      · obtain ⟨rfl, -⟩ := Prod.mk.injEq .. ▸ Option.some.inj (hstores.symm.trans hw)
        exact hnew (List.mem_map_of_mem hold)
    · obtain ⟨rfl, rfl⟩ := Prod.mk.injEq .. ▸ List.mem_singleton.mp hlast
      exact holds_concat_self log hstores

end Backed

/-- Every entry that takes a key takes a value that the log before it holds, and the two satisfy
`accepts`. -/
def Honest (stores : ι → Option (K × V)) (takes : ι → Option K) (accepts : ι → V → Prop)
    (log : List ι) : Prop :=
  ∀ pre e post k, log = pre ++ e :: post → takes e = some k →
    ∃ v, Holds stores takes pre k v ∧ accepts e v

namespace Honest

variable {accepts : ι → V → Prop} {log : List ι} {e : ι}

theorem nil : Honest stores takes accepts [] := by
  intro pre e post k h
  simp at h

theorem concat (h : Honest stores takes accepts log)
    (he : ∀ k, takes e = some k → ∃ v, Holds stores takes log k v ∧ accepts e v) :
    Honest stores takes accepts (log ++ [e]) := by
  intro pre e' post k hlog htakes
  rcases List.eq_nil_or_concat' post with rfl | ⟨post', last, rfl⟩
  · obtain ⟨rfl, hlast⟩ := List.append_inj' hlog rfl
    rw [← List.singleton_inj.mp hlast] at htakes ⊢
    exact he k htakes
  · rw [← List.cons_append, ← List.append_assoc] at hlog
    exact h pre e' post' k (List.append_inj' hlog rfl).1 htakes

/-- **Single use.** Between two entries that take one key there is one that stores a value under
it. -/
theorem stored_between (h : Honest stores takes accepts log) {pre mid post : List ι} {e₁ e₂ : ι}
    {k : K} (hlog : log = pre ++ e₁ :: mid ++ e₂ :: post) (h₁ : takes e₁ = some k)
    (hstores₁ : stores e₁ = none) (h₂ : takes e₂ = some k) :
    ∃ e ∈ mid, ∃ v, stores e = some (k, v) := by
  obtain ⟨v, ⟨before, e, after, hsplit, hstores, huntouched⟩, -⟩ :=
    h (pre ++ e₁ :: mid) e₂ post k hlog h₂
  -- `e` stands after `e₁`, since `e₁` would touch the key after `e`
  rcases List.append_eq_append_iff.mp hsplit with ⟨rest, hbefore, hrest⟩ | ⟨rest, hpre, hrest⟩
  · rcases List.cons_eq_append_iff.mp hrest with ⟨rfl, hcons⟩ | ⟨rest', rfl, hmid⟩
    · obtain ⟨rfl, -⟩ := List.cons.inj hcons
      simp [hstores₁] at hstores
    · exact ⟨e, by simp [hmid], v, hstores⟩
  · rcases List.cons_eq_append_iff.mp hrest with ⟨rfl, hcons⟩ | ⟨rest', rfl, hafter⟩
    · obtain ⟨rfl, -⟩ := List.cons.inj hcons
      simp [hstores₁] at hstores
    · exact absurd (.inl h₁) (huntouched e₁ (by simp [hafter]))

end Honest

end SingleUse
