import Blackcell.Foundation.Checked
import Blackcell.Foundation.LogReader

/-!
# Pages of a log

A log is searched page by page. Each entry is visited, which may fail and otherwise shows something or
nothing; a page shows what its entries show, and says where the next page begins and whether there is
more. A search that follows its pages to the end visits every entry of the log once, in order.

## Main definitions

* `Pagination.Page` : a page.
* `Pagination.IsPage` : a page that shows what lies between its two cursors.
* `Pagination.Walk` : the pages that are followed while there is more.

## Main results

* `Pagination.Walk.spec` : a walk visits and shows the rest of the log.
* `Pagination.exists_walk_iff` : a walk reaches the end exactly when no visit fails.
-/

universe u

namespace Pagination

variable {α ε β : Type u}

/-- A page: what it shows, where the next one begins, and whether there is more. -/
structure Page (β : Type u) where
  items : List β
  next : ℕ
  more : Bool

/-- What a visit shows. -/
def shown (visit : α → Except ε (Option β)) (a : α) : Option β :=
  match visit a with
  | .ok b => b
  | .error _ => none

theorem shown_of_ok {visit : α → Except ε (Option β)} {a : α} {b : Option β}
    (h : visit a = .ok b) : shown visit a = b := by
  rw [shown, h]

/-- A page visits the entries between its two cursors and shows what they show. -/
structure IsPage (log : List α) (visit : α → Except ε (Option β)) (cursor : ℕ) (p : Page β) : Prop where
  forward : cursor ≤ p.next
  inside : p.next ≤ log.length
  visited : ∀ a ∈ (log.take p.next).drop cursor, ∃ b, visit a = .ok b
  items : p.items = ((log.take p.next).drop cursor).filterMap (shown visit)
  more : p.more = true ↔ p.next < log.length
  progress : p.more = true → cursor < p.next

/-- The pages of a search that are followed from a cursor while there is more. -/
inductive Walk (query : ℕ → Except ε (Page β)) : ℕ → List (Page β) → Prop
  | last {cursor : ℕ} {p : Page β} (hquery : query cursor = .ok p) (hmore : p.more = false) :
      Walk query cursor [p]
  | more {cursor : ℕ} {p : Page β} {ps : List (Page β)} (hquery : query cursor = .ok p)
      (hmore : p.more = true) (hwalk : Walk query p.next ps) : Walk query cursor (p :: ps)

section

variable {log : List α} {visit : α → Except ε (Option β)} {query : ℕ → Except ε (Page β)}
  {cursor : ℕ} {ps : List (Page β)}

/-- The entries behind a cursor are those of the next page and those behind it. -/
theorem IsPage.drop_eq {p : Page β} (h : IsPage log visit cursor p) :
    log.drop cursor = (log.take p.next).drop cursor ++ log.drop p.next := by
  have hsplit := congrArg (List.drop cursor) (List.take_append_drop p.next log)
  rw [← hsplit, List.drop_append_of_le_length]
  rw [List.length_take]
  have := h.forward
  have := h.inside
  omega

/-- The last page reaches the end of the log. -/
theorem IsPage.next_eq {p : Page β} (h : IsPage log visit cursor p) (hmore : p.more = false) :
    p.next = log.length := by
  have hinside := h.inside
  have hnot : ¬p.next < log.length := fun hlt ↦ by simp [h.more.mpr hlt] at hmore
  omega

variable (hpage : ∀ cursor p, cursor ≤ log.length → query cursor = .ok p → IsPage log visit cursor p)

include hpage

/-- **Walks.** A walk visits every entry behind its start, shows what they show, and ends at the end of
the log. -/
theorem Walk.spec (h : Walk query cursor ps) (hcursor : cursor ≤ log.length) :
    (∀ a ∈ log.drop cursor, ∃ b, visit a = .ok b) ∧
      ps.flatMap (·.items) = (log.drop cursor).filterMap (shown visit) := by
  induction h with
  | last hquery hmore =>
    have h := hpage _ _ hcursor hquery
    have hdrop := h.drop_eq
    rw [h.next_eq hmore, List.drop_length, List.append_nil, ← h.next_eq hmore] at hdrop
    rw [hdrop, List.flatMap_singleton]
    exact ⟨h.visited, h.items⟩
  | more hquery hmore _ ih =>
    have h := hpage _ _ hcursor hquery
    obtain ⟨hvisited, hitems⟩ := ih h.inside
    rw [h.drop_eq, List.flatMap_cons, List.filterMap_append, hitems, h.items]
    refine ⟨fun a ha ↦ ?_, rfl⟩
    rcases List.mem_append.mp ha with ha | ha
    · exact h.visited a ha
    · exact hvisited a ha

/-- Every page of a walk is a page, at its own cursor. -/
theorem Walk.isPage (h : Walk query cursor ps) (hcursor : cursor ≤ log.length) :
    ∀ p ∈ ps, ∃ c, query c = .ok p ∧ IsPage log visit c p := by
  induction h with
  | last hquery _ =>
    rintro p (_ | ⟨_, ⟨⟩⟩)
    exact ⟨_, hquery, hpage _ _ hcursor hquery⟩
  | more hquery _ _ ih =>
    have h := hpage _ _ hcursor hquery
    rintro p (_ | ⟨_, hp⟩)
    · exact ⟨_, hquery, h⟩
    · exact ih h.inside p hp

/-- **The end of a walk.** A search can be followed to the end of the log exactly when no visit of an
entry behind its start fails. -/
theorem exists_walk_iff
    (hquery : ∀ cursor, cursor ≤ log.length → (∀ a ∈ log.drop cursor, ∃ b, visit a = .ok b) →
      ∃ p, query cursor = .ok p) (hcursor : cursor ≤ log.length) :
    (∃ ps, Walk query cursor ps) ↔ ∀ a ∈ log.drop cursor, ∃ b, visit a = .ok b := by
  refine ⟨fun ⟨ps, h⟩ ↦ (h.spec hpage hcursor).1, fun hvisit ↦ ?_⟩
  induction hn : log.length - cursor using Nat.strongRecOn generalizing cursor with
  | ind n ih =>
    obtain ⟨p, hp⟩ := hquery cursor hcursor hvisit
    have h := hpage cursor p hcursor hp
    cases hmore : p.more with
    | false => exact ⟨[p], .last hp hmore⟩
    | true =>
      have hprogress := h.progress hmore
      have hinside := h.more.mp hmore
      have hrest : ∀ a ∈ log.drop p.next, ∃ b, visit a = .ok b := fun a ha ↦
        hvisit a (h.drop_eq ▸ List.mem_append_right _ ha)
      obtain ⟨ps, hwalk⟩ := ih (log.length - p.next) (by omega) (Nat.le_of_lt hinside) hrest rfl
      exact ⟨p :: ps, .more hp hmore hwalk⟩

end

end Pagination
