import Blackcell.Kernel.Digest

/-!
# Reading canonical documents

The event store keeps a payload as `canonical_json_bytes` writes it: with the keys of every object
sorted. A reader that asks an object for its keys, and an array for its items, finds there what it
would have found in the payload itself.

## Main definitions

* `Mapping.canonical` : the bindings of an object as its canonical text lists them.

## Main results

* `Mapping.get_canonical` : a key reads the canonical form of its value.
* `Mapping.exact_canonical` : the set of keys is the same.
-/

namespace Blackcell.Kernel

namespace Mapping

variable {m : Mapping} {key : String}

/-- The canonical bindings of an object, sorted by key. -/
def canonical (m : Mapping) : Mapping :=
  (JsonValue.canonicalFields m).insertionSort fun p q ↦ chars p.1 ≤ chars q.1

/-- A binding that is sorted into others is found before those with its key. -/
theorem lookup_orderedInsert (kv : String × JsonValue) :
    (m.orderedInsert (fun p q ↦ chars p.1 ≤ chars q.1) kv).lookup key =
      (kv :: m : Mapping).lookup key := by
  induction m with
  | nil => rfl
  | cons x m ih =>
    rw [List.orderedInsert_cons]
    split
    · rfl
    · rename_i h
      have hne : x.1 ≠ kv.1 := fun heq ↦ h (le_of_eq (congrArg chars heq.symm))
      rw [List.lookup_cons, ih, List.lookup_cons, List.lookup_cons, List.lookup_cons]
      by_cases hx : key = x.1
      · have hkv : (key == kv.1) = false := beq_eq_false_iff_ne.mpr (hx ▸ hne)
        rw [hkv, beq_iff_eq.mpr hx]
      · rw [beq_eq_false_iff_ne.mpr hx]

/-- Sorting the bindings of an object changes no answer. -/
theorem lookup_insertionSort :
    (m.insertionSort fun p q ↦ chars p.1 ≤ chars q.1).lookup key = m.lookup key := by
  induction m with
  | nil => rfl
  | cons kv m ih =>
    rw [List.insertionSort_cons, lookup_orderedInsert, List.lookup_cons, List.lookup_cons, ih]

/-- **Reading.** A key of a canonical object reads the canonical form of its value. -/
theorem get_canonical : m.canonical.get key = (m.get key).canonical := by
  rw [get, canonical, lookup_insertionSort, JsonValue.lookup_canonicalFields, get]
  cases m.lookup key with
  | none => simp only [Option.map_none, Option.getD_none, JsonValue.canonical]
  | some v => rfl

theorem mem_keys_canonical : key ∈ m.canonical.keys ↔ key ∈ m.keys := by
  simp [canonical, keys, JsonValue.canonicalFields_eq_map]

/-- The canonical object has the same keys. -/
theorem exact_canonical {expected : List String} : m.canonical.exact expected ↔ m.exact expected := by
  simp only [exact, mem_keys_canonical]

end Mapping

namespace JsonValue

theorem canonicalItems_eq_map (items : List JsonValue) :
    canonicalItems items = items.map canonical := by
  induction items with
  | nil => rfl
  | cons v items ih => rw [canonicalItems, ih, List.map_cons]

theorem canonical_object (m : Mapping) : (object m).canonical = .object m.canonical := by
  rw [canonical]
  rfl

theorem canonical_list (items : List JsonValue) :
    (list items).canonical = .list (items.map canonical) := by
  rw [canonical, canonicalItems_eq_map]

theorem fields?_canonical (v : JsonValue) : v.canonical.fields? = v.fields?.map Mapping.canonical := by
  cases v with
  | object m => rw [canonical_object]; rfl
  | list items => rw [canonical_list]; rfl
  | _ => simp only [canonical, fields?, Option.map_none]

theorem items?_canonical (v : JsonValue) :
    v.canonical.items? = v.items?.map (List.map canonical) := by
  cases v with
  | object m => rw [canonical_object]; rfl
  | list items => rw [canonical_list]; rfl
  | _ => simp only [canonical, items?, Option.map_none]

theorem text?_canonical (v : JsonValue) : v.canonical.text? = v.text? := by
  cases v with
  | object m => rw [canonical_object]; rfl
  | list items => rw [canonical_list]; rfl
  | _ => simp only [canonical]

theorem int?_canonical (v : JsonValue) : v.canonical.int? = v.int? := by
  cases v with
  | object m => rw [canonical_object]; rfl
  | list items => rw [canonical_list]; rfl
  | _ => simp only [canonical]

theorem canonical_eq_null {v : JsonValue} : v.canonical = .null ↔ v = .null := by
  cases v with
  | object m => simp [canonical_object]
  | list items => simp [canonical_list]
  | _ => simp only [canonical]

end JsonValue

end Blackcell.Kernel
