import Blackcell.Kernel.Event

/-!
# Digests of documents

Two objects with the same digest have the same canonical text, as long as SHA-256 does not collide
on them, and then they agree on every key: the canonical text lists the bindings sorted by key, and
no key is bound twice. No injective map to 64 hexadecimal digits exists, so the absence of collisions
is a property of the documents that a component hashes (`Host.CollisionFreeOn`).

## Main definitions

* `Host.CollisionFreeOn` : no two documents of a set with different canonical texts have one digest.

## Main results

* `Host.CollisionFreeOn.get_eq` : two objects with one digest agree on every key.
-/

namespace Blackcell.Kernel

namespace Mapping

variable {m m' : Mapping} {key : String}

/-- An object whose keys are distinct binds a key to a value exactly if it has this binding. -/
theorem lookup_eq_some_iff (hm : m.keys.Nodup) {v : JsonValue} :
    m.lookup key = some v ↔ (key, v) ∈ m := by
  induction m with
  | nil => simp
  | cons kv m ih =>
    obtain ⟨k, w⟩ := kv
    obtain ⟨hk, hm⟩ := List.nodup_cons.mp (show (k :: Mapping.keys m).Nodup from hm)
    by_cases h : key = k
    · subst h
      have habsent : (key, v) ∉ m := fun hmem ↦ hk (List.mem_map_of_mem hmem)
      simp [habsent, eq_comm]
    · have hne : (key == k) = false := beq_eq_false_iff_ne.mpr h
      simp [List.lookup_cons, hne, ih hm, h]

/-- The order of the bindings of an object does not matter. -/
theorem lookup_eq_of_perm (hm : m.keys.Nodup) (h : m.Perm m') : m.lookup key = m'.lookup key := by
  have hm' : m'.keys.Nodup := (h.map Prod.fst).nodup_iff.mp hm
  refine Option.ext fun v ↦ ?_
  rw [lookup_eq_some_iff hm, lookup_eq_some_iff hm', h.mem_iff]

end Mapping

namespace JsonValue

theorem canonicalFields_eq_map (fields : List (String × JsonValue)) :
    canonicalFields fields = fields.map fun kv ↦ (kv.1, kv.2.canonical) := by
  induction fields with
  | nil => rfl
  | cons kv fields ih => rw [canonicalFields, ih, List.map_cons]

theorem lookup_canonicalFields (m : Mapping) (key : String) :
    (canonicalFields m).lookup key = (m.lookup key).map canonical := by
  induction m with
  | nil => rfl
  | cons kv m ih =>
    rw [canonicalFields, List.lookup_cons, List.lookup_cons, ih]
    split <;> rfl

/-- Two objects with one canonical text agree on every key. -/
theorem canonical_get_eq {m m' : Mapping} (hm : m.keys.Nodup)
    (h : (object m).canonical = (object m').canonical) (key : String) :
    (m.get key).canonical = (m'.get key).canonical := by
  have hsorted := object.inj (by simpa only [canonical] using h)
  have hperm : (canonicalFields m).Perm (canonicalFields m') :=
    ((List.perm_insertionSort _ _).symm.trans (.of_eq hsorted)).trans (List.perm_insertionSort _ _)
  have hkeys : (Mapping.keys (canonicalFields m)).Nodup := by
    rw [Mapping.keys, canonicalFields_eq_map, List.map_map]
    exact hm
  have hlookup : (canonicalFields m).lookup key = (canonicalFields m').lookup key :=
    Mapping.lookup_eq_of_perm hkeys hperm
  rw [lookup_canonicalFields, lookup_canonicalFields] at hlookup
  unfold Mapping.get
  cases hv : m.lookup key <;> cases hw : m'.lookup key <;> simp_all

end JsonValue

namespace Host

variable {H : Host} {S : Set JsonValue}

/-- **No collisions.** No two documents of a set with different canonical texts have one digest. -/
def CollisionFreeOn (H : Host) (S : Set JsonValue) : Prop :=
  ∀ v ∈ S, ∀ w ∈ S, H.jsonDigest v = H.jsonDigest w → v.canonical = w.canonical

theorem withoutDigestPrefix_jsonDigest (v : JsonValue) :
    withoutDigestPrefix (H.jsonDigest v) = H.hexdigest v.canonical :=
  withoutDigestPrefix_append _

/-- The digits of a digest are the whole digest. -/
theorem withoutDigestPrefix_inj {v w : JsonValue} :
    withoutDigestPrefix (H.jsonDigest v) = withoutDigestPrefix (H.jsonDigest w) ↔
      H.jsonDigest v = H.jsonDigest w := by
  rw [withoutDigestPrefix_jsonDigest, withoutDigestPrefix_jsonDigest, jsonDigest, jsonDigest,
    String.append_right_inj]

/-- Two objects of a set without collisions that have one digest agree on every key. -/
theorem CollisionFreeOn.get_eq (h : H.CollisionFreeOn S) {m m' : Mapping} (hm : m.keys.Nodup)
    (hmem : .object m ∈ S) (hmem' : .object m' ∈ S)
    (hdigest : H.jsonDigest (.object m) = H.jsonDigest (.object m')) (key : String) :
    (m.get key).canonical = (m'.get key).canonical :=
  JsonValue.canonical_get_eq hm (h _ hmem _ hmem' hdigest) key

end Host

end Blackcell.Kernel
