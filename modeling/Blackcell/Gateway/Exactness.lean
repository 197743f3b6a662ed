import Blackcell.Gateway.Admitted
import Blackcell.Kernel.Digest
import Mathlib.Data.List.Perm.Subperm

/-!
# Exactness of the schema validator

An output is validated against a schema exactly if each schema object that is read with it is well
formed, the root admits objects, and the output satisfies the schema. Well-formedness is what the
vocabulary says about one schema object; the relation `Nested` reaches the schemas of all properties
and items, whether a value has them or not. The validator compares values by an equality of its own,
which is an equivalence relation on frozen values and tells Booleans and numbers apart.

## Main definitions

* `UniqueKeys`, `FrozenValue` : values whose objects bind no key twice.
* `WellFormed` : a schema object of the supported vocabulary.
* `AdmitsObjects` : a root schema that an object can have.

## Main results

* `equivalence_jsonEqual` : the equality of the validator is an equivalence relation.
* `validateSchema_eq_ok_iff` : the schemas that are accepted.
* `validateValue_eq_ok_iff` : the values that satisfy an accepted schema.
* `validateOutput_exact` : exactness.
-/

namespace Blackcell.Gateway

open Blackcell.Kernel

/-! ### Equality of values -/

/-- No object in the value binds a key twice, as no `Mapping` does. -/
inductive UniqueKeys : JsonValue → Prop
  | null : UniqueKeys .null
  | bool (b : Bool) : UniqueKeys (.bool b)
  | int (n : Int) : UniqueKeys (.int n)
  | float (x : FiniteFloat) : UniqueKeys (.float x)
  | str (s : String) : UniqueKeys (.str s)
  | list {items : List JsonValue} (hitems : ∀ v ∈ items, UniqueKeys v) : UniqueKeys (.list items)
  | object {fields : List (String × JsonValue)} (hnodup : (Mapping.keys fields).Nodup)
      (hfields : ∀ field ∈ fields, UniqueKeys field.2) : UniqueKeys (.object fields)

/-- A frozen value. -/
abbrev FrozenValue := { v : JsonValue // UniqueKeys v }

section Equality

attribute [local simp] jsonEqual jsonEqualItems jsonEqualFields asNumber

theorem jsonEqualItems_iff {as bs : List JsonValue} :
    jsonEqualItems as bs = true ↔ List.Forall₂ (fun a b ↦ jsonEqual a b = true) as bs := by
  induction as generalizing bs with
  | nil => cases bs <;> simp
  | cons a as ih => cases bs <;> simp [ih]

theorem jsonEqualFields_iff {as bs : List (String × JsonValue)} :
    jsonEqualFields as bs = true ↔
      ∀ field ∈ as, ∃ b, bs.lookup field.1 = some b ∧ jsonEqual field.2 b = true := by
  induction as with
  | nil => simp
  | cons field as ih =>
    obtain ⟨k, a⟩ := field
    rw [List.forall_mem_cons, ← ih, jsonEqualFields, Bool.and_eq_true]
    refine and_congr_left fun _ ↦ ?_
    cases bs.lookup k <;> simp

@[simp] theorem jsonEqual_list {as : List JsonValue} {v : JsonValue} :
    jsonEqual (.list as) v = true ↔
      ∃ bs, v = .list bs ∧ List.Forall₂ (fun a b ↦ jsonEqual a b = true) as bs := by
  cases v <;> simp [jsonEqualItems_iff]

@[simp] theorem jsonEqual_object {as : List (String × JsonValue)} {v : JsonValue} :
    jsonEqual (.object as) v = true ↔ ∃ bs, v = .object bs ∧ as.length = bs.length ∧
      ∀ field ∈ as, ∃ b, bs.lookup field.1 = some b ∧ jsonEqual field.2 b = true := by
  cases v <;> simp [jsonEqualFields_iff]

@[simp] theorem jsonEqual_null {v : JsonValue} : jsonEqual .null v = true ↔ v = .null := by
  cases v <;> simp

@[simp] theorem jsonEqual_bool {b : Bool} {v : JsonValue} :
    jsonEqual (.bool b) v = true ↔ v = .bool b := by
  cases v <;> simp [eq_comm]

@[simp] theorem jsonEqual_str {s : String} {v : JsonValue} :
    jsonEqual (.str s) v = true ↔ v = .str s := by
  cases v <;> simp [eq_comm]

/-- A number is equal to the values that stand for the same number. -/
theorem jsonEqual_number {a v : JsonValue} {q : Rat} (ha : asNumber a = some q) :
    jsonEqual a v = true ↔ asNumber v = some q := by
  cases a <;> cases v <;> simp_all [eq_comm]

end Equality

theorem jsonEqual_refl {v : JsonValue} (h : UniqueKeys v) : jsonEqual v v = true := by
  induction h with
  | null => simp
  | bool b => simp
  | int n => exact (jsonEqual_number rfl).mpr rfl
  | float x => exact (jsonEqual_number rfl).mpr rfl
  | str s => simp
  | list hitems ih => exact (jsonEqual_list).mpr ⟨_, rfl, List.forall₂_same.mpr ih⟩
  | object hnodup hfields ih =>
    refine (jsonEqual_object).mpr ⟨_, rfl, rfl, fun field hfield ↦ ⟨field.2, ?_, ih field hfield⟩⟩
    exact (Mapping.lookup_eq_some_iff hnodup).mpr hfield

/-- Two objects of one size, one of which binds the keys of the other, bind the same keys. -/
theorem mem_keys_of_length_le {as bs : Mapping} (hnodup : as.keys.Nodup)
    (hlength : as.length = bs.length)
    (hkeys : ∀ field ∈ as, ∃ b, bs.lookup field.1 = some b ∧ jsonEqual field.2 b = true)
    {k : String} (hk : k ∈ bs.keys) : k ∈ as.keys := by
  have hsub : as.keys ⊆ bs.keys := by
    intro key hkey
    obtain ⟨field, hfield, rfl⟩ := List.mem_map.mp hkey
    obtain ⟨b, hb, -⟩ := hkeys field hfield
    obtain ⟨before, after, hsplit, -⟩ := List.lookup_eq_some_iff.mp hb
    simp [hsplit, Mapping.keys]
  have hperm := (List.subperm_of_subset hnodup hsub).perm_of_length_le
    (by simp [Mapping.keys, hlength])
  exact hperm.mem_iff.mpr hk

/-- Arrays with equal items, when equality of the items is symmetric. -/
theorem jsonEqual_items_symm {as bs : List JsonValue}
    (h : List.Forall₂ (fun a b ↦ jsonEqual a b = true) as bs)
    (hsymm : ∀ a ∈ as, ∀ b ∈ bs, jsonEqual a b = true → jsonEqual b a = true) :
    List.Forall₂ (fun a b ↦ jsonEqual a b = true) bs as := by
  induction h with
  | nil => exact .nil
  | cons hab _ ih =>
    refine .cons (hsymm _ (by simp) _ (by simp) hab) (ih fun a ha b hb ↦ ?_)
    exact hsymm a (by simp [ha]) b (by simp [hb])

/-- Arrays with equal items, when equality of the items is transitive. -/
theorem jsonEqual_items_trans {as bs cs : List JsonValue}
    (hab : List.Forall₂ (fun a b ↦ jsonEqual a b = true) as bs)
    (hbc : List.Forall₂ (fun a b ↦ jsonEqual a b = true) bs cs)
    (htrans : ∀ a ∈ as, ∀ b c, jsonEqual a b = true → jsonEqual b c = true →
      jsonEqual a c = true) :
    List.Forall₂ (fun a b ↦ jsonEqual a b = true) as cs := by
  induction hab generalizing cs with
  | nil =>
    cases hbc
    exact .nil
  | cons hab _ ih =>
    cases hbc with
    | cons hbc hrest =>
      refine .cons (htrans _ (by simp) _ _ hab hbc) (ih hrest fun a ha ↦ ?_)
      exact htrans a (by simp [ha])

theorem jsonEqual_symm {a b : JsonValue} (ha : UniqueKeys a) (hb : UniqueKeys b)
    (h : jsonEqual a b = true) : jsonEqual b a = true := by
  induction ha generalizing b with
  | null => simp_all
  | bool _ => simp_all
  | int n => exact (jsonEqual_number ((jsonEqual_number rfl).mp h)).mpr rfl
  | float x => exact (jsonEqual_number ((jsonEqual_number rfl).mp h)).mpr rfl
  | str _ => simp_all
  | list hitems ih =>
    obtain ⟨bs, rfl, hequal⟩ := (jsonEqual_list).mp h
    cases hb with
    | list hbs =>
      exact (jsonEqual_list).mpr ⟨_, rfl, jsonEqual_items_symm hequal fun v hv b hb ↦
        ih v hv (hbs b hb)⟩
  | @object as hnodup hfields ih =>
    obtain ⟨bs, rfl, hlength, hequal⟩ := (jsonEqual_object).mp h
    cases hb with
    | object hnodup' hbs =>
      refine (jsonEqual_object).mpr ⟨_, rfl, hlength.symm, fun field hfield ↦ ?_⟩
      have hkey := mem_keys_of_length_le hnodup hlength hequal (List.mem_map_of_mem hfield)
      obtain ⟨other, hother, hsame⟩ := List.mem_map.mp hkey
      obtain ⟨b, hb, hbequal⟩ := hequal other hother
      have hbeq : b = field.2 := by
        rw [hsame, (Mapping.lookup_eq_some_iff hnodup').mpr hfield] at hb
        exact (Option.some.inj hb).symm
      subst hbeq
      refine ⟨other.2, ?_, ih other hother (hbs field hfield) hbequal⟩
      rw [Mapping.lookup_eq_some_iff hnodup, ← hsame]
      exact hother

theorem jsonEqual_trans {a b c : JsonValue} (ha : UniqueKeys a) (hab : jsonEqual a b = true)
    (hbc : jsonEqual b c = true) : jsonEqual a c = true := by
  induction ha generalizing b c with
  | null => simp_all
  | bool _ => simp_all
  | int n =>
    have hb := (jsonEqual_number rfl).mp hab
    exact (jsonEqual_number rfl).mpr ((jsonEqual_number hb).mp hbc)
  | float x =>
    have hb := (jsonEqual_number rfl).mp hab
    exact (jsonEqual_number rfl).mpr ((jsonEqual_number hb).mp hbc)
  | str _ => simp_all
  | @list as hitems ih =>
    obtain ⟨bs, rfl, hbs⟩ := (jsonEqual_list).mp hab
    obtain ⟨cs, rfl, hcs⟩ := (jsonEqual_list).mp hbc
    exact (jsonEqual_list).mpr ⟨cs, rfl, jsonEqual_items_trans hbs hcs fun v hv b c ↦ ih v hv⟩
  | object hnodup hfields ih =>
    obtain ⟨bs, rfl, hlength, hbs⟩ := (jsonEqual_object).mp hab
    obtain ⟨cs, rfl, hlength', hcs⟩ := (jsonEqual_object).mp hbc
    refine (jsonEqual_object).mpr ⟨cs, rfl, hlength.trans hlength', fun field hfield ↦ ?_⟩
    obtain ⟨b, hb, hfieldb⟩ := hbs field hfield
    obtain ⟨before, after, hsplit, -⟩ := List.lookup_eq_some_iff.mp hb
    obtain ⟨c, hc, hbc⟩ := hcs (field.1, b) (by simp [hsplit])
    exact ⟨c, hc, ih field hfield hfieldb hbc⟩

/-- **The equality of the validator** is an equivalence relation on frozen values. -/
theorem equivalence_jsonEqual :
    Equivalence fun a b : FrozenValue ↦ jsonEqual a.1 b.1 = true where
  refl a := jsonEqual_refl a.2
  symm {a b} h := jsonEqual_symm a.2 b.2 h
  trans {a _ _} hab hbc := jsonEqual_trans a.2 hab hbc

/-- A Boolean is equal to no number. -/
theorem jsonEqual_bool_number (b : Bool) (n : Int) (x : FiniteFloat) :
    jsonEqual (.bool b) (.int n) = false ∧ jsonEqual (.int n) (.bool b) = false ∧
      jsonEqual (.bool b) (.float x) = false ∧ jsonEqual (.float x) (.bool b) = false := by
  simp [jsonEqual, asNumber]

/-! ### Well-formed schemas -/

/-- The names that a declaration of types gives: one, or those of an array that is not empty. -/
inductive TypeNames : JsonValue → List String → Prop
  | one (name : String) : TypeNames (.str name) [name]
  | many {names : List String} (hne : names ≠ []) : TypeNames (.list (names.map .str)) names

theorem TypeNames.unique {v : JsonValue} {names names' : List String} (h : TypeNames v names)
    (h' : TypeNames v names') : names = names' := by
  generalize hv : v = w at h'
  cases h with
  | one name =>
    cases h' with
    | one name' =>
      cases hv
      rfl
    | many _ => cases hv
  | many _ =>
    cases h' with
    | one name' => cases hv
    | many _ =>
      exact (List.map_injective_iff.mpr fun _ _ ↦ JsonValue.str.inj) (JsonValue.list.inj hv)

/-- A number of items or of characters. -/
def IsLimit (v : JsonValue) : Prop := ∃ n : Int, v = .int n ∧ 0 ≤ n

/-- The limits of a schema object are numbers that do not cross. -/
structure WellFormedLimits (schema : Mapping) : Prop where
  maxItems : ∀ v, schema.lookup "maxItems" = some v → IsLimit v
  uniqueItems : ∀ v, schema.lookup "uniqueItems" = some v → ∃ b, v = .bool b
  numbers : ∀ key ∈ ["minimum", "maximum", "exclusiveMinimum", "exclusiveMaximum"], ∀ v,
    schema.lookup key = some v → ∃ q, asNumber v = some q
  lengths : ∀ key ∈ ["minLength", "maxLength"], ∀ v, schema.lookup key = some v → IsLimit v
  bounds : ∀ a b, asNumber (schema.get "minimum") = some a →
    asNumber (schema.get "maximum") = some b → a ≤ b
  exclusiveBounds : ∀ a b, asNumber (schema.get "exclusiveMinimum") = some a →
    asNumber (schema.get "exclusiveMaximum") = some b → a < b
  lengthBounds : ∀ a b, asNumber (schema.get "minLength") = some a →
    asNumber (schema.get "maxLength") = some b → a ≤ b

/-- A schema object that uses the vocabulary as it is meant. -/
structure WellFormed (root : Bool) (schema : Mapping) : Prop extends WellFormedLimits schema where
  keywords : ∀ key ∈ schema.keys, key ∈ allowedKeywords root
  type : ∀ v, schema.lookup "type" = some v →
    ∃ names, TypeNames v names ∧ names ⊆ typeNames ∧ names.Nodup
  enum : ∀ v, schema.lookup "enum" = some v →
    ∃ items, v = .list items ∧ items ≠ [] ∧ items.Pairwise fun a b ↦ jsonEqual a b = false
  metadata : ∀ v, schema.lookup "$schema" = some v → ∃ s, v = .str s
  properties : ∀ v, schema.lookup "properties" = some v → ∃ properties, v = .object properties
  required : ∀ v, schema.lookup "required" = some v →
    ∃ names : List String, v = .list (names.map .str) ∧ names.Nodup
  additionalProperties : ∀ v, schema.lookup "additionalProperties" = some v → ∃ b, v = .bool b

/-- Each schema that is read with a schema is a well-formed object. -/
def WellFormedBelow (root : Bool) (v : JsonValue) : Prop :=
  ∀ inner below, Nested v root inner below →
    ∃ fields, inner = .object fields ∧ WellFormed below fields

section Schemas

variable {path : List Segment} {schema properties : Mapping} {root : Bool} {v : JsonValue}

theorem checkKeyword_eq_ok {key : String} {p : JsonValue → Bool} {fault : SchemaFault} {u : Unit} :
    checkKeyword path schema key p fault = .ok u ↔
      ∀ v, schema.lookup key = some v → p v = true := by
  simp [checkKeyword]

theorem checkBounds_eq_ok {lower upper : String} {p : Rat → Rat → Bool} {u : Unit} :
    checkBounds path schema lower upper p = .ok u ↔
      ∀ a b, asNumber (schema.get lower) = some a → asNumber (schema.get upper) = some b →
        p a b = true := by
  simp only [checkBounds, expect_eq_ok, Option.mem_def]
  exact ⟨fun h a b ha hb ↦ h a ha b hb, fun h a ha b hb ↦ h a b ha hb⟩

theorem isCount_iff : isCount v = true ↔ IsLimit v := by
  cases v <;> simp [isCount, IsLimit]

/-- The names under `type`. -/
theorem declaredTypes_eq_ok {types : Option (List String)} :
    declaredTypes path schema = .ok types ↔
      schema.lookup "type" = none ∧ types = none ∨
        ∃ declaration names, schema.lookup "type" = some declaration ∧
          TypeNames declaration names ∧ names ⊆ typeNames ∧ names.Nodup ∧ types = some names := by
  have hnames : ∀ names : List String, (names.filter fun name ↦ !typeNames.contains name) = [] ↔
      names ⊆ typeNames := by
    intro names
    simp [List.filter_eq_nil_iff, List.subset_def]
  -- what follows the reading of the names
  have hchecks : ∀ names : List String, (do
      let unsupported := names.filter fun name ↦ !typeNames.contains name
      expect (unsupported = []) path (.unsupportedTypes unsupported)
      expect names.Nodup (path ++ [.keyword "type"]) .duplicates
      pure (some names) : SchemaCheck (Option (List String))) = .ok types ↔
        names ⊆ typeNames ∧ names.Nodup ∧ types = some names := by
    intro names
    simp only [Checked.bind_eq_ok, expect_eq_ok, Checked.pure_eq_ok, hnames]
    simp [eq_comm]
  cases hlookup : schema.lookup "type" with
  | none =>
    simp only [declaredTypes, hlookup, Checked.pure_eq_ok]
    simp [eq_comm]
  | some declaration =>
    simp only [reduceCtorEq, false_and, false_or, Option.some.injEq, exists_and_left,
      exists_eq_left']
    cases declaration with
    | str name =>
      have hread : declaredTypes path schema = .ok types ↔
          [name] ⊆ typeNames ∧ [name].Nodup ∧ types = some [name] := by
        rw [← hchecks, declaredTypes, hlookup]
        rfl
      rw [hread]
      constructor
      · exact fun h ↦ ⟨_, .one name, h⟩
      · rintro ⟨names, hnames, h⟩
        cases hnames
        exact h
    | list items =>
      have hmany : ∀ names, TypeNames (.list items) names ↔
          names ≠ [] ∧ textItems? items = some names := by
        intro names
        rw [textItems?_eq_some]
        constructor
        · rintro ⟨⟩
          exact ⟨‹_›, rfl⟩
        · rintro ⟨hne, rfl⟩
          exact .many hne
      simp only [hmany]
      cases items with
      | nil =>
        have hnone : declaredTypes path schema = throw ⟨path ++ [.keyword "type"], .malformed⟩ := by
          rw [declaredTypes, hlookup]
          rfl
        simp [hnone, textItems?]
      | cons item items =>
        cases htexts : textItems? (item :: items) with
        | none =>
          have hnone :
              declaredTypes path schema = throw ⟨path ++ [.keyword "type"], .malformed⟩ := by
            simp only [declaredTypes, hlookup, htexts]
            rfl
          simp [hnone]
        | some names =>
          have hread : declaredTypes path schema = .ok types ↔
              names ⊆ typeNames ∧ names.Nodup ∧ types = some names := by
            rw [← hchecks]
            simp only [declaredTypes, hlookup, htexts]
            rfl
          have hne : names ≠ [] := by
            rintro rfl
            simpa using textItems?_eq_some.mp htexts
          rw [hread]
          constructor
          · exact fun h ↦ ⟨names, ⟨hne, rfl⟩, h⟩
          · rintro ⟨names', ⟨-, hsame⟩, h⟩
            cases hsame
            exact h
    | _ =>
      have hnone : declaredTypes path schema = throw ⟨path ++ [.keyword "type"], .malformed⟩ := by
        rw [declaredTypes, hlookup]
        rfl
      simp only [hnone, Checked.throw_eq_ok, false_iff]
      rintro ⟨names, ⟨⟩, -⟩

theorem distinctItems_iff {items : List JsonValue} :
    distinctItems items = true ↔ items.Pairwise fun a b ↦ jsonEqual a b = false := by
  refine ⟨pairwise_of_distinctItems, fun h ↦ ?_⟩
  induction h with
  | nil => rfl
  | cons hhead _ ih =>
    simp only [distinctItems, Bool.and_eq_true, List.all_eq_true, Bool.not_eq_true']
    exact ⟨hhead, ih⟩

theorem checkHead_eq_ok {u : Unit} : checkHead path root schema = .ok u ↔
    (∀ key ∈ schema.keys, key ∈ allowedKeywords root) ∧
      (∀ v, schema.lookup "type" = some v →
        ∃ names, TypeNames v names ∧ names ⊆ typeNames ∧ names.Nodup) ∧
      (∀ v, schema.lookup "enum" = some v →
        ∃ items, v = .list items ∧ items ≠ [] ∧ items.Pairwise fun a b ↦ jsonEqual a b = false) ∧
      ∀ v, schema.lookup "$schema" = some v → ∃ s, v = .str s := by
  have htypes : (∃ types, declaredTypes path schema = .ok types) ↔
      ∀ v, schema.lookup "type" = some v →
        ∃ names, TypeNames v names ∧ names ⊆ typeNames ∧ names.Nodup := by
    simp only [declaredTypes_eq_ok]
    cases schema.lookup "type" with
    | none => simp
    | some declaration => simp
  have henum : ∀ v : JsonValue, (v.items?.any (· ≠ []) = true ∧ v.items?.any distinctItems = true) ↔
      ∃ items, v = .list items ∧ items ≠ [] ∧ items.Pairwise fun a b ↦ jsonEqual a b = false := by
    intro v
    cases v <;> simp [JsonValue.items?, distinctItems_iff]
  have htext : ∀ v : JsonValue, v.text?.isSome = true ↔ ∃ s, v = .str s := by
    intro v
    cases v <;> simp [JsonValue.text?]
  have hkeys :
      sortedNames (schema.keys.filter fun key ↦ !(allowedKeywords root).contains key) = [] ↔
      ∀ key ∈ schema.keys, key ∈ allowedKeywords root := by
    rw [List.eq_nil_iff_forall_not_mem]
    simp [mem_sortedNames]
  simp only [checkHead, Checked.bind_eq_ok, expect_eq_ok, checkKeyword_eq_ok, hkeys, htext]
  simp only [← htypes, ← henum]
  constructor
  · rintro ⟨-, hkeywords, types, htypes, -, hne, -, hdistinct, hmetadata⟩
    exact ⟨hkeywords, ⟨types, htypes⟩, fun v hv ↦ ⟨hne v hv, hdistinct v hv⟩, hmetadata⟩
  · rintro ⟨hkeywords, ⟨types, htypes⟩, henum, hmetadata⟩
    exact ⟨⟨⟩, hkeywords, types, htypes, ⟨⟩, fun v hv ↦ (henum v hv).1, ⟨⟩,
      fun v hv ↦ (henum v hv).2, hmetadata⟩

theorem checkFields_eq_ok {u : Unit} : checkFields path schema = .ok u ↔
    (∀ v, schema.lookup "required" = some v →
        ∃ names : List String, v = .list (names.map .str) ∧ names.Nodup) ∧
      ∀ v, schema.lookup "additionalProperties" = some v → ∃ b, v = .bool b := by
  have hrequired : ∀ v : JsonValue, ((v.items?.bind textItems?).isSome = true ∧
      (v.items?.bind textItems?).any (fun names ↦ decide names.Nodup) = true) ↔
        ∃ names : List String, v = .list (names.map .str) ∧ names.Nodup := by
    intro v
    cases v with
    | list items =>
      simp only [JsonValue.items?, Option.bind_some, JsonValue.list.injEq, ← textItems?_eq_some]
      cases textItems? items <;> simp
    | _ => simp [JsonValue.items?]
  simp only [checkFields, Checked.bind_eq_ok, checkKeyword_eq_ok, ← hrequired]
  simp only [Option.isSome_iff_exists, JsonValue.bool?_eq_some]
  constructor
  · rintro ⟨-, hitems, -, hnodup, hadditional⟩
    exact ⟨fun v hv ↦ ⟨hitems v hv, hnodup v hv⟩, hadditional⟩
  · rintro ⟨hrequired, hadditional⟩
    exact ⟨⟨⟩, fun v hv ↦ (hrequired v hv).1, ⟨⟩, fun v hv ↦ (hrequired v hv).2, hadditional⟩

theorem checkLimits_eq_ok {u : Unit} :
    checkLimits path schema = .ok u ↔ WellFormedLimits schema := by
  simp only [checkLimits, Checked.bind_eq_ok, checkKeyword_eq_ok, checkBounds_eq_ok, isCount_iff,
    Option.isSome_iff_exists, JsonValue.bool?_eq_some, decide_eq_true_eq]
  constructor
  · rintro ⟨-, hmaxItems, -, huniqueItems, -, hminimum, -, hmaximum, -, hexclusiveMinimum, -,
      hexclusiveMaximum, -, hminLength, -, hmaxLength, -, hbounds, -, hexclusive, hlengths⟩
    exact ⟨hmaxItems, huniqueItems,
      by simpa using ⟨hminimum, hmaximum, hexclusiveMinimum, hexclusiveMaximum⟩,
      by simpa using ⟨hminLength, hmaxLength⟩, hbounds, hexclusive, hlengths⟩
  · intro h
    have hnumbers := h.numbers
    have hlengths := h.lengths
    exact ⟨⟨⟩, h.maxItems, ⟨⟩, h.uniqueItems, ⟨⟩, hnumbers _ (by simp), ⟨⟩, hnumbers _ (by simp),
      ⟨⟩, hnumbers _ (by simp), ⟨⟩, hnumbers _ (by simp), ⟨⟩, hlengths _ (by simp), ⟨⟩,
      hlengths _ (by simp), ⟨⟩, h.bounds, ⟨⟩, h.exclusiveBounds, h.lengthBounds⟩

/-- The first binding of a key is the one that is read. -/
theorem validateProperties_iff {u : Unit} : validateProperties path schema = .ok u ↔
    ∀ v, schema.lookup "properties" = some v → validateObject path v = .ok () := by
  induction schema with
  | nil => simp [validateProperties]
  | cons field schema ih =>
    obtain ⟨key, w⟩ := field
    rw [validateProperties, List.lookup_cons]
    by_cases hkey : key = "properties"
    · simp [hkey]
    · simpa [hkey, beq_eq_false_iff_ne.mpr (Ne.symm hkey)] using ih

theorem validateItems_iff {u : Unit} : validateItems path schema = .ok u ↔
    ∀ v, schema.lookup "items" = some v → validateSchema (path ++ [.items]) false v = .ok () := by
  induction schema with
  | nil => simp [validateItems]
  | cons field schema ih =>
    obtain ⟨key, w⟩ := field
    rw [validateItems, List.lookup_cons]
    by_cases hkey : key = "items"
    · simp [hkey]
    · simpa [hkey, beq_eq_false_iff_ne.mpr (Ne.symm hkey)] using ih

theorem validateObject_iff : validateObject path v = .ok () ↔
    ∃ properties, v = .object properties ∧
      ∀ property ∈ properties,
        validateSchema (path ++ [.property property.1]) false property.2 = .ok () := by
  cases v with
  | object properties =>
    simp only [validateObject, JsonValue.object.injEq, exists_eq_left']
    induction properties with
    | nil => simp [validateEach]
    | cons property properties ih => simp [validateEach, Checked.bind_eq_ok, ih]
  | _ => simp [validateObject]

/-- A schema is accepted if it is a well-formed object and the schemas of its properties and items
are accepted. -/
theorem validateSchema_iff : validateSchema path root v = .ok () ↔
    ∃ schema, v = .object schema ∧ WellFormed root schema ∧
      (∀ properties, schema.lookup "properties" = some (.object properties) →
        ∀ property ∈ properties,
          validateSchema (path ++ [.property property.1]) false property.2 = .ok ()) ∧
      ∀ w, schema.lookup "items" = some w →
        validateSchema (path ++ [.items]) false w = .ok () := by
  cases v with
  | object schema =>
    simp only [validateSchema, Checked.bind_eq_ok, checkHead_eq_ok, validateProperties_iff,
      checkFields_eq_ok, validateItems_iff, checkLimits_eq_ok, validateObject_iff,
      JsonValue.object.injEq, exists_eq_left']
    constructor
    · rintro ⟨-, ⟨hkeywords, htype, henum, hmetadata⟩, -, hproperties, -, ⟨hrequired, hadditional⟩,
        -, hitems, hlimits⟩
      refine ⟨⟨hlimits, hkeywords, htype, henum, hmetadata, fun w hw ↦ ?_, hrequired, hadditional⟩,
        fun properties hlookup ↦ ?_, hitems⟩
      · obtain ⟨properties, rfl, -⟩ := hproperties w hw
        exact ⟨properties, rfl⟩
      · obtain ⟨properties', hsame, hread⟩ := hproperties _ hlookup
        cases hsame
        exact hread
    · rintro ⟨hwell, hproperties, hitems⟩
      refine ⟨⟨⟩, ⟨hwell.keywords, hwell.type, hwell.enum, hwell.metadata⟩, ⟨⟩, fun w hw ↦ ?_, ⟨⟩,
        ⟨hwell.required, hwell.additionalProperties⟩, ⟨⟩, hitems, hwell.toWellFormedLimits⟩
      obtain ⟨properties, rfl⟩ := hwell.properties w hw
      exact ⟨properties, rfl, hproperties properties hw⟩
  | _ => simp [validateSchema]

theorem WellFormedBelow.property (h : WellFormedBelow root (.object schema))
    (hproperties : schema.lookup "properties" = some (.object properties)) {name : String}
    (hmem : (name, v) ∈ properties) : WellFormedBelow false v :=
  fun inner below hnested ↦ h inner below (.property hproperties hmem hnested)

theorem WellFormedBelow.items (h : WellFormedBelow root (.object schema))
    (hitems : schema.lookup "items" = some v) : WellFormedBelow false v :=
  fun inner below hnested ↦ h inner below (.items hitems hnested)

/-- A schema that is read with an accepted one is accepted. -/
theorem validateSchema_of_nested {inner : JsonValue} {below : Bool}
    (hnested : Nested v root inner below) (h : validateSchema path root v = .ok ()) :
    ∃ path', validateSchema path' below inner = .ok () := by
  induction hnested generalizing path with
  | here v root => exact ⟨path, h⟩
  | property hproperties hmem _ ih =>
    obtain ⟨schema, hsame, -, hread, -⟩ := (validateSchema_iff).mp h
    cases hsame
    exact ih (hread _ hproperties _ hmem)
  | items hitems _ ih =>
    obtain ⟨schema, hsame, -, -, hread⟩ := (validateSchema_iff).mp h
    cases hsame
    exact ih (hread _ hitems)

/-- The values of an object are smaller than the object. -/
theorem sizeOf_lt_of_mem {fields : List (String × JsonValue)} {field : String × JsonValue}
    (h : field ∈ fields) : sizeOf field.2 < sizeOf (JsonValue.object fields) := by
  obtain ⟨key, w⟩ := field
  have := List.sizeOf_lt_of_mem h
  simp only [JsonValue.object.sizeOf_spec, Prod.mk.sizeOf_spec] at this ⊢
  omega

theorem sizeOf_lt_of_lookup {key : String} (h : schema.lookup key = some v) :
    sizeOf v < sizeOf (JsonValue.object schema) := by
  obtain ⟨before, after, hsplit, -⟩ := List.lookup_eq_some_iff.mp h
  exact sizeOf_lt_of_mem (show (key, v) ∈ schema by simp [hsplit])

/-- The schemas below a schema are accepted if they are well formed: by recursion on the schema,
whose properties and items are parts of it. -/
theorem validateSchema_of_wellFormedBelow (v : JsonValue) (path : List Segment) (root : Bool)
    (h : WellFormedBelow root v) : validateSchema path root v = .ok () := by
  obtain ⟨schema, hv, hwell⟩ := h v root (.here v root)
  refine (validateSchema_iff).mpr ⟨schema, hv, hwell, ?_, ?_⟩
  · intro properties hproperties property hmem
    exact validateSchema_of_wellFormedBelow property.2 _ false ((hv ▸ h).property hproperties hmem)
  · intro w hitems
    exact validateSchema_of_wellFormedBelow w _ false ((hv ▸ h).items hitems)
termination_by v
decreasing_by
  · exact hv ▸ (sizeOf_lt_of_mem hmem).trans (sizeOf_lt_of_lookup hproperties)
  · exact hv ▸ sizeOf_lt_of_lookup hitems

/-- **Schemas.** A schema is accepted exactly if every schema that is read with it is well formed.
-/
theorem validateSchema_eq_ok_iff (path : List Segment) (root : Bool) (v : JsonValue) :
    validateSchema path root v = .ok () ↔ WellFormedBelow root v := by
  refine ⟨fun h inner below hnested ↦ ?_, validateSchema_of_wellFormedBelow v path root⟩
  obtain ⟨path', hinner⟩ := validateSchema_of_nested hnested h
  obtain ⟨fields, hsame, hwell, -⟩ := (validateSchema_iff).mp hinner
  exact ⟨fields, hsame, hwell⟩

end Schemas

/-! ### Values of a well-formed schema -/

section Values

variable {path : List Segment} {schema : Mapping} {root : Bool} {v : JsonValue}

theorem lookup_of_get {key : String} {w : JsonValue} (h : schema.get key = w) (hw : w ≠ .null) :
    schema.lookup key = some w := by
  unfold Mapping.get at h
  cases hlookup : schema.lookup key with
  | none =>
    rw [hlookup] at h
    exact absurd h.symm hw
  | some w' =>
    rw [hlookup] at h
    rw [← h]
    rfl

/-- The types that a well-formed schema declares are read. -/
theorem exists_declaredTypes (hwell : WellFormed root schema) :
    ∃ types, declaredTypes path schema = .ok types := by
  cases hlookup : schema.lookup "type" with
  | none => exact ⟨none, (declaredTypes_eq_ok).mpr (.inl ⟨hlookup, rfl⟩)⟩
  | some declaration =>
    obtain ⟨names, hnames, hsub, hnodup⟩ := hwell.type declaration hlookup
    exact ⟨some names,
      (declaredTypes_eq_ok).mpr (.inr ⟨declaration, names, hlookup, hnames, hsub, hnodup, rfl⟩)⟩

/-- A described value has one of the types that are declared. -/
theorem any_matchesType {types : Option (List String)}
    (htypes : declaredTypes path schema = .ok types)
    (htype : ∀ declaration, schema.lookup "type" = some declaration → Declares declaration v) :
    ∀ names ∈ types, names.any (matchesType v) = true := by
  rcases (declaredTypes_eq_ok).mp htypes with
    ⟨-, rfl⟩ | ⟨declaration, names, hlookup, hnames, -, -, rfl⟩
  · simp
  · rintro _ ⟨⟩
    obtain ⟨name, hname, hmatches⟩ := htype declaration hlookup
    refine List.any_eq_true.mpr ⟨name, ?_, hmatches⟩
    cases hnames with
    | one name' => simpa [eq_comm] using hname
    | many hne => simpa using hname

/-- A value that conforms to a well-formed schema passes the checks apart from those of its parts.
-/
theorem checkValue_of_conforms (hwell : WellFormed root schema) (h : Conforms schema v) :
    checkValue path schema v = .ok () := by
  obtain ⟨types, htypes⟩ : ∃ types, declaredTypes path schema = .ok types :=
    exists_declaredTypes hwell
  have hmatches := any_matchesType htypes h.type
  have henum : ∀ e ∈ (schema.lookup "enum").bind JsonValue.items?, e.any (jsonEqual v) = true := by
    intro items hitems
    obtain ⟨w, hw, hlist⟩ := Option.bind_eq_some_iff.mp hitems
    rw [JsonValue.items?_eq_some] at hlist
    exact List.any_eq_true.mpr (h.enum items (hlist ▸ hw))
  simp only [checkValue, Checked.bind_eq_ok, expect_eq_ok]
  refine ⟨types, htypes, ⟨⟩, hmatches, ⟨⟩, h.const, ⟨⟩, henum, ?_⟩
  cases v with
  | object fields =>
    simp only [Checked.bind_eq_ok, expect_eq_ok]
    refine ⟨⟨⟩, ?_, ?_⟩
    · rw [List.filter_eq_nil_iff]
      intro name hname
      obtain ⟨w, hw, htext⟩ := List.mem_filterMap.mp hname
      cases hrequired : schema.get "required" with
      | list names =>
        rw [hrequired] at hw
        rw [JsonValue.text?_eq_some] at htext
        simpa using h.required fields names name rfl hrequired (htext ▸ hw)
      | _ =>
        rw [hrequired] at hw
        exact absurd hw (by simp [JsonValue.items?])
    · split_ifs with hclosed
      · rw [expect_eq_ok, List.eq_nil_iff_forall_not_mem]
        intro name hname
        rw [mem_sortedNames, List.mem_filter] at hname
        obtain ⟨properties, hproperties, hdeclared⟩ := h.closed fields rfl hclosed name hname.1
        rw [hproperties] at hname
        have hnot : name ∉ Mapping.keys properties := by simpa [JsonValue.fields?] using hname.2
        exact hnot hdeclared
      · rfl
  | list items =>
    simp only [Checked.bind_eq_ok, expect_eq_ok, Option.mem_def, JsonValue.int?_eq_some]
    refine ⟨⟨⟩, fun n hn ↦ h.maxItems items n rfl hn, fun hunique ↦ ?_⟩
    exact (distinctItems_iff).mpr (h.uniqueItems items rfl hunique)
  | str s =>
    simp only [Checked.bind_eq_ok, expect_eq_ok, Option.mem_def, JsonValue.int?_eq_some]
    exact ⟨⟨⟩, fun n hn ↦ h.minLength s n rfl hn, fun n hn ↦ h.maxLength s n rfl hn⟩
  | null => rfl
  | bool b => rfl
  | int n | float x =>
    simp only [asNumber, checkNumber, Checked.bind_eq_ok, expect_eq_ok, Option.mem_def,
      decide_eq_true_eq]
    exact ⟨⟨⟩, fun b ↦ h.minimum _ b rfl, ⟨⟩, fun b ↦ h.maximum _ b rfl, ⟨⟩,
      fun b ↦ h.exclusiveMinimum _ b rfl, fun b ↦ h.exclusiveMaximum _ b rfl⟩

/-- The declared fields of an object are validated if each of them is. -/
theorem validateFields_of_forall {properties : Mapping} {fields : List (String × JsonValue)}
    (h : ∀ name w inner, (name, w) ∈ fields → Mapping.get properties name = .object inner →
      validateValue (path ++ [.property name]) inner w = .ok ()) :
    validateFields path properties fields = .ok () := by
  induction fields with
  | nil => rfl
  | cons field fields ih =>
    obtain ⟨name, w⟩ := field
    have hrest := ih fun name' w' inner hmem ↦ h name' w' inner (by simp [hmem])
    rw [validateFields]
    cases hinner : (Mapping.get properties name).fields? with
    | none => exact hrest
    | some inner =>
      rw [JsonValue.fields?_eq_some] at hinner
      simp only [h name w inner (by simp) hinner, Checked.ok_bind]
      exact hrest

theorem validateElements_of_forall {inner : Mapping} {index : Nat} {items : List JsonValue}
    (h : ∀ w ∈ items, ∀ index, validateValue (path ++ [.item index]) inner w = .ok ()) :
    validateElements path inner index items = .ok () := by
  induction items generalizing index with
  | nil => rfl
  | cons w items ih =>
    rw [validateElements, h w (by simp) index]
    exact ih fun w' hw' ↦ h w' (by simp [hw'])

/-- A value that satisfies a schema whose nested schemas are well formed is validated. -/
theorem validateValue_of_satisfies (h : Satisfies schema v)
    (hbelow : WellFormedBelow root (.object schema)) :
    validateValue path schema v = .ok () := by
  induction h generalizing path root with
  | @intro schema v conforms properties items hproperties hitems =>
    obtain ⟨_, hsame, hwell⟩ := hbelow _ _ (.here _ root)
    cases hsame
    have hvalue : checkValue path schema v = .ok () := checkValue_of_conforms hwell conforms
    cases v with
    | object fields =>
      rw [validateValue, hvalue, Checked.ok_bind]
      refine validateFields_of_forall fun name w inner hmem hinner ↦ ?_
      cases hlookup : schema.get "properties" with
      | object declared =>
        rw [hlookup] at hinner
        change Mapping.get declared name = .object inner at hinner
        have hread := lookup_of_get hlookup (by rintro ⟨⟩)
        obtain ⟨before, after, hsplit, -⟩ :=
          List.lookup_eq_some_iff.mp (lookup_of_get hinner (by rintro ⟨⟩))
        have hdeclared : (name, .object inner) ∈ declared := by simp [hsplit]
        exact hproperties fields declared name w inner rfl hlookup hmem hinner
          (hbelow.property hread hdeclared)
      | _ =>
        rw [hlookup] at hinner
        cases hinner
    | list elements =>
      rw [validateValue, hvalue, Checked.ok_bind]
      cases hlookup : (schema.get "items").fields? with
      | none => rfl
      | some inner =>
        rw [JsonValue.fields?_eq_some] at hlookup
        have hread := lookup_of_get hlookup (by rintro ⟨⟩)
        exact validateElements_of_forall fun w hw index ↦
          hitems elements inner w rfl hlookup hw (hbelow.items hread)
    | null | bool _ | int _ | float _ | str _ => exact hvalue

/-- **Values.** Under a schema whose nested schemas are well formed, exactly the values that satisfy
it are validated. -/
theorem validateValue_eq_ok_iff (hbelow : WellFormedBelow root (.object schema)) :
    validateValue path schema v = .ok () ↔ Satisfies schema v :=
  ⟨satisfies_of_validateValue v, fun h ↦ validateValue_of_satisfies h hbelow⟩

end Values

/-! ### Exactness -/

/-- The root of a schema declares no types, or objects among them. -/
def AdmitsObjects (schema : Mapping) : Prop :=
  ∀ declaration, schema.lookup "type" = some declaration →
    ∃ names, TypeNames declaration names ∧ "object" ∈ names

theorem rootType_iff {schema : Mapping} {types : Option (List String)}
    (htypes : declaredTypes [] schema = .ok types) :
    (∀ names ∈ types, "object" ∈ names) ↔ AdmitsObjects schema := by
  rcases (declaredTypes_eq_ok).mp htypes with
    ⟨hnone, rfl⟩ | ⟨declaration, names, hlookup, hnames, -, -, rfl⟩
  · simp [AdmitsObjects, hnone]
  · simp only [Option.mem_def, Option.some.injEq, forall_eq', AdmitsObjects, hlookup]
    exact ⟨fun h ↦ ⟨names, hnames, h⟩, fun ⟨_, hnames', h⟩ ↦ hnames'.unique hnames ▸ h⟩

/-- **Exactness.** For every output and every schema, the output is validated exactly if every
schema object that is read with the schema is well formed, the root admits objects, and the output
satisfies the schema. The equality that the validator uses is an equivalence relation on frozen
values, under which no Boolean is equal to a number. -/
theorem validateOutput_exact (output schema : Mapping) :
    (validateOutput output schema = .ok () ↔
        WellFormedBelow true (.object schema) ∧ AdmitsObjects schema ∧
          Satisfies schema (.object output)) ∧
      (Equivalence fun a b : FrozenValue ↦ jsonEqual a.1 b.1 = true) ∧
      ∀ (b : Bool) (n : Int) (x : FiniteFloat),
        jsonEqual (.bool b) (.int n) = false ∧ jsonEqual (.int n) (.bool b) = false ∧
          jsonEqual (.bool b) (.float x) = false ∧ jsonEqual (.float x) (.bool b) = false := by
  refine ⟨?_, equivalence_jsonEqual, jsonEqual_bool_number⟩
  simp only [validateOutput, Checked.bind_eq_ok, expect_eq_ok]
  constructor
  · rintro ⟨⟨⟩, hschema, types, htypes, ⟨⟩, hroot, hvalue⟩
    exact ⟨(validateSchema_eq_ok_iff [] true _).mp hschema, (rootType_iff htypes).mp hroot,
      satisfies_of_validateValue _ hvalue⟩
  · rintro ⟨hbelow, hroot, hsatisfies⟩
    obtain ⟨_, hsame, hwell⟩ := hbelow _ _ (.here _ true)
    cases hsame
    obtain ⟨types, htypes⟩ : ∃ types, declaredTypes [] schema = .ok types :=
      exists_declaredTypes hwell
    exact ⟨⟨⟩, (validateSchema_eq_ok_iff [] true _).mpr hbelow, types, htypes, ⟨⟩,
      (rootType_iff htypes).mpr hroot, (validateValue_eq_ok_iff hbelow).mpr hsatisfies⟩

end Blackcell.Gateway
