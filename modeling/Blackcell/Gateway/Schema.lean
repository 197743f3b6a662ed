import Blackcell.Kernel.Json
import Mathlib.Data.List.Dedup

/-!
# Output schemas

The validator of `gateway/schema.py`: a closed vocabulary of schema keywords, read before any value
is. A schema with a keyword outside the vocabulary is refused, at the root or at any depth below it,
so that no keyword is ever taken to be enforced when it is not.

An error of the source is a text with the path of the value or of the schema that it is about. The
path is kept here as the list of its segments, and the text as the fault that it describes.

## Main definitions

* `validateSchema`, `validateValue`, `validateOutput` : `_validate_schema`, `_validate_value` and
  `validate_output`.
* `Nested` : the schemas below a schema that the validator reads.

## Main results

* `keywords_of_validateSchema` : an accepted schema has supported keywords at every depth.
-/

namespace Blackcell.Gateway

open Blackcell.Kernel

/-! ### Errors -/

/-- A step of a path: a property, the items of an array or one of them, or a keyword. -/
inductive Segment where
  | property (name : String)
  | items
  | item (index : Nat)
  | keyword (name : String)
  deriving DecidableEq

/-- What is wrong with a schema or with a value. -/
inductive SchemaFault where
  | unsupportedKeywords (names : List String)
  | malformed
  | unsupportedTypes (names : List String)
  | duplicates
  | crossed
  | rootType
  | typeMismatch | constMismatch | enumMismatch
  | missingFields (names : List String)
  | undeclaredFields (names : List String)
  | tooManyItems | duplicateItems
  | outOfBounds (keyword : String)
  | tooShort | tooLong
  deriving DecidableEq

/-- `OutputSchemaError`, without the completion that the gateway adds. -/
structure OutputSchemaError where
  path : List Segment
  fault : SchemaFault
  deriving DecidableEq

/-- The checks of the validator. -/
abbrev SchemaCheck := Except OutputSchemaError

/-- Raise an error unless a condition holds. -/
def expect (p : Prop) [Decidable p] (path : List Segment) (fault : SchemaFault) : SchemaCheck Unit :=
  Checked.require p ⟨path, fault⟩

@[simp] theorem expect_eq_ok {p : Prop} [Decidable p] {path : List Segment} {fault : SchemaFault}
    {u : Unit} : expect p path fault = .ok u ↔ p := Checked.require_eq_ok

/-! ### Vocabulary -/

/-- `_TYPE_NAMES`. -/
def typeNames : List String :=
  ["null", "boolean", "integer", "number", "string", "array", "object"]

/-- `_SUPPORTED_KEYWORDS`. -/
def supportedKeywords : List String :=
  ["type", "const", "enum", "properties", "required", "additionalProperties", "items", "maxItems",
    "uniqueItems", "minimum", "maximum", "exclusiveMinimum", "exclusiveMaximum", "minLength",
    "maxLength"]

/-- The keywords of a schema; `$schema` is metadata of the root. -/
def allowedKeywords (root : Bool) : List String :=
  supportedKeywords ++ if root then ["$schema"] else []

/-- `sorted(set(names))`. -/
def sortedNames (names : List String) : List String :=
  names.dedup.insertionSort (· ≤ ·)

/-- `_as_number`. -/
def asNumber : JsonValue → Option Rat
  | .int n => some n
  | .float x => some x.toRat
  | _ => none

mutual

/-- `_json_equal`: Python's `==`, but a Boolean is equal to no number. -/
def jsonEqual : JsonValue → JsonValue → Bool
  | .null, .null => true
  | .bool a, .bool b => a = b
  | .str a, .str b => a = b
  | .list a, .list b => jsonEqualItems a b
  | .object a, .object b => a.length = b.length && jsonEqualFields a b
  | a, b =>
    match asNumber a, asNumber b with
    | some p, some q => p = q
    | _, _ => false

/-- `_json_equal` on the items of two arrays. -/
def jsonEqualItems : List JsonValue → List JsonValue → Bool
  | [], [] => true
  | a :: as, b :: bs => jsonEqual a b && jsonEqualItems as bs
  | _, _ => false

/-- Every binding of the first object has an equal one in the second. -/
def jsonEqualFields : List (String × JsonValue) → List (String × JsonValue) → Bool
  | [], _ => true
  | (k, a) :: as, bs =>
    (match bs.lookup k with
      | some b => jsonEqual a b
      | none => false) && jsonEqualFields as bs

end

/-- No item is equal to a later one. -/
def distinctItems : List JsonValue → Bool
  | [] => true
  | a :: as => as.all (fun b ↦ !jsonEqual a b) && distinctItems as

/-- The text of each item, `none` when an item is not a string. -/
def textItems? (items : List JsonValue) : Option (List String) := items.mapM JsonValue.text?

/-- `_declared_types`: the names under `type`, `none` when there are none. -/
def declaredTypes (path : List Segment) (schema : Mapping) : SchemaCheck (Option (List String)) :=
  match schema.lookup "type" with
  | none => pure none
  | some declaration => do
    let names ← match declaration with
      | .str name => pure [name]
      | .list items =>
        match items, textItems? items with
        | _ :: _, some names => pure names
        | _, _ => throw ⟨path ++ [.keyword "type"], .malformed⟩
      | _ => throw ⟨path ++ [.keyword "type"], .malformed⟩
    let unsupported := names.filter fun name ↦ !typeNames.contains name
    expect (unsupported = []) path (.unsupportedTypes unsupported)
    expect names.Nodup (path ++ [.keyword "type"]) .duplicates
    pure (some names)

/-! ### Schemas -/

/-- A keyword is absent, or its value satisfies a condition. -/
def checkKeyword (path : List Segment) (schema : Mapping) (keyword : String)
    (p : JsonValue → Bool) (fault : SchemaFault) : SchemaCheck Unit :=
  expect (∀ v ∈ schema.lookup keyword, p v = true) (path ++ [.keyword keyword]) fault

/-- A number of items or of characters. -/
def isCount : JsonValue → Bool
  | .int n => 0 ≤ n
  | _ => false

/-- The first bound is below the second, where both are given. -/
def checkBounds (path : List Segment) (schema : Mapping) (lower upper : String)
    (p : Rat → Rat → Bool) : SchemaCheck Unit :=
  expect (∀ a ∈ asNumber (schema.get lower), ∀ b ∈ asNumber (schema.get upper), p a b = true)
    (path ++ [.keyword lower]) .crossed

/-- The checks before the properties of a schema. -/
def checkHead (path : List Segment) (root : Bool) (schema : Mapping) : SchemaCheck Unit := do
  let unsupported := sortedNames (schema.keys.filter fun key ↦ !(allowedKeywords root).contains key)
  expect (unsupported = []) path (.unsupportedKeywords unsupported)
  let _ ← declaredTypes path schema
  checkKeyword path schema "enum" (fun v ↦ v.items?.any (· ≠ [])) .malformed
  checkKeyword path schema "enum" (fun v ↦ v.items?.any distinctItems) .duplicates
  checkKeyword path schema "$schema" (fun v ↦ v.text?.isSome) .malformed

/-- The checks between the properties and the items of a schema. -/
def checkFields (path : List Segment) (schema : Mapping) : SchemaCheck Unit := do
  checkKeyword path schema "required" (fun v ↦ (v.items?.bind textItems?).isSome) .malformed
  checkKeyword path schema "required" (fun v ↦ (v.items?.bind textItems?).any fun names ↦
    decide names.Nodup) .duplicates
  checkKeyword path schema "additionalProperties" (fun v ↦ v.bool?.isSome) .malformed

/-- The checks after the items of a schema. -/
def checkLimits (path : List Segment) (schema : Mapping) : SchemaCheck Unit := do
  checkKeyword path schema "maxItems" isCount .malformed
  checkKeyword path schema "uniqueItems" (fun v ↦ v.bool?.isSome) .malformed
  checkKeyword path schema "minimum" (fun v ↦ (asNumber v).isSome) .malformed
  checkKeyword path schema "maximum" (fun v ↦ (asNumber v).isSome) .malformed
  checkKeyword path schema "exclusiveMinimum" (fun v ↦ (asNumber v).isSome) .malformed
  checkKeyword path schema "exclusiveMaximum" (fun v ↦ (asNumber v).isSome) .malformed
  checkKeyword path schema "minLength" isCount .malformed
  checkKeyword path schema "maxLength" isCount .malformed
  checkBounds path schema "minimum" "maximum" fun a b ↦ a ≤ b
  checkBounds path schema "exclusiveMinimum" "exclusiveMaximum" fun a b ↦ a < b
  checkBounds path schema "minLength" "maxLength" fun a b ↦ a ≤ b

mutual

/-- `_validate_schema`. What is not an object is no schema. -/
def validateSchema (path : List Segment) (root : Bool) : JsonValue → SchemaCheck Unit
  | .object schema => do
    checkHead path root schema
    validateProperties path schema
    checkFields path schema
    validateItems path schema
    checkLimits path schema
  | _ => throw ⟨path, .malformed⟩

/-- The schemas under `properties`. -/
def validateProperties (path : List Segment) : List (String × JsonValue) → SchemaCheck Unit
  | [] => pure ()
  | (key, v) :: schema =>
    if key = "properties" then validateObject path v else validateProperties path schema

/-- The schemas of an object of them. -/
def validateObject (path : List Segment) : JsonValue → SchemaCheck Unit
  | .object properties => validateEach path properties
  | _ => throw ⟨path ++ [.keyword "properties"], .malformed⟩

/-- The schema of each property. -/
def validateEach (path : List Segment) : List (String × JsonValue) → SchemaCheck Unit
  | [] => pure ()
  | (name, v) :: properties => do
    validateSchema (path ++ [.property name]) false v
    validateEach path properties

/-- The schema under `items`. -/
def validateItems (path : List Segment) : List (String × JsonValue) → SchemaCheck Unit
  | [] => pure ()
  | (key, v) :: schema =>
    if key = "items" then validateSchema (path ++ [.items]) false v else validateItems path schema

end

/-! ### Values -/

/-- `_matches_type`. -/
def matchesType (v : JsonValue) (expected : String) : Bool :=
  match expected with
  | "null" => v = .null
  | "boolean" => v.bool?.isSome
  | "integer" => v.int?.isSome
  | "number" => (asNumber v).isSome
  | "string" => v.text?.isSome
  | "array" => v.items?.isSome
  | "object" => v.fields?.isSome
  | _ => false

/-- A bound on a number, where the schema gives one. -/
def checkNumber (path : List Segment) (schema : Mapping) (value : Rat) (keyword : String)
    (p : Rat → Rat → Bool) : SchemaCheck Unit :=
  expect (∀ bound ∈ asNumber (schema.get keyword), p value bound = true) path (.outOfBounds keyword)

/-- What a schema demands of a value, apart from the parts of it. -/
def checkValue (path : List Segment) (schema : Mapping) (v : JsonValue) : SchemaCheck Unit := do
  let types ← declaredTypes path schema
  expect (∀ names ∈ types, names.any (matchesType v) = true) path .typeMismatch
  expect (∀ c ∈ schema.lookup "const", jsonEqual v c = true) path .constMismatch
  expect (∀ e ∈ (schema.lookup "enum").bind JsonValue.items?, e.any (jsonEqual v) = true) path
    .enumMismatch
  match v with
  | .object fields => do
    let required := ((schema.get "required").items?.getD []).filterMap JsonValue.text?
    let missing := required.filter fun name ↦ !(Mapping.keys fields).contains name
    expect (missing = []) path (.missingFields missing)
    if schema.get "additionalProperties" = .bool false then
      let declared := Mapping.keys ((schema.get "properties").fields?.getD [])
      let extra := sortedNames ((Mapping.keys fields).filter fun name ↦ !declared.contains name)
      expect (extra = []) path (.undeclaredFields extra)
  | .list items => do
    expect (∀ n ∈ (schema.get "maxItems").int?, (items.length : Int) ≤ n) path .tooManyItems
    expect (schema.get "uniqueItems" = .bool true → distinctItems items = true) path .duplicateItems
  | .str s => do
    expect (∀ n ∈ (schema.get "minLength").int?, n ≤ s.length) path .tooShort
    expect (∀ n ∈ (schema.get "maxLength").int?, (s.length : Int) ≤ n) path .tooLong
  | _ =>
    match asNumber v with
    | none => pure ()
    | some value => do
      checkNumber path schema value "minimum" fun a b ↦ b ≤ a
      checkNumber path schema value "maximum" fun a b ↦ a ≤ b
      checkNumber path schema value "exclusiveMinimum" fun a b ↦ b < a
      checkNumber path schema value "exclusiveMaximum" fun a b ↦ a < b

mutual

/-- `_validate_value`. -/
def validateValue (path : List Segment) (schema : Mapping) : JsonValue → SchemaCheck Unit
  | .object fields => do
    checkValue path schema (.object fields)
    validateFields path ((schema.get "properties").fields?.getD []) fields
  | .list items => do
    checkValue path schema (.list items)
    match (schema.get "items").fields? with
    | none => pure ()
    | some itemSchema => validateElements path itemSchema 0 items
  | v => checkValue path schema v

/-- The fields of an object that are declared. -/
def validateFields (path : List Segment) (properties : Mapping) :
    List (String × JsonValue) → SchemaCheck Unit
  | [] => pure ()
  | (name, v) :: fields => do
    match (properties.get name).fields? with
    | none => pure ()
    | some schema => validateValue (path ++ [.property name]) schema v
    validateFields path properties fields

/-- The items of an array. -/
def validateElements (path : List Segment) (schema : Mapping) (index : Nat) :
    List JsonValue → SchemaCheck Unit
  | [] => pure ()
  | v :: items => do
    validateValue (path ++ [.item index]) schema v
    validateElements path schema (index + 1) items

end

/-- `validate_output`: the schema is read first, and then the value. -/
def validateOutput (output schema : Mapping) : SchemaCheck Unit := do
  validateSchema [] true (.object schema)
  let types ← declaredTypes [] schema
  expect (∀ names ∈ types, "object" ∈ names) [] .rootType
  validateValue [] schema (.object output)

/-! ### Accepted schemas -/

/-- The schemas that are read with a schema: itself, and those of its properties and items. -/
inductive Nested : JsonValue → Bool → JsonValue → Bool → Prop
  | here (v : JsonValue) (root : Bool) : Nested v root v root
  | property {schema properties : Mapping} {name : String} {v inner : JsonValue} {root below : Bool}
      (hproperties : schema.lookup "properties" = some (.object properties))
      (hmem : (name, v) ∈ properties) (h : Nested v false inner below) :
      Nested (.object schema) root inner below
  | items {schema : Mapping} {v inner : JsonValue} {root below : Bool}
      (hitems : schema.lookup "items" = some v) (h : Nested v false inner below) :
      Nested (.object schema) root inner below

section Accepted

variable {path : List Segment} {schema properties : Mapping} {root below : Bool}
  {v inner : JsonValue}

theorem mem_sortedNames {names : List String} {name : String} :
    name ∈ sortedNames names ↔ name ∈ names := by
  simp [sortedNames]

/-- The keywords of an accepted schema are supported. -/
theorem keywords_of_checkHead {u : Unit} (h : checkHead path root schema = .ok u) :
    ∀ key ∈ schema.keys, key ∈ allowedKeywords root := by
  simp only [checkHead, Checked.bind_eq_ok, expect_eq_ok] at h
  obtain ⟨_, hnone, -⟩ := h
  intro key hkey
  by_contra hnot
  have hmem : key ∈ sortedNames (schema.keys.filter fun key ↦
      !(allowedKeywords root).contains key) := by
    rw [mem_sortedNames, List.mem_filter]
    exact ⟨hkey, by simpa using hnot⟩
  rw [hnone] at hmem
  exact List.not_mem_nil hmem

/-- The schema of a property is read. -/
theorem validateEach_eq_ok {u : Unit} (h : validateEach path properties = .ok u) {name : String}
    (hmem : (name, v) ∈ properties) :
    validateSchema (path ++ [.property name]) false v = .ok () := by
  induction properties with
  | nil => cases hmem
  | cons field properties ih =>
    obtain ⟨key, w⟩ := field
    simp only [validateEach, Checked.bind_eq_ok] at h
    obtain ⟨_, hw, h⟩ := h
    rcases List.mem_cons.mp hmem with hsame | hmem
    · cases hsame
      exact hw
    · exact ih h hmem

/-- The schemas under `properties` are read. -/
theorem validateProperties_eq_ok {u : Unit} (h : validateProperties path schema = .ok u)
    (hproperties : schema.lookup "properties" = some v) : validateObject path v = .ok () := by
  induction schema with
  | nil => cases hproperties
  | cons field schema ih =>
    obtain ⟨key, w⟩ := field
    simp only [validateProperties] at h
    by_cases hkey : key = "properties"
    · simp_all
    · rw [if_neg hkey] at h
      refine ih h ?_
      rwa [List.lookup_cons, beq_eq_false_iff_ne.mpr (Ne.symm hkey)] at hproperties

/-- The schema under `items` is read. -/
theorem validateItems_eq_ok {u : Unit} (h : validateItems path schema = .ok u)
    (hitems : schema.lookup "items" = some v) :
    validateSchema (path ++ [.items]) false v = .ok () := by
  induction schema with
  | nil => cases hitems
  | cons field schema ih =>
    obtain ⟨key, w⟩ := field
    simp only [validateItems] at h
    by_cases hkey : key = "items"
    · simp_all
    · rw [if_neg hkey] at h
      refine ih h ?_
      rwa [List.lookup_cons, beq_eq_false_iff_ne.mpr (Ne.symm hkey)] at hitems

/-- **The vocabulary is closed.** Each schema that is read with an accepted one is an object, and has
supported keywords only. -/
theorem keywords_of_validateSchema (hnested : Nested v root inner below)
    (h : validateSchema path root v = .ok ()) :
    ∃ fields, inner = .object fields ∧ ∀ key ∈ Mapping.keys fields, key ∈ allowedKeywords below := by
  induction hnested generalizing path with
  | here v root =>
    cases v with
    | object fields =>
      simp only [validateSchema, Checked.bind_eq_ok] at h
      obtain ⟨_, hhead, -⟩ := h
      exact ⟨fields, rfl, keywords_of_checkHead hhead⟩
    | _ => simp [validateSchema] at h
  | property hproperties hmem _ ih =>
    simp only [validateSchema, Checked.bind_eq_ok] at h
    obtain ⟨_, -, _, hread, -⟩ := h
    exact ih (validateEach_eq_ok (validateProperties_eq_ok hread hproperties) hmem)
  | items hitems _ ih =>
    simp only [validateSchema, Checked.bind_eq_ok] at h
    obtain ⟨_, -, _, -, _, -, _, hread, -⟩ := h
    exact ih (validateItems_eq_ok hread hitems)

/-- An output is refused, whatever it is, when its schema has an unsupported keyword somewhere. -/
theorem validateOutput_ne_ok {output : Mapping} {fields : Mapping} {key : String}
    (hnested : Nested (.object schema) true (.object fields) below)
    (hkey : key ∈ Mapping.keys fields) (hunsupported : key ∉ allowedKeywords below) :
    validateOutput output schema ≠ .ok () := by
  intro h
  simp only [validateOutput, Checked.bind_eq_ok] at h
  obtain ⟨_, hschema, -⟩ := h
  obtain ⟨_, hfields, hsupported⟩ := keywords_of_validateSchema hnested hschema
  cases hfields
  exact hunsupported (hsupported key hkey)

end Accepted

end Blackcell.Gateway
