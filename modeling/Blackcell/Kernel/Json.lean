import Blackcell.Foundation.Checked
import Blackcell.Kernel.Text
import Mathlib.Algebra.GroupWithZero.Nat
import Mathlib.Data.List.Sort
import Mathlib.Data.Rat.Defs
import Mathlib.Data.String.Basic

/-!
# JSON values

The values of `kernel/_json.py`: frozen JSON as event payloads hold it. A JSON object is the list
of its bindings, in insertion order; as in a Python `dict`, a key reads its binding through
`Mapping.get`, which like `dict.get` answers `null` for a key that is absent. Python compares
values with `==`, under which `True`, `1` and `1.0` are one number (`JsonValue.equals`); a value
compared with a string, or with the empty array, is equal to nothing else
(`JsonValue.equals_str`, `JsonValue.equals_nil`).

## Main definitions

* `JsonValue`, `Mapping` : the values, and the bindings of an object.
* `Mapping.get`, `Mapping.exact` : `dict.get`, and the comparison of the key set.
* `JsonValue.equals` : Python's `==`.
* `JsonValue.canonical` : the value with all keys sorted, as `canonical_json_bytes` writes it.
-/

namespace Blackcell.Kernel

/-- A finite double `±significand · 2^exponent` in lowest terms, so that one number has one
representation. The two zeros differ, as their canonical texts do. -/
structure FiniteFloat where
  negative : Bool
  significand : Nat
  exponent : Int
  normalized : significand % 2 = 1 ∨ significand = 0 ∧ exponent = 0
  deriving DecidableEq

/-- The number that a double stands for. -/
def FiniteFloat.toRat (x : FiniteFloat) : Rat :=
  (if x.negative then -1 else 1) * (x.significand : Rat) * (2 : Rat) ^ x.exponent

/-- A frozen JSON value. -/
inductive JsonValue where
  | null
  | bool (b : Bool)
  | int (n : Int)
  | float (x : FiniteFloat)
  | str (s : String)
  | list (items : List JsonValue)
  | object (fields : List (String × JsonValue))

/-- The bindings of a JSON object. -/
abbrev Mapping := List (String × JsonValue)

namespace JsonValue

instance : Inhabited JsonValue := ⟨.null⟩

mutual

/-- Equality of values is decided by structural recursion. -/
def decEq : (a b : JsonValue) → Decidable (a = b)
  | .null, .null => isTrue rfl
  | .bool a, .bool b => decidable_of_iff (a = b) (by simp)
  | .int a, .int b => decidable_of_iff (a = b) (by simp)
  | .float a, .float b => decidable_of_iff (a = b) (by simp)
  | .str a, .str b => decidable_of_iff (a = b) (by simp)
  | .list a, .list b =>
    match decEqItems a b with
    | isTrue h => isTrue (by rw [h])
    | isFalse h => isFalse (by simpa using h)
  | .object a, .object b =>
    match decEqFields a b with
    | isTrue h => isTrue (by rw [h])
    | isFalse h => isFalse (by simpa using h)
  | .null, .bool _ | .null, .int _ | .null, .float _ | .null, .str _ | .null, .list _
  | .null, .object _ | .bool _, .null | .bool _, .int _ | .bool _, .float _ | .bool _, .str _
  | .bool _, .list _ | .bool _, .object _ | .int _, .null | .int _, .bool _ | .int _, .float _
  | .int _, .str _ | .int _, .list _ | .int _, .object _ | .float _, .null | .float _, .bool _
  | .float _, .int _ | .float _, .str _ | .float _, .list _ | .float _, .object _ | .str _, .null
  | .str _, .bool _ | .str _, .int _ | .str _, .float _ | .str _, .list _ | .str _, .object _
  | .list _, .null | .list _, .bool _ | .list _, .int _ | .list _, .float _ | .list _, .str _
  | .list _, .object _ | .object _, .null | .object _, .bool _ | .object _, .int _
  | .object _, .float _ | .object _, .str _ | .object _, .list _ => isFalse (by simp)

/-- Equality of the items of arrays. -/
def decEqItems : (a b : List JsonValue) → Decidable (a = b)
  | [], [] => isTrue rfl
  | [], _ :: _ | _ :: _, [] => isFalse (by simp)
  | a :: as, b :: bs =>
    match decEq a b, decEqItems as bs with
    | isTrue h, isTrue hs => isTrue (by rw [h, hs])
    | isFalse h, _ => isFalse (by simp [h])
    | _, isFalse hs => isFalse (by simp [hs])

/-- Equality of the bindings of objects. -/
def decEqFields : (a b : List (String × JsonValue)) → Decidable (a = b)
  | [], [] => isTrue rfl
  | [], _ :: _ | _ :: _, [] => isFalse (by simp)
  | (k, a) :: as, (l, b) :: bs =>
    match (inferInstance : Decidable (k = l)), decEq a b, decEqFields as bs with
    | isTrue hk, isTrue h, isTrue hs => isTrue (by rw [hk, h, hs])
    | isFalse hk, _, _ => isFalse (by simp [hk])
    | _, isFalse h, _ => isFalse (by simp [h])
    | _, _, isFalse hs => isFalse (by simp [hs])

end

instance : DecidableEq JsonValue := decEq

/-- The number that Python's `==` compares a value as, if it is one: `True` counts as one. -/
def numeric? : JsonValue → Option Rat
  | .bool b => some (if b then 1 else 0)
  | .int n => some n
  | .float x => some x.toRat
  | _ => none

mutual

/-- Python's `==` on frozen values. -/
def equals : JsonValue → JsonValue → Bool
  | .null, .null => true
  | .str a, .str b => a = b
  | .list a, .list b => equalsItems a b
  | .object a, .object b => a.length = b.length && equalsFields a b
  | a, b =>
    match numeric? a, numeric? b with
    | some p, some q => p = q
    | _, _ => false

/-- Python's `==` on the items of two tuples. -/
def equalsItems : List JsonValue → List JsonValue → Bool
  | [], [] => true
  | a :: as, b :: bs => equals a b && equalsItems as bs
  | _, _ => false

/-- Every binding of the first object has an equal one in the second. -/
def equalsFields : List (String × JsonValue) → List (String × JsonValue) → Bool
  | [], _ => true
  | (k, a) :: as, bs =>
    (match bs.lookup k with
      | some b => equals a b
      | none => false) && equalsFields as bs

end

@[simp] theorem equals_str {v : JsonValue} {s : String} : equals v (.str s) = true ↔ v = .str s := by
  cases v <;> simp [equals, numeric?]

@[simp] theorem str_equals {v : JsonValue} {s : String} : equals (.str s) v = true ↔ v = .str s := by
  cases v <;> simp [equals, numeric?, eq_comm]

@[simp] theorem equals_nil {v : JsonValue} : equals v (.list []) = true ↔ v = .list [] := by
  cases v with
  | list items => cases items <;> simp [equals, equalsItems]
  | _ => simp [equals, numeric?]

mutual

/-- The value with the keys of all its objects sorted, as `json.dumps(..., sort_keys=True)`
writes it. -/
def canonical : JsonValue → JsonValue
  | .list items => .list (canonicalItems items)
  | .object fields =>
    .object ((canonicalFields fields).insertionSort fun p q => chars p.1 ≤ chars q.1)
  | v => v

/-- The canonical items of an array. -/
def canonicalItems : List JsonValue → List JsonValue
  | [] => []
  | v :: vs => canonical v :: canonicalItems vs

/-- The canonical bindings of an object, still in insertion order. -/
def canonicalFields : List (String × JsonValue) → List (String × JsonValue)
  | [] => []
  | (k, v) :: fields => (k, canonical v) :: canonicalFields fields

end

/-- The items of an array, `none` when the value is not one. -/
def items? : JsonValue → Option (List JsonValue)
  | .list items => some items
  | _ => none

/-- The bindings of an object, `none` when the value is not one. -/
def fields? : JsonValue → Option Mapping
  | .object fields => some fields
  | _ => none

/-- The text of a string, `none` when the value is not one. -/
def text? : JsonValue → Option String
  | .str s => some s
  | _ => none

/-- The integer, `none` when the value is not one; a Boolean is not an integer here, as every
reader of the source excludes it. -/
def int? : JsonValue → Option Int
  | .int n => some n
  | _ => none

/-- The Boolean, `none` when the value is not one. -/
def bool? : JsonValue → Option Bool
  | .bool b => some b
  | _ => none

@[simp] theorem items?_eq_some {v : JsonValue} {items : List JsonValue} :
    v.items? = some items ↔ v = .list items := by
  cases v <;> simp [items?]

@[simp] theorem fields?_eq_some {v : JsonValue} {fields : Mapping} :
    v.fields? = some fields ↔ v = .object fields := by
  cases v <;> simp [fields?]

@[simp] theorem text?_eq_some {v : JsonValue} {s : String} : v.text? = some s ↔ v = .str s := by
  cases v <;> simp [text?]

@[simp] theorem int?_eq_some {v : JsonValue} {n : Int} : v.int? = some n ↔ v = .int n := by
  cases v <;> simp [int?]

@[simp] theorem bool?_eq_some {v : JsonValue} {b : Bool} : v.bool? = some b ↔ v = .bool b := by
  cases v <;> simp [bool?]

/-- A string, or `None`. -/
def ofText? : Option String → JsonValue
  | some s => .str s
  | none => .null

/-- An array of strings. -/
def ofTexts (texts : List String) : JsonValue := .list (texts.map .str)

end JsonValue

namespace Mapping

/-- `dict.get`: the value bound to a key, `None` when there is none. -/
def get (m : Mapping) (key : String) : JsonValue := (m.lookup key).getD .null

/-- The keys of an object. -/
def keys (m : Mapping) : List String := m.map Prod.fst

/-- `set(m) == expected`. -/
def exact (m : Mapping) (expected : List String) : Prop :=
  (∀ key ∈ m.keys, key ∈ expected) ∧ ∀ key ∈ expected, key ∈ m.keys

instance (m : Mapping) (expected : List String) : Decidable (m.exact expected) :=
  inferInstanceAs (Decidable (_ ∧ _))

@[simp] theorem get_nil (key : String) : get [] key = .null := rfl

theorem get_cons (k : String) (v : JsonValue) (m : Mapping) (key : String) :
    get ((k, v) :: m) key = if key = k then v else get m key := by
  by_cases h : key = k
  · simp [get, h]
  · have hne : (key == k) = false := beq_eq_false_iff_ne.mpr h
    simp [get, List.lookup_cons, hne, h]

end Mapping

end Blackcell.Kernel
