import Blackcell.Kernel.Json

/-!
# The size of canonical text

The number of bytes that `canonical_json_bytes` writes for a value. The text is written without
spaces, and with `ensure_ascii=False`: only quotation marks, backslashes and control characters are
escaped. The order of the keys does not matter for the size.

## Main definitions

* `escapedSize` : the bytes of a character within a JSON text.
* `JsonValue.byteSize` : `len(canonical_json_bytes(value))`.

## Main results

* `textSize_le` : no character takes more than six bytes.
* `JsonValue.itemsSize_le` : the size of items of bounded size.
-/

namespace Blackcell.Kernel

/-- The bytes of a character within a JSON text: it stands for itself, or is escaped by two
characters, or as `\u00XX`. -/
def escapedSize (c : Char) : Nat :=
  if c = '"' ∨ c = '\\' ∨ c = '\n' ∨ c = '\r' ∨ c = '\t' ∨ c = '\x08' ∨ c = '\x0c' then 2
  else if c.toNat < 0x20 then 6
  else c.utf8Size

/-- The bytes of a text, with its quotation marks. -/
def textSize (s : String) : Nat := 2 + (s.toList.map escapedSize).sum

theorem escapedSize_le (c : Char) : escapedSize c ≤ 6 := by
  unfold escapedSize
  split
  · decide
  split
  · rfl
  · exact c.utf8Size_le_four.trans (by decide)

theorem textSize_le (s : String) : textSize s ≤ 2 + 6 * s.length := by
  have hsum : ∀ l : List Char, (l.map escapedSize).sum ≤ 6 * l.length := by
    intro l
    induction l with
    | nil => rfl
    | cons c l ih =>
      have := escapedSize_le c
      rw [List.map_cons, List.sum_cons, List.length_cons]
      omega
  have := hsum s.toList
  rw [String.length_toList] at this
  unfold textSize
  omega

namespace JsonValue

variable (repr : FiniteFloat → String)

mutual

/-- `len(canonical_json_bytes(value))`, given `float.__repr__`. -/
def byteSize : JsonValue → Nat
  | .null => 4
  | .bool true => 4
  | .bool false => 5
  | .int n => (toString n).length
  | .float x => (repr x).length
  | .str s => textSize s
  | .list items => 1 + max 1 (itemsSize items)
  | .object fields => 1 + max 1 (fieldsSize fields)

/-- The bytes of items, each of them with the comma or the bracket that follows it. -/
def itemsSize : List JsonValue → Nat
  | [] => 0
  | v :: items => byteSize v + 1 + itemsSize items

/-- The bytes of bindings, each of them with the comma or the brace that follows it. -/
def fieldsSize : List (String × JsonValue) → Nat
  | [] => 0
  | (key, v) :: fields => textSize key + 1 + byteSize v + 1 + fieldsSize fields

end

variable {repr}

/-- Items of bounded size. -/
theorem itemsSize_le {items : List JsonValue} {n : Nat} (h : ∀ v ∈ items, byteSize repr v ≤ n) :
    itemsSize repr items ≤ items.length * (n + 1) := by
  induction items with
  | nil => simp [itemsSize]
  | cons v items ih =>
    rw [List.forall_mem_cons] at h
    have := ih h.2
    rw [itemsSize, List.length_cons, Nat.succ_mul]
    omega

end JsonValue

end Blackcell.Kernel
