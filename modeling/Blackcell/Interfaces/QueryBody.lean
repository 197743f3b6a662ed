import Blackcell.Foundation.JsonScanner
import Blackcell.Kernel.Bytes
import Mathlib.Data.List.Nodup

/-!
# Bodies of run queries

A run query carries a JSON text in the body of a QUERY request. The service decodes the body
strictly: the bytes are UTF-8, the text is one JSON value, no object repeats a key at any depth, and
the constants that Python reads beside JSON are refused. What is refused becomes the syntax error of
queries, and that becomes the response of a client error.

`json.loads` has two more ways to end, which the decoder does not catch: an integer of more digits
than the interpreter converts raises a plain `ValueError`, and a container that is nested too deeply
for the stack raises a `RecursionError`. How deep that is depends on the machine, so the depth is a
parameter.

## Main definitions

* `decodeQueryJson` : `_decode_query_json`.
* `handleQueryContent` : what the QUERY middleware does with a body.
* `Denotes` : the bodies of the grammar, and their values.
* `DecodesExactly` : a body is decoded, or refused as a client error, as the grammar says.

## Main results

* `uniqueObject_eq` : the hook for objects refuses repeated keys, and nothing else.
* `decodeQueryJson_eq_ok` : what is decoded.
* `decodesExactly_iff` : when the decoder follows the grammar.
-/

namespace Blackcell.Interfaces

open Kernel JsonText

/-! ### The decoder -/

/-- `MAX_REQUEST_BODY_BYTES`. -/
def maxRequestBodyBytes : Nat := 1048576

/-- `sys.int_info.default_max_str_digits`, which the service does not change. -/
def maxStrDigits : Nat := 4300

/-- What `_decode_query_json` raises: its own error, or one that it does not catch. -/
inductive QueryDecodeError
  | querySyntax
  | valueError
  | recursionError
  deriving DecidableEq

/-- The loop of `unique_object`, with the object built so far. -/
def uniqueObjectFrom (value : List (Text × Value)) :
    List (Text × Value) → Option (List (Text × Value))
  | [] => some value
  | (key, item) :: pairs =>
    if key ∈ value.map Prod.fst then none else uniqueObjectFrom (value ++ [(key, item)]) pairs

/-- `unique_object`, `none` when it raises. -/
def uniqueObject (pairs : List (Text × Value)) : Option Value :=
  (uniqueObjectFrom [] pairs).map .dict

/-- `reject_constant`, which raises. -/
def rejectConstant (_ : Constant) : Option Value := none

/-- The hooks of `_decode_query_json`. -/
def queryHooks : Hooks := ⟨some maxStrDigits, rejectConstant, uniqueObject⟩

/-- The `except` clause: a `JSONDecodeError` and the error of a hook are caught. -/
def queryDecodeError : Failure → QueryDecodeError
  | .decodeError => .querySyntax
  | .hookError => .querySyntax
  | .valueError => .valueError
  | .recursionError => .recursionError

/-- `_decode_query_json`. -/
def decodeQueryJson (depth : Nat) (body : List UInt8) : Except QueryDecodeError Value :=
  match decodeUtf8 body with
  | none => .error .querySyntax
  | some text => (loads queryHooks depth (points text)).mapError queryDecodeError

/-- What becomes of the content of a query: it goes on to the contract, it is answered, or an
exception leaves the middleware. -/
inductive QueryContent
  | decoded (v : Value)
  | answered (status : Nat) (code : String)
  | raised (e : QueryDecodeError)

/-- The part of `_RunQueryMiddleware` that decodes the body. -/
def handleQueryContent (depth : Nat) (body : List UInt8) : QueryContent :=
  match decodeQueryJson depth body with
  | .ok v => .decoded v
  | .error .querySyntax => .answered 400 "invalid-query-content"
  | .error e => .raised e

/-! ### The grammar of bodies -/

/-- The grammar of query bodies: integers of any length, no constants, and no repeated keys. -/
def queryGrammar : Hooks where
  maxDigits := none
  constant _ := none
  object pairs := if (pairs.map Prod.fst).Nodup then some (.dict pairs) else none

/-- A body is the UTF-8 of a JSON text without repeated keys and without the constants `NaN`,
`Infinity` and `-Infinity`, and the text has a value. -/
def Denotes (body : List UInt8) (v : Value) : Prop :=
  ∃ text k, body = utf8 text ∧ DocumentText queryGrammar k (points text) v

/-- A body is decoded to its value if it has one, and is otherwise refused with the syntax error,
which is answered as a client error. -/
def DecodesExactly (depth : Nat) (body : List UInt8) : Prop :=
  (∀ v, decodeQueryJson depth body = .ok v ↔ Denotes body v) ∧
    ((∀ v, ¬Denotes body v) →
      decodeQueryJson depth body = .error .querySyntax ∧
        handleQueryContent depth body = .answered 400 "invalid-query-content")

/-- A body whose text leads to a limit of the interpreter: behind complete items of the containers
that are open there, an integer of too many digits or a container too many begins. -/
def BodyOverruns (depth : Nat) (body : List UInt8) : Prop :=
  ∃ text, body = utf8 text ∧ Overruns queryHooks depth (skipWhitespace (points text))

/-! ### The hook for objects -/

theorem uniqueObjectFrom_eq (value pairs : List (Text × Value))
    (hvalue : (value.map Prod.fst).Nodup) :
    uniqueObjectFrom value pairs =
      if ((value ++ pairs).map Prod.fst).Nodup then some (value ++ pairs) else none := by
  induction pairs generalizing value with
  | nil => rw [uniqueObjectFrom, List.append_nil, if_pos hvalue]
  | cons pair pairs ih =>
    obtain ⟨key, item⟩ := pair
    rw [uniqueObjectFrom]
    split
    · rename_i hkey
      have hrepeated : ¬((value ++ (key, item) :: pairs).map Prod.fst).Nodup := by
        rw [List.map_append, List.nodup_append]
        exact fun h ↦ h.2.2 key hkey key (by simp) rfl
      rw [if_neg hrepeated]
    · rename_i hkey
      have hnext : ((value ++ [(key, item)]).map Prod.fst).Nodup := by
        rw [List.map_append]
        exact hvalue.append (List.nodup_singleton _)
          (List.disjoint_singleton.mpr hkey)
      rw [ih _ hnext, List.append_assoc, List.singleton_append]

/-- The hook refuses repeated keys, and nothing else. -/
theorem uniqueObject_eq (pairs : List (Text × Value)) :
    uniqueObject pairs = if (pairs.map Prod.fst).Nodup then some (.dict pairs) else none := by
  rw [uniqueObject, uniqueObjectFrom_eq [] pairs List.nodup_nil, List.nil_append]
  split <;> rfl

/-- The decoder's hooks are those of the grammar, up to the length of integers. -/
theorem unbounded_queryHooks : queryHooks.unbounded = queryGrammar := by
  simp only [Hooks.unbounded, queryHooks, queryGrammar, Hooks.mk.injEq, true_and]
  exact ⟨rfl, funext uniqueObject_eq⟩

/-! ### Decoding -/

variable {depth : Nat} {body : List UInt8} {text : String} {v : Value}

theorem decodeQueryJson_of_invalid (h : ∀ text, body ≠ utf8 text) :
    decodeQueryJson depth body = .error .querySyntax := by
  rw [decodeQueryJson]
  cases htext : decodeUtf8 body with
  | none => rfl
  | some text => exact absurd (decodeUtf8_eq_some.mp htext) (h text)

theorem decodeQueryJson_utf8 (depth : Nat) (text : String) : decodeQueryJson depth (utf8 text) =
    (loads queryHooks depth (points text)).mapError queryDecodeError := by
  rw [decodeQueryJson, decodeUtf8_eq_some.mpr rfl]

theorem decodeQueryJson_utf8_eq_ok :
    decodeQueryJson depth (utf8 text) = .ok v ↔ loads queryHooks depth (points text) = .ok v := by
  rw [decodeQueryJson_utf8]
  cases loads queryHooks depth (points text) <;> simp [Except.mapError]

/-- The syntax error stands for every refusal that is not a limit. -/
theorem decodeQueryJson_utf8_eq_querySyntax :
    decodeQueryJson depth (utf8 text) = .error .querySyntax ↔
      ∃ e : Failure, e.isLimit = false ∧ loads queryHooks depth (points text) = .error e := by
  rw [decodeQueryJson_utf8]
  cases loads queryHooks depth (points text) with
  | ok w => simp [Except.mapError]
  | error e => cases e <;> simp [Except.mapError, queryDecodeError, Failure.isLimit]

/-- A query is answered as a client error if and only if the decoder raises its own error. -/
theorem handleQueryContent_eq_answered {status : Nat} {code : String} :
    handleQueryContent depth body = .answered status code ↔
      decodeQueryJson depth body = .error .querySyntax ∧ status = 400 ∧
        code = "invalid-query-content" := by
  rw [handleQueryContent]
  cases decodeQueryJson depth body with
  | ok w => simp
  | error e => cases e <;> simp [eq_comm]

/-- **Decoding.** What is decoded is a text of the grammar within the limits of the interpreter. -/
theorem decodeQueryJson_eq_ok :
    decodeQueryJson depth body = .ok v ↔
      ∃ text, body = utf8 text ∧ DocumentText queryHooks depth (points text) v := by
  constructor
  · intro h
    by_cases hvalid : ∃ text, body = utf8 text
    · obtain ⟨text, rfl⟩ := hvalid
      exact ⟨text, rfl, loads_eq_ok.mp (decodeQueryJson_utf8_eq_ok.mp h)⟩
    · rw [decodeQueryJson_of_invalid fun text htext ↦ hvalid ⟨text, htext⟩] at h
      cases h
  · rintro ⟨text, rfl, htext⟩
    exact decodeQueryJson_utf8_eq_ok.mpr (loads_eq_ok.mpr htext)

theorem denotes_utf8 :
    Denotes (utf8 text) v ↔ ∃ k, DocumentText queryHooks.unbounded k (points text) v := by
  rw [unbounded_queryHooks]
  constructor
  · rintro ⟨text', k, htext, hv⟩
    rw [utf8_inj.mp htext]
    exact ⟨k, hv⟩
  · rintro ⟨k, hv⟩
    exact ⟨text, k, rfl, hv⟩

theorem bodyOverruns_utf8 : BodyOverruns depth (utf8 text) ↔
    Overruns queryHooks depth (skipWhitespace (points text)) := by
  constructor
  · rintro ⟨text', htext, h⟩
    rw [utf8_inj.mp htext]
    exact h
  · exact fun h ↦ ⟨text, rfl, h⟩

/-- Bodies that are no UTF-8 are refused. -/
theorem decodesExactly_of_invalid (h : ∀ text, body ≠ utf8 text) : DecodesExactly depth body := by
  have hrefused : decodeQueryJson depth body = .error .querySyntax := decodeQueryJson_of_invalid h
  have hnone : ∀ v, ¬Denotes body v := fun v ⟨text, _, htext, _⟩ ↦ h text htext
  refine ⟨fun v ↦ iff_of_false ?_ (hnone v), fun _ ↦ ⟨hrefused, ?_⟩⟩
  · rw [hrefused]
    exact nofun
  · exact handleQueryContent_eq_answered.mpr ⟨hrefused, rfl, rfl⟩

/-- Encoded texts are decoded or refused as the grammar says unless they lead to a limit. -/
theorem decodesExactly_utf8 : DecodesExactly depth (utf8 text) ↔
    ¬Overruns queryHooks depth (skipWhitespace (points text)) := by
  rw [← loads_exact_iff, DecodesExactly]
  simp only [handleQueryContent_eq_answered, decodeQueryJson_utf8_eq_ok, denotes_utf8,
    decodeQueryJson_utf8_eq_querySyntax, not_exists, and_true, and_self]
  exact and_congr_right fun _ ↦ imp_congr_left forall_comm

/-- **Exactness.** A body is decoded or refused as the grammar says if and only if it leads to no
limit of the interpreter. -/
theorem decodesExactly_iff (depth : Nat) (body : List UInt8) :
    DecodesExactly depth body ↔ ¬BodyOverruns depth body := by
  by_cases hvalid : ∃ text, body = utf8 text
  · obtain ⟨text, rfl⟩ := hvalid
    rw [bodyOverruns_utf8, decodesExactly_utf8]
  · have hinvalid : ∀ text, body ≠ utf8 text := fun text htext ↦ hvalid ⟨text, htext⟩
    refine iff_of_true (decodesExactly_of_invalid hinvalid) ?_
    rintro ⟨text, htext, -⟩
    exact hinvalid text htext

/-! ### A long integer -/

/-- An integer that is written with ones. -/
def ones (n : Nat) : Numeral := ⟨false, List.replicate n '1'.toNat, none, none⟩

theorem wellFormed_ones {n : Nat} (hn : n ≠ 0) : (ones n).WellFormed where
  integer := ⟨fun h ↦ hn ((List.replicate_eq_nil_iff _).mp h), fun c hc ↦ by
    rw [List.eq_of_mem_replicate hc]
    decide⟩
  leading := by
    intro h
    rw [ones, List.head?_replicate, if_neg hn] at h
    exact absurd (Option.some.inj h) (by decide)
  fraction := nofun
  exponent := nofun

theorem text_ones (n : Nat) : (ones n).text = List.replicate n '1'.toNat := by
  simp [Numeral.text, ones, fractionText, exponentText]

theorem points_ones (n : Nat) :
    points (String.ofList (List.replicate n '1')) = (ones n).text := by
  rw [points, String.toList_ofList, List.map_replicate, text_ones]

theorem utf8_ones (n : Nat) :
    utf8 (String.ofList (List.replicate n '1')) = List.replicate n 49 := by
  rw [utf8_eq_flatMap, String.toList_ofList]
  induction n with
  | zero => rfl
  | succ n ih =>
    rw [List.replicate_succ, List.flatMap_cons, ih, List.replicate_succ]
    rfl

/-- An integer of too many digits leads to a limit. -/
theorem overruns_ones {n : Nat} (hn : maxStrDigits < n) (depth : Nat) :
    Overruns queryHooks depth (skipWhitespace (ones n).text) := by
  have hpos : n ≠ 0 := by omega
  have hleads := (wellFormed_ones hpos).leads
  have hread : readNumeral ((ones n).text ++ []) = some (ones n, []) :=
    readNumeral_text (wellFormed_ones hpos) nofun
  rw [List.append_nil] at hread
  have hlong : ¬queryHooks.admits (ones n) := by
    intro h
    have hdigits := h maxStrDigits rfl
    rw [ones, List.length_replicate] at hdigits
    omega
  have hskip : skipWhitespace (ones n).text = (ones n).text := by
    obtain ⟨c, u, heq, hc⟩ := hleads
    have htrimmed : Trimmed (ones n).text := heq ▸ hc.1.trimmed
    simpa using skipWhitespace_append (w := []) nofun htrimmed
  rw [hskip]
  exact Overlong.overruns ⟨_, _, hread, rfl, hlong⟩ depth

/-- Integers of any length are in the grammar. -/
theorem denotes_ones {n : Nat} (hn : n ≠ 0) : Denotes (List.replicate n 49) (ones n).value := by
  refine ⟨_, 0, (utf8_ones n).symm, [], (ones n).text, [], nofun, ?_, nofun, ?_⟩
  · exact .numeral (wellFormed_ones hn) fun _ ↦ nofun
  · rw [points_ones, List.nil_append, List.append_nil]

/-- A JSON integer of 4301 digits raises a `ValueError` that the decoder does not catch. -/
theorem long_integer_escapes : (List.replicate 4301 (49 : UInt8)).length ≤ maxRequestBodyBytes ∧
    (∃ v, Denotes (List.replicate 4301 49) v) ∧
      ¬∃ depth, DecodesExactly depth (List.replicate 4301 49) := by
  refine ⟨by rw [List.length_replicate]; decide, ⟨_, denotes_ones (by decide)⟩, ?_⟩
  rintro ⟨depth, h⟩
  rw [← utf8_ones, decodesExactly_utf8, points_ones] at h
  exact h (overruns_ones (by decide) depth)

end Blackcell.Interfaces
