import Blackcell.Kernel.Bytes

/-!
# Cut bytes

What is shown of bytes that are cut to a length. The lenient decoder of UTF-8 drops what it cannot
read; on a cut text that is the character that was cut. Bytes that are no text are shown in base64.

## Main definitions

* `decodeUtf8Ignoring` : `bytes.decode("utf-8", errors="ignore")`.
* `b64encode` : `base64.b64encode`.

## Main results

* `decodeUtf8Ignoring_take` : the lenient decoder reads the longest prefix of a cut text.
* `length_b64encode` : the length of base64.
-/

namespace Blackcell.Kernel

/-! ### The lenient decoder -/

/-- The characters that the lenient decoder reads, behind `skip` bytes that belong to the last one. A
byte at which no character can be read is dropped. -/
def decodeIgnoring : ℕ → List UInt8 → List Char
  | _, [] => []
  | skip + 1, _ :: bytes => decodeIgnoring skip bytes
  | 0, b :: bytes =>
    match ByteArray.utf8DecodeChar? (b :: bytes).toByteArray 0 with
    | some c => c :: decodeIgnoring (c.utf8Size - 1) bytes
    | none => decodeIgnoring 0 bytes

/-- `bytes.decode("utf-8", errors="ignore")`. -/
def decodeUtf8Ignoring (data : List UInt8) : String := .ofList (decodeIgnoring 0 data)

theorem decodeIgnoring_append {skip : ℕ} {skipped bytes : List UInt8} (h : skipped.length = skip) :
    decodeIgnoring skip (skipped ++ bytes) = decodeIgnoring 0 bytes := by
  subst h
  induction skipped with
  | nil => rfl
  | cons b skipped ih => exact ih

/-- A complete character is read. -/
theorem decodeIgnoring_encode_append (c : Char) (bytes : List UInt8) :
    decodeIgnoring 0 (String.utf8EncodeChar c ++ bytes) = c :: decodeIgnoring 0 bytes := by
  obtain ⟨b, rest, hrest⟩ := List.exists_cons_of_ne_nil (String.utf8EncodeChar_ne_nil (c := c))
  have hlength : rest.length = c.utf8Size - 1 := by
    rw [← String.length_utf8EncodeChar c, hrest, List.length_cons, Nat.add_sub_cancel]
  have hdecode : ByteArray.utf8DecodeChar? (b :: (rest ++ bytes)).toByteArray 0 = some c := by
    rw [← List.cons_append, ← hrest, List.toByteArray_append]
    exact ByteArray.utf8DecodeChar?_utf8EncodeChar_append
  rw [hrest, List.cons_append, decodeIgnoring, hdecode]
  exact congrArg (c :: ·) (decodeIgnoring_append hlength)

/-- Nothing is read from bytes that start no character. -/
theorem decodeIgnoring_eq_nil {bytes : List UInt8} (h : ∀ b ∈ bytes, ¬b.IsUTF8FirstByte) :
    decodeIgnoring 0 bytes = [] := by
  induction bytes with
  | nil => rfl
  | cons b bytes ih =>
    rw [List.forall_mem_cons] at h
    have hnone : ByteArray.utf8DecodeChar? (b :: bytes).toByteArray 0 = none := by
      by_contra hsome
      have hfirst := ByteArray.isUTF8FirstByte_of_isSome_utf8DecodeChar?
        (Option.isSome_iff_ne_none.mpr hsome)
      rw [List.getElem_toByteArray] at hfirst
      exact h.1 hfirst
    rw [decodeIgnoring, hnone]
    exact ih h.2

/-- Nothing is read from a character that is cut. -/
theorem decodeIgnoring_take_encode {c : Char} {n : ℕ} (hn : n < c.utf8Size) :
    decodeIgnoring 0 ((String.utf8EncodeChar c).take n) = [] := by
  obtain ⟨b, rest, hrest⟩ := List.exists_cons_of_ne_nil (String.utf8EncodeChar_ne_nil (c := c))
  have hcontinues : ∀ b ∈ rest, ¬b.IsUTF8FirstByte := by
    intro b' hb'
    obtain ⟨i, hi, rfl⟩ := List.getElem_of_mem hb'
    have hi' : i + 1 < (String.utf8EncodeChar c).length := by
      rw [hrest]
      exact Nat.succ_lt_succ hi
    have hfirst := @UInt8.isUTF8FirstByte_getElem_utf8EncodeChar c (i + 1) hi'
    simp only [hrest, List.getElem_cons_succ, Nat.add_eq_zero_iff, one_ne_zero, and_false,
      iff_false] at hfirst
    exact hfirst
  cases n with
  | zero => rfl
  | succ n =>
    have hnone : ByteArray.utf8DecodeChar? (b :: rest.take n).toByteArray 0 = none := by
      by_contra hsome
      obtain ⟨c', hc'⟩ := Option.ne_none_iff_exists'.mp hsome
      obtain ⟨l, hl⟩ := ByteArray.exists_of_utf8DecodeChar?_eq_some hc'
      have hbytes : (String.utf8EncodeChar c).toByteArray =
          (String.utf8EncodeChar c').toByteArray ++ (l ++ (rest.drop n).toByteArray) := by
        rw [← ByteArray.append_assoc, ← hl, ← List.toByteArray_append, List.cons_append,
          List.take_append_drop, hrest]
      have hself : ByteArray.utf8DecodeChar? (String.utf8EncodeChar c).toByteArray 0 = some c := by
        have h := ByteArray.utf8DecodeChar?_utf8EncodeChar_append (b := .empty) (c := c)
        rwa [ByteArray.append_empty] at h
      rw [hbytes, ByteArray.utf8DecodeChar?_utf8EncodeChar_append] at hself
      obtain rfl := Option.some.inj hself
      have hsize := congrArg ByteArray.size hl
      rw [ByteArray.size_append, List.size_toByteArray, List.size_toByteArray,
        String.length_utf8EncodeChar, List.length_cons, List.length_take] at hsize
      omega
    rw [hrest, List.take_succ_cons, decodeIgnoring, hnone]
    exact decodeIgnoring_eq_nil fun b' hb' ↦ hcontinues b' (List.mem_of_mem_take hb')

/-- What is kept of a text: its longest prefix that takes at most `n` bytes. -/
structure Kept (s : String) (n : ℕ) (kept : String) : Prop where
  isPrefix : kept.toList <+: s.toList
  length_le : (utf8 kept).length ≤ n
  longest : ∀ t : String, t.toList <+: s.toList → (utf8 t).length ≤ n → t.toList <+: kept.toList

/-- The characters that are read of a cut text, and the one that was cut. -/
theorem decodeIgnoring_take (cs : List Char) (n : ℕ) : ∃ kept rest, cs = kept ++ rest ∧
    decodeIgnoring 0 ((cs.flatMap String.utf8EncodeChar).take n) = kept ∧
    (kept.flatMap String.utf8EncodeChar).length ≤ n ∧
    ∀ c ∈ rest.head?, n < (kept.flatMap String.utf8EncodeChar).length + c.utf8Size := by
  induction cs generalizing n with
  | nil => exact ⟨[], [], rfl, by simp [decodeIgnoring], Nat.zero_le n, nofun⟩
  | cons c cs ih =>
    have hlength := String.length_utf8EncodeChar c
    rcases Nat.lt_or_ge n c.utf8Size with hn | hn
    · refine ⟨[], c :: cs, rfl, ?_, Nat.zero_le n, ?_⟩
      · rw [List.flatMap_cons, List.take_append_of_le_length (by omega)]
        exact decodeIgnoring_take_encode hn
      · rintro _ ⟨⟩
        simpa using hn
    · obtain ⟨kept, rest, rfl, hread, hle, hcut⟩ := ih (n - c.utf8Size)
      refine ⟨c :: kept, rest, rfl, ?_, ?_, fun c' hc' ↦ ?_⟩
      · rw [List.flatMap_cons, List.take_append, List.take_of_length_le (by omega),
          decodeIgnoring_encode_append, hlength, hread]
      · rw [List.flatMap_cons, List.length_append]
        omega
      · have := hcut c' hc'
        rw [List.flatMap_cons, List.length_append]
        omega

/-- **Cut texts.** The lenient decoder reads the longest prefix of a cut text. -/
theorem decodeUtf8Ignoring_take (s : String) (n : ℕ) :
    Kept s n (decodeUtf8Ignoring ((utf8 s).take n)) := by
  obtain ⟨kept, rest, hsplit, hread, hle, hcut⟩ := decodeIgnoring_take s.toList n
  have hkept : (decodeUtf8Ignoring ((utf8 s).take n)).toList = kept := by
    rw [decodeUtf8Ignoring, utf8_eq_flatMap, hread, String.toList_ofList]
  refine ⟨?_, ?_, fun t ht hn ↦ ?_⟩
  · rw [hkept, hsplit]
    exact List.prefix_append kept rest
  · rwa [utf8_eq_flatMap, hkept]
  · rw [hkept]
    have hprefix : kept <+: s.toList := hsplit ▸ List.prefix_append kept rest
    rcases List.prefix_or_prefix_of_prefix ht hprefix with hshorter | ⟨more, hmore⟩
    · exact hshorter
    -- A longer prefix holds the character that was cut.
    cases more with
    | nil => exact ⟨[], by rw [List.append_nil, ← hmore, List.append_nil]⟩
    | cons c more =>
      exfalso
      rw [hsplit, ← hmore, List.prefix_append_right_inj] at ht
      obtain ⟨_, rfl⟩ := ht
      have := hcut c rfl
      rw [utf8_eq_flatMap, ← hmore, List.flatMap_append, List.flatMap_cons, List.length_append,
        List.length_append, String.length_utf8EncodeChar] at hn
      omega

/-! ### Base64 -/

/-- The digits of base64. -/
def base64Digits : List Char :=
  "ABCDEFGHIJKLMNOPQRSTUVWXYZabcdefghijklmnopqrstuvwxyz0123456789+/".toList

/-- The digit of a value below 64. -/
def base64Digit (n : ℕ) : Char := base64Digits.getD n 'A'

/-- The digits of groups of three bytes, the last of which is filled. -/
def base64Chars : List UInt8 → List Char
  | a :: b :: c :: bytes =>
    base64Digit (a.toNat / 4) :: base64Digit (a.toNat % 4 * 16 + b.toNat / 16) ::
      base64Digit (b.toNat % 16 * 4 + c.toNat / 64) :: base64Digit (c.toNat % 64) ::
        base64Chars bytes
  | [a, b] =>
    [base64Digit (a.toNat / 4), base64Digit (a.toNat % 4 * 16 + b.toNat / 16),
      base64Digit (b.toNat % 16 * 4), '=']
  | [a] => [base64Digit (a.toNat / 4), base64Digit (a.toNat % 4 * 16), '=', '=']
  | [] => []

/-- `base64.b64encode(data).decode("ascii")`. -/
def b64encode (data : List UInt8) : String := .ofList (base64Chars data)

theorem base64Digit_ascii (n : ℕ) : (base64Digit n).toNat < 128 := by
  have hdigits : ∀ c ∈ base64Digits, c.toNat < 128 := by
    simpa using (by decide : base64Digits.all (·.toNat < 128) = true)
  rw [base64Digit, List.getD_eq_getElem?_getD]
  cases h : base64Digits[n]? with
  | none => decide
  | some c => exact hdigits c (List.mem_of_getElem? h)

/-- Base64 is ASCII. -/
theorem base64Chars_ascii (data : List UInt8) : ∀ c ∈ base64Chars data, c.toNat < 128 := by
  fun_induction base64Chars data with
  | case1 a b c bytes ih =>
    simp only [List.forall_mem_cons]
    exact ⟨base64Digit_ascii _, base64Digit_ascii _, base64Digit_ascii _, base64Digit_ascii _, ih⟩
  | case2 a b =>
    simp only [List.forall_mem_cons]
    exact ⟨base64Digit_ascii _, base64Digit_ascii _, base64Digit_ascii _, by decide, nofun⟩
  | case3 a =>
    simp only [List.forall_mem_cons]
    exact ⟨base64Digit_ascii _, base64Digit_ascii _, by decide, by decide, nofun⟩
  | case4 => exact nofun

theorem length_base64Chars (data : List UInt8) :
    (base64Chars data).length = 4 * ((data.length + 2) / 3) := by
  fun_induction base64Chars data with
  | case1 a b c bytes ih =>
    simp only [List.length_cons, ih]
    omega
  | case2 a b => simp
  | case3 a => simp
  | case4 => rfl

theorem length_utf8 (s : String) : (utf8 s).length = s.utf8ByteSize := rfl

/-- An ASCII text takes a byte for each character. -/
theorem length_utf8_of_ascii {s : String} (h : ∀ c ∈ s.toList, c.toNat < 128) :
    (utf8 s).length = s.toList.length := by
  rw [utf8_eq_flatMap, List.length_flatMap]
  revert h
  induction s.toList with
  | nil => exact fun _ ↦ rfl
  | cons c cs ih =>
    intro h
    rw [List.forall_mem_cons] at h
    rw [List.map_cons, List.sum_cons, ih h.2, utf8EncodeChar_ascii h.1,
      List.length_singleton, List.length_cons, Nat.add_comm]

/-- **Base64.** Three bytes take four. -/
theorem length_b64encode (data : List UInt8) :
    (utf8 (b64encode data)).length = 4 * ((data.length + 2) / 3) := by
  have hascii : ∀ c ∈ (b64encode data).toList, c.toNat < 128 := by
    rw [b64encode, String.toList_ofList]
    exact base64Chars_ascii data
  rw [length_utf8_of_ascii hascii, b64encode, String.toList_ofList, length_base64Chars]

end Blackcell.Kernel
