import Mathlib.Data.String.Basic

/-!
# Bounded text

The text predicates that the contracts of the runtime share: identifiers, hexadecimal digests and
commits, and Python's notion of blank text. Each is a decidable predicate on the characters of
the text, as the regular expressions and the character loops of the source are.

## Main definitions

* `chars`, `ofChars` : the characters of a text, and the text of a list of characters. Both are
  read from the bytes of an ASCII text.
* `isBlank` : `not value.strip()`.
* `isIdentifier` : a leading alphanumeric character and at most 127 further ones.
* `isHexDigest`, `isCommit` : `sha256:` and 64 hexadecimal digits; 40 hexadecimal digits.
* `pathJoin` : `str(Path(root) / name)`.
* `hexText` : `f"{n:064x}"`.
-/

namespace Blackcell.Kernel

/-! ### Characters -/

/-- The characters of a text: those of its bytes, if it is an ASCII text. -/
def chars (s : String) : List Char :=
  let bytes := s.toByteArray.data.toList
  if bytes.all (· < 128) then bytes.map fun b ↦ Char.ofNat b.toNat else s.toList

/-- A character whose bytes are those of ASCII is its only byte. -/
theorem map_utf8EncodeChar {c : Char} (h : (String.utf8EncodeChar c).all (· < 128) = true) :
    (String.utf8EncodeChar c).map (fun b ↦ Char.ofNat b.toNat) = [c] := by
  have hbyte (n : Nat) (hn : n < 256) : (UInt8.ofNat n < 128) ↔ n < 128 := by
    simp [UInt8.lt_iff_toNat_lt, Nat.mod_eq_of_lt hn]
  simp only [String.utf8EncodeChar] at h ⊢
  split_ifs at h ⊢ with h₁ h₂ h₃
  · have hmod : c.val.toNat % 256 = c.val.toNat := Nat.mod_eq_of_lt (by omega)
    simp only [List.map_cons, List.map_nil, UInt8.toNat_ofNat', Nat.reducePow, hmod]
    exact congrArg (· :: []) (Char.ofNat_toNat c)
  -- The first byte of several is not one of ASCII.
  all_goals
    simp only [List.all_cons, Bool.and_eq_true, decide_eq_true_eq] at h
    have hfirst := (hbyte _ (by omega)).mp h.1
    omega

/-- The kernel evaluates the left-hand side in fewer steps than the right-hand side. -/
@[simp] theorem chars_eq (s : String) : chars s = s.toList := by
  have hbytes : s.toByteArray.data.toList = s.toList.flatMap String.utf8EncodeChar := by
    rw [← String.utf8Encode_toList, List.utf8Encode]
    simp
  have hmap (l : List Char) (h : (l.flatMap String.utf8EncodeChar).all (· < 128) = true) :
      (l.flatMap String.utf8EncodeChar).map (fun b ↦ Char.ofNat b.toNat) = l := by
    induction l with
    | nil => rfl
    | cons c l ih =>
      rw [List.flatMap_cons, List.all_append, Bool.and_eq_true] at h
      rw [List.flatMap_cons, List.map_append, map_utf8EncodeChar h.1, ih h.2, List.singleton_append]
  simp only [chars, hbytes]
  split
  · exact hmap _ ‹_›
  · rfl

/-- A character of ASCII is its only byte. -/
theorem utf8EncodeChar_of_ascii {c : Char} (h : c.val < 128) :
    String.utf8EncodeChar c = [c.val.toUInt8] :=
  String.utf8EncodeChar_eq_singleton (Char.utf8Size_eq_one_iff.mpr (by
    rw [UInt32.lt_iff_toNat_lt] at h
    rw [UInt32.le_iff_toNat_le]
    exact Nat.le_of_lt_succ h))

/-- The bytes of the characters of an ASCII text. -/
theorem bytes_of_ascii {l : List Char} (h : l.all (·.val < 128) = true) :
    ByteArray.mk ⟨l.map (·.val.toUInt8)⟩ = l.utf8Encode := by
  have hmap : l.flatMap String.utf8EncodeChar = l.map (·.val.toUInt8) := by
    induction l with
    | nil => rfl
    | cons c l ih =>
      rw [List.all_cons, Bool.and_eq_true, decide_eq_true_eq] at h
      rw [List.flatMap_cons, utf8EncodeChar_of_ascii h.1, ih h.2, List.map_cons,
        List.singleton_append]
  ext1
  rw [List.utf8Encode, List.data_toByteArray, hmap]

/-- The text of a list of characters: that of their bytes, if it is an ASCII text. -/
def ofChars (l : List Char) : String :=
  if h : l.all (·.val < 128) = true then .ofByteArray _ ⟨l, bytes_of_ascii h⟩ else .ofList l

@[simp] theorem ofChars_eq (l : List Char) : ofChars l = String.ofList l := by
  rw [ofChars]
  split
  · exact String.toByteArray_inj.mp (bytes_of_ascii ‹_›)
  · rfl

/-! The length of a text is read from its characters, too. -/

instance decidableLengthEq (s : String) (n : ℕ) : Decidable (s.length = n) :=
  decidable_of_iff ((chars s).length = n) (by rw [chars_eq, String.length_toList])

instance decidableLengthLE (s : String) (n : ℕ) : Decidable (s.length ≤ n) :=
  decidable_of_iff ((chars s).length ≤ n) (by rw [chars_eq, String.length_toList])

/-! ### Patterns -/

/-- The characters that `str.strip` removes. -/
def isSpace (c : Char) : Bool :=
  (9 ≤ c.toNat && c.toNat ≤ 13) || (28 ≤ c.toNat && c.toNat ≤ 32) ||
    (0x2000 ≤ c.toNat && c.toNat ≤ 0x200a) ||
    [0x85, 0xa0, 0x1680, 0x2028, 0x2029, 0x202f, 0x205f, 0x3000].contains c.toNat

/-- `not value.strip()`: the text has no character other than white space. -/
def isBlank (s : String) : Bool := (chars s).all isSpace

/-- A lower-case hexadecimal digit, `[0-9a-f]`. -/
def isHexChar (c : Char) : Bool := c.isDigit || ('a' ≤ c && c ≤ 'f')

/-- `[0-9a-f]{n}`. -/
def isHex (n : Nat) (s : String) : Bool := (chars s).length = n && (chars s).all isHexChar

/-- `[A-Za-z0-9][A-Za-z0-9...]{0,127}` with further characters `punctuation`. -/
def isIdentifier (punctuation : List Char) (s : String) : Bool :=
  match chars s with
  | [] => false
  | c :: cs => c.isAlphanum && cs.length ≤ 127 &&
      cs.all fun d => d.isAlphanum || punctuation.contains d

/-- The prefix of every digest. -/
def digestPrefix : String := "sha256:"

/-- `text.startswith("sha256:")`. -/
def hasDigestPrefix (s : String) : Bool := (chars digestPrefix).isPrefixOf (chars s)

/-- `text.removeprefix("sha256:")` of a text that has the prefix. -/
def withoutDigestPrefix (s : String) : String :=
  if hasDigestPrefix s then ofChars ((chars s).drop (chars digestPrefix).length) else s

/-- `sha256:[0-9a-f]{64}`. -/
def isHexDigest (s : String) : Bool := hasDigestPrefix s && isHex 64 (withoutDigestPrefix s)

/-- `[0-9a-f]{40}`. -/
def isCommit (s : String) : Bool := isHex 40 s

/-- The components of `Path(text)`: empty ones and `.` are dropped. -/
def pathParts (s : String) : List String :=
  ((s.toList.splitOn '/').map String.ofList).filter fun part ↦ part ≠ "" ∧ part ≠ "."

/-- The root of `Path(text)`: exactly two leading slashes are kept. -/
def pathRoot (s : String) : String :=
  match s.toList with
  | '/' :: '/' :: '/' :: _ => "/"
  | '/' :: '/' :: _ => "//"
  | '/' :: _ => "/"
  | _ => ""

/-- `str(Path(root) / name)`, for a single component `name`. -/
def pathJoin (root name : String) : String :=
  pathRoot root ++ "/".intercalate (pathParts root ++ [name])

theorem hasDigestPrefix_append (s : String) : hasDigestPrefix (digestPrefix ++ s) = true := by
  simp [hasDigestPrefix, String.toList_append]

theorem withoutDigestPrefix_append (s : String) : withoutDigestPrefix (digestPrefix ++ s) = s := by
  simp [withoutDigestPrefix, hasDigestPrefix_append]

theorem isHex_iff {n : ℕ} {s : String} :
    isHex n s = true ↔ s.length = n ∧ ∀ c ∈ s.toList, isHexChar c = true := by
  rw [isHex, chars_eq, Bool.and_eq_true, decide_eq_true_eq, String.length_toList, List.all_eq_true]

/-- Hexadecimal digits are recognised on the characters of a text. -/
theorem isHex_ofList {n : Nat} {digits : List Char}
    (h : digits.length = n ∧ digits.all isHexChar = true) :
    isHex n (String.ofList digits) = true := by
  simpa [isHex] using h

/-- The prefix and 64 hexadecimal digits make a digest. -/
theorem isHexDigest_append {s : String} (h : isHex 64 s = true) :
    isHexDigest (digestPrefix ++ s) = true := by
  simp [isHexDigest, hasDigestPrefix_append, withoutDigestPrefix_append, h]

theorem length_digestPrefix_append {s : String} (h : isHex 64 s = true) :
    (digestPrefix ++ s).length = 71 := by
  have hprefix : digestPrefix.length = 7 := rfl
  rw [String.length_append, hprefix, (isHex_iff.mp h).1]

theorem length_of_isHexDigest {s : String} (h : isHexDigest s = true) : s.length = 71 := by
  simp only [isHexDigest, Bool.and_eq_true, withoutDigestPrefix] at h
  obtain ⟨hbegins, h⟩ := h
  rw [if_pos hbegins, ofChars_eq, isHex_iff, String.length_ofList, List.length_drop] at h
  have hlength : 7 ≤ (chars s).length := (List.isPrefixOf_iff_prefix.mp hbegins).length_le
  have h64 : (chars s).length - 7 = 64 := h.1
  rw [← String.length_toList, ← chars_eq]
  omega

/-! ### The digits of a number -/

/-- The digit of a number below 16. -/
def hexDigit (d : ℕ) : Char := Char.ofNat (if d < 10 then 48 + d else 87 + d)

/-- The last `k` hexadecimal digits of a number. -/
def hexDigits (n : ℕ) : ℕ → List Char
  | 0 => []
  | k + 1 => hexDigit (n / 16 ^ k % 16) :: hexDigits n k

theorem length_hexDigits (n k : ℕ) : (hexDigits n k).length = k := by
  induction k with
  | zero => rfl
  | succ k ih => rw [hexDigits, List.length_cons, ih]

theorem isHexChar_of_mem_hexDigits {n k : ℕ} {c : Char} (h : c ∈ hexDigits n k) :
    isHexChar c = true := by
  have hdigit : ∀ d < 16, isHexChar (hexDigit d) = true := by decide
  induction k with
  | zero => cases h
  | succ k ih =>
    rcases List.mem_cons.mp h with rfl | h
    · exact hdigit _ (Nat.mod_lt _ (by decide))
    · exact ih h

/-- The text of the 64 hexadecimal digits of a number, `f"{n:064x}"`. -/
def hexText (n : ℕ) : { s : String // isHex 64 s = true } where
  val := ofChars (hexDigits n 64)
  property := by
    rw [ofChars_eq]
    exact isHex_ofList ⟨length_hexDigits n 64,
      List.all_eq_true.mpr fun _ ↦ isHexChar_of_mem_hexDigits⟩

end Blackcell.Kernel
