import Blackcell.Kernel.Digest
import Mathlib.Data.List.Basic

/-!
# Bytes

Texts as the bytes that encode them, and the strict decoders of the standard library. A byte below
128 stands for itself wherever it occurs in an encoded text, so a text without a control character
has no byte of that value.

## Main definitions

* `utf8`, `decodeUtf8` : `str.encode("utf-8")` and `bytes.decode("utf-8")`.
* `decodeAscii` : `bytes.decode("ascii")`.
* `BytesDigest` : digests of bytes.

## Main results

* `decodeUtf8_eq_some` : the decoder inverts the encoder, and accepts nothing else.
* `notMem_utf8` : an ASCII byte occurs in an encoded text only as its character.
-/

namespace Blackcell.Kernel

/-! ### Encoded texts -/

/-- `text.encode("utf-8")`. -/
def utf8 (s : String) : List UInt8 := s.toUTF8.data.toList

/-- `data.decode("utf-8")`, `none` when it raises. -/
def decodeUtf8 (data : List UInt8) : Option String := String.fromUTF8? ⟨data.toArray⟩

instance decidableIsAscii (data : List UInt8) : Decidable (∀ b ∈ data, b < 128) :=
  List.decidableBAll _ _

/-- Bytes are compared by their sequences. -/
instance decidableEqByteArray : DecidableEq ByteArray := fun a b ↦
  decidable_of_iff (a.data = b.data) ByteArray.ext_iff.symm

/-- `data.decode("ascii")`, `none` when it raises. -/
def decodeAscii (data : List UInt8) : Option String :=
  if ∀ b ∈ data, b < 128 then decodeUtf8 data else none

/-- **UTF-8.** The decoder inverts the encoder, and accepts nothing else. -/
theorem decodeUtf8_eq_some {data : List UInt8} {s : String} :
    decodeUtf8 data = some s ↔ data = utf8 s := by
  unfold decodeUtf8 String.fromUTF8? utf8
  constructor
  · intro h
    split at h
    · rw [← Option.some.inj h]
      rfl
    · cases h
  · rintro rfl
    have hvalid : (⟨s.toUTF8.data.toList.toArray⟩ : ByteArray).IsValidUTF8 := s.isValidUTF8
    rw [dif_pos hvalid]
    rfl

/-- The bytes of a text are those of its characters. -/
theorem utf8_eq_flatMap (s : String) : utf8 s = s.toList.flatMap String.utf8EncodeChar := by
  change s.toByteArray.data.toList = _
  rw [← String.utf8Encode_toList, List.utf8Encode, List.toList_data_toByteArray]

theorem utf8_append (s t : String) : utf8 (s ++ t) = utf8 s ++ utf8 t := by
  simp [utf8_eq_flatMap]

/-- Encoded texts are different. -/
theorem utf8_inj {s t : String} : utf8 s = utf8 t ↔ s = t := by
  refine ⟨fun h ↦ ?_, congrArg utf8⟩
  exact Option.some.inj ((decodeUtf8_eq_some.mpr rfl).symm.trans (decodeUtf8_eq_some.mpr h))

/-- A byte below 128 encodes its character. -/
theorem toNat_of_mem_utf8EncodeChar {b : UInt8} {c : Char} (h : b ∈ String.utf8EncodeChar c)
    (hb : b.toNat < 128) : b.toNat = c.toNat := by
  have hbyte : ∀ v : Nat, (UInt8.ofNat v).toNat = v % 256 := fun v ↦ UInt8.toNat_ofNat'
  have hv : c.val.toNat = c.toNat := rfl
  unfold String.utf8EncodeChar at h
  dsimp only at h
  split at h
  · rw [List.mem_singleton] at h
    rw [h, hbyte]
    omega
  · split at h
    · simp only [List.mem_cons, List.not_mem_nil, or_false] at h
      rcases h with rfl | rfl <;> rw [hbyte] at hb <;> omega
    · split at h
      · simp only [List.mem_cons, List.not_mem_nil, or_false] at h
        rcases h with rfl | rfl | rfl <;> rw [hbyte] at hb <;> omega
      · simp only [List.mem_cons, List.not_mem_nil, or_false] at h
        rcases h with rfl | rfl | rfl | rfl <;> rw [hbyte] at hb <;> omega

/-- **ASCII bytes.** A byte below 128 occurs in an encoded text only as its character. -/
theorem notMem_utf8 {s : String} {b : UInt8} {c : Char} (hb : b.toNat < 128)
    (hc : b.toNat = c.toNat) (h : c ∉ s.toList) : b ∉ utf8 s := by
  rw [utf8_eq_flatMap, List.mem_flatMap]
  rintro ⟨c', hmem, hbyte⟩
  have heq : c'.toNat = c.toNat := (toNat_of_mem_utf8EncodeChar hbyte hb).symm.trans hc
  have hchar : c' = c := by
    rw [← Char.ofNat_toNat c', heq, Char.ofNat_toNat]
  exact h (hchar ▸ hmem)

theorem utf8EncodeChar_ascii {c : Char} (h : c.toNat < 128) :
    String.utf8EncodeChar c = [UInt8.ofNat c.toNat] := by
  unfold String.utf8EncodeChar
  exact if_pos (Nat.le_of_lt_succ h)

/-- **ASCII.** The decoder accepts exactly the encoded texts of ASCII characters. -/
theorem decodeAscii_eq_some {data : List UInt8} {s : String} : decodeAscii data = some s ↔
    data = utf8 s ∧ ∀ c ∈ s.toList, c.toNat < 128 := by
  unfold decodeAscii
  rw [ite_eq_iff]
  simp only [decodeUtf8_eq_some, reduceCtorEq, and_false, or_false]
  constructor
  · rintro ⟨hascii, rfl⟩
    refine ⟨rfl, fun c hc ↦ ?_⟩
    -- The first byte of a character is its own when it is below 128.
    obtain ⟨b, bytes, hbytes⟩ := List.exists_cons_of_ne_nil (String.utf8EncodeChar_ne_nil (c := c))
    have hmem : b ∈ String.utf8EncodeChar c := hbytes ▸ List.mem_cons_self
    have hb : b.toNat < 128 := UInt8.lt_iff_toNat_lt.mp
      (hascii b (by rw [utf8_eq_flatMap]; exact List.mem_flatMap.mpr ⟨c, hc, hmem⟩))
    exact toNat_of_mem_utf8EncodeChar hmem hb ▸ hb
  · rintro ⟨rfl, hascii⟩
    refine ⟨fun b hb ↦ ?_, rfl⟩
    rw [utf8_eq_flatMap, List.mem_flatMap] at hb
    obtain ⟨c, hc, hb⟩ := hb
    have hlt := hascii c hc
    rw [utf8EncodeChar_ascii hlt, List.mem_singleton] at hb
    rw [hb, UInt8.lt_iff_toNat_lt, UInt8.toNat_ofNat']
    change c.toNat % 256 < 128
    omega

/-! ### Digests -/

/-- `bytes_digest`, given the digits of SHA-256. -/
structure BytesDigest where
  hexdigest : ByteArray → String
  isHex_hexdigest : ∀ data, isHex 64 (hexdigest data) = true

namespace BytesDigest

variable (D : BytesDigest)

/-- `bytes_digest`. -/
def bytesDigest (data : ByteArray) : String := digestPrefix ++ D.hexdigest data

theorem length_bytesDigest (data : ByteArray) : (D.bytesDigest data).length = 71 :=
  length_digestPrefix_append (D.isHex_hexdigest data)

end BytesDigest

end Blackcell.Kernel
