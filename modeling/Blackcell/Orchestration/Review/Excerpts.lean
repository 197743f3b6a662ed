import Blackcell.Kernel.Truncation
import Blackcell.Orchestration.Review.Context

/-!
# Excerpts of artifacts

How `orchestration/replay.py` shows the bytes of an artifact to a reviewer. A text is shown as it is, or
cut between two characters and marked; other bytes are shown in base64. The bytes are held as a prefix
that is long enough for every cap, so that the rest of an artifact need not be kept.

## Main definitions

* `ReviewExcerptSource`, `reviewExcerptSource` : what is kept of an artifact.
* `boundedReviewExcerpt` : its excerpt, within a cap.
* `maximumExcerptBytes` : the cap, given the number of items.
* `IsExcerptOf` : what an excerpt shows of an artifact.

## Main results

* `boundedReviewExcerpt_of_source` : an excerpt, for every artifact and every cap.
* `sum_le_maxReviewEvidenceBytes` : all excerpts together.
-/

namespace Blackcell.Orchestration.Review

open Blackcell.Kernel

/-- `ReviewEvidenceFailureCode`. -/
inductive ReviewEvidenceFailureCode where
  | artifactsNotVerified | definitionMismatch | evidenceBudgetExceeded
  deriving DecidableEq, Repr

/-- A step of the assembly of evidence. -/
abbrev Assembly := Except ReviewEvidenceFailureCode

/-- `_MAX_REVIEW_EXCERPT_BYTES`. -/
def maxReviewExcerptBytes : ℕ := 32 * 1024

/-- `_MAX_REVIEW_EVIDENCE_BYTES`. -/
def maxReviewEvidenceBytes : ℕ := 512 * 1024

/-- `_REVIEW_TRUNCATION_MARKER`. -/
def reviewTruncationMarker : String := "\n...[truncated; complete artifact retained by digest]\n"

/-- The text of an artifact that is shown as one: it has no character zero. -/
def textOf (data : List UInt8) : Option String :=
  (decodeUtf8 data).filter fun text ↦ '\x00' ∉ text.toList

/-- What is kept of the bytes of an artifact. -/
def IsKept (data prefixBytes : List UInt8) (sizeBytes : ℕ) (binary : Bool) : Prop :=
  prefixBytes = data.take maxReviewExcerptBytes ∧ sizeBytes = data.length ∧
    binary = (textOf data).isNone

/-- `_ReviewExcerptSource`: what is kept of some bytes. -/
structure ReviewExcerptSource where
  prefixBytes : List UInt8
  sizeBytes : ℕ
  binary : Bool
  isKept : ∃ data, IsKept data prefixBytes sizeBytes binary

/-- The source of some bytes. -/
def ReviewExcerptSource.ofBytes (data : List UInt8) : ReviewExcerptSource where
  prefixBytes := data.take maxReviewExcerptBytes
  sizeBytes := data.length
  binary := (textOf data).isNone
  isKept := ⟨data, rfl, rfl, rfl⟩

@[simp] theorem ReviewExcerptSource.ofBytes_prefixBytes (data : List UInt8) :
    (ofBytes data).prefixBytes = data.take maxReviewExcerptBytes := rfl

@[simp] theorem ReviewExcerptSource.ofBytes_sizeBytes (data : List UInt8) :
    (ofBytes data).sizeBytes = data.length := rfl

@[simp] theorem ReviewExcerptSource.ofBytes_binary (data : List UInt8) :
    (ofBytes data).binary = (textOf data).isNone := rfl

/-- `_review_excerpt_source`. -/
def reviewExcerptSource (data : List UInt8) (binaryAllowed : Bool) : Assembly ReviewExcerptSource := do
  Checked.require ((textOf data).isSome ∨ binaryAllowed) .definitionMismatch
  return .ofBytes data

/-- `_bounded_base64_excerpt`. -/
def boundedBase64Excerpt (source : ReviewExcerptSource) (maximumBytes : ℕ) : Assembly String :=
  let complete := "base64:" ++ b64encode source.prefixBytes
  if source.sizeBytes = source.prefixBytes.length ∧ (utf8 complete).length ≤ maximumBytes then
    .ok complete
  else
    let label := "base64-prefix:"
    let reserved := (utf8 label).length + (utf8 reviewTruncationMarker).length
    let available : ℤ := maximumBytes - reserved
    let rawPrefixBytes : ℤ := min source.prefixBytes.length (available / 4 * 3)
    if rawPrefixBytes < 1 then .error .evidenceBudgetExceeded
    else
      let excerpt := label ++ b64encode (source.prefixBytes.take rawPrefixBytes.toNat) ++
        reviewTruncationMarker
      if (utf8 excerpt).length > maximumBytes then .error .evidenceBudgetExceeded else .ok excerpt

/-- `_bounded_review_excerpt`. -/
def boundedReviewExcerpt (source : ReviewExcerptSource) (maximumBytes : ℕ) : Assembly String :=
  if source.binary then boundedBase64Excerpt source maximumBytes
  else if source.sizeBytes ≤ maximumBytes then
    -- the prefix is complete below every cap, so that the decoder does not raise
    Checked.ofOption (decodeUtf8 source.prefixBytes) .definitionMismatch
  else
    let marker := utf8 reviewTruncationMarker
    if maximumBytes ≤ marker.length then .error .evidenceBudgetExceeded
    else
      .ok (decodeUtf8Ignoring (source.prefixBytes.take (maximumBytes - marker.length)) ++
        reviewTruncationMarker)

/-- `maximum_excerpt_bytes`, given the number of items. -/
def maximumExcerptBytes (evidenceItemCount : ℕ) : ℕ :=
  min maxReviewExcerptBytes (maxReviewEvidenceBytes / evidenceItemCount)

/-! ### What an excerpt shows -/

/-- What an excerpt shows of the bytes of an artifact: a text, complete or cut behind its longest
prefix that leaves room for the marker, or the base64 of other bytes, complete or of a proper prefix
of them. -/
inductive IsExcerptOf (data : List UInt8) (cap : ℕ) : String → Prop
  | text {s : String} (htext : textOf data = some s) (hsize : data.length ≤ cap) :
      IsExcerptOf data cap s
  | cutText {s kept : String} (htext : textOf data = some s) (hsize : cap < data.length)
      (hkept : Kept s (cap - (utf8 reviewTruncationMarker).length) kept) :
      IsExcerptOf data cap (kept ++ reviewTruncationMarker)
  | binary (htext : textOf data = none) : IsExcerptOf data cap ("base64:" ++ b64encode data)
  | cutBinary {n : ℕ} (htext : textOf data = none) (hpos : 0 < n) (hlt : n < data.length) :
      IsExcerptOf data cap ("base64-prefix:" ++ b64encode (data.take n) ++ reviewTruncationMarker)

theorem textOf_eq_some {data : List UInt8} {s : String} :
    textOf data = some s ↔ data = utf8 s ∧ '\x00' ∉ s.toList := by
  simp only [textOf, Option.filter_eq_some_iff, decodeUtf8_eq_some, decide_eq_true_eq]

theorem length_marker : (utf8 reviewTruncationMarker).length = 54 := by decide +kernel

section Bounds

variable {data : List UInt8} {cap : ℕ} {allowed : Bool} {source : ReviewExcerptSource}
  {excerpt : String}

/-- A source is that of some bytes. -/
theorem ReviewExcerptSource.exists_eq_ofBytes (source : ReviewExcerptSource) :
    ∃ data, source = .ofBytes data := by
  obtain ⟨prefixBytes, sizeBytes, binary, data, rfl, rfl, rfl⟩ := source
  exact ⟨data, rfl⟩

theorem mem_append_marker {kept : String} (h : '\x00' ∉ kept.toList) :
    '\x00' ∉ (kept ++ reviewTruncationMarker).toList := by
  have hmarker : '\x00' ∉ reviewTruncationMarker.toList := by decide
  rw [String.toList_append, List.mem_append]
  exact not_or.mpr ⟨h, hmarker⟩

/-- A text within a cap that the prefix covers is shown as it is, or cut. -/
theorem boundedText (hcap : 54 < cap) (hmax : cap ≤ maxReviewExcerptBytes) {s : String}
    (htext : textOf data = some s) :
    ∃ excerpt, boundedReviewExcerpt (.ofBytes data) cap = .ok excerpt ∧ IsExcerptOf data cap excerpt ∧ (utf8 excerpt).length ≤ cap ∧
      '\x00' ∉ excerpt.toList := by
  obtain ⟨hdata, hzero⟩ := textOf_eq_some.mp htext
  have hbinary : ¬(ReviewExcerptSource.ofBytes data).binary = true := by simp [htext]
  by_cases hsource : (ReviewExcerptSource.ofBytes data).sizeBytes ≤ cap <;>
    have hsize := hsource <;> rw [ReviewExcerptSource.ofBytes_sizeBytes] at hsize
  · refine ⟨s, ?_, .text htext hsize, hdata ▸ hsize, hzero⟩
    rw [boundedReviewExcerpt, if_neg hbinary, if_pos hsource,
      ReviewExcerptSource.ofBytes_prefixBytes, List.take_of_length_le (hsize.trans hmax),
      decodeUtf8_eq_some.mpr hdata]
    rfl
  · have hkept := decodeUtf8Ignoring_take s (cap - (utf8 reviewTruncationMarker).length)
    have hlength := hkept.length_le
    have hexcerpt : (data.take maxReviewExcerptBytes).take
        (cap - (utf8 reviewTruncationMarker).length) =
        (utf8 s).take (cap - (utf8 reviewTruncationMarker).length) := by
      rw [List.take_take, Nat.min_eq_left (by omega), hdata]
    refine ⟨_, ?_, .cutText htext (Nat.lt_of_not_le hsize) hkept, ?_, mem_append_marker ?_⟩
    · rw [boundedReviewExcerpt, if_neg hbinary, if_neg hsource,
        ReviewExcerptSource.ofBytes_prefixBytes]
      dsimp only
      rw [hexcerpt, if_neg (by rw [length_marker]; omega)]
    · rw [utf8_append, List.length_append]
      rw [length_marker] at hlength ⊢
      omega
    · exact fun h ↦ hzero (hkept.isPrefix.subset h)

theorem zero_notMem_b64encode : '\x00' ∉ (b64encode data).toList := by
  have hdigit : ∀ n, base64Digit n ≠ '\x00' := by
    intro n
    have hdigits : ∀ c ∈ base64Digits, c ≠ '\x00' := by
      simpa using (by decide : base64Digits.all (· ≠ '\x00') = true)
    rw [base64Digit, List.getD_eq_getElem?_getD]
    cases h : base64Digits[n]? with
    | none => decide
    | some c => exact hdigits c (List.mem_of_getElem? h)
  rw [b64encode, String.toList_ofList]
  fun_induction base64Chars data with
  | case1 a b c bytes ih => simp [Ne.symm (hdigit _), ih]
  | case2 a b => simp [Ne.symm (hdigit _)]
  | case3 a => simp [Ne.symm (hdigit _)]
  | case4 => simp

/-- Bytes that are no text are shown in base64. -/
theorem boundedBinary (hcap : 71 < cap) (hmax : cap ≤ maxReviewExcerptBytes)
    (htext : textOf data = none) :
    ∃ excerpt, boundedReviewExcerpt (.ofBytes data) cap = .ok excerpt ∧ IsExcerptOf data cap excerpt ∧ (utf8 excerpt).length ≤ cap ∧
      '\x00' ∉ excerpt.toList := by
  have hlabel : (utf8 "base64:").length = 7 := by decide +kernel
  have hlabel' : (utf8 "base64-prefix:").length = 14 := by decide +kernel
  have hzero : '\x00' ∉ "base64:".toList := by decide
  have hzero' : '\x00' ∉ "base64-prefix:".toList := by decide
  unfold maxReviewExcerptBytes at hmax
  have hbinary : (ReviewExcerptSource.ofBytes data).binary = true := by simp [htext]
  rw [boundedReviewExcerpt, if_pos hbinary, boundedBase64Excerpt]
  simp only [ReviewExcerptSource.ofBytes_sizeBytes, ReviewExcerptSource.ofBytes_prefixBytes,
    utf8_append, List.length_append, length_b64encode, List.length_take, hlabel, hlabel',
    length_marker, maxReviewExcerptBytes]
  split
  · -- The artifact is complete, and so is its base64.
    rename_i hcomplete
    have hall : data.take (32 * 1024) = data := List.take_of_length_le (by omega)
    refine ⟨_, rfl, hall.symm ▸ .binary htext, ?_, ?_⟩
    · rw [utf8_append, List.length_append, length_b64encode, hlabel, List.length_take]
      exact hcomplete.2
    · rw [String.toList_append, List.mem_append]
      exact not_or.mpr ⟨hzero, zero_notMem_b64encode⟩
  · rename_i hincomplete
    -- As many groups of four digits as fit are the base64 of a proper prefix.
    have hraw : min ((min (32 * 1024) data.length : ℕ) : ℤ)
        (((cap : ℤ) - ((14 + 54 : ℕ) : ℤ)) / 4 * 3) = (((cap - 68) / 4 * 3 : ℕ) : ℤ) := by
      omega
    have hlt : (cap - 68) / 4 * 3 < data.length := by omega
    have htake : (data.take (32 * 1024)).take ((cap - 68) / 4 * 3) =
        data.take ((cap - 68) / 4 * 3) := by
      rw [List.take_take, Nat.min_eq_left (by omega)]
    have hlength : 14 + 4 * (((cap - 68) / 4 * 3 + 2) / 3) + 54 ≤ cap := by omega
    rw [hraw, if_neg (by omega), Int.toNat_natCast, htake]
    rw [if_neg (by omega)]
    refine ⟨_, rfl, .cutBinary htext (by omega) hlt, ?_, mem_append_marker ?_⟩
    · rw [utf8_append, utf8_append, List.length_append, List.length_append, length_b64encode, hlabel',
        length_marker, List.length_take]
      omega
    · rw [String.toList_append, List.mem_append]
      exact not_or.mpr ⟨hzero', zero_notMem_b64encode⟩

/-- **Excerpts.** Every artifact has an excerpt within every cap that leaves room for the markers. -/
theorem boundedReviewExcerpt_ofBytes (data : List UInt8) (hcap : 71 < cap)
    (hmax : cap ≤ maxReviewExcerptBytes) :
    ∃ excerpt, boundedReviewExcerpt (.ofBytes data) cap = .ok excerpt ∧ IsExcerptOf data cap excerpt ∧
      (utf8 excerpt).length ≤ cap ∧ '\x00' ∉ excerpt.toList := by
  cases htext : textOf data with
  | some s => exact boundedText (by omega) hmax htext
  | none => exact boundedBinary hcap hmax htext

end Bounds

/-! ### All excerpts -/

/-- The cap of a bounded number of items leaves room for the markers. -/
theorem lt_maximumExcerptBytes {n : ℕ} (hpos : 1 ≤ n) (hmax : n ≤ maxReviewEvidenceItems) :
    71 < maximumExcerptBytes n := by
  unfold maxReviewEvidenceItems at hmax
  have hdiv : 4096 ≤ 524288 / n := by
    rw [Nat.le_div_iff_mul_le (by omega)]
    omega
  change 71 < min 32768 (524288 / n)
  omega

theorem maximumExcerptBytes_le (n : ℕ) : maximumExcerptBytes n ≤ maxReviewExcerptBytes :=
  min_le_left _ _

theorem sum_le_length_mul {sizes : List ℕ} {n : ℕ} (h : ∀ size ∈ sizes, size ≤ n) :
    sizes.sum ≤ sizes.length * n := by
  induction sizes with
  | nil => simp
  | cons size sizes ih =>
    rw [List.forall_mem_cons] at h
    have := ih h.2
    rw [List.sum_cons, List.length_cons, Nat.succ_mul]
    omega

/-- **The budget.** Excerpts within the cap are within the budget. -/
theorem sum_le_maxReviewEvidenceBytes {sizes : List ℕ}
    (h : ∀ size ∈ sizes, size ≤ maximumExcerptBytes sizes.length) :
    sizes.sum ≤ maxReviewEvidenceBytes := by
  calc sizes.sum ≤ sizes.length * maximumExcerptBytes sizes.length := by
        exact sum_le_length_mul h
    _ ≤ sizes.length * (maxReviewEvidenceBytes / sizes.length) :=
        Nat.mul_le_mul_left _ (min_le_right _ _)
    _ ≤ maxReviewEvidenceBytes := Nat.mul_div_le _ _

end Blackcell.Orchestration.Review
