import Mathlib.Data.Nat.Digits.Defs
import Mathlib.Data.List.TakeWhile

/-!
# The lexemes of JSON texts

The strings and the numerals of a JSON text, as the scanner of the Python standard library reads
them, and the grammar of both. A text is a list of code points, since a decoded text may hold lone
surrogates. Each reader takes a text from the start of a lexeme on and returns the lexeme with the
text behind it; each is shown to read exactly the lexemes of the grammar.

## Main definitions

* `JsonText.Text` : texts.
* `JsonText.scanString`, `JsonText.StringText` : the rest of a string behind its opening quote.
* `JsonText.readNumeral`, `JsonText.Numeral` : numerals, read as long as they can be.

## Main results

* `JsonText.scanString_eq_some` : the strings that are read.
* `JsonText.readNumeral_eq_some`, `JsonText.readNumeral_text` : the numerals that are read.
-/

namespace JsonText

/-- A text, by its code points. -/
abbrev Text := List Nat

/-- The code points of a string. -/
def points (s : String) : Text := s.toList.map Char.toNat

/-! ### Whitespace -/

/-- The whitespace of JSON. -/
def isWhitespace (c : Nat) : Bool :=
  c = ' '.toNat || c = '\t'.toNat || c = '\n'.toNat || c = '\r'.toNat

/-- The text behind the whitespace at its start. -/
def skipWhitespace (s : Text) : Text := s.dropWhile isWhitespace

/-- A text of whitespace. -/
def Whitespace (w : Text) : Prop := ∀ c ∈ w, isWhitespace c = true

/-- A text that does not begin with whitespace. -/
def Trimmed (s : Text) : Prop := ∀ c ∈ s.head?, isWhitespace c = false

theorem exists_whitespace_skip (s : Text) :
    ∃ w, Whitespace w ∧ s = w ++ skipWhitespace s ∧ Trimmed (skipWhitespace s) := by
  refine ⟨s.takeWhile isWhitespace, fun c ↦ List.mem_takeWhile_imp,
    List.takeWhile_append_dropWhile.symm, ?_⟩
  intro c hc
  unfold skipWhitespace at hc
  have hhead := List.head?_dropWhile_not isWhitespace s
  cases hdrop : (s.dropWhile isWhitespace).head? with
  | none => simp [hdrop] at hc
  | some d =>
    rw [hdrop] at hc hhead
    cases hc
    simpa using hhead

theorem skipWhitespace_append {w s : Text} (hw : Whitespace w) (hs : Trimmed s) :
    skipWhitespace (w ++ s) = s := by
  unfold skipWhitespace
  rw [List.dropWhile_append_of_pos hw]
  cases s with
  | nil => rfl
  | cons c s => simp [hs c rfl]

/-! ### Strings -/

/-- What a string holds: a code point as written or from a short escape, or a unit of UTF-16 from an
escape `\uXXXX`. -/
inductive Piece
  | point (c : Nat)
  | unit (n : Nat)

/-- `Py_UNICODE_IS_HIGH_SURROGATE`. -/
def isHighSurrogate (n : Nat) : Bool := 0xD800 ≤ n && n ≤ 0xDBFF

/-- `Py_UNICODE_IS_LOW_SURROGATE`. -/
def isLowSurrogate (n : Nat) : Bool := 0xDC00 ≤ n && n ≤ 0xDFFF

/-- The text of a string: two escaped units that are a surrogate pair are one code point. -/
def joinPieces : List Piece → Text
  | .unit h :: .unit l :: rest =>
    if isHighSurrogate h && isLowSurrogate l then
      (0x10000 + (h - 0xD800) * 0x400 + (l - 0xDC00)) :: joinPieces rest
    else h :: joinPieces (.unit l :: rest)
  | .unit h :: rest => h :: joinPieces rest
  | .point c :: rest => c :: joinPieces rest
  | [] => []

/-- The value of a hexadecimal digit. -/
def hexDigit (c : Nat) : Option Nat :=
  if '0'.toNat ≤ c ∧ c ≤ '9'.toNat then some (c - '0'.toNat)
  else if 'a'.toNat ≤ c ∧ c ≤ 'f'.toNat then some (c - 'a'.toNat + 10)
  else if 'A'.toNat ≤ c ∧ c ≤ 'F'.toNat then some (c - 'A'.toNat + 10)
  else none

/-- The unit that four hexadecimal digits write. -/
def hexUnit (h₁ h₂ h₃ h₄ : Nat) : Option Nat := do
  let a ← hexDigit h₁
  let b ← hexDigit h₂
  let c ← hexDigit h₃
  let d ← hexDigit h₄
  return ((a * 16 + b) * 16 + c) * 16 + d

/-- What a short escape stands for. -/
def escapeValue (c : Nat) : Option Nat :=
  if c = '"'.toNat ∨ c = '\\'.toNat ∨ c = '/'.toNat then some c
  else if c = 'b'.toNat then some 0x08
  else if c = 'f'.toNat then some 0x0C
  else if c = 'n'.toNat then some 0x0A
  else if c = 'r'.toNat then some 0x0D
  else if c = 't'.toNat then some 0x09
  else none

/-- One piece of a string, which does not begin with a quote. -/
def readPiece : Text → Option (Piece × Text)
  | [] => none
  | c :: s =>
    if c = '\\'.toNat then
      match s with
      | [] => none
      | e :: s =>
        if e = 'u'.toNat then
          match s with
          | h₁ :: h₂ :: h₃ :: h₄ :: s => (hexUnit h₁ h₂ h₃ h₄).map fun n ↦ (.unit n, s)
          | _ => none
        else (escapeValue e).map fun p ↦ (.point p, s)
    else if c ≤ 0x1F then none
    else some (.point c, s)

/-- `scanstring` behind the opening quote: the pieces of the string and the text behind its closing
quote, `none` when it raises. The number bounds the pieces. -/
def scanPieces : Nat → Text → Option (List Piece × Text)
  | 0, _ => none
  | fuel + 1, s =>
    if s.head? = some '"'.toNat then some ([], s.tail)
    else do
      let (p, s) ← readPiece s
      let (ps, rest) ← scanPieces fuel s
      return (p :: ps, rest)

/-- A string has no more pieces than code points. -/
def scanString (s : Text) : Option (List Piece × Text) := scanPieces s.length s

/-- The text of one piece. -/
inductive PieceText : Text → Piece → Prop
  | point {c : Nat} (hquote : c ≠ '"'.toNat) (hescape : c ≠ '\\'.toNat) (hcontrol : 0x1F < c) :
      PieceText [c] (.point c)
  | escape {e p : Nat} (hunit : e ≠ 'u'.toNat) (hvalue : escapeValue e = some p) :
      PieceText ['\\'.toNat, e] (.point p)
  | unit {h₁ h₂ h₃ h₄ n : Nat} (hvalue : hexUnit h₁ h₂ h₃ h₄ = some n) :
      PieceText ['\\'.toNat, 'u'.toNat, h₁, h₂, h₃, h₄] (.unit n)

/-- The text of a string up to its closing quote, and its pieces. -/
inductive StringText : Text → List Piece → Prop
  | close : StringText ['"'.toNat] []
  | piece {t u : Text} {p : Piece} {ps : List Piece} (hpiece : PieceText t p)
      (h : StringText u ps) : StringText (t ++ u) (p :: ps)

theorem readPiece_append {t : Text} {p : Piece} (h : PieceText t p) (rest : Text) :
    readPiece (t ++ rest) = some (p, rest) := by
  cases h with
  | point hquote hescape hcontrol =>
    simp only [List.cons_append, List.nil_append, readPiece, if_neg hescape,
      if_neg (Nat.not_le.mpr hcontrol)]
  | escape hunit hvalue =>
    simp only [List.cons_append, List.nil_append, readPiece, if_true, if_neg hunit, hvalue,
      Option.map_some]
  | unit hvalue =>
    simp only [List.cons_append, List.nil_append, readPiece, if_true, hvalue, Option.map_some]

theorem exists_pieceText {s rest : Text} {p : Piece} (hs : s.head? ≠ some '"'.toNat)
    (h : readPiece s = some (p, rest)) : ∃ t, PieceText t p ∧ s = t ++ rest := by
  unfold readPiece at h
  split at h
  · cases h
  · rename_i c s
    split at h
    · rename_i hescape
      split at h
      · cases h
      · split at h
        · rename_i hunit
          split at h
          · obtain ⟨n, hvalue, hn⟩ := Option.map_eq_some_iff.mp h
            cases hn
            exact ⟨_, .unit hvalue, by rw [hescape, hunit]; rfl⟩
          · cases h
        · rename_i hunit
          obtain ⟨n, hvalue, hn⟩ := Option.map_eq_some_iff.mp h
          cases hn
          exact ⟨_, .escape hunit hvalue, by rw [hescape]; rfl⟩
    · rename_i hescape
      split at h
      · cases h
      · rename_i hcontrol
        cases h
        have hquote : c ≠ '"'.toNat := fun hc ↦ hs (congrArg some hc)
        exact ⟨_, .point hquote hescape (Nat.not_le.mp hcontrol), rfl⟩

theorem PieceText.head?_ne {t : Text} {p : Piece} (h : PieceText t p) (rest : Text) :
    (t ++ rest).head? ≠ some '"'.toNat := by
  cases h with
  | point hquote => exact fun hc ↦ hquote (Option.some.inj hc)
  | escape | unit => exact fun hc ↦ absurd (Option.some.inj hc) (by decide)

theorem PieceText.length_pos {t : Text} {p : Piece} (h : PieceText t p) : 0 < t.length := by
  cases h <;> exact Nat.succ_pos _

theorem exists_stringText {fuel : Nat} {s rest : Text} {ps : List Piece}
    (h : scanPieces fuel s = some (ps, rest)) : ∃ t, StringText t ps ∧ s = t ++ rest := by
  induction fuel generalizing s ps with
  | zero => cases h
  | succ fuel ih =>
    unfold scanPieces at h
    split at h
    · rename_i hquote
      cases h
      obtain ⟨tail, rfl⟩ := List.head?_eq_some_iff.mp hquote
      exact ⟨_, .close, rfl⟩
    · rename_i hquote
      simp only [Option.bind_eq_bind, Option.bind_eq_some_iff, Prod.exists, Option.pure_def,
        Option.some.injEq, Prod.mk.injEq] at h
      obtain ⟨p, s', hpiece, qs, _, hpieces, rfl, rfl⟩ := h
      obtain ⟨t, ht, rfl⟩ := exists_pieceText hquote hpiece
      obtain ⟨u, hu, rfl⟩ := ih hpieces
      exact ⟨t ++ u, .piece ht hu, (List.append_assoc ..).symm⟩

theorem scanPieces_append {t : Text} {ps : List Piece} (h : StringText t ps) (rest : Text)
    {fuel : Nat} (hfuel : t.length ≤ fuel) : scanPieces fuel (t ++ rest) = some (ps, rest) := by
  induction h generalizing fuel with
  | close =>
    obtain ⟨fuel, rfl⟩ := Nat.exists_eq_succ_of_ne_zero (Nat.ne_of_gt hfuel)
    simp [scanPieces]
  | @piece t u p ps hpiece h ih =>
    have hlength := hpiece.length_pos
    rw [List.length_append] at hfuel
    obtain ⟨fuel, rfl⟩ := Nat.exists_eq_succ_of_ne_zero (n := fuel) (by omega)
    rw [scanPieces, List.append_assoc, if_neg (hpiece.head?_ne _), readPiece_append hpiece]
    simp [@ih fuel (by omega)]

/-- **Strings.** The reader reads exactly the strings of the grammar. -/
theorem scanString_eq_some {s rest : Text} {ps : List Piece} :
    scanString s = some (ps, rest) ↔ ∃ t, StringText t ps ∧ s = t ++ rest := by
  refine ⟨exists_stringText, ?_⟩
  rintro ⟨t, ht, rfl⟩
  exact scanPieces_append ht rest (by simp)

/-! ### Numerals -/

/-- An ASCII digit. -/
def isDigit (c : Nat) : Bool := '0'.toNat ≤ c && c ≤ '9'.toNat

/-- The exponent of a numeral. -/
structure Exponent where
  mark : Nat
  sign : Option Nat
  digits : Text

/-- A numeral as it is written. -/
structure Numeral where
  negative : Bool
  integer : Text
  fraction : Option Text
  exponent : Option Exponent

/-- The text of an exponent. -/
def Exponent.text (e : Exponent) : Text := e.mark :: (e.sign.toList ++ e.digits)

/-- The text of the fraction of a numeral. -/
def fractionText : Option Text → Text
  | none => []
  | some digits => '.'.toNat :: digits

/-- The text of the exponent of a numeral. -/
def exponentText : Option Exponent → Text
  | none => []
  | some e => e.text

/-- The text of a numeral. -/
def Numeral.text (n : Numeral) : Text :=
  (if n.negative then ['-'.toNat] else []) ++
    (n.integer ++ (fractionText n.fraction ++ exponentText n.exponent))

/-- A numeral without fraction and exponent. -/
def Numeral.isInteger (n : Numeral) : Bool := n.fraction.isNone && n.exponent.isNone

/-- The number that digits write. -/
def digitsValue (digits : Text) : Nat := digits.foldl (fun n c ↦ 10 * n + (c - '0'.toNat)) 0

/-- The value of a numeral without fraction and exponent. -/
def Numeral.int (n : Numeral) : Int :=
  if n.negative then -(digitsValue n.integer : Int) else digitsValue n.integer

/-- A text of digits. -/
def Digits (digits : Text) : Prop := digits ≠ [] ∧ ∀ c ∈ digits, isDigit c = true

/-- The exponents of JSON. -/
structure Exponent.WellFormed (e : Exponent) : Prop where
  mark : e.mark = 'e'.toNat ∨ e.mark = 'E'.toNat
  sign : ∀ c ∈ e.sign, c = '+'.toNat ∨ c = '-'.toNat
  digits : Digits e.digits

/-- The numerals of JSON: no leading zeros, and digits in the fraction and in the exponent. -/
structure Numeral.WellFormed (n : Numeral) : Prop where
  integer : Digits n.integer
  leading : n.integer.head? = some '0'.toNat → n.integer = ['0'.toNat]
  fraction : ∀ digits ∈ n.fraction, Digits digits
  exponent : ∀ e ∈ n.exponent, e.WellFormed

/-- Read a minus sign. -/
def readMinus : Text → Bool × Text
  | [] => (false, [])
  | c :: s => if c = '-'.toNat then (true, s) else (false, c :: s)

/-- Read the digits of an integer: one zero, or all digits there are. -/
def readInteger : Text → Option (Text × Text)
  | [] => none
  | c :: s =>
    if c = '0'.toNat then some ([c], s)
    else if isDigit c then some (c :: s.takeWhile isDigit, s.dropWhile isDigit)
    else none

/-- Read a fraction, if a digit follows the point. -/
def readFraction : Text → Option Text × Text
  | [] => (none, [])
  | p :: s =>
    if p = '.'.toNat ∧ s.takeWhile isDigit ≠ [] then
      (some (s.takeWhile isDigit), s.dropWhile isDigit)
    else (none, p :: s)

/-- Read the sign of an exponent. -/
def readSign : Text → Option Nat × Text
  | [] => (none, [])
  | c :: s => if c = '+'.toNat ∨ c = '-'.toNat then (some c, s) else (none, c :: s)

/-- Read an exponent, if a digit follows the mark and the sign. -/
def readExponent : Text → Option Exponent × Text
  | [] => (none, [])
  | m :: s =>
    if (m = 'e'.toNat ∨ m = 'E'.toNat) ∧ (readSign s).2.takeWhile isDigit ≠ [] then
      (some ⟨m, (readSign s).1, (readSign s).2.takeWhile isDigit⟩,
        (readSign s).2.dropWhile isDigit)
    else (none, m :: s)

/-- `_match_number`: the longest numeral at the start of a text, `none` when there is none. -/
def readNumeral (s : Text) : Option (Numeral × Text) :=
  (readInteger (readMinus s).2).map fun r ↦
    (⟨(readMinus s).1, r.1, (readFraction r.2).1, (readExponent (readFraction r.2).2).1⟩,
      (readExponent (readFraction r.2).2).2)

/-- A text that does not continue a numeral. -/
def Stops (rest : Text) : Prop :=
  ∀ c ∈ rest.head?, isDigit c = false ∧ c ≠ '.'.toNat ∧ c ≠ 'e'.toNat ∧ c ≠ 'E'.toNat

theorem digits_takeWhile {s : Text} (h : s.takeWhile isDigit ≠ []) :
    Digits (s.takeWhile isDigit) :=
  ⟨h, fun _ ↦ List.mem_takeWhile_imp⟩

/-- All digits are read, and no more. -/
theorem takeWhile_digits {digits rest : Text} (hdigits : ∀ c ∈ digits, isDigit c = true)
    (hrest : ∀ c ∈ rest.head?, isDigit c = false) :
    (digits ++ rest).takeWhile isDigit = digits ∧ (digits ++ rest).dropWhile isDigit = rest := by
  rw [List.takeWhile_append_of_pos hdigits, List.dropWhile_append_of_pos hdigits]
  cases rest with
  | nil => simp
  | cons c rest => simp [hrest c rfl]

theorem readMinus_eq (s : Text) :
    s = (if (readMinus s).1 then ['-'.toNat] else []) ++ (readMinus s).2 := by
  cases s with
  | nil => rfl
  | cons c s =>
    rw [readMinus]
    split
    · rename_i h
      rw [h]
      rfl
    · rfl

theorem readInteger_eq_some {s digits rest : Text} (h : readInteger s = some (digits, rest)) :
    Digits digits ∧ (digits.head? = some '0'.toNat → digits = ['0'.toNat]) ∧
      s = digits ++ rest := by
  cases s with
  | nil => cases h
  | cons c s =>
    rw [readInteger] at h
    split at h
    · rename_i hzero
      cases h
      subst hzero
      exact ⟨⟨by simp, by decide⟩, fun _ ↦ rfl, rfl⟩
    · rename_i hzero
      split at h
      · rename_i hdigit
        cases h
        refine ⟨⟨by simp, ?_⟩, fun hc ↦ absurd (Option.some.inj hc) hzero, ?_⟩
        · exact List.forall_mem_cons.mpr ⟨hdigit, fun _ ↦ List.mem_takeWhile_imp⟩
        · rw [List.cons_append, List.takeWhile_append_dropWhile]
      · cases h

theorem readFraction_eq {s : Text} :
    (∀ digits ∈ (readFraction s).1, Digits digits) ∧
      s = fractionText (readFraction s).1 ++ (readFraction s).2 := by
  cases s with
  | nil => exact ⟨nofun, rfl⟩
  | cons p s =>
    rw [readFraction]
    split
    · rename_i h
      refine ⟨fun digits hdigits ↦ ?_, ?_⟩
      · cases hdigits
        exact digits_takeWhile h.2
      · simp only [fractionText, List.cons_append, List.takeWhile_append_dropWhile, h.1]
    · exact ⟨nofun, rfl⟩

theorem readSign_eq (s : Text) :
    (∀ c ∈ (readSign s).1, c = '+'.toNat ∨ c = '-'.toNat) ∧
      s = (readSign s).1.toList ++ (readSign s).2 := by
  cases s with
  | nil => exact ⟨nofun, rfl⟩
  | cons c s =>
    rw [readSign]
    split
    · rename_i h
      refine ⟨fun d hd ↦ ?_, rfl⟩
      cases hd
      exact h
    · exact ⟨nofun, rfl⟩

theorem readExponent_eq {s : Text} :
    (∀ e ∈ (readExponent s).1, e.WellFormed) ∧
      s = exponentText (readExponent s).1 ++ (readExponent s).2 := by
  cases s with
  | nil => exact ⟨nofun, rfl⟩
  | cons m s =>
    rw [readExponent]
    split
    · rename_i h
      have hsign := readSign_eq s
      refine ⟨fun e he ↦ ?_, ?_⟩
      · cases he
        exact ⟨h.1, hsign.1, digits_takeWhile h.2⟩
      · simp only [exponentText, Exponent.text, List.cons_append, List.append_assoc,
          List.takeWhile_append_dropWhile, ← hsign.2]
    · exact ⟨nofun, rfl⟩

/-- What is read is a numeral. -/
theorem readNumeral_eq_some {s rest : Text} {n : Numeral} (h : readNumeral s = some (n, rest)) :
    n.WellFormed ∧ s = n.text ++ rest := by
  obtain ⟨⟨integer, s'⟩, hinteger, hn⟩ := Option.map_eq_some_iff.mp h
  cases hn
  obtain ⟨hdigits, hleading, hs'⟩ := readInteger_eq_some hinteger
  have hfraction := readFraction_eq (s := s')
  have hexponent := readExponent_eq (s := (readFraction s').2)
  refine ⟨⟨hdigits, hleading, hfraction.1, hexponent.1⟩, ?_⟩
  conv_lhs => rw [readMinus_eq s, hs', hfraction.2, hexponent.2]
  simp only [Numeral.text, List.append_assoc]

theorem readExponent_append {e : Option Exponent} {rest : Text}
    (he : ∀ e' ∈ e, e'.WellFormed) (hrest : Stops rest) :
    readExponent (exponentText e ++ rest) = (e, rest) := by
  cases e with
  | none =>
    cases rest with
    | nil => rfl
    | cons c rest =>
      obtain ⟨-, -, hlower, hupper⟩ := hrest c rfl
      rw [exponentText, List.nil_append, readExponent,
        if_neg fun h ↦ h.1.elim hlower hupper]
  | some e =>
    obtain ⟨hmark, hsign, hdigits⟩ := he e rfl
    obtain ⟨htake, hdrop⟩ := takeWhile_digits hdigits.2 fun c hc ↦ (hrest c hc).1
    have hread : readSign (e.sign.toList ++ (e.digits ++ rest)) = (e.sign, e.digits ++ rest) := by
      cases h : e.sign with
      | some c =>
        rw [Option.toList_some, List.singleton_append, readSign, if_pos (hsign c h)]
      | none =>
        obtain ⟨d, digits, hd⟩ := List.exists_cons_of_ne_nil hdigits.1
        have hdigit := hdigits.2 d (by simp [hd])
        have hplus : d ≠ '+'.toNat := by rintro rfl; cases hdigit
        have hminus : d ≠ '-'.toNat := by rintro rfl; cases hdigit
        rw [Option.toList_none, List.nil_append, hd, List.cons_append, readSign,
          if_neg fun h ↦ h.elim hplus hminus]
    simp only [exponentText, Exponent.text, List.cons_append, List.append_assoc, readExponent,
      hread, htake, hdrop]
    rw [if_pos ⟨hmark, hdigits.1⟩]

theorem readFraction_append {f : Option Text} {rest : Text} (hf : ∀ digits ∈ f, Digits digits)
    (hrest : ∀ c ∈ rest.head?, isDigit c = false ∧ c ≠ '.'.toNat) :
    readFraction (fractionText f ++ rest) = (f, rest) := by
  cases f with
  | none =>
    cases rest with
    | nil => rfl
    | cons c rest =>
      rw [fractionText, List.nil_append, readFraction, if_neg fun h ↦ (hrest c rfl).2 h.1]
  | some digits =>
    have hdigits := hf digits rfl
    obtain ⟨htake, hdrop⟩ := takeWhile_digits hdigits.2 fun c hc ↦ (hrest c hc).1
    rw [fractionText, List.cons_append, readFraction, htake, hdrop, if_pos ⟨rfl, hdigits.1⟩]

theorem readInteger_append {digits rest : Text} (hdigits : Digits digits)
    (hleading : digits.head? = some '0'.toNat → digits = ['0'.toNat])
    (hrest : ∀ c ∈ rest.head?, isDigit c = false) :
    readInteger (digits ++ rest) = some (digits, rest) := by
  obtain ⟨d, ds, rfl⟩ := List.exists_cons_of_ne_nil hdigits.1
  obtain ⟨hd, hds⟩ := List.forall_mem_cons.mp hdigits.2
  rw [List.cons_append, readInteger, if_pos hd]
  split
  · rename_i hzero
    have hsingle := hleading (congrArg some hzero)
    rw [List.cons.injEq] at hsingle
    rw [hsingle.2, List.nil_append]
  · obtain ⟨htake, hdrop⟩ := takeWhile_digits hds hrest
    rw [htake, hdrop]

/-- What follows the integer of a numeral does not continue it. -/
theorem isDigit_head?_append {f : Option Text} {e : Option Exponent} {rest : Text}
    (he : ∀ e' ∈ e, e'.WellFormed) (hrest : Stops rest) :
    (∀ c ∈ (exponentText e ++ rest).head?, isDigit c = false ∧ c ≠ '.'.toNat) ∧
      ∀ c ∈ (fractionText f ++ (exponentText e ++ rest)).head?, isDigit c = false := by
  have hexponent : ∀ c ∈ (exponentText e ++ rest).head?, isDigit c = false ∧ c ≠ '.'.toNat := by
    cases e with
    | none => exact fun c hc ↦ ⟨(hrest c hc).1, (hrest c hc).2.1⟩
    | some e =>
      intro c hc
      cases hc
      rcases (he e rfl).mark with h | h <;> rw [h] <;> decide
  refine ⟨hexponent, ?_⟩
  cases f with
  | none => exact fun c hc ↦ (hexponent c hc).1
  | some digits =>
    intro c hc
    cases hc
    decide

/-- **Numerals.** A numeral is read whole where nothing continues it. -/
theorem readNumeral_text {n : Numeral} {rest : Text} (hn : n.WellFormed) (hrest : Stops rest) :
    readNumeral (n.text ++ rest) = some (n, rest) := by
  obtain ⟨hfollows, hdigit⟩ := isDigit_head?_append (f := n.fraction) hn.exponent hrest
  have hinteger := readInteger_append hn.integer hn.leading hdigit
  have hminus : readMinus (n.text ++ rest) =
      (n.negative,
        n.integer ++ (fractionText n.fraction ++ (exponentText n.exponent ++ rest))) := by
    simp only [Numeral.text, List.append_assoc]
    cases n.negative with
    | true => rfl
    | false =>
      obtain ⟨d, ds, hd⟩ := List.exists_cons_of_ne_nil hn.integer.1
      have hdigit := hn.integer.2 d (by simp [hd])
      have hne : d ≠ '-'.toNat := by rintro rfl; cases hdigit
      rw [if_neg Bool.false_ne_true, List.nil_append, hd, List.cons_append, readMinus, if_neg hne]
  simp only [readNumeral, hminus, hinteger, Option.map_some,
    readFraction_append hn.fraction hfollows, readExponent_append hn.exponent hrest]

end JsonText
