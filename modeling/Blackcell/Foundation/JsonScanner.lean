import Blackcell.Foundation.JsonLexemes

/-!
# The scanner of JSON texts

The scanner of the Python standard library reads a value from the start of a text on. It recurses
into arrays and objects, and it calls hooks for the constants that are not part of JSON and for the
pairs of each object. Beside the texts it refuses, it stops at two limits of the interpreter: at an
integer of too many digits, and at a container that is nested too deeply for the stack.

The file describes what the scanner accepts by a grammar, and where it meets a limit by the parts of
a text that stand before that place. The grammar of a container is one for both kinds: items that
are separated by commas.

## Main definitions

* `JsonText.scanOnce`, `JsonText.loads` : the scanner, and `json.loads` on a text.
* `JsonText.ValueText`, `JsonText.DocumentText` : the grammar of values and of whole texts.
* `JsonText.Overruns` : texts that lead the scanner to a limit.
* `JsonText.Scans` : what a scanner accepts, and where it meets a limit.

## Main results

* `JsonText.scans_scanOnce` : the scanner reads the values of the grammar, and meets a limit exactly
  where the text leads to one.
* `JsonText.valueText_or_overruns` : a value without limits is a value within the limits, or leads
  to a limit.
* `JsonText.loads_eq_ok`, `JsonText.loads_eq_limit` : `json.loads`.
-/

namespace JsonText

/-! ### Values -/

/-- The constants that Python reads beside those of JSON. -/
inductive Constant
  | nan
  | infinity
  | negativeInfinity

/-- The values of JSON texts. A number that is not an integer is kept as it is written. -/
inductive Value
  | null
  | bool (b : Bool)
  | int (n : Int)
  | float (n : Numeral)
  | constant (c : Constant)
  | str (s : Text)
  | list (items : List Value)
  | dict (entries : List (Text × Value))

/-- The value of a numeral. -/
def Numeral.value (n : Numeral) : Value := if n.isInteger then .int n.int else .float n

/-- The words of JSON, and the constants. -/
inductive Literal
  | null
  | true
  | false
  | constant (c : Constant)

/-- The literals. -/
def literals : List Literal :=
  [.null, .true, .false, .constant .nan, .constant .infinity, .constant .negativeInfinity]

/-- The characters of a literal. -/
def Literal.chars : Literal → List Char
  | .null => ['n', 'u', 'l', 'l']
  | .true => ['t', 'r', 'u', 'e']
  | .false => ['f', 'a', 'l', 's', 'e']
  | .constant .nan => ['N', 'a', 'N']
  | .constant .infinity => ['I', 'n', 'f', 'i', 'n', 'i', 't', 'y']
  | .constant .negativeInfinity => ['-', 'I', 'n', 'f', 'i', 'n', 'i', 't', 'y']

/-- The text of a literal. -/
def Literal.text (l : Literal) : Text := l.chars.map Char.toNat

/-- What the caller of the scanner decides: the longest integers (`sys.get_int_max_str_digits`,
`none` without a bound), and what the hooks make of a constant and of the pairs of an object, `none`
when they raise. -/
structure Hooks where
  maxDigits : Option Nat
  constant : Constant → Option Value
  object : List (Text × Value) → Option Value

/-- Whether an integer is short enough. -/
def Hooks.admits (H : Hooks) (n : Numeral) : Prop := ∀ m ∈ H.maxDigits, n.integer.length ≤ m

instance (H : Hooks) (n : Numeral) : Decidable (H.admits n) := by
  unfold Hooks.admits
  infer_instance

/-- The same hooks without a bound on integers. -/
def Hooks.unbounded (H : Hooks) : Hooks := { H with maxDigits := none }

/-- The value of a literal. -/
def Hooks.literal (H : Hooks) : Literal → Option Value
  | .null => some .null
  | .true => some (.bool true)
  | .false => some (.bool false)
  | .constant c => H.constant c

/-! ### The scanner -/

/-- Why nothing is returned: the text is refused, an integer has too many digits, the stack is
exhausted, or a hook has raised. -/
inductive Failure
  | decodeError
  | valueError
  | recursionError
  | hookError
  deriving DecidableEq

/-- A limit of the interpreter was met. -/
def Failure.isLimit (e : Failure) : Bool := e = .valueError || e = .recursionError

/-- What is read at the start of a text, and the text behind it. -/
abbrev Scan (α : Type) := Except Failure (α × Text)

variable {α : Type}

/-- Read items up to the closing bracket. The number bounds the items. -/
def scanItems (item : Text → Scan α) (close : Nat) : Nat → Text → Scan (List α)
  | 0, _ => .error .decodeError
  | fuel + 1, s =>
    match item s with
    | .error e => .error e
    | .ok (a, s) =>
      match skipWhitespace s with
      | [] => .error .decodeError
      | c :: s =>
        if c = close then .ok ([a], s)
        else if c = ','.toNat then
          if (skipWhitespace s).head? = some close then .error .decodeError
          else
            match scanItems item close fuel (skipWhitespace s) with
            | .error e => .error e
            | .ok (as, rest) => .ok (a :: as, rest)
        else .error .decodeError

example (item : Text → Scan α) (close : Nat) (s : Text) :
    scanItems item close 0 s = .error .decodeError := by rw [scanItems]

/-- Read the items behind an opening bracket. -/
def scanContainer (item : Text → Scan α) (close : Nat) (s : Text) : Scan (List α) :=
  if (skipWhitespace s).head? = some close then .ok ([], (skipWhitespace s).tail)
  else scanItems item close (skipWhitespace s).length (skipWhitespace s)

/-- Read a key, a colon and a value. -/
def scanMember (value : Text → Scan Value) (s : Text) : Scan (Text × Value) :=
  if s.head? = some '"'.toNat then
    match scanString s.tail with
    | none => .error .decodeError
    | some (ps, s) =>
      if (skipWhitespace s).head? = some ':'.toNat then
        match value (skipWhitespace (skipWhitespace s).tail) with
        | .error e => .error e
        | .ok (v, rest) => .ok ((joinPieces ps, v), rest)
      else .error .decodeError
  else .error .decodeError

/-- The literal at the start of a text. -/
def readLiteral (s : Text) : Option (Literal × Text) :=
  (literals.find? fun l ↦ l.text.isPrefixOf s).map fun l ↦ (l, s.drop l.text.length)

/-- Read a literal or a number. -/
def scanAtom (H : Hooks) (s : Text) : Scan Value :=
  match readLiteral s with
  | some (l, rest) =>
    match H.literal l with
    | none => .error .hookError
    | some v => .ok (v, rest)
  | none =>
    match readNumeral s with
    | none => .error .decodeError
    | some (n, rest) =>
      if n.isInteger ∧ ¬H.admits n then .error .valueError else .ok (n.value, rest)

/-- Read a value, with a scanner for the values inside of it; `none` when the stack is exhausted. -/
def scanValue (H : Hooks) (inner : Option (Text → Scan Value)) : Text → Scan Value
  | [] => .error .decodeError
  | c :: s =>
    if c = '"'.toNat then
      match scanString s with
      | none => .error .decodeError
      | some (ps, rest) => .ok (.str (joinPieces ps), rest)
    else if c = '{'.toNat then
      match inner with
      | none => .error .recursionError
      | some value =>
        match scanContainer (scanMember value) '}'.toNat s with
        | .error e => .error e
        | .ok (pairs, rest) =>
          match H.object pairs with
          | none => .error .hookError
          | some v => .ok (v, rest)
    else if c = '['.toNat then
      match inner with
      | none => .error .recursionError
      | some value =>
        match scanContainer value ']'.toNat s with
        | .error e => .error e
        | .ok (vs, rest) => .ok (.list vs, rest)
    else scanAtom H (c :: s)

example (H : Hooks) (inner : Option (Text → Scan Value)) :
    scanValue H inner [] = .error .decodeError := by rw [scanValue]

/-- `scan_once`, where the stack holds a number of nested containers. -/
def scanOnce (H : Hooks) : Nat → Text → Scan Value
  | 0 => scanValue H none
  | depth + 1 => scanValue H (some (scanOnce H depth))

/-- `json.loads` on a text. -/
def loads (H : Hooks) (depth : Nat) (s : Text) : Except Failure Value :=
  if s.head? = some 0xFEFF then .error .decodeError
  else
    match scanOnce H depth (skipWhitespace s) with
    | .error e => .error e
    | .ok (v, rest) => if skipWhitespace rest = [] then .ok v else .error .decodeError

/-! ### The grammar -/

/-- Items that are separated by commas, up to the closing bracket. -/
inductive ItemsText (Item : Text → α → Prop) : Text → List α → Prop
  | last {t w : Text} {a : α} (ht : Item t a) (hw : Whitespace w) : ItemsText Item (t ++ w) [a]
  | more {t w₁ w₂ u : Text} {a : α} {as : List α} (ht : Item t a) (h₁ : Whitespace w₁)
      (h₂ : Whitespace w₂) (h : ItemsText Item u as) :
      ItemsText Item (t ++ (w₁ ++ ','.toNat :: (w₂ ++ u))) (a :: as)

/-- A container behind its opening bracket. -/
inductive ContainerText (Item : Text → α → Prop) (close : Nat) : Text → List α → Prop
  | empty {w : Text} (hw : Whitespace w) : ContainerText Item close (w ++ [close]) []
  | items {w t : Text} {as : List α} (hw : Whitespace w) (h : ItemsText Item t as) :
      ContainerText Item close (w ++ (t ++ [close])) as

/-- A member of an object. -/
inductive MemberText (V : Text → Value → Prop) : Text → Text × Value → Prop
  | mk {k w₁ w₂ t : Text} {ps : List Piece} {v : Value} (hk : StringText k ps)
      (h₁ : Whitespace w₁) (h₂ : Whitespace w₂) (hv : V t v) :
      MemberText V ('"'.toNat :: (k ++ (w₁ ++ ':'.toNat :: (w₂ ++ t)))) (joinPieces ps, v)

/-- A value that is no container. -/
inductive AtomText (H : Hooks) : Text → Value → Prop
  | literal {l : Literal} {v : Value} (h : H.literal l = some v) : AtomText H l.text v
  | str {t : Text} {ps : List Piece} (h : StringText t ps) :
      AtomText H ('"'.toNat :: t) (.str (joinPieces ps))
  | numeral {n : Numeral} (hn : n.WellFormed) (h : n.isInteger = true → H.admits n) :
      AtomText H n.text n.value

/-- A container of values. -/
inductive NestedText (H : Hooks) (V : Text → Value → Prop) : Text → Value → Prop
  | list {t : Text} {vs : List Value} (h : ContainerText V ']'.toNat t vs) :
      NestedText H V ('['.toNat :: t) (.list vs)
  | dict {t : Text} {pairs : List (Text × Value)} {v : Value}
      (h : ContainerText (MemberText V) '}'.toNat t pairs) (hv : H.object pairs = some v) :
      NestedText H V ('{'.toNat :: t) v

/-- The values of JSON texts, with at most a number of containers inside one another. -/
def ValueText (H : Hooks) : Nat → Text → Value → Prop
  | 0, t, v => AtomText H t v
  | depth + 1, t, v => AtomText H t v ∨ NestedText H (ValueText H depth) t v

/-- A whole text: a value between whitespace. -/
def DocumentText (H : Hooks) (depth : Nat) (s : Text) (v : Value) : Prop :=
  ∃ w t w', Whitespace w ∧ ValueText H depth t v ∧ Whitespace w' ∧ s = w ++ (t ++ w')

/-! ### Limits -/

/-- A text that begins with an integer of too many digits. -/
def Overlong (H : Hooks) (s : Text) : Prop :=
  ∃ n rest, readNumeral s = some (n, rest) ∧ n.isInteger = true ∧ ¬H.admits n

/-- Items and, in the place of the next one, a text of some kind. -/
inductive ItemsReach (Item : Text → α → Prop) (Q : Text → Prop) : Text → Prop
  | here {s : Text} (h : Q s) : ItemsReach Item Q s
  | next {t w₁ w₂ u : Text} {a : α} (ht : Item t a) (h₁ : Whitespace w₁) (h₂ : Whitespace w₂)
      (h : ItemsReach Item Q u) : ItemsReach Item Q (t ++ (w₁ ++ ','.toNat :: (w₂ ++ u)))

/-- A container up to a text of some kind. -/
def ContainerReach (Item : Text → α → Prop) (Q : Text → Prop) (s : Text) : Prop :=
  ItemsReach Item Q (skipWhitespace s)

/-- A key and a colon up to a text of some kind. -/
inductive MemberReach (Q : Text → Prop) : Text → Prop
  | mk {k w₁ w₂ s : Text} {ps : List Piece} (hk : StringText k ps) (h₁ : Whitespace w₁)
      (h₂ : Whitespace w₂) (h : Q s) :
      MemberReach Q ('"'.toNat :: (k ++ (w₁ ++ ':'.toNat :: (w₂ ++ s))))

/-- A container up to a limit inside of it. -/
inductive NestedReach (V : Text → Value → Prop) (Q : Text → Prop) : Text → Prop
  | list {s : Text} (h : ContainerReach V Q s) : NestedReach V Q ('['.toNat :: s)
  | dict {s : Text} (h : ContainerReach (MemberText V) (MemberReach Q) s) :
      NestedReach V Q ('{'.toNat :: s)

/-- A text that leads to a limit: an integer of too many digits or a container too many stands at
its start, or behind complete items in the containers that are open there. -/
def Overruns (H : Hooks) : Nat → Text → Prop
  | 0, s => Overlong H s ∨ s.head? = some '['.toNat ∨ s.head? = some '{'.toNat
  | depth + 1, s => Overlong H s ∨ NestedReach (ValueText H depth) (Overruns H depth) s

/-! ### Lexemes in place -/

/-- A text that does not continue what stands before it: it is empty, or begins with whitespace or
with a sign that ends an item. -/
def Delimited (rest : Text) : Prop :=
  ∀ c ∈ rest.head?, isWhitespace c = true ∨ c = ','.toNat ∨ c = ']'.toNat ∨ c = '}'.toNat

/-- A code point with which an item can begin. -/
def Leads (c : Nat) : Prop :=
  isWhitespace c = false ∧ c ≠ ']'.toNat ∧ c ≠ '}'.toNat ∧ c ≠ 0xFEFF

theorem Delimited.stops {rest : Text} (h : Delimited rest) : Stops rest := by
  intro c hc
  rcases h c hc with hspace | rfl | rfl | rfl
  · simp only [isWhitespace, Bool.or_eq_true, decide_eq_true_eq] at hspace
    rcases hspace with ((rfl | rfl) | rfl) | rfl <;> decide
  all_goals decide

theorem delimited_append {w rest : Text} (hw : Whitespace w) (hrest : Delimited rest) :
    Delimited (w ++ rest) := by
  cases w with
  | nil => exact hrest
  | cons c w =>
    intro d hd
    cases hd
    exact .inl (hw c List.mem_cons_self)

theorem Leads.trimmed {c : Nat} {s : Text} (h : Leads c) : Trimmed (c :: s) := by
  intro d hd
  cases hd
  exact h.1

/-- What is known of a scanner of items: it reads exactly the items of a grammar where they are
followed by a delimiter, and it meets a limit exactly at the texts of some kind. -/
structure Scans (Item : Text → α → Prop) (Q : Text → Prop) (item : Text → Scan α) : Prop where
  sound : ∀ {s rest : Text} {a : α}, item s = .ok (a, rest) → ∃ t, Item t a ∧ s = t ++ rest
  complete : ∀ {t rest : Text} {a : α}, Item t a → Delimited rest →
    item (t ++ rest) = .ok (a, rest)
  leads : ∀ {t : Text} {a : α}, Item t a → ∃ c u, t = c :: u ∧ Leads c
  limit : ∀ {s : Text}, Q s ↔ ∃ e, e.isLimit = true ∧ item s = .error e
  reachLeads : ∀ {s : Text}, Q s → ∃ c u, s = c :: u ∧ Leads c

/-! ### Containers -/

section Containers

variable {Item : Text → α → Prop} {Q : Text → Prop} {item : Text → Scan α} {close : Nat}

theorem delimited_comma (s : Text) : Delimited (','.toNat :: s) := by
  intro c hc
  cases hc
  exact .inr (.inl rfl)

theorem delimited_close (hclose : close = ']'.toNat ∨ close = '}'.toNat) (s : Text) :
    Delimited (close :: s) := by
  intro c hc
  cases hc
  exact .inr (.inr hclose)

theorem trimmed_close (hclose : close = ']'.toNat ∨ close = '}'.toNat) (s : Text) :
    Trimmed (close :: s) := by
  intro c hc
  cases hc
  rcases hclose with rfl | rfl <;> rfl

theorem Leads.ne_close {c : Nat} (h : Leads c) (hclose : close = ']'.toNat ∨ close = '}'.toNat) :
    c ≠ close := by
  rintro rfl
  exact hclose.elim h.2.1 h.2.2.1

theorem ItemsText.leads (h : Scans Item Q item) {t : Text} {as : List α}
    (ht : ItemsText Item t as) : ∃ c u, t = c :: u ∧ Leads c := by
  cases ht with
  | last ht _ | more ht _ _ _ =>
    obtain ⟨c, u, rfl, hc⟩ := h.leads ht
    exact ⟨c, _, rfl, hc⟩

theorem ItemsReach.leads (h : Scans Item Q item) {s : Text} (hs : ItemsReach Item Q s) :
    ∃ c u, s = c :: u ∧ Leads c := by
  cases hs with
  | here hs => exact h.reachLeads hs
  | next ht _ _ _ =>
    obtain ⟨c, u, rfl, hc⟩ := h.leads ht
    exact ⟨c, _, rfl, hc⟩

/-- One round of the loop at an item that another one follows. -/
theorem scanItems_comma (h : Scans Item Q item) (hclose : close = ']'.toNat ∨ close = '}'.toNat)
    {t w₁ w₂ s : Text} {a : α} (ht : Item t a) (h₁ : Whitespace w₁) (h₂ : Whitespace w₂)
    (hs : ∃ c u, s = c :: u ∧ Leads c) (fuel : Nat) :
    scanItems item close (fuel + 1) (t ++ (w₁ ++ ','.toNat :: (w₂ ++ s))) =
      match scanItems item close fuel s with
      | .error e => .error e
      | .ok (as, rest) => .ok (a :: as, rest) := by
  obtain ⟨c, u, rfl, hc⟩ := hs
  have hcomma : ','.toNat ≠ close := by rcases hclose with rfl | rfl <;> decide
  have htrimmed : Trimmed (','.toNat :: (w₂ ++ c :: u)) := by
    intro d hd
    cases hd
    rfl
  have hne : (c :: u : Text).head? ≠ some close := fun h ↦ hc.ne_close hclose (Option.some.inj h)
  rw [scanItems, h.complete ht (delimited_append h₁ (delimited_comma _))]
  simp only [skipWhitespace_append h₁ htrimmed, if_neg hcomma, if_true,
    skipWhitespace_append h₂ hc.trimmed, if_neg hne]

theorem scanItems_append (h : Scans Item Q item) (hclose : close = ']'.toNat ∨ close = '}'.toNat)
    {t : Text} {as : List α} (ht : ItemsText Item t as) (rest : Text) {fuel : Nat}
    (hfuel : t.length ≤ fuel) :
    scanItems item close fuel (t ++ close :: rest) = .ok (as, rest) := by
  induction ht generalizing fuel with
  | @last t w a ht hw =>
    obtain ⟨c, u, rfl, -⟩ := h.leads ht
    obtain ⟨fuel, rfl⟩ := Nat.exists_eq_succ_of_ne_zero (n := fuel) (by
      rintro rfl
      simp at hfuel)
    rw [scanItems, List.append_assoc,
      h.complete ht (delimited_append hw (delimited_close hclose _))]
    simp only [skipWhitespace_append hw (trimmed_close hclose _), if_true]
  | @more t w₁ w₂ u a as ht h₁ h₂ hu ih =>
    obtain ⟨c, t', rfl, -⟩ := h.leads ht
    simp only [List.length_append, List.length_cons] at hfuel
    obtain ⟨fuel, rfl⟩ := Nat.exists_eq_succ_of_ne_zero (n := fuel) (by omega)
    obtain ⟨d, u', rfl, hd⟩ := hu.leads h
    have happend : c :: t' ++ (w₁ ++ ','.toNat :: (w₂ ++ d :: u')) ++ close :: rest =
        c :: t' ++ (w₁ ++ ','.toNat :: (w₂ ++ (d :: u' ++ close :: rest))) := by simp
    have hleads : ∃ c v, d :: u' ++ close :: rest = c :: v ∧ Leads c := ⟨d, _, rfl, hd⟩
    have hlength : (d :: u').length ≤ fuel := by omega
    rw [happend, scanItems_comma h hclose ht h₁ h₂ hleads, ih hlength]

theorem exists_itemsText (h : Scans Item Q item) {fuel : Nat} {s rest : Text} {as : List α}
    (hscan : scanItems item close fuel s = .ok (as, rest)) :
    ∃ t, ItemsText Item t as ∧ s = t ++ close :: rest := by
  induction fuel generalizing s as with
  | zero => cases hscan
  | succ fuel ih =>
    rw [scanItems] at hscan
    split at hscan
    · cases hscan
    rename_i a s' hitem
    obtain ⟨t, ht, rfl⟩ := h.sound hitem
    obtain ⟨w, hw, hs', -⟩ := exists_whitespace_skip s'
    split at hscan
    · cases hscan
    rename_i c u hskip
    rw [hskip] at hs'
    subst hs'
    split at hscan
    · rename_i hclose
      cases hscan
      exact ⟨t ++ w, .last ht hw, by rw [hclose, List.append_assoc]⟩
    split at hscan
    swap
    · cases hscan
    rename_i hcomma
    split at hscan
    · cases hscan
    split at hscan
    · cases hscan
    rename_i bs rest' hrest
    cases hscan
    obtain ⟨v, hv, hsplit⟩ := ih hrest
    obtain ⟨w', hw', hu, -⟩ := exists_whitespace_skip u
    refine ⟨_, .more ht hw hw' hv, ?_⟩
    rw [hu, hsplit, hcomma]
    simp

theorem scanItems_of_reach (h : Scans Item Q item)
    (hclose : close = ']'.toNat ∨ close = '}'.toNat) {s : Text} (hs : ItemsReach Item Q s)
    {fuel : Nat} (hfuel : s.length ≤ fuel) :
    ∃ e, e.isLimit = true ∧ scanItems item close fuel s = .error e := by
  induction hs generalizing fuel with
  | @here s hs =>
    obtain ⟨c, u, rfl, -⟩ := h.reachLeads hs
    obtain ⟨fuel, rfl⟩ := Nat.exists_eq_succ_of_ne_zero (n := fuel) (by
      rintro rfl
      simp at hfuel)
    obtain ⟨e, he, hitem⟩ := h.limit.mp hs
    exact ⟨e, he, by rw [scanItems, hitem]⟩
  | @next t w₁ w₂ u a ht h₁ h₂ hu ih =>
    obtain ⟨c, t', rfl, -⟩ := h.leads ht
    simp only [List.length_append, List.length_cons] at hfuel
    obtain ⟨fuel, rfl⟩ := Nat.exists_eq_succ_of_ne_zero (n := fuel) (by omega)
    obtain ⟨e, he, hscan⟩ := @ih fuel (by omega)
    exact ⟨e, he, by rw [scanItems_comma h hclose ht h₁ h₂ (hu.leads h), hscan]⟩

theorem itemsReach_of_limit (h : Scans Item Q item) {fuel : Nat} {s : Text} {e : Failure}
    (he : e.isLimit = true) (hscan : scanItems item close fuel s = .error e) :
    ItemsReach Item Q s := by
  induction fuel generalizing s with
  | zero =>
    cases hscan
    cases he
  | succ fuel ih =>
    rw [scanItems] at hscan
    split at hscan
    · rename_i e' hitem
      cases hscan
      exact .here (h.limit.mpr ⟨_, he, hitem⟩)
    rename_i a s' hitem
    obtain ⟨t, ht, rfl⟩ := h.sound hitem
    obtain ⟨w, hw, hs', -⟩ := exists_whitespace_skip s'
    split at hscan
    · cases hscan
      cases he
    rename_i c u hskip
    rw [hskip] at hs'
    subst hs'
    split at hscan
    · cases hscan
    split at hscan
    swap
    · cases hscan
      cases he
    rename_i hcomma
    split at hscan
    · cases hscan
      cases he
    split at hscan
    swap
    · cases hscan
    rename_i e' hrest
    cases hscan
    obtain ⟨w', hw', hu, -⟩ := exists_whitespace_skip u
    rw [hcomma, hu]
    exact .next ht hw hw' (ih hrest)

/-- A container is read behind its opening bracket. -/
theorem exists_containerText (h : Scans Item Q item) {s rest : Text} {as : List α}
    (hscan : scanContainer item close s = .ok (as, rest)) :
    ∃ t, ContainerText Item close t as ∧ s = t ++ rest := by
  obtain ⟨w, hw, hs, -⟩ := exists_whitespace_skip s
  rw [scanContainer] at hscan
  split at hscan
  · rename_i hhead
    cases hscan
    obtain ⟨tail, htail⟩ := List.head?_eq_some_iff.mp hhead
    refine ⟨_, .empty hw, ?_⟩
    conv_lhs => rw [hs, htail]
    simp [htail]
  · obtain ⟨t, ht, hsplit⟩ := exists_itemsText h hscan
    refine ⟨_, .items hw ht, ?_⟩
    conv_lhs => rw [hs, hsplit]
    simp

theorem scanContainer_append (h : Scans Item Q item)
    (hclose : close = ']'.toNat ∨ close = '}'.toNat) {t : Text} {as : List α}
    (ht : ContainerText Item close t as) (rest : Text) :
    scanContainer item close (t ++ rest) = .ok (as, rest) := by
  cases ht with
  | @empty w hw =>
    rw [scanContainer, List.append_assoc, List.singleton_append,
      skipWhitespace_append hw (trimmed_close hclose _)]
    exact if_pos rfl
  | @items w t as hw ht =>
    obtain ⟨c, u, rfl, hc⟩ := ht.leads h
    have hne : (c :: u ++ close :: rest : Text).head? ≠ some close :=
      fun h ↦ hc.ne_close hclose (Option.some.inj h)
    have htrimmed : Trimmed (c :: u ++ close :: rest) := hc.trimmed
    have happend : w ++ (c :: u ++ [close]) ++ rest = w ++ (c :: u ++ close :: rest) := by simp
    rw [scanContainer, happend, skipWhitespace_append hw htrimmed, if_neg hne]
    exact scanItems_append h hclose ht rest (by simp)

/-- Where the scanner of containers meets a limit. -/
theorem containerReach_iff (h : Scans Item Q item)
    (hclose : close = ']'.toNat ∨ close = '}'.toNat) {s : Text} :
    ContainerReach Item Q s ↔ ∃ e, e.isLimit = true ∧ scanContainer item close s = .error e := by
  constructor
  · intro hs
    obtain ⟨c, u, hskip, hc⟩ := ItemsReach.leads h hs
    have hne : (skipWhitespace s).head? ≠ some close := by
      rw [hskip]
      exact fun h ↦ hc.ne_close hclose (Option.some.inj h)
    rw [scanContainer, if_neg hne]
    exact scanItems_of_reach h hclose hs le_rfl
  · rintro ⟨e, he, hscan⟩
    rw [scanContainer] at hscan
    split at hscan
    · cases hscan
    · exact itemsReach_of_limit h he hscan

end Containers

/-! ### Members -/

section Members

variable {V : Text → Value → Prop} {Q : Text → Prop} {value : Text → Scan Value}

theorem trimmed_colon (s : Text) : Trimmed (':'.toNat :: s) := by
  intro c hc
  cases hc
  rfl

/-- A member is read after its key and the colon. -/
theorem scanMember_key {k w₁ w₂ s : Text} {ps : List Piece} (hk : StringText k ps)
    (h₁ : Whitespace w₁) (h₂ : Whitespace w₂) (hs : Trimmed s) :
    scanMember value ('"'.toNat :: (k ++ (w₁ ++ ':'.toNat :: (w₂ ++ s)))) =
      match value s with
      | .error e => .error e
      | .ok (v, rest) => .ok ((joinPieces ps, v), rest) := by
  have hstring : scanString (k ++ (w₁ ++ ':'.toNat :: (w₂ ++ s))) =
      some (ps, w₁ ++ ':'.toNat :: (w₂ ++ s)) := scanString_eq_some.mpr ⟨k, hk, rfl⟩
  simp only [scanMember, List.head?_cons, if_true, List.tail_cons, hstring,
    skipWhitespace_append h₁ (trimmed_colon _), skipWhitespace_append h₂ hs]

/-- What precedes the value of a member. -/
theorem exists_key {s : Text} (hquote : s.head? = some '"'.toNat) {ps : List Piece} {u : Text}
    (hstring : scanString s.tail = some (ps, u))
    (hcolon : (skipWhitespace u).head? = some ':'.toNat) :
    ∃ k w₁ w₂, StringText k ps ∧ Whitespace w₁ ∧ Whitespace w₂ ∧
      s = '"'.toNat :: (k ++ (w₁ ++ ':'.toNat :: (w₂ ++
        skipWhitespace (skipWhitespace u).tail))) := by
  obtain ⟨s, rfl⟩ := List.head?_eq_some_iff.mp hquote
  obtain ⟨k, hk, hs⟩ := scanString_eq_some.mp hstring
  obtain ⟨w₁, h₁, hu, -⟩ := exists_whitespace_skip u
  obtain ⟨v, hv⟩ := List.head?_eq_some_iff.mp hcolon
  obtain ⟨w₂, h₂, hv', -⟩ := exists_whitespace_skip v
  refine ⟨k, w₁, w₂, hk, h₁, h₂, ?_⟩
  rw [List.tail_cons] at hs
  rw [hs]
  conv_lhs => rw [hu, hv, hv']
  rw [hv, List.tail_cons]

theorem scans_member (h : Scans V Q value) :
    Scans (MemberText V) (MemberReach Q) (scanMember value) where
  sound := by
    intro s rest p hscan
    rw [scanMember] at hscan
    split at hscan
    swap
    · cases hscan
    rename_i hquote
    split at hscan
    · cases hscan
    rename_i ps u hstring
    split at hscan
    swap
    · cases hscan
    rename_i hcolon
    split at hscan
    · cases hscan
    rename_i v rest' hvalue
    cases hscan
    obtain ⟨t, ht, hsplit⟩ := h.sound hvalue
    obtain ⟨k, w₁, w₂, hk, h₁, h₂, hs⟩ := exists_key hquote hstring hcolon
    refine ⟨_, .mk hk h₁ h₂ ht, ?_⟩
    rw [hs, hsplit]
    simp
  complete := by
    rintro t rest _ ⟨hk, h₁, h₂, hv⟩ hrest
    obtain ⟨c, u, rfl, hc⟩ := h.leads hv
    simp only [List.cons_append, List.append_assoc]
    rw [scanMember_key hk h₁ h₂ hc.trimmed, ← List.cons_append, h.complete hv hrest]
  leads := by
    rintro t _ ⟨-, -, -, -⟩
    exact ⟨_, _, rfl, rfl, by decide, by decide, by decide⟩
  limit := by
    intro s
    constructor
    · rintro ⟨hk, h₁, h₂, hs⟩
      obtain ⟨c, u, rfl, hc⟩ := h.reachLeads hs
      obtain ⟨e, he, hvalue⟩ := h.limit.mp hs
      exact ⟨e, he, by rw [scanMember_key hk h₁ h₂ hc.trimmed, hvalue]⟩
    · rintro ⟨e, he, hscan⟩
      rw [scanMember] at hscan
      split at hscan
      swap
      · cases hscan
        cases he
      rename_i hquote
      split at hscan
      · cases hscan
        cases he
      rename_i ps u hstring
      split at hscan
      swap
      · cases hscan
        cases he
      rename_i hcolon
      split at hscan
      swap
      · cases hscan
      rename_i e' hvalue
      cases hscan
      obtain ⟨k, w₁, w₂, hk, h₁, h₂, hs⟩ := exists_key hquote hstring hcolon
      rw [hs]
      exact .mk hk h₁ h₂ (h.limit.mpr ⟨_, he, hvalue⟩)
  reachLeads := by
    rintro s ⟨-, -, -, -⟩
    exact ⟨_, _, rfl, rfl, by decide, by decide, by decide⟩

end Members

/-! ### Atoms -/

section Atoms

variable {H : Hooks}

theorem leads_of_isDigit {c : Nat} (h : isDigit c = true) : Leads c := by
  refine ⟨?_, ?_, ?_, ?_⟩
  · simp only [isWhitespace, Bool.or_eq_false_iff, decide_eq_false_iff_not]
    refine ⟨⟨⟨?_, ?_⟩, ?_⟩, ?_⟩ <;> rintro rfl <;> cases h
  all_goals
    rintro rfl
    cases h

/-- How a numeral begins. -/
theorem Numeral.WellFormed.head {n : Numeral} (hn : n.WellFormed) :
    ∃ c u, n.text = c :: u ∧ (c = '-'.toNat ∨ isDigit c = true) := by
  obtain ⟨d, ds, hd⟩ := List.exists_cons_of_ne_nil hn.integer.1
  have hdigit := hn.integer.2 d (by simp [hd])
  rw [Numeral.text, hd]
  cases n.negative with
  | true => exact ⟨_, _, rfl, .inl rfl⟩
  | false => exact ⟨_, _, rfl, .inr hdigit⟩

theorem Numeral.WellFormed.leads {n : Numeral} (hn : n.WellFormed) :
    ∃ c u, n.text = c :: u ∧ Leads c ∧ c ≠ '"'.toNat ∧ c ≠ '{'.toNat ∧ c ≠ '['.toNat := by
  obtain ⟨c, u, htext, rfl | hdigit⟩ := hn.head
  · exact ⟨_, u, htext, ⟨rfl, by decide, by decide, by decide⟩, by decide, by decide, by decide⟩
  · refine ⟨c, u, htext, leads_of_isDigit hdigit, ?_, ?_, ?_⟩
    all_goals
      rintro rfl
      cases hdigit

theorem readLiteral_append (l : Literal) (rest : Text) :
    readLiteral (l.text ++ rest) = some (l, rest) := by
  rcases l with - | - | - | - | - | - <;> rfl

theorem eq_of_readLiteral {s rest : Text} {l : Literal} (h : readLiteral s = some (l, rest)) :
    s = l.text ++ rest := by
  obtain ⟨l', hfind, heq⟩ := Option.map_eq_some_iff.mp h
  cases heq
  have hstarts := List.find?_some hfind
  obtain ⟨rest, rfl⟩ := List.isPrefixOf_iff_prefix.mp hstarts
  rw [List.drop_left]

/-- No literal begins like a numeral. -/
theorem readNumeral_literal (l : Literal) (rest : Text) : readNumeral (l.text ++ rest) = none := by
  rcases l with - | - | - | - | - | - <;> rfl

theorem Literal.leads (l : Literal) :
    ∃ c u, l.text = c :: u ∧ Leads c ∧ c ≠ '"'.toNat ∧ c ≠ '{'.toNat ∧ c ≠ '['.toNat := by
  rcases l with - | - | - | - | - | -
  all_goals
    exact ⟨_, _, rfl, ⟨rfl, by decide, by decide, by decide⟩, by decide, by decide, by decide⟩

theorem AtomText.leads {t : Text} {v : Value} (h : AtomText H t v) :
    ∃ c u, t = c :: u ∧ Leads c := by
  cases h with
  | literal _ =>
    obtain ⟨c, u, htext, hc, -⟩ := Literal.leads _
    exact ⟨c, u, htext, hc⟩
  | str _ => exact ⟨_, _, rfl, rfl, by decide, by decide, by decide⟩
  | numeral hn _ =>
    obtain ⟨c, u, htext, hc, -⟩ := hn.leads
    exact ⟨c, u, htext, hc⟩

theorem Overlong.leads {s : Text} (h : Overlong H s) :
    ∃ c u, s = c :: u ∧ Leads c ∧ c ≠ '"'.toNat ∧ c ≠ '{'.toNat ∧ c ≠ '['.toNat := by
  obtain ⟨n, rest, hread, -⟩ := h
  obtain ⟨hn, rfl⟩ := readNumeral_eq_some hread
  obtain ⟨c, u, htext, hc⟩ := hn.leads
  exact ⟨c, u ++ rest, by rw [htext]; rfl, hc⟩

variable {inner : Option (Text → Scan Value)}

theorem scanValue_quote (s : Text) : scanValue H inner ('"'.toNat :: s) =
    match scanString s with
    | none => .error .decodeError
    | some (ps, rest) => .ok (.str (joinPieces ps), rest) := by
  simp only [scanValue, if_true]

theorem scanValue_atom {c : Nat} {s : Text} (hquote : c ≠ '"'.toNat) (hbrace : c ≠ '{'.toNat)
    (hbracket : c ≠ '['.toNat) : scanValue H inner (c :: s) = scanAtom H (c :: s) := by
  simp only [scanValue, if_neg hquote, if_neg hbrace, if_neg hbracket]

/-- Atoms are read wherever they stand. -/
theorem scanValue_atomText {t rest : Text} {v : Value} (h : AtomText H t v)
    (hrest : Delimited rest) : scanValue H inner (t ++ rest) = .ok (v, rest) := by
  cases h with
  | @literal l v hl =>
    obtain ⟨c, u, htext, -, hquote, hbrace, hbracket⟩ := l.leads
    have hread := readLiteral_append l rest
    rw [htext, List.cons_append] at hread ⊢
    simp only [scanValue_atom hquote hbrace hbracket, scanAtom, hread, hl]
  | @str t ps ht =>
    rw [List.cons_append, scanValue_quote, scanString_eq_some.mpr ⟨t, ht, rfl⟩]
  | @numeral n hn hadmits =>
    obtain ⟨c, u, htext, -, hquote, hbrace, hbracket⟩ := hn.leads
    have hread := readNumeral_text hn hrest.stops
    have hliteral : readLiteral (n.text ++ rest) = none := by
      cases h : readLiteral (n.text ++ rest) with
      | none => rfl
      | some r =>
        rw [eq_of_readLiteral h, readNumeral_literal] at hread
        cases hread
    rw [htext, List.cons_append] at hread hliteral ⊢
    simp only [scanValue_atom hquote hbrace hbracket, scanAtom, hread, hliteral]
    rw [if_neg fun h ↦ h.2 (hadmits h.1)]

/-- What is read where no container begins is an atom. -/
theorem exists_atomText {c : Nat} {s rest : Text} {v : Value} (hbrace : c ≠ '{'.toNat)
    (hbracket : c ≠ '['.toNat) (hscan : scanValue H inner (c :: s) = .ok (v, rest)) :
    ∃ t, AtomText H t v ∧ c :: s = t ++ rest := by
  by_cases hquote : c = '"'.toNat
  · subst hquote
    rw [scanValue_quote] at hscan
    split at hscan
    · cases hscan
    rename_i ps rest' hstring
    cases hscan
    obtain ⟨t, ht, rfl⟩ := scanString_eq_some.mp hstring
    exact ⟨_, .str ht, rfl⟩
  rw [scanValue_atom hquote hbrace hbracket, scanAtom] at hscan
  split at hscan
  · rename_i l rest' hliteral
    split at hscan
    · cases hscan
    rename_i v' hvalue
    cases hscan
    exact ⟨_, .literal hvalue, eq_of_readLiteral hliteral⟩
  split at hscan
  · cases hscan
  rename_i n rest' hnumeral
  split at hscan
  · cases hscan
  rename_i hadmits
  cases hscan
  obtain ⟨hn, hs⟩ := readNumeral_eq_some hnumeral
  exact ⟨_, .numeral hn fun hinteger ↦ not_not.mp fun h ↦ hadmits ⟨hinteger, h⟩, hs⟩

/-- The only limit where no container begins is that of integers. -/
theorem overlong_iff {c : Nat} {s : Text} (hbrace : c ≠ '{'.toNat) (hbracket : c ≠ '['.toNat) :
    Overlong H (c :: s) ↔ ∃ e, e.isLimit = true ∧ scanValue H inner (c :: s) = .error e := by
  constructor
  · intro h
    obtain ⟨_, _, heq, -, hquote, -⟩ := h.leads
    cases heq
    obtain ⟨n, rest, hread, hinteger, hlong⟩ := h
    have hliteral : readLiteral (c :: s) = none := by
      cases h : readLiteral (c :: s) with
      | none => rfl
      | some r =>
        rw [eq_of_readLiteral h, readNumeral_literal] at hread
        cases hread
    refine ⟨.valueError, rfl, ?_⟩
    simp only [scanValue_atom hquote hbrace hbracket, scanAtom, hliteral, hread]
    rw [if_pos ⟨hinteger, hlong⟩]
  · rintro ⟨e, he, hscan⟩
    by_cases hquote : c = '"'.toNat
    · subst hquote
      rw [scanValue_quote] at hscan
      split at hscan
      · cases hscan
        cases he
      · cases hscan
    rw [scanValue_atom hquote hbrace hbracket, scanAtom] at hscan
    split at hscan
    · split at hscan
      · cases hscan
        cases he
      · cases hscan
    split at hscan
    · cases hscan
      cases he
    rename_i n rest hnumeral
    split at hscan
    swap
    · cases hscan
    rename_i hlong
    exact ⟨n, rest, hnumeral, hlong⟩

end Atoms

/-! ### Values -/

section Values

variable {H : Hooks}

theorem scanValue_brace (inner : Option (Text → Scan Value)) (s : Text) :
    scanValue H inner ('{'.toNat :: s) =
      match inner with
      | none => .error .recursionError
      | some value =>
        match scanContainer (scanMember value) '}'.toNat s with
        | .error e => .error e
        | .ok (pairs, rest) =>
          match H.object pairs with
          | none => .error .hookError
          | some v => .ok (v, rest) := by
  have hquote : '{'.toNat ≠ '"'.toNat := by decide
  simp only [scanValue, if_neg hquote, if_true]

theorem scanValue_bracket (inner : Option (Text → Scan Value)) (s : Text) :
    scanValue H inner ('['.toNat :: s) =
      match inner with
      | none => .error .recursionError
      | some value =>
        match scanContainer value ']'.toNat s with
        | .error e => .error e
        | .ok (vs, rest) => .ok (.list vs, rest) := by
  have hquote : '['.toNat ≠ '"'.toNat := by decide
  have hbrace : '['.toNat ≠ '{'.toNat := by decide
  simp only [scanValue, if_neg hquote, if_neg hbrace, if_true]

/-- A scanner whose stack is exhausted reads the atoms. -/
theorem scans_atoms : Scans (AtomText H)
    (fun s ↦ Overlong H s ∨ s.head? = some '['.toNat ∨ s.head? = some '{'.toNat)
    (scanValue H none) where
  sound := by
    intro s rest v hscan
    cases s with
    | nil => cases hscan
    | cons c s =>
      by_cases hbrace : c = '{'.toNat
      · rw [hbrace, scanValue_brace] at hscan
        cases hscan
      by_cases hbracket : c = '['.toNat
      · rw [hbracket, scanValue_bracket] at hscan
        cases hscan
      exact exists_atomText hbrace hbracket hscan
  complete := scanValue_atomText
  leads := AtomText.leads
  limit := by
    intro s
    cases s with
    | nil =>
      constructor
      · rintro (h | h | h)
        · obtain ⟨_, _, ⟨⟩, -⟩ := h.leads
        all_goals cases h
      · rintro ⟨e, he, hscan⟩
        cases hscan
        cases he
    | cons c s =>
      by_cases hbrace : c = '{'.toNat
      · rw [hbrace, scanValue_brace]
        exact ⟨fun _ ↦ ⟨_, rfl, rfl⟩, fun _ ↦ .inr (.inr rfl)⟩
      by_cases hbracket : c = '['.toNat
      · rw [hbracket, scanValue_bracket]
        exact ⟨fun _ ↦ ⟨_, rfl, rfl⟩, fun _ ↦ .inr (.inl rfl)⟩
      rw [← overlong_iff hbrace hbracket, List.head?_cons, Option.some.injEq, Option.some.injEq]
      exact ⟨fun h ↦ h.elim id fun h ↦ h.elim (absurd · hbracket) (absurd · hbrace), .inl⟩
  reachLeads := by
    rintro s (h | h | h)
    · obtain ⟨c, u, hs, hc, -⟩ := h.leads
      exact ⟨c, u, hs, hc⟩
    all_goals
      obtain ⟨u, rfl⟩ := List.head?_eq_some_iff.mp h
      exact ⟨_, u, rfl, rfl, by decide, by decide, by decide⟩

/-- A scanner with another one for the values inside of containers. -/
theorem scans_nested {V : Text → Value → Prop} {Q : Text → Prop} {value : Text → Scan Value}
    (h : Scans V Q value) : Scans (fun t v ↦ AtomText H t v ∨ NestedText H V t v)
    (fun s ↦ Overlong H s ∨ NestedReach V Q s) (scanValue H (some value)) where
  sound := by
    intro s rest v hscan
    cases s with
    | nil => cases hscan
    | cons c s =>
      by_cases hbrace : c = '{'.toNat
      · subst hbrace
        rw [scanValue_brace] at hscan
        dsimp only at hscan
        split at hscan
        · cases hscan
        rename_i pairs rest' hcontainer
        split at hscan
        · cases hscan
        rename_i v' hobject
        cases hscan
        obtain ⟨t, ht, rfl⟩ := exists_containerText (scans_member h) hcontainer
        exact ⟨_, .inr (.dict ht hobject), rfl⟩
      by_cases hbracket : c = '['.toNat
      · subst hbracket
        rw [scanValue_bracket] at hscan
        dsimp only at hscan
        split at hscan
        · cases hscan
        rename_i vs rest' hcontainer
        cases hscan
        obtain ⟨t, ht, rfl⟩ := exists_containerText h hcontainer
        exact ⟨_, .inr (.list ht), rfl⟩
      obtain ⟨t, ht, hs⟩ := exists_atomText hbrace hbracket hscan
      exact ⟨t, .inl ht, hs⟩
  complete := by
    rintro t rest v (ht | ht) hrest
    · exact scanValue_atomText ht hrest
    cases ht with
    | list ht =>
      rw [List.cons_append, scanValue_bracket]
      simp only [scanContainer_append h (.inl rfl) ht rest]
    | dict ht hobject =>
      rw [List.cons_append, scanValue_brace]
      simp only [scanContainer_append (scans_member h) (.inr rfl) ht rest, hobject]
  leads := by
    rintro t v (ht | ht)
    · exact ht.leads
    · cases ht <;> exact ⟨_, _, rfl, rfl, by decide, by decide, by decide⟩
  limit := by
    intro s
    cases s with
    | nil =>
      constructor
      · rintro (hs | hs)
        · obtain ⟨_, _, ⟨⟩, -⟩ := hs.leads
        · cases hs
      · rintro ⟨e, he, hscan⟩
        cases hscan
        cases he
    | cons c s =>
      by_cases hbrace : c = '{'.toNat
      · subst hbrace
        rw [scanValue_brace]
        constructor
        · rintro (hs | hs)
          · obtain ⟨_, _, heq, -, -, hne, -⟩ := hs.leads
            cases heq
            exact absurd rfl hne
          · cases hs with
            | dict hs =>
              obtain ⟨e, he, hcontainer⟩ := (containerReach_iff (scans_member h) (.inr rfl)).mp hs
              exact ⟨e, he, by simp only [hcontainer]⟩
        · rintro ⟨e, he, hscan⟩
          dsimp only at hscan
          split at hscan
          · rename_i e' hcontainer
            cases hscan
            exact .inr (.dict ((containerReach_iff (scans_member h) (.inr rfl)).mpr
              ⟨_, he, hcontainer⟩))
          split at hscan
          · cases hscan
            cases he
          · cases hscan
      by_cases hbracket : c = '['.toNat
      · subst hbracket
        rw [scanValue_bracket]
        constructor
        · rintro (hs | hs)
          · obtain ⟨_, _, heq, -, -, -, hne⟩ := hs.leads
            cases heq
            exact absurd rfl hne
          · cases hs with
            | list hs =>
              obtain ⟨e, he, hcontainer⟩ := (containerReach_iff h (.inl rfl)).mp hs
              exact ⟨e, he, by simp only [hcontainer]⟩
        · rintro ⟨e, he, hscan⟩
          dsimp only at hscan
          split at hscan
          · rename_i e' hcontainer
            cases hscan
            exact .inr (.list ((containerReach_iff h (.inl rfl)).mpr ⟨_, he, hcontainer⟩))
          · cases hscan
      rw [← overlong_iff hbrace hbracket]
      refine ⟨fun hs ↦ hs.elim id fun hs ↦ ?_, .inl⟩
      cases hs with
      | list _ => exact absurd rfl hbracket
      | dict _ => exact absurd rfl hbrace
  reachLeads := by
    rintro s (hs | hs)
    · obtain ⟨c, u, hs, hc, -⟩ := hs.leads
      exact ⟨c, u, hs, hc⟩
    · cases hs <;> exact ⟨_, _, rfl, rfl, by decide, by decide, by decide⟩

/-- **The scanner** reads the values of the grammar, and meets a limit exactly where the text leads
to one. -/
theorem scans_scanOnce (depth : Nat) :
    Scans (ValueText H depth) (Overruns H depth) (scanOnce H depth) := by
  induction depth with
  | zero => exact scans_atoms
  | succ depth ih => exact scans_nested ih

end Values

/-! ### Texts without limits -/

section Unbounded

variable {Item Item' : Text → α → Prop} {Q : Text → Prop} {V V' : Text → Value → Prop} {H : Hooks}

theorem ItemsText.mono (h : ∀ t a, Item t a → Item' t a) {t : Text} {as : List α}
    (ht : ItemsText Item t as) : ItemsText Item' t as := by
  induction ht with
  | last ht hw => exact .last (h _ _ ht) hw
  | more ht h₁ h₂ _ ih => exact .more (h _ _ ht) h₁ h₂ ih

theorem ContainerText.mono (h : ∀ t a, Item t a → Item' t a) {close : Nat} {t : Text}
    {as : List α} (ht : ContainerText Item close t as) : ContainerText Item' close t as := by
  cases ht with
  | empty hw => exact .empty hw
  | items hw ht => exact .items hw (ht.mono h)

theorem MemberText.mono (h : ∀ t v, V t v → V' t v) {t : Text} {p : Text × Value}
    (ht : MemberText V t p) : MemberText V' t p := by
  cases ht with
  | mk hk h₁ h₂ hv => exact .mk hk h₁ h₂ (h _ _ hv)

theorem literal_unbounded (l : Literal) : H.unbounded.literal l = H.literal l := by
  cases l <;> rfl

theorem AtomText.unbounded {t : Text} {v : Value} (h : AtomText H t v) :
    AtomText H.unbounded t v := by
  cases h with
  | literal hl => exact .literal (by rw [literal_unbounded, hl])
  | str ht => exact .str ht
  | numeral hn _ => exact .numeral hn fun _ ↦ nofun

/-- A value within the limits is a value. -/
theorem ValueText.unbounded {depth : Nat} {t : Text} {v : Value} (h : ValueText H depth t v) :
    ValueText H.unbounded depth t v := by
  induction depth generalizing t v with
  | zero => exact AtomText.unbounded h
  | succ depth ih =>
    rcases h with h | h
    · exact .inl h.unbounded
    cases h with
    | list h => exact .inr (.list (h.mono fun _ _ ↦ ih))
    | dict h hv => exact .inr (.dict (h.mono fun _ _ ↦ .mono fun _ _ ↦ ih) hv)

theorem AtomText.value {t : Text} {v : Value} (h : AtomText H t v) (depth : Nat) :
    ValueText H depth t v := by
  cases depth with
  | zero => exact h
  | succ depth => exact .inl h

theorem Overlong.overruns {s : Text} (h : Overlong H s) (depth : Nat) : Overruns H depth s := by
  cases depth <;> exact .inl h

/-- Items without limits are items within the limits, or lead to a limit. -/
theorem itemsText_or_reach
    (h : ∀ t a rest, Item t a → Delimited rest → Item' t a ∨ Q (t ++ rest)) {t : Text}
    {as : List α} (ht : ItemsText Item t as) {rest : Text} (hrest : Delimited rest) :
    ItemsText Item' t as ∨ ItemsReach Item' Q (t ++ rest) := by
  induction ht with
  | @last t w a ht hw =>
    rw [List.append_assoc]
    exact (h t a (w ++ rest) ht (delimited_append hw hrest)).imp (.last · hw) .here
  | @more t w₁ w₂ u a as ht h₁ h₂ _ ih =>
    have happend : t ++ (w₁ ++ ','.toNat :: (w₂ ++ u)) ++ rest =
        t ++ (w₁ ++ ','.toNat :: (w₂ ++ (u ++ rest))) := by simp
    rw [happend]
    rcases h t a _ ht (delimited_append h₁ (delimited_comma (w₂ ++ (u ++ rest)))) with ha | hq
    · exact ih.imp (.more ha h₁ h₂) (.next ha h₁ h₂)
    · exact .inr (.here hq)

theorem containerText_or_reach {close : Nat} (hclose : close = ']'.toNat ∨ close = '}'.toNat)
    {Q₀ : Text → Prop} {item : Text → Scan α} (hscans : Scans Item Q₀ item)
    (h : ∀ t a rest, Item t a → Delimited rest → Item' t a ∨ Q (t ++ rest)) {t : Text}
    {as : List α} (ht : ContainerText Item close t as) (rest : Text) :
    ContainerText Item' close t as ∨ ContainerReach Item' Q (t ++ rest) := by
  cases ht with
  | empty hw => exact .inl (.empty hw)
  | @items w t as hw ht =>
    refine (itemsText_or_reach h ht (delimited_close hclose rest)).imp (.items hw) fun hreach ↦ ?_
    obtain ⟨c, u, rfl, hc⟩ := ht.leads hscans
    have htrimmed : Trimmed (c :: u ++ close :: rest) := hc.trimmed
    have happend : w ++ (c :: u ++ [close]) ++ rest = w ++ (c :: u ++ close :: rest) := by simp
    rw [ContainerReach, happend, skipWhitespace_append hw htrimmed]
    exact hreach

theorem memberText_or_reach
    (h : ∀ t v rest, V t v → Delimited rest → V' t v ∨ Q (t ++ rest)) (t : Text)
    (p : Text × Value) (rest : Text) (ht : MemberText V t p) (hrest : Delimited rest) :
    MemberText V' t p ∨ MemberReach Q (t ++ rest) := by
  cases ht with
  | @mk k w₁ w₂ t ps v hk h₁ h₂ hv =>
    have happend : '"'.toNat :: (k ++ (w₁ ++ ':'.toNat :: (w₂ ++ t))) ++ rest =
        '"'.toNat :: (k ++ (w₁ ++ ':'.toNat :: (w₂ ++ (t ++ rest)))) := by simp
    rw [happend]
    exact (h t v rest hv hrest).imp (.mk hk h₁ h₂) (.mk hk h₁ h₂)

theorem atomText_or_overlong {t rest : Text} {v : Value} (h : AtomText H.unbounded t v)
    (hrest : Delimited rest) : AtomText H t v ∨ Overlong H (t ++ rest) := by
  cases h with
  | literal hl => exact .inl (.literal (by rw [← literal_unbounded, hl]))
  | str ht => exact .inl (.str ht)
  | @numeral n hn _ =>
    by_cases hlong : n.isInteger = true ∧ ¬H.admits n
    · exact .inr ⟨n, rest, readNumeral_text hn hrest.stops, hlong⟩
    · exact .inl (.numeral hn fun hinteger ↦ not_not.mp fun h ↦ hlong ⟨hinteger, h⟩)

/-- **Limits.** A value is a value within the limits, or leads to a limit. -/
theorem valueText_or_overruns {k depth : Nat} {t rest : Text} {v : Value}
    (h : ValueText H.unbounded k t v) (hrest : Delimited rest) :
    ValueText H depth t v ∨ Overruns H depth (t ++ rest) := by
  induction k generalizing depth t rest v with
  | zero => exact (atomText_or_overlong h hrest).imp (·.value depth) (·.overruns depth)
  | succ k ih =>
    rcases h with h | h
    · exact (atomText_or_overlong h hrest).imp (·.value depth) (·.overruns depth)
    have hscans := scans_scanOnce (H := H.unbounded) k
    cases depth with
    | zero => cases h with
      | list _ => exact .inr (.inr (.inl rfl))
      | dict _ _ => exact .inr (.inr (.inr rfl))
    | succ depth => cases h with
      | list h =>
        exact (containerText_or_reach (.inl rfl) hscans (fun _ _ _ ht ↦ ih ht) h rest).imp
          (fun h ↦ .inr (.list h)) fun h ↦ .inr (.list h)
      | dict h hv =>
        exact (containerText_or_reach (.inr rfl) (scans_member hscans)
          (memberText_or_reach fun _ _ _ ht ↦ ih ht) h rest).imp
          (fun h ↦ .inr (.dict h hv)) fun h ↦ .inr (.dict h)

end Unbounded

/-! ### Whole texts -/

section Documents

variable {H : Hooks} {depth : Nat} {s : Text} {v : Value}

theorem delimited_whitespace {w : Text} (hw : Whitespace w) : Delimited w :=
  fun c hc ↦ .inl (hw c (List.mem_of_mem_head? hc))

/-- **Documents.** The texts within the limits are read. -/
theorem loads_eq_ok : loads H depth s = .ok v ↔ DocumentText H depth s v := by
  constructor
  · intro h
    rw [loads] at h
    split at h
    · cases h
    split at h
    · cases h
    rename_i v' rest hscan
    split at h
    swap
    · cases h
    rename_i hend
    cases h
    obtain ⟨t, ht, hsplit⟩ := (scans_scanOnce depth).sound hscan
    obtain ⟨w, hw, hs, -⟩ := exists_whitespace_skip s
    obtain ⟨w', hw', hrest, -⟩ := exists_whitespace_skip rest
    rw [hend, List.append_nil] at hrest
    refine ⟨w, t, w', hw, ht, hw', ?_⟩
    rw [← hrest, ← hsplit]
    exact hs
  · rintro ⟨w, t, w', hw, ht, hw', rfl⟩
    obtain ⟨c, u, rfl, hc⟩ := (scans_scanOnce depth).leads ht
    have htrimmed : Trimmed (c :: u ++ w') := hc.trimmed
    have hmark : (w ++ (c :: u ++ w')).head? ≠ some 0xFEFF := by
      cases w with
      | nil => exact fun h ↦ hc.2.2.2 (Option.some.inj h)
      | cons d w =>
        intro h
        have hspace := hw d List.mem_cons_self
        rw [Option.some.inj h] at hspace
        cases hspace
    have hend : skipWhitespace w' = [] := by
      simpa using skipWhitespace_append (s := []) hw' nofun
    rw [loads, if_neg hmark, skipWhitespace_append hw htrimmed,
      (scans_scanOnce depth).complete ht (delimited_whitespace hw')]
    exact if_pos hend

/-- **Limits.** A limit is met by the texts that lead to it. -/
theorem loads_eq_limit : (∃ e, e.isLimit = true ∧ loads H depth s = .error e) ↔
    Overruns H depth (skipWhitespace s) := by
  rw [(scans_scanOnce depth).limit]
  constructor
  · rintro ⟨e, he, h⟩
    rw [loads] at h
    split at h
    · cases h
      cases he
    split at h
    · rename_i e' hscan
      cases h
      exact ⟨_, he, hscan⟩
    split at h
    · cases h
    · cases h
      cases he
  · rintro ⟨e, he, hscan⟩
    have hmark : s.head? ≠ some 0xFEFF := by
      intro hhead
      obtain ⟨u, rfl⟩ := List.head?_eq_some_iff.mp hhead
      obtain ⟨c, u', heq, hc⟩ := (scans_scanOnce depth).reachLeads
        ((scans_scanOnce depth).limit.mpr ⟨e, he, hscan⟩)
      cases heq
      exact hc.2.2.2 rfl
    exact ⟨e, he, by rw [loads, if_neg hmark, hscan]⟩

/-- A document without limits is one within the limits, or leads to a limit. -/
theorem documentText_or_overruns {k : Nat} (h : DocumentText H.unbounded k s v) :
    DocumentText H depth s v ∨ Overruns H depth (skipWhitespace s) := by
  obtain ⟨w, t, w', hw, ht, hw', rfl⟩ := h
  obtain ⟨c, u, hsplit, hc⟩ := (scans_scanOnce k).leads ht
  have htrimmed : Trimmed (t ++ w') := by
    rw [hsplit]
    exact hc.trimmed
  rw [skipWhitespace_append hw htrimmed]
  exact (valueText_or_overruns ht (delimited_whitespace hw')).imp
    (fun h ↦ ⟨w, t, w', hw, h, hw', rfl⟩) id

theorem DocumentText.unbounded (h : DocumentText H depth s v) :
    DocumentText H.unbounded depth s v := by
  obtain ⟨w, t, w', hw, ht, hw', rfl⟩ := h
  exact ⟨w, t, w', hw, ht.unbounded, hw', rfl⟩

/-- **Exactness.** `json.loads` reads exactly the documents, and refuses the other texts, if and
only if it meets no limit. -/
theorem loads_exact_iff :
    ((∀ v, loads H depth s = .ok v ↔ ∃ k, DocumentText H.unbounded k s v) ∧
      ((∀ k v, ¬DocumentText H.unbounded k s v) →
        ∃ e, e.isLimit = false ∧ loads H depth s = .error e)) ↔
      ¬Overruns H depth (skipWhitespace s) := by
  rw [← loads_eq_limit]
  constructor
  · rintro ⟨hread, hrefused⟩ ⟨e, he, herror⟩
    by_cases h : ∃ k v, DocumentText H.unbounded k s v
    · obtain ⟨k, v, hv⟩ := h
      have hok := (hread v).mpr ⟨k, hv⟩
      rw [herror] at hok
      cases hok
    · obtain ⟨e', he', herror'⟩ := hrefused fun k v hv ↦ h ⟨k, v, hv⟩
      rw [herror] at herror'
      cases herror'
      rw [he] at he'
      cases he'
  · intro hlimit
    refine ⟨fun v ↦ ⟨fun h ↦ ⟨depth, (loads_eq_ok.mp h).unbounded⟩, ?_⟩, fun hnone ↦ ?_⟩
    · rintro ⟨k, hk⟩
      refine loads_eq_ok.mpr ((documentText_or_overruns hk).resolve_right fun h ↦ hlimit ?_)
      exact loads_eq_limit.mpr h
    · cases h : loads H depth s with
      | ok v => exact absurd (loads_eq_ok.mp h).unbounded (hnone depth v)
      | error e =>
        refine ⟨e, ?_, rfl⟩
        rw [← Bool.not_eq_true]
        exact fun he ↦ hlimit ⟨e, he, h⟩

end Documents

end JsonText
