import FilterQuery.Json.Decode
import FilterQuery.Proofs.StandardPattern
import Mathlib.Data.List.DropRight

/-!
# The grammar of JSON

What a JSON text is, said without the functions that read one, and that those
functions take every such text.

There are four groups.

* Blanks.  `Spaces` may stand around every token, and `skipSpace` takes them.
* Strings.  `CharSpells` lists the ways to write one character between quotes,
  and `Spells` those to write a text.  Every way is read
  (`readString?_of_spells`), and writing uses one of them
  (`spells_flatMap_escapeChar`).  Half of a surrogate pair is no character, so
  that no text is written with one, but a string that is only passed over may
  hold it (`IsStringBody`).
* Numbers.  `IsNumeral`, and what must follow a number for it to be taken as a
  whole (`EndsValue`).
* Values.  `IsPhrase` is the grammar of values, and of the elements and members
  inside of them.  `passes_of_isPhrase` says that every value is passed over
  up to its end, at any depth.
-/

namespace FilterQuery.Json

open Text

/-! ## Blanks -/

/-- Blanks, or nothing. -/
def Spaces (text : List Char) : Prop := ∀ c ∈ text, isSpace c = true

instance (text : List Char) : Decidable (Spaces text) :=
  decidable_of_iff (text.all isSpace = true) List.all_eq_true

theorem spaces_nil : Spaces [] := by
  simp [Spaces]

theorem skipSpace_append {blanks : List Char} (h : Spaces blanks) (text : List Char) :
    skipSpace (blanks ++ text) = skipSpace text := by
  rw [skipSpace, List.dropWhile_append_of_pos h, skipSpace]

theorem skipSpace_eq_nil {blanks : List Char} (h : Spaces blanks) : skipSpace blanks = [] := by
  simpa [skipSpace] using skipSpace_append h []

theorem skipSpace_cons {c : Char} (h : isSpace c = false) (text : List Char) :
    skipSpace (c :: text) = c :: text := by
  simp [skipSpace, h]

theorem skipSpace_append_cons {blanks : List Char} {c : Char} (h : Spaces blanks)
    (hc : isSpace c = false) (text : List Char) :
    skipSpace (blanks ++ c :: text) = c :: text := by
  rw [skipSpace_append h, skipSpace_cons hc]

@[simp]
theorem skipSpace_skipSpace (text : List Char) : skipSpace (skipSpace text) = skipSpace text :=
  List.dropWhile_idempotent isSpace text

/-! ## Strings -/

/-- Four hexadecimal digits that spell a number. -/
def IsUnit (n : Nat) (ds : List Char) : Prop :=
  ds.length = 4 ∧ (∀ c ∈ ds, Hex.isDigit c = true) ∧ Hex.number ds = n

instance (n : Nat) (ds : List Char) : Decidable (IsUnit n ds) :=
  decidable_of_iff ((ds.length == 4 && (ds.all Hex.isDigit && Hex.number ds == n)) = true)
    (by simp [IsUnit])

theorem IsUnit.exists_digits {n : Nat} {ds : List Char} (h : IsUnit n ds) :
    ∃ a b c d i j k l, ds = [a, b, c, d] ∧ Hex.value? a = some i ∧ Hex.value? b = some j ∧
      Hex.value? c = some k ∧ Hex.value? d = some l ∧
      n = 16 * (16 * (16 * (16 * 0 + i) + j) + k) + l := by
  obtain ⟨hlength, hdigits, hnumber⟩ := h
  obtain ⟨a, b, c, d, rfl⟩ : ∃ a b c d, ds = [a, b, c, d] := by
    match ds, hlength with
    | [a, b, c, d], _ => exact ⟨a, b, c, d, rfl⟩
  obtain ⟨i, hi⟩ := Option.isSome_iff_exists.1 (hdigits a (by simp))
  obtain ⟨j, hj⟩ := Option.isSome_iff_exists.1 (hdigits b (by simp))
  obtain ⟨k, hk⟩ := Option.isSome_iff_exists.1 (hdigits c (by simp))
  obtain ⟨l, hl⟩ := Option.isSome_iff_exists.1 (hdigits d (by simp))
  refine ⟨a, b, c, d, i, j, k, l, rfl, hi, hj, hk, hl, ?_⟩
  simp [← hnumber, Hex.number, hi, hj, hk, hl]

/-- The characters with an escape of two characters, and the second of these. -/
def escapes : List (Char × Char) :=
  [('"', '"'), ('\\', '\\'), ('/', '/'), ('\x08', 'b'), ('\x0c', 'f'), ('\n', 'n'), ('\r', 'r'),
    ('\t', 't')]

theorem unescape?_of_mem_escapes {c e : Char} (h : (c, e) ∈ escapes) :
    e ≠ 'u' ∧ unescape? e = some c := by
  have hall : ∀ p ∈ escapes, p.2 ≠ 'u' ∧ unescape? p.2 = some p.1 := by decide
  exact hall (c, e) h

/-- The ways to write a character between quotes. -/
inductive CharSpells : Char → List Char → Prop where
  | plain {c : Char} (hquote : c ≠ '"') (hbackslash : c ≠ '\\') (hcontrol : 32 ≤ c.toNat) :
    CharSpells c [c]
  | escape {c e : Char} (h : (c, e) ∈ escapes) : CharSpells c ['\\', e]
  | unit {c : Char} {ds : List Char} (h : IsUnit c.toNat ds) : CharSpells c ('\\' :: 'u' :: ds)
  /-- The number of a character beyond the first plane, less that plane, has twenty bits, ten for
  each surrogate. -/
  | pair {c : Char} {ds ds' : List Char} (hplane : 0x10000 ≤ c.toNat)
    (hhigh : IsUnit (0xD800 + (c.toNat - 0x10000) / 0x400) ds)
    (hlow : IsUnit (0xDC00 + (c.toNat - 0x10000) % 0x400) ds') :
    CharSpells c ('\\' :: 'u' :: (ds ++ '\\' :: 'u' :: ds'))

/-- The ways to write a text between quotes. -/
inductive Spells : List Char → List Char → Prop where
  | nil : Spells [] []
  | cons {c : Char} {text written body : List Char} (hc : CharSpells c written)
    (htext : Spells text body) : Spells (c :: text) (written ++ body)

/-- A string of a JSON text, quotes included, and what it stands for. -/
def IsString (s : String) (text : List Char) : Prop :=
  ∃ body, Spells s.toList body ∧ text = '"' :: (body ++ ['"'])

/-! ### Reading -/

theorem readString?_unit {n : Nat} {ds : List Char} (h : IsUnit n ds) (rest : List Char) :
    readString? (.unit 3 0 none) (ds ++ rest) =
      if isHighSurrogate n then readString? (.pair n false) rest
      else if isLowSurrogate n then none
      else (readString? .plain rest).map fun r => (Char.ofNat n :: r.1, r.2) := by
  obtain ⟨a, b, c, d, i, j, k, l, rfl, hi, hj, hk, hl, rfl⟩ := h.exists_digits
  simp only [List.cons_append, List.nil_append, readString?, hi, hj, hk, hl]

theorem readString?_unit_of_pair {n : Nat} {ds : List Char} (h : IsUnit n ds)
    (hlow : isLowSurrogate n = true) (high : Nat) (rest : List Char) :
    readString? (.unit 3 0 (some high)) (ds ++ rest) =
      (readString? .plain rest).map fun r => (joinSurrogates high n :: r.1, r.2) := by
  obtain ⟨a, b, c, d, i, j, k, l, rfl, hi, hj, hk, hl, rfl⟩ := h.exists_digits
  simp only [List.cons_append, List.nil_append, readString?, hi, hj, hk, hl, hlow, if_true]

theorem toNat_range (c : Char) : c.toNat < 0xD800 ∨ 0xDFFF < c.toNat ∧ c.toNat < 0x110000 :=
  c.valid

/-- A character is no half of a pair. -/
theorem not_isSurrogate (c : Char) :
    isHighSurrogate c.toNat = false ∧ isLowSurrogate c.toNat = false := by
  have hrange := toNat_range c
  simp only [isHighSurrogate, isLowSurrogate, decide_eq_false_iff_not]
  omega

theorem joinSurrogates_eq {c : Char} (h : 0x10000 ≤ c.toNat) :
    joinSurrogates (0xD800 + (c.toNat - 0x10000) / 0x400)
      (0xDC00 + (c.toNat - 0x10000) % 0x400) = c := by
  have hnumber : 0x10000 + (0xD800 + (c.toNat - 0x10000) / 0x400 - 0xD800) * 0x400 +
      (0xDC00 + (c.toNat - 0x10000) % 0x400 - 0xDC00) = c.toNat := by
    omega
  rw [joinSurrogates, hnumber, Char.ofNat_toNat]

/-- However a character is written, it is read as this character. -/
theorem readString?_of_charSpells {c : Char} {written : List Char} (h : CharSpells c written)
    (rest : List Char) :
    readString? .plain (written ++ rest) =
      (readString? .plain rest).map fun r => (c :: r.1, r.2) := by
  cases h with
  | plain hquote hbackslash hcontrol =>
    have hn : ¬ c.toNat < 32 := by omega
    simp [readString?, hquote, hbackslash, hn]
  | escape he =>
    obtain ⟨hu, hunescape⟩ := unescape?_of_mem_escapes he
    simp [readString?, hu, hunescape]
  | unit hds =>
    obtain ⟨hhigh, hlow⟩ := not_isSurrogate c
    have hunit := readString?_unit hds rest
    simpa [readString?, hhigh, hlow] using hunit
  | @pair ds ds' hplane hds hds' =>
    have hrange := toNat_range c
    have hhigh : isHighSurrogate (0xD800 + (c.toNat - 0x10000) / 0x400) = true := by
      simp only [isHighSurrogate, decide_eq_true_eq]
      omega
    have hlow : isLowSurrogate (0xDC00 + (c.toNat - 0x10000) % 0x400) = true := by
      simp only [isLowSurrogate, decide_eq_true_eq]
      omega
    have hfirst := readString?_unit hds ('\\' :: 'u' :: (ds' ++ rest))
    have hsecond := readString?_unit_of_pair hds' hlow (0xD800 + (c.toNat - 0x10000) / 0x400) rest
    rw [joinSurrogates_eq hplane] at hsecond
    simpa [readString?, hhigh, hsecond] using hfirst

/-- However a text is written, it is read as this text. -/
theorem readString?_of_spells {text body : List Char} (h : Spells text body) (rest : List Char) :
    readString? .plain (body ++ '"' :: rest) = some (text, rest) := by
  induction h with
  | nil => simp [readString?]
  | cons hc _ ih => rw [List.append_assoc, readString?_of_charSpells hc, ih, Option.map_some]

/-! ### Writing -/

/-- The digits of a control character without an escape of its own. -/
theorem isUnit_padLeft {n : Nat} (h : n < 32) :
    IsUnit n (Numeral.padLeft '0' 4 (Hex.digits n)) := by
  have hall : ∀ n < 32, IsUnit n (Numeral.padLeft '0' 4 (Hex.digits n)) := by decide
  exact hall n h

theorem charSpells_escapeChar (c : Char) : CharSpells c (escapeChar c) := by
  unfold escapeChar
  split
  iterate 7 exact .escape (by simp [escapes])
  split
  next hcontrol => exact .unit (isUnit_padLeft hcontrol)
  next hquote hbackslash _ _ _ _ _ hcontrol =>
    exact .plain hquote hbackslash (Nat.le_of_not_lt hcontrol)

/-- Escaping is one of the ways to write a text. -/
theorem spells_flatMap_escapeChar (text : List Char) : Spells text (text.flatMap escapeChar) := by
  induction text with
  | nil => exact .nil
  | cons c text ih => exact .cons (charSpells_escapeChar c) ih

theorem isString_encodeString (s : String) : IsString s (encodeString s.toList) :=
  ⟨_, spells_flatMap_escapeChar s.toList, rfl⟩

/-! ### Passing over -/

/-- The insides of strings: characters, escapes, and code units that need not make
characters. -/
inductive IsStringBody : List Char → Prop where
  | nil : IsStringBody []
  | plain {c : Char} {body : List Char} (hquote : c ≠ '"') (hbackslash : c ≠ '\\')
    (hcontrol : 32 ≤ c.toNat) (hbody : IsStringBody body) : IsStringBody (c :: body)
  | escape {c e : Char} {body : List Char} (h : (c, e) ∈ escapes) (hbody : IsStringBody body) :
    IsStringBody ('\\' :: e :: body)
  | unit {n : Nat} {ds body : List Char} (h : IsUnit n ds) (hbody : IsStringBody body) :
    IsStringBody ('\\' :: 'u' :: (ds ++ body))

theorem passString?_unit {n : Nat} {ds : List Char} (h : IsUnit n ds) (rest : List Char) :
    passString? (.unit 3 0 none) (ds ++ rest) = passString? .plain rest := by
  obtain ⟨a, b, c, d, i, j, k, l, rfl, hi, hj, hk, hl, -⟩ := h.exists_digits
  simp [passString?, Hex.isDigit, hi, hj, hk, hl]

theorem passString?_of_isStringBody {body : List Char} (h : IsStringBody body)
    (rest : List Char) : passString? .plain (body ++ '"' :: rest) = some rest := by
  induction h with
  | nil => simp [passString?]
  | @plain c _ hquote hbackslash hcontrol _ ih =>
    have hn : ¬ c.toNat < 32 := by omega
    simp [passString?, hquote, hbackslash, hn, ih]
  | escape he _ ih =>
    obtain ⟨hu, hunescape⟩ := unescape?_of_mem_escapes he
    simp [passString?, hu, hunescape, ih]
  | unit hds _ ih =>
    rw [List.cons_append, List.cons_append, List.append_assoc]
    simp [passString?, passString?_unit hds, ih]

/-! ## Numbers -/

/-- Decimal digits, at least one. -/
def IsDigits (ds : List Char) : Prop := ds ≠ [] ∧ ∀ c ∈ ds, c.isDigit = true

instance (ds : List Char) : Decidable (IsDigits ds) :=
  decidable_of_iff ((!ds.isEmpty && ds.all Char.isDigit) = true) (by simp [IsDigits])

/-- The digits before a decimal point.  A zero stands alone. -/
def IsWhole (ds : List Char) : Prop := IsDigits ds ∧ (ds.head? = some '0' → ds = ['0'])

/-- A decimal point and the digits after it, or nothing. -/
inductive IsFraction : List Char → Prop where
  | absent : IsFraction []
  | present {ds : List Char} (h : IsDigits ds) : IsFraction ('.' :: ds)

/-- An exponent, or nothing. -/
inductive IsExponent : List Char → Prop where
  | absent : IsExponent []
  | present {e : Char} {sign ds : List Char} (he : e = 'e' ∨ e = 'E')
    (hsign : sign = [] ∨ sign = ['+'] ∨ sign = ['-']) (h : IsDigits ds) :
    IsExponent (e :: (sign ++ ds))

/-- A number. -/
inductive IsNumeral : List Char → Prop where
  | intro {sign whole fraction exponent : List Char} (hsign : sign = [] ∨ sign = ['-'])
    (hwhole : IsWhole whole) (hfraction : IsFraction fraction)
    (hexponent : IsExponent exponent) :
    IsNumeral (sign ++ (whole ++ (fraction ++ exponent)))

/-- A text that is empty or begins with one of some characters. -/
def Opens (cs text : List Char) : Prop := ∀ c ∈ text.head?, c ∈ cs

/-- The characters that may follow a value. -/
def delimiters : List Char := [' ', '\t', '\n', '\r', ',', ']', '}']

/-- A text at whose beginning a value may end. -/
def EndsValue (text : List Char) : Prop := Opens delimiters text

theorem endsValue_cons {c : Char} (h : c ∈ delimiters) (text : List Char) :
    EndsValue (c :: text) := by
  simpa [EndsValue, Opens] using h

theorem mem_delimiters_of_isSpace {c : Char} (h : isSpace c = true) : c ∈ delimiters := by
  simp only [isSpace, Bool.or_eq_true, beq_iff_eq] at h
  rcases h with ((rfl | rfl) | rfl) | rfl <;> decide

theorem isSpace_eq_false {c : Char} (h : c ∉ delimiters) : isSpace c = false :=
  Bool.eq_false_iff.2 (mt mem_delimiters_of_isSpace h)

theorem EndsValue.append_left {blanks rest : List Char} (hblanks : Spaces blanks)
    (h : EndsValue rest) : EndsValue (blanks ++ rest) := by
  cases blanks with
  | nil => exact h
  | cons c blanks =>
    exact endsValue_cons (mem_delimiters_of_isSpace (hblanks c List.mem_cons_self)) _

theorem Opens.stopsDigits {cs text : List Char} (h : Opens cs text)
    (hcs : cs.any Char.isDigit = false) : StopsDigits text :=
  fun c hc => Bool.eq_false_iff.2 (List.any_eq_false.1 hcs c (h c hc))

theorem IsFraction.opens {fraction rest cs : List Char} (h : IsFraction fraction)
    (hrest : Opens cs rest) : Opens ('.' :: cs) (fraction ++ rest) := by
  cases h with
  | absent => exact fun c hc => List.mem_cons_of_mem _ (hrest c hc)
  | present => simp [Opens]

theorem IsExponent.opens {exponent rest cs : List Char} (h : IsExponent exponent)
    (hrest : Opens cs rest) : Opens ('e' :: 'E' :: cs) (exponent ++ rest) := by
  cases h with
  | absent => exact fun c hc => List.mem_cons_of_mem _ (List.mem_cons_of_mem _ (hrest c hc))
  | present he => rcases he with rfl | rfl <;> simp [Opens]

theorem IsDigits.takeDigits? {ds rest : List Char} (h : IsDigits ds) (hrest : StopsDigits rest) :
    takeDigits? (ds ++ rest).length (ds ++ rest) = some (ds, rest) :=
  takeDigits?_append h.1 h.2 (by simp) (.inr hrest)

theorem IsDigits.exists_cons {ds : List Char} (h : IsDigits ds) :
    ∃ c cs, ds = c :: cs ∧ c.isDigit = true := by
  cases ds with
  | nil => exact absurd rfl h.1
  | cons c cs => exact ⟨c, cs, rfl, h.2 c List.mem_cons_self⟩

theorem readWhole?_of_isWhole {whole rest : List Char} (h : IsWhole whole)
    (hrest : StopsDigits rest) : readWhole? (whole ++ rest) = some (whole, rest) := by
  rw [readWhole?, h.1.takeDigits? hrest]
  by_cases hzero : whole.head? = some '0'
  · simp [h.2 hzero]
  · simp [hzero]

theorem readFraction?_of_isFraction {fraction rest : List Char} (h : IsFraction fraction)
    (hrest : Opens ('e' :: 'E' :: delimiters) rest) :
    ∃ ds?, readFraction? (fraction ++ rest) = some (ds?, rest) := by
  cases h with
  | absent =>
    refine ⟨none, ?_⟩
    rw [List.nil_append, readFraction?]
    rintro text rfl
    exact absurd (hrest '.' rfl) (by decide)
  | @present ds hds =>
    refine ⟨some ds, ?_⟩
    rw [List.cons_append, readFraction?, hds.takeDigits? (hrest.stopsDigits (by decide))]
    rfl

theorem readExponent?_of_isExponent {exponent rest : List Char} (h : IsExponent exponent)
    (hrest : EndsValue rest) : ∃ n?, readExponent? (exponent ++ rest) = some (n?, rest) := by
  cases h with
  | absent =>
    refine ⟨none, ?_⟩
    cases rest with
    | nil => rfl
    | cons c rest =>
      have hc : ¬ (c = 'e' ∨ c = 'E') := by
        rintro (rfl | rfl) <;> exact absurd (hrest _ rfl) (by decide)
      simp [readExponent?, hc]
  | @present e sign ds he hsign hds =>
    have htake : ∃ read, takeDigits? (ds ++ rest).length (ds ++ rest) = some (read, rest) :=
      ⟨ds, hds.takeDigits? (hrest.stopsDigits (by decide))⟩
    rcases hsign with rfl | rfl | rfl
    · obtain ⟨c, cs, rfl, hc⟩ := hds.exists_cons
      have hplus : c ≠ '+' := by rintro rfl; cases hc
      have hminus : c ≠ '-' := by rintro rfl; cases hc
      simpa [readExponent?, he, hplus, hminus] using htake
    · simpa [readExponent?, he] using htake
    · simpa [readExponent?, he] using htake

theorem readNumeral?_of_isNumeral {text rest : List Char} (h : IsNumeral text)
    (hrest : EndsValue rest) : ∃ n, readNumeral? (text ++ rest) = some (n, rest) := by
  obtain ⟨hsign, hwhole, hfraction, hexponent⟩ := h
  have hafter := hexponent.opens hrest
  obtain ⟨n?, hn⟩ := readExponent?_of_isExponent hexponent hrest
  obtain ⟨ds?, hds⟩ := readFraction?_of_isFraction hfraction hafter
  have hw := readWhole?_of_isWhole hwhole ((hfraction.opens hafter).stopsDigits (by decide))
  rcases hsign with rfl | rfl
  · obtain ⟨c, cs, rfl, hc⟩ := hwhole.1.exists_cons
    have hminus : c ≠ '-' := by rintro rfl; cases hc
    simp only [List.cons_append] at hw
    simp [readNumeral?, hminus, hw, hds, hn]
  · simp [readNumeral?, hw, hds, hn]

/-- A number begins with a digit or with a sign, and so neither like another value nor with a
character that may follow a value. -/
theorem IsNumeral.exists_cons {text : List Char} (h : IsNumeral text) :
    ∃ c cs, text = c :: cs ∧ c ∉ delimiters ++ ['"', 'n', 't', 'f', '[', '{'] := by
  have hother : (delimiters ++ ['"', 'n', 't', 'f', '[', '{']).any Char.isDigit = false := by
    decide
  obtain ⟨rfl | rfl, hwhole, -, -⟩ := h
  · obtain ⟨c, cs, rfl, hc⟩ := hwhole.1.exists_cons
    exact ⟨c, _, rfl, fun hmem => List.any_eq_false.1 hother c hmem hc⟩
  · exact ⟨'-', _, rfl, by decide⟩

/-! ## Values -/

/-- The parts of a JSON text that are made of other parts. -/
inductive Phrase where
  | value
  /-- A value with the blanks around it. -/
  | element
  /-- A key and an element. -/
  | member
  | elements
  | members
  deriving DecidableEq, Repr

/-- The grammar of values. -/
inductive IsPhrase : Phrase → List Char → Prop where
  | null : IsPhrase .value ['n', 'u', 'l', 'l']
  | true : IsPhrase .value ['t', 'r', 'u', 'e']
  | false : IsPhrase .value ['f', 'a', 'l', 's', 'e']
  | number {t : List Char} (h : IsNumeral t) : IsPhrase .value t
  | string {body : List Char} (h : IsStringBody body) : IsPhrase .value ('"' :: (body ++ ['"']))
  | emptyArray {a : List Char} (h : Spaces a) : IsPhrase .value ('[' :: (a ++ [']']))
  | array {t : List Char} (h : IsPhrase .elements t) : IsPhrase .value ('[' :: (t ++ [']']))
  | emptyObject {a : List Char} (h : Spaces a) : IsPhrase .value ('{' :: (a ++ ['}']))
  | object {t : List Char} (h : IsPhrase .members t) : IsPhrase .value ('{' :: (t ++ ['}']))
  | element {a t b : List Char} (ha : Spaces a) (h : IsPhrase .value t) (hb : Spaces b) :
    IsPhrase .element (a ++ (t ++ b))
  | member {a key b t : List Char} (ha : Spaces a) (hkey : IsStringBody key) (hb : Spaces b)
    (h : IsPhrase .element t) : IsPhrase .member (a ++ '"' :: (key ++ '"' :: (b ++ ':' :: t)))
  | lastElement {t : List Char} (h : IsPhrase .element t) : IsPhrase .elements t
  | moreElements {t u : List Char} (h : IsPhrase .element t) (hu : IsPhrase .elements u) :
    IsPhrase .elements (t ++ ',' :: u)
  | lastMember {t : List Char} (h : IsPhrase .member t) : IsPhrase .members t
  | moreMembers {t u : List Char} (h : IsPhrase .member t) (hu : IsPhrase .members u) :
    IsPhrase .members (t ++ ',' :: u)

/-- No part begins like the end of an array or of an object. -/
theorem IsPhrase.exists_skipSpace_eq {p : Phrase} {t : List Char} (h : IsPhrase p t)
    (rest : List Char) :
    ∃ c cs, skipSpace (t ++ rest) = c :: cs ∧ c ≠ ']' ∧ c ≠ '}' := by
  induction h generalizing rest with
  | null | true | false | string | emptyArray | array | emptyObject | object =>
    exact ⟨_, _, skipSpace_cons (by decide) _, by decide, by decide⟩
  | number hn =>
    obtain ⟨c, cs, rfl, hc⟩ := hn.exists_cons
    have hspace := isSpace_eq_false fun h => hc (List.mem_append_left _ h)
    refine ⟨c, _, skipSpace_cons hspace _, ?_, ?_⟩ <;> rintro rfl <;> exact hc (by decide)
  | element ha _ _ ih =>
    rw [List.append_assoc, skipSpace_append ha, List.append_assoc]
    exact ih _
  | member ha _ _ _ _ =>
    rw [List.append_assoc]
    exact ⟨_, _, skipSpace_append_cons ha (by decide) _, by decide, by decide⟩
  | lastElement _ ih | lastMember _ ih => exact ih rest
  | moreElements _ _ ih _ | moreMembers _ _ ih _ =>
    rw [List.append_assoc]
    exact ih _

/-! ### Passing over -/

@[simp]
theorem passValueFor?_skipSpace (fuel : Nat) (text : List Char) :
    passValueFor? fuel (skipSpace text) = passValueFor? fuel text := by
  cases fuel with
  | zero => simp [passValueFor?]
  | succ fuel => simp only [passValueFor?, skipSpace_skipSpace]

@[simp]
theorem passElementsFor?_skipSpace (fuel : Nat) (text : List Char) :
    passElementsFor? fuel (skipSpace text) = passElementsFor? fuel text := by
  cases fuel with
  | zero => simp [passElementsFor?]
  | succ fuel => simp only [passElementsFor?, passValueFor?_skipSpace]

@[simp]
theorem passMembersFor?_skipSpace (fuel : Nat) (text : List Char) :
    passMembersFor? fuel (skipSpace text) = passMembersFor? fuel text := by
  cases fuel with
  | zero => simp [passMembersFor?]
  | succ fuel => simp only [passMembersFor?, skipSpace_skipSpace]

theorem passValueFor?_append {blanks : List Char} (h : Spaces blanks) (fuel : Nat)
    (text : List Char) : passValueFor? fuel (blanks ++ text) = passValueFor? fuel text := by
  rw [← passValueFor?_skipSpace, skipSpace_append h, passValueFor?_skipSpace]

/-- What it means for each kind of part to be passed over, whatever follows it.  Two steps for
each character are enough.  Elements and members need one more, as the bracket before them
belongs to the value around them. -/
def Passes : Phrase → List Char → Prop
  | .value, t => ∀ fuel rest, EndsValue rest → 2 * t.length ≤ fuel →
    passValueFor? fuel (t ++ rest) = some rest
  | .element, t => ∀ fuel rest, ∀ c ∈ [',', ']', '}'], 2 * t.length ≤ fuel →
    (passValueFor? fuel (t ++ c :: rest)).map skipSpace = some (c :: rest)
  | .member, t => ∀ fuel rest, 2 * t.length ≤ fuel →
    passMembersFor? (fuel + 1) (t ++ '}' :: rest) = some rest ∧
      passMembersFor? (fuel + 1) (t ++ ',' :: rest) = passMembersFor? fuel rest
  | .elements, t => ∀ fuel rest, 2 * t.length < fuel →
    passElementsFor? fuel (t ++ ']' :: rest) = some rest
  | .members, t => ∀ fuel rest, 2 * t.length < fuel →
    passMembersFor? fuel (t ++ '}' :: rest) = some rest

theorem passes_scalar {c : Char} {t : List Char} (hspace : isSpace c = false)
    (harray : c ≠ '[') (hobject : c ≠ '{')
    (h : ∀ rest, EndsValue rest → passScalar? (c :: (t ++ rest)) = some rest) :
    Passes .value (c :: t) := by
  intro fuel rest hrest hfuel
  cases fuel with
  | zero => simp at hfuel
  | succ fuel => simp [passValueFor?, skipSpace_cons hspace, harray, hobject, h rest hrest]

theorem passes_number {t : List Char} (h : IsNumeral t) : Passes .value t := by
  obtain ⟨c, cs, rfl, hc⟩ := h.exists_cons
  simp only [List.mem_append, List.mem_cons, List.not_mem_nil, or_false, not_or] at hc
  obtain ⟨hdelimiter, hquote, hn, ht, hf, harray, hobject⟩ := hc
  refine passes_scalar (isSpace_eq_false hdelimiter) harray hobject fun rest hrest => ?_
  obtain ⟨n, hread⟩ := readNumeral?_of_isNumeral h hrest
  rw [List.cons_append] at hread
  simp [passScalar?, hquote, hn, ht, hf, hread]

theorem passes_string {body : List Char} (h : IsStringBody body) :
    Passes .value ('"' :: (body ++ ['"'])) := by
  refine passes_scalar (by decide) (by decide) (by decide) fun rest _ => ?_
  simpa [passScalar?] using passString?_of_isStringBody h rest

theorem passes_emptyArray {a : List Char} (h : Spaces a) : Passes .value ('[' :: (a ++ [']'])) := by
  intro fuel rest _ hfuel
  cases fuel with
  | zero => simp at hfuel
  | succ fuel => simp [passValueFor?, skipSpace_cons, isSpace, skipSpace_append h]

theorem passes_emptyObject {a : List Char} (h : Spaces a) :
    Passes .value ('{' :: (a ++ ['}'])) := by
  intro fuel rest _ hfuel
  cases fuel with
  | zero => simp at hfuel
  | succ fuel => simp [passValueFor?, skipSpace_cons, isSpace, skipSpace_append h]

theorem passes_array {t : List Char} (h : IsPhrase .elements t) (ih : Passes .elements t) :
    Passes .value ('[' :: (t ++ [']'])) := by
  intro fuel rest _ hfuel
  cases fuel with
  | zero => simp at hfuel
  | succ fuel =>
    obtain ⟨c, cs, hskip, hc, -⟩ := h.exists_skipSpace_eq (']' :: rest)
    have hpass := ih fuel rest (by simp at hfuel; omega)
    rw [← passElementsFor?_skipSpace, hskip] at hpass
    simp [passValueFor?, skipSpace_cons, isSpace, hskip, hc, hpass]

theorem passes_object {t : List Char} (h : IsPhrase .members t) (ih : Passes .members t) :
    Passes .value ('{' :: (t ++ ['}'])) := by
  intro fuel rest _ hfuel
  cases fuel with
  | zero => simp at hfuel
  | succ fuel =>
    obtain ⟨c, cs, hskip, -, hc⟩ := h.exists_skipSpace_eq ('}' :: rest)
    have hpass := ih fuel rest (by simp at hfuel; omega)
    rw [← passMembersFor?_skipSpace, hskip] at hpass
    simp [passValueFor?, skipSpace_cons, isSpace, hskip, hc, hpass]

theorem passes_element {a t b : List Char} (ha : Spaces a) (ih : Passes .value t)
    (hb : Spaces b) : Passes .element (a ++ (t ++ b)) := by
  intro fuel rest c hc hfuel
  obtain ⟨hdelimiter, hspace⟩ : c ∈ delimiters ∧ isSpace c = false := by
    simp only [List.mem_cons, List.not_mem_nil, or_false] at hc
    rcases hc with rfl | rfl | rfl <;> decide
  have hpass := ih fuel (b ++ c :: rest) ((endsValue_cons hdelimiter rest).append_left hb)
    (by simp at hfuel; omega)
  rw [List.append_assoc, passValueFor?_append ha, List.append_assoc, hpass, Option.map_some,
    skipSpace_append_cons hb hspace]

theorem passes_lastElement {t : List Char} (ih : Passes .element t) : Passes .elements t := by
  intro fuel rest hfuel
  cases fuel with
  | zero => omega
  | succ fuel =>
    obtain ⟨next, hnext, hskip⟩ :=
      Option.map_eq_some_iff.1 (ih fuel rest ']' (by decide) (by omega))
    simp only [passElementsFor?, hnext, hskip]

theorem passes_moreElements {t u : List Char} (ih : Passes .element t)
    (ihu : Passes .elements u) : Passes .elements (t ++ ',' :: u) := by
  intro fuel rest hfuel
  cases fuel with
  | zero => omega
  | succ fuel =>
    rw [List.length_append, List.length_cons] at hfuel
    obtain ⟨next, hnext, hskip⟩ :=
      Option.map_eq_some_iff.1 (ih fuel (u ++ ']' :: rest) ',' (by decide) (by omega))
    rw [List.append_assoc, List.cons_append]
    simp only [passElementsFor?, hnext, hskip]
    exact ihu fuel rest (by omega)

theorem passes_member {a key b t : List Char} (ha : Spaces a) (hkey : IsStringBody key)
    (hb : Spaces b) (ih : Passes .element t) :
    Passes .member (a ++ '"' :: (key ++ '"' :: (b ++ ':' :: t))) := by
  intro fuel rest hfuel
  have hlength : 2 * t.length ≤ fuel := by simp at hfuel; omega
  have hquote := skipSpace_append_cons ha (by decide : isSpace '"' = false)
  have hcolon := skipSpace_append_cons hb (by decide : isSpace ':' = false)
  have hclose := ih fuel rest '}' (by decide) hlength
  have hgo := ih fuel rest ',' (by decide) hlength
  simp only [List.append_assoc, List.cons_append, passMembersFor?, hquote,
    passString?_of_isStringBody hkey, Option.map_some, hcolon, hclose, hgo, and_self]

theorem passes_lastMember {t : List Char} (ih : Passes .member t) : Passes .members t := by
  intro fuel rest hfuel
  cases fuel with
  | zero => omega
  | succ fuel => exact (ih fuel rest (by omega)).1

theorem passes_moreMembers {t u : List Char} (ih : Passes .member t) (ihu : Passes .members u) :
    Passes .members (t ++ ',' :: u) := by
  intro fuel rest hfuel
  cases fuel with
  | zero => omega
  | succ fuel =>
    rw [List.length_append, List.length_cons] at hfuel
    have hfirst := (ih fuel (u ++ '}' :: rest) (by omega)).2
    rw [List.append_assoc, List.cons_append, hfirst]
    exact ihu fuel rest (by omega)

/-- Every part of a JSON text is passed over, one case for each rule of the grammar. -/
theorem passes_of_isPhrase {p : Phrase} {t : List Char} (h : IsPhrase p t) : Passes p t := by
  induction h with
  | null | true | false =>
    exact passes_scalar (by decide) (by decide) (by decide) fun rest _ => by
      simp [passScalar?, dropWord?]
  | number h => exact passes_number h
  | string h => exact passes_string h
  | emptyArray h => exact passes_emptyArray h
  | array h ih => exact passes_array h ih
  | emptyObject h => exact passes_emptyObject h
  | object h ih => exact passes_object h ih
  | element ha _ hb ih => exact passes_element ha ih hb
  | member ha hkey hb _ ih => exact passes_member ha hkey hb ih
  | lastElement _ ih => exact passes_lastElement ih
  | moreElements _ _ ih ihu => exact passes_moreElements ih ihu
  | lastMember _ ih => exact passes_lastMember ih
  | moreMembers _ _ ih ihu => exact passes_moreMembers ih ihu

/-- A value is passed over up to its end, with the blanks before it. -/
theorem passValue?_of_isPhrase {a t rest : List Char} (ha : Spaces a) (h : IsPhrase .value t)
    (hrest : EndsValue rest) : passValue? (a ++ (t ++ rest)) = some rest := by
  rw [passValue?, passValueFor?_append ha]
  exact passes_of_isPhrase h _ rest hrest (by simp; omega)

end FilterQuery.Json
