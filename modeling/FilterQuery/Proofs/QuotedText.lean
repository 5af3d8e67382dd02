import FilterQuery.Text.Quoted

/-!
# Quoted text in front of other text

A printed query puts quoted texts in front of whatever comes next, and a text may
hold quotes and backslashes anywhere, its end included.  All the same a reader
finds the end of a quoted text and the text itself.

There are two groups.

* Spellings.  `Spells` is the format from the side of a reader: any character
  may stand behind a backslash, and the special ones have to.  The scanner takes
  exactly the spellings in quotes (`scan?_eq_some_iff`).
* Quoting.  What `escape` writes is a spelling (`spells_escape`), and none is
  shorter (`length_escape_le`).  So the scanner gets back a quoted text from the
  front of any other text, and no two quoted texts begin alike
  (`quote_prefixFree_and_decodable`).
-/

namespace FilterQuery.Text.Quoted

/-! ## Spellings -/

/-- The ways to write a text between quotes.  A backslash makes the character after
it stand for itself, whatever it is; without one only a character that is not
special does. -/
inductive Spells : List Char → List Char → Prop where
  | nil : Spells [] []
  | plain {c text body} (ordinary : isSpecial c = false) (rest : Spells text body) :
      Spells (c :: text) (c :: body)
  | escaped {c text body} (rest : Spells text body) : Spells (c :: text) ('\\' :: c :: body)

theorem isSpecial_eq_false_iff {c : Char} : isSpecial c = false ↔ c ≠ '"' ∧ c ≠ '\\' := by
  simp [isSpecial]

theorem scanBody?_quote (rest : List Char) : scanBody? ('"' :: rest) = some ([], rest) := by
  simp [scanBody?]

theorem scanBody?_escaped (c : Char) (rest : List Char) :
    scanBody? ('\\' :: c :: rest) = (scanBody? rest).map fun r => (c :: r.1, r.2) := by
  rw [scanBody?]

theorem scanBody?_plain {c : Char} (h : isSpecial c = false) (rest : List Char) :
    scanBody? (c :: rest) = (scanBody? rest).map fun r => (c :: r.1, r.2) := by
  obtain ⟨hquote, hbackslash⟩ := isSpecial_eq_false_iff.1 h
  simp [scanBody?, hquote, hbackslash]

/-- The scanner reads a spelling up to the quote that follows it. -/
theorem scanBody?_of_spells {text body : List Char} (h : Spells text body) (rest : List Char) :
    scanBody? (body ++ '"' :: rest) = some (text, rest) := by
  induction h with
  | nil => exact scanBody?_quote rest
  | plain ordinary _ ih => rw [List.cons_append, scanBody?_plain ordinary, ih, Option.map_some]
  | escaped _ ih =>
    rw [List.cons_append, List.cons_append, scanBody?_escaped, ih, Option.map_some]

/-- Whatever the scanner reads is a spelling with a quote after it. -/
theorem exists_spells_of_scanBody? {input text rest : List Char}
    (h : scanBody? input = some (text, rest)) :
    ∃ body, Spells text body ∧ input = body ++ '"' :: rest := by
  fun_induction scanBody? input generalizing text with
  | case1 | case2 => cases h
  | case3 c input ih =>
    obtain ⟨⟨text', rest'⟩, hscan, heq⟩ := Option.map_eq_some_iff.1 h
    cases heq
    obtain ⟨body, hbody, rfl⟩ := ih hscan
    exact ⟨'\\' :: c :: body, .escaped hbody, rfl⟩
  | case4 c input _ _ hquote =>
    cases h
    exact ⟨[], .nil, by rw [eq_of_beq hquote]; rfl⟩
  | case5 c input hlast hescaped hquote ih =>
    -- The rules for a backslash come first, whether or not a character follows it.
    have hbackslash : c ≠ '\\' := by
      rintro rfl
      cases input with
      | nil => exact hlast rfl rfl
      | cons c' input => exact hescaped c' input rfl rfl
    have hordinary := isSpecial_eq_false_iff.2 ⟨by simpa using hquote, hbackslash⟩
    obtain ⟨⟨text', rest'⟩, hscan, heq⟩ := Option.map_eq_some_iff.1 h
    cases heq
    obtain ⟨body, hbody, rfl⟩ := ih hscan
    exact ⟨c :: body, .plain hordinary hbody, rfl⟩

/-- The scanner takes a text from the front of the input exactly if the input is a
spelling of the text in quotes and then the rest. -/
theorem scan?_eq_some_iff {input text rest : List Char} :
    scan? input = some (text, rest) ↔
      ∃ body, Spells text body ∧ input = '"' :: (body ++ '"' :: rest) := by
  constructor
  · intro h
    rw [scan?.eq_def] at h
    split at h
    · obtain ⟨body, hbody, rfl⟩ := exists_spells_of_scanBody? h
      exact ⟨body, hbody, rfl⟩
    · cases h
  · rintro ⟨body, hbody, rfl⟩
    exact scanBody?_of_spells hbody rest

/-! ## Quoting -/

/-- An escaped text is a spelling of the text. -/
theorem spells_escape (text : List Char) : Spells text (escape text) := by
  induction text with
  | nil => exact .nil
  | cons c text ih =>
    rw [escape]
    cases hspecial : isSpecial c with
    | true => exact .escaped ih
    | false => exact .plain hspecial ih

/-- No spelling of a text is shorter. -/
theorem length_escape_le {text body : List Char} (h : Spells text body) :
    (escape text).length ≤ body.length := by
  induction h with
  | nil => exact Nat.le_refl 0
  | plain ordinary _ ih =>
    simp only [escape, ordinary, Bool.false_eq_true, if_false, List.length_cons]
    omega
  | escaped _ ih =>
    rw [escape]
    split <;> simp only [List.length_cons] <;> omega

theorem toList_quote_append (t s : String) :
    (quote t ++ s).toList = '"' :: (escape t.toList ++ '"' :: s.toList) := by
  simp [quote, encode]

theorem scan?_quote_append (t s : String) :
    scan? (quote t ++ s).toList = some (t.toList, s.toList) :=
  scan?_eq_some_iff.2 ⟨escape t.toList, spells_escape t.toList, toList_quote_append t s⟩

/-- Two quoted texts, each in front of another text, are the same only part by part. -/
theorem quote_append_eq_iff {t₁ t₂ s₁ s₂ : String} :
    quote t₁ ++ s₁ = quote t₂ ++ s₂ ↔ t₁ = t₂ ∧ s₁ = s₂ := by
  constructor
  · intro h
    have hscan : some (t₁.toList, s₁.toList) = some (t₂.toList, s₂.toList) := by
      rw [← scan?_quote_append, h, scan?_quote_append]
    obtain ⟨htext, hrest⟩ := Prod.mk.inj (Option.some.inj hscan)
    exact ⟨String.toList_inj.1 htext, String.toList_inj.1 hrest⟩
  · rintro ⟨rfl, rfl⟩
    rfl

/-- Nothing shorter is read as the text. -/
theorem length_quote_append_le {input t s : String}
    (h : scan? input.toList = some (t.toList, s.toList)) :
    (quote t ++ s).length ≤ input.length := by
  obtain ⟨body, hbody, hinput⟩ := scan?_eq_some_iff.1 h
  have hlength := length_escape_le hbody
  rw [← String.length_toList, ← String.length_toList, toList_quote_append, hinput]
  simp only [List.length_cons, List.length_append]
  omega

/-- Quoted texts are told from whatever follows them.  Two of them, each in front of another
text, agree only if they quote the same, and then so does what follows.  The scanner takes
exactly the spellings in quotes.  It gets back a quoted text and what follows it, and of all
that it reads in this way the quoted text is the shortest. -/
theorem quote_prefixFree_and_decodable :
    (∀ t₁ t₂ s₁ s₂ : String, quote t₁ ++ s₁ = quote t₂ ++ s₂ ↔ t₁ = t₂ ∧ s₁ = s₂) ∧
    (∀ t s : String, scan? (quote t ++ s).toList = some (t.toList, s.toList)) ∧
    (∀ input t s : String, scan? input.toList = some (t.toList, s.toList) →
      (quote t ++ s).length ≤ input.length) ∧
    (∀ input text rest, scan? input = some (text, rest) ↔
      ∃ body, Spells text body ∧ input = '"' :: (body ++ '"' :: rest)) := by
  refine ⟨?_, scan?_quote_append, ?_, ?_⟩
  · intro t₁ t₂ s₁ s₂
    exact quote_append_eq_iff
  · intro input t s h
    exact length_quote_append_le h
  · intro input text rest
    exact scan?_eq_some_iff

/-- The theorem at a text that begins with a quote and ends in a backslash, in front of a
quote, and at a spelling of it with a backslash that it can do without. -/
theorem quote_prefixFree_and_decodable_of_trailing_backslash :
    let t := "\"a\\"
    let s := "\" AND b"
    let spelled := "\"\\\"\\a\\\\\"\" AND b"
    quote t ++ s = "\"\\\"a\\\\\"\" AND b" ∧
      scan? (quote t ++ s).toList = some (t.toList, s.toList) ∧
      scan? spelled.toList = some (t.toList, s.toList) ∧ (quote t ++ s).length ≤ spelled.length ∧
      quote t ++ s ≠ spelled := by
  intro t s spelled
  obtain ⟨-, hscan, hshortest, -⟩ := quote_prefixFree_and_decodable
  have hspelled : scan? spelled.toList = some (t.toList, s.toList) := by decide +kernel
  exact ⟨by decide +kernel, hscan t s, hspelled, hshortest spelled t s hspelled,
    by decide +kernel⟩

end FilterQuery.Text.Quoted
