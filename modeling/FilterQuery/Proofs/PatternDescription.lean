import FilterQuery.DatePattern.Description

/-!
# Describing a pattern piece by piece

A pattern is described from left to right, and a `%` takes the character after it
along.  So a run of `%` decides how everything after it is paired.

There are three groups.

* Pieces.  `pieces` is the scan of a pattern.  It leaves nothing out
  (`flatMap_text_pieces`), and a pattern is described piece by piece
  (`describeChars_eq_flatMap`).
* Joined patterns.  They are scanned apart, and so described apart, exactly if
  the first one ends with no lone `%` (`pieces_append`,
  `exists_eq_append_of_lone_mem`).
* Descriptions against patterns.  A description has a `%` less for each
  directive with a spelling (`count_percent_flatMap`), which tells the patterns
  that stay as they are, and no piece gets more than twice as long
  (`Piece.utf8ByteSize_description_le`).
-/

namespace FilterQuery.DatePattern

/-! ## Pieces -/

/-- A piece of a pattern. -/
inductive Piece where
  /-- A character outside of directives. -/
  | plain (c : Char)
  /-- A `%` with the character after it. -/
  | directive (c : Char)
  /-- A `%` that nothing follows. -/
  | lone
  deriving DecidableEq

/-- The characters of a piece. -/
def Piece.text : Piece → List Char
  | plain c => [c]
  | directive c => ['%', c]
  | lone => ['%']

/-- What a piece is described as. -/
def Piece.description : Piece → List Char
  | plain c => [c]
  | directive c => describeDirective c
  | lone => ['%']

/-- The pieces of a pattern, from left to right. -/
def pieces : List Char → List Piece
  | [] => []
  | ['%'] => [.lone]
  | '%' :: c :: rest => .directive c :: pieces rest
  | c :: rest => .plain c :: pieces rest

/-- Induction along the scan of a pattern. -/
@[elab_as_elim]
theorem scan_induction {motive : List Char → Prop} (nil : motive []) (lone : motive ['%'])
    (directive : ∀ c rest, motive rest → motive ('%' :: c :: rest))
    (plain : ∀ c rest, c ≠ '%' → motive rest → motive (c :: rest)) (p : List Char) :
    motive p := by
  fun_induction pieces p with
  | case1 => exact nil
  | case2 => exact lone
  | case3 c rest ih => exact directive c rest ih
  | case4 c rest hlone hdirective ih =>
    refine plain c rest ?_ ih
    rintro rfl
    cases rest with
    | nil => exact hlone rfl rfl
    | cons c rest => exact hdirective c rest rfl rfl

theorem pieces_directive (c : Char) (rest : List Char) :
    pieces ('%' :: c :: rest) = .directive c :: pieces rest := by
  rw [pieces]

theorem pieces_plain {c : Char} (h : c ≠ '%') (rest : List Char) :
    pieces (c :: rest) = .plain c :: pieces rest := by
  simp [pieces, h]

theorem describeChars_plain {c : Char} (h : c ≠ '%') (rest : List Char) :
    describeChars (c :: rest) = c :: describeChars rest := by
  simp [describeChars, h]

theorem flatMap_text_pieces (p : List Char) : (pieces p).flatMap Piece.text = p := by
  induction p using scan_induction with
  | nil | lone => rfl
  | directive c rest ih =>
    rw [pieces_directive, List.flatMap_cons, ih]
    rfl
  | plain c rest h ih =>
    rw [pieces_plain h, List.flatMap_cons, ih]
    rfl

theorem describeChars_eq_flatMap (p : List Char) :
    describeChars p = (pieces p).flatMap Piece.description := by
  induction p using scan_induction with
  | nil | lone => rfl
  | directive c rest ih =>
    rw [pieces_directive, describeChars, List.flatMap_cons, ih]
    rfl
  | plain c rest h ih =>
    rw [pieces_plain h, describeChars_plain h, List.flatMap_cons, ih]
    rfl

/-! ## Joined patterns -/

/-- Behind a pattern with no lone `%` the scan starts anew. -/
theorem pieces_append {p : List Char} (h : .lone ∉ pieces p) (q : List Char) :
    pieces (p ++ q) = pieces p ++ pieces q := by
  induction p using scan_induction with
  | nil => rfl
  | lone => exact absurd List.mem_cons_self h
  | directive c rest ih =>
    rw [pieces_directive] at h
    rw [List.cons_append, List.cons_append, pieces_directive, pieces_directive,
      ih (List.not_mem_of_not_mem_cons h), List.cons_append]
  | plain c rest hc ih =>
    rw [pieces_plain hc] at h
    rw [List.cons_append, pieces_plain hc, pieces_plain hc,
      ih (List.not_mem_of_not_mem_cons h), List.cons_append]

theorem describeChars_append {p : List Char} (h : .lone ∉ pieces p) (q : List Char) :
    describeChars (p ++ q) = describeChars p ++ describeChars q := by
  rw [describeChars_eq_flatMap, pieces_append h, List.flatMap_append, ← describeChars_eq_flatMap,
    ← describeChars_eq_flatMap]

/-- A lone `%` is the end of the pattern. -/
theorem exists_eq_append_of_lone_mem {p : List Char} (h : .lone ∈ pieces p) :
    ∃ start, p = start ++ ['%'] ∧ .lone ∉ pieces start := by
  induction p using scan_induction with
  | nil => cases h
  | lone => exact ⟨[], rfl, List.not_mem_nil⟩
  | directive c rest ih =>
    rw [pieces_directive, List.mem_cons] at h
    obtain ⟨start, rfl, hstart⟩ := ih (h.resolve_left Piece.noConfusion)
    refine ⟨'%' :: c :: start, rfl, ?_⟩
    rw [pieces_directive]
    exact List.not_mem_cons_of_ne_of_not_mem Piece.noConfusion hstart
  | plain c rest hc ih =>
    rw [pieces_plain hc, List.mem_cons] at h
    obtain ⟨start, rfl, hstart⟩ := ih (h.resolve_left Piece.noConfusion)
    refine ⟨c :: start, rfl, ?_⟩
    rw [pieces_plain hc]
    exact List.not_mem_cons_of_ne_of_not_mem Piece.noConfusion hstart

/-- A lone `%` takes the first character of the next pattern along. -/
theorem describeChars_append_ne {p : List Char} (h : .lone ∈ pieces p) :
    describeChars (p ++ ['Y']) ≠ describeChars p ++ describeChars ['Y'] := by
  obtain ⟨start, rfl, hstart⟩ := exists_eq_append_of_lone_mem h
  rw [List.append_assoc, describeChars_append hstart, describeChars_append hstart,
    List.append_assoc]
  intro heq
  -- Behind `start` it is `YYYY` against `%Y`.
  exact absurd (List.append_cancel_left heq) (by decide)

/-! ## Descriptions against patterns -/

/-- The directives with a spelling. -/
def spelled : List Char := ['Y', 'y', 'm', 'd', 'H', 'M', 'S', '%']

theorem describeDirective_of_not_mem {c : Char} (h : c ∉ spelled) :
    describeDirective c = ['%', c] := by
  simp only [spelled, List.mem_cons, List.not_mem_nil, or_false, not_or] at h
  obtain ⟨hY, hy, hm, hd, hH, hM, hS, hpercent⟩ := h
  simp [describeDirective]

/-- A spelling has a `%` less than the directive and is at most twice as long. -/
theorem describeDirective_of_mem {c : Char} (h : c ∈ spelled) :
    ['%', c].count '%' = (describeDirective c).count '%' + 1 ∧
      (String.ofList (describeDirective c)).utf8ByteSize ≤
        2 * (String.ofList ['%', c]).utf8ByteSize := by
  simp only [spelled, List.mem_cons, List.not_mem_nil, or_false] at h
  rcases h with rfl | rfl | rfl | rfl | rfl | rfl | rfl | rfl <;> decide

/-- Whether a piece is a directive with a spelling. -/
def Piece.isSpelled : Piece → Bool
  | directive c => spelled.contains c
  | _ => false

theorem Piece.count_percent_eq (x : Piece) :
    x.text.count '%' = x.description.count '%' + if x.isSpelled then 1 else 0 := by
  cases x with
  | plain | lone => rfl
  | directive c =>
    by_cases h : c ∈ spelled
    · rw [text, description, isSpelled, (describeDirective_of_mem h).1,
        if_pos (List.contains_iff_mem.2 h)]
    · simp [text, description, isSpelled, describeDirective_of_not_mem h, h]

/-- A description has a `%` less for each directive with a spelling. -/
theorem count_percent_flatMap (xs : List Piece) :
    (xs.flatMap Piece.text).count '%' =
      (xs.flatMap Piece.description).count '%' + xs.countP Piece.isSpelled := by
  induction xs with
  | nil => rfl
  | cons x xs ih =>
    rw [List.flatMap_cons, List.flatMap_cons, List.count_append, List.count_append, ih,
      List.countP_cons, x.count_percent_eq]
    omega

/-- A pattern is its own description exactly if no directive of it has a spelling.
Otherwise a `%` is missing. -/
theorem describeChars_eq_self_iff {p : List Char} :
    describeChars p = p ↔ ∀ c ∈ spelled, .directive c ∉ pieces p := by
  constructor
  · intro h c hc hmem
    have hcount := count_percent_flatMap (pieces p)
    rw [flatMap_text_pieces, ← describeChars_eq_flatMap, h] at hcount
    have hnone : (pieces p).countP Piece.isSpelled = 0 := by omega
    exact List.countP_eq_zero.1 hnone _ hmem (List.contains_iff_mem.2 hc)
  · intro h
    have hsame : ∀ x ∈ pieces p, x.description = x.text := by
      intro x hx
      cases x with
      | plain | lone => rfl
      | directive c => exact describeDirective_of_not_mem fun hc => h c hc hx
    calc
      describeChars p = (pieces p).flatMap Piece.description := describeChars_eq_flatMap p
      _ = (pieces p).flatMap Piece.text := by
        rw [List.flatMap_def, List.flatMap_def, List.map_congr_left hsame]
      _ = p := flatMap_text_pieces p

/-- A piece gets at most twice as long. -/
theorem Piece.utf8ByteSize_description_le (x : Piece) :
    (String.ofList x.description).utf8ByteSize ≤ 2 * (String.ofList x.text).utf8ByteSize := by
  cases x with
  | plain | lone => exact Nat.le_mul_of_pos_left _ Nat.two_pos
  | directive c =>
    by_cases h : c ∈ spelled
    · exact (describeDirective_of_mem h).2
    · rw [description, text, describeDirective_of_not_mem h]
      exact Nat.le_mul_of_pos_left _ Nat.two_pos

theorem utf8ByteSize_flatMap_description_le (xs : List Piece) :
    (String.ofList (xs.flatMap Piece.description)).utf8ByteSize ≤
      2 * (String.ofList (xs.flatMap Piece.text)).utf8ByteSize := by
  induction xs with
  | nil => decide
  | cons x xs ih =>
    rw [List.flatMap_cons, List.flatMap_cons, String.ofList_append, String.ofList_append,
      String.utf8ByteSize_append, String.utf8ByteSize_append]
    have hx := x.utf8ByteSize_description_le
    omega

theorem toList_describe (p : String) : (describe p).toList = describeChars p.toList := by
  rw [describe, String.toList_ofList]

/-- Patterns are described piece by piece.  A pattern is described apart from every pattern
that follows it exactly if it ends with no lone `%`; it is its own description exactly if
none of its directives has a spelling; and its description has at most twice as many
bytes. -/
theorem describe_piece_by_piece (p : String) :
    ((∀ q, describe (p ++ q) = describe p ++ describe q) ↔ .lone ∉ pieces p.toList) ∧
    (describe p = p ↔ ∀ c ∈ spelled, .directive c ∉ pieces p.toList) ∧
    (describe p).utf8ByteSize ≤ 2 * p.utf8ByteSize := by
  refine ⟨⟨?_, ?_⟩, ?_, ?_⟩
  · intro h hlone
    apply describeChars_append_ne hlone
    simpa [toList_describe] using congrArg String.toList (h "Y")
  · intro h q
    rw [← String.toList_inj, String.toList_append, toList_describe, toList_describe,
      toList_describe, String.toList_append, describeChars_append h]
  · rw [← String.toList_inj, toList_describe, describeChars_eq_self_iff]
  · have hsize := utf8ByteSize_flatMap_description_le (pieces p.toList)
    rwa [flatMap_text_pieces, ← describeChars_eq_flatMap, String.ofList_toList] at hsize

/-- The theorem at a run of `%` in front of another pattern, at a pattern of directives
without spellings and a lone `%`, and at the directive for which twice as long is needed. -/
theorem describe_piece_by_piece_of_percent_runs :
    let p := "%%%Y"
    let q := "%d é%"
    let verbatim := "%-d %.f %日%"
    .lone ∉ pieces p.toList ∧ describe (p ++ q) = describe p ++ describe q ∧
      describe (p ++ q) = "%YYYYDD é%" ∧
      .directive '日' ∈ pieces verbatim.toList ∧ .lone ∈ pieces verbatim.toList ∧
      describe verbatim = verbatim ∧
      (describe "%Y").utf8ByteSize ≤ 2 * "%Y".utf8ByteSize ∧
      (describe "%Y").utf8ByteSize = 4 := by
  intro p q verbatim
  have hlone : .lone ∉ pieces p.toList := by decide +kernel
  have hspelled : ∀ c ∈ spelled, .directive c ∉ pieces verbatim.toList := by
    have hall : spelled.all fun c => !(pieces verbatim.toList).contains (.directive c) := by
      decide +kernel
    simpa using hall
  exact ⟨hlone, (describe_piece_by_piece p).1.2 hlone q, by decide +kernel, by decide +kernel,
    by decide +kernel, (describe_piece_by_piece verbatim).2.1.2 hspelled,
    (describe_piece_by_piece "%Y").2.2, by decide +kernel⟩

end FilterQuery.DatePattern
