import FilterQuery.Proofs.JsonGrammar
import FilterQuery.Settings.Json

/-!
# Settings are read back from their text

Settings are read from every JSON object that gives each of the two patterns
at most once, as a string.  It does not matter in which order the members
stand, where there are blanks, which escapes the strings and keys use, and what
the values of other members are.  The text that settings are written as is such
an object, so that they are read back.

There are three groups.

* Objects.  `IsObject` is an object with its members, in their order.
* Members.  `Takes` is all that a member can do to what is known of the
  patterns, and `readMember_of_takes` that reading it does the same.
  `Completes` says what all members together make of it, and
  `Completes.exists_takes` that their first one is a step on this way.  A run
  over the members follows by induction (`readMembersFor_of_isMembers`).
* Texts.  `decode_of_isObject` reads a whole text, and `isObject_encode` says
  that writing gives one.
-/

namespace FilterQuery

/-! ## Objects -/

namespace Json

/-- A member of an object: the blanks before it, its key, a colon between blanks, the text of its
value, and the blanks after it. -/
inductive IsMember : String → List Char → List Char → Prop where
  | intro {key : String} {value a body b c d : List Char} (ha : Spaces a)
    (hkey : Spells key.toList body) (hb : Spaces b) (hc : Spaces c) (hd : Spaces d) :
    IsMember key value (a ++ '"' :: (body ++ '"' :: (b ++ ':' :: (c ++ (value ++ d)))))

/-- Members with commas between them. -/
inductive IsMembers : List (String × List Char) → List Char → Prop where
  | last {key : String} {value t : List Char} (h : IsMember key value t) :
    IsMembers [(key, value)] t
  | more {key : String} {value t u : List Char} {members : List (String × List Char)}
    (h : IsMember key value t) (hu : IsMembers members u) :
    IsMembers ((key, value) :: members) (t ++ ',' :: u)

/-- An object, between blanks. -/
inductive IsObject : List (String × List Char) → List Char → Prop where
  | empty {a b c : List Char} (ha : Spaces a) (hb : Spaces b) (hc : Spaces c) :
    IsObject [] (a ++ '{' :: (b ++ '}' :: c))
  | members {a t c : List Char} {members : List (String × List Char)} (ha : Spaces a)
    (h : IsMembers members t) (hc : Spaces c) : IsObject members (a ++ '{' :: (t ++ '}' :: c))

/-- The texts of the values that a key has. -/
def values (key : String) (members : List (String × List Char)) : List (List Char) :=
  (members.filter fun m => m.1 = key).map Prod.snd

theorem values_cons_self (key : String) (value : List Char) (members : List (String × List Char)) :
    values key ((key, value) :: members) = value :: values key members := by
  simp [values]

theorem values_cons_of_ne {key other : String} (h : other ≠ key) (value : List Char)
    (members : List (String × List Char)) :
    values key ((other, value) :: members) = values key members := by
  simp [values, h]

/-- The blanks before a key are skipped. -/
theorem IsMember.exists_skipSpace_eq {key : String} {value t : List Char}
    (h : IsMember key value t) :
    ∃ u, IsMember key value ('"' :: u) ∧ ∀ rest, skipSpace (t ++ rest) = '"' :: (u ++ rest) := by
  obtain ⟨ha, hkey, hb, hc, hd⟩ := h
  refine ⟨_, .intro spaces_nil hkey hb hc hd, fun rest => ?_⟩
  rw [List.append_assoc]
  exact skipSpace_append_cons ha (by decide) _

theorem IsMembers.exists_skipSpace_eq {members : List (String × List Char)} {t : List Char}
    (h : IsMembers members t) :
    ∃ u, IsMembers members ('"' :: u) ∧ ∀ rest, skipSpace (t ++ rest) = '"' :: (u ++ rest) := by
  cases h with
  | last h =>
    obtain ⟨u, hu, hskip⟩ := h.exists_skipSpace_eq
    exact ⟨u, .last hu, hskip⟩
  | @more _ _ t v _ h hv =>
    obtain ⟨u, hu, hskip⟩ := h.exists_skipSpace_eq
    refine ⟨u ++ ',' :: v, .more hu hv, fun rest => ?_⟩
    rw [List.append_assoc, hskip, List.append_assoc]

end Json

namespace Settings

open Json

/-! ## Members -/

/-- What the values of a key make of the pattern that is known for it: no value leaves it as it
is, and a string gives it where there was none. -/
inductive Settles : Option String → List (List Char) → Option String → Prop where
  | keep (known? : Option String) : Settles known? [] known?
  | learn {s : String} {value : List Char} (h : IsString s value) : Settles none [value] (some s)

/-- What members make of the patterns that are known before them. -/
structure Completes (m : Members) (members : List (String × List Char)) (found : Members) :
    Prop where
  date : Settles m.date? (values dateKey members) found.date?
  dateTime : Settles m.dateTime? (values dateTimeKey members) found.dateTime?
  /-- The value of any other key is any value. -/
  other : ∀ p ∈ members, p.1 ≠ dateKey → p.1 ≠ dateTimeKey → IsPhrase .value p.2

/-- What one member makes of the patterns that are known before it. -/
inductive Takes : Members → String → List Char → Members → Prop where
  | date {m : Members} {s : String} {value : List Char} (hnew : m.date? = none)
    (h : IsString s value) : Takes m dateKey value { m with date? := some s }
  | dateTime {m : Members} {s : String} {value : List Char} (hnew : m.dateTime? = none)
    (h : IsString s value) : Takes m dateTimeKey value { m with dateTime? := some s }
  | other {m : Members} {key : String} {value : List Char} (hdate : key ≠ dateKey)
    (hdateTime : key ≠ dateTimeKey) (h : IsPhrase .value value) : Takes m key value m

theorem dateKey_ne_dateTimeKey : dateKey ≠ dateTimeKey := by decide

theorem Settles.exists_isString {known? found? : Option String} {value : List Char}
    {others : List (List Char)} (h : Settles known? (value :: others) found?) :
    ∃ s, IsString s value ∧ known? = none ∧ others = [] ∧ found? = some s := by
  cases h with
  | learn h => exact ⟨_, h, rfl, rfl, rfl⟩

theorem Completes.eq_of_nil {m found : Members} (h : Completes m [] found) : found = m := by
  obtain ⟨hdate, hdateTime, -⟩ := h
  obtain ⟨date?, dateTime?⟩ := found
  obtain ⟨known?, knownTime?⟩ := m
  cases hdate
  cases hdateTime
  rfl

/-- The first member is a step, and the others go on from there. -/
theorem Completes.exists_takes {m found : Members} {key : String} {value : List Char}
    {members : List (String × List Char)} (h : Completes m ((key, value) :: members) found) :
    ∃ next, Takes m key value next ∧ Completes next members found := by
  have hother : ∀ p ∈ members, p.1 ≠ dateKey → p.1 ≠ dateTimeKey → IsPhrase .value p.2 :=
    fun p hp => h.other p (List.mem_cons_of_mem _ hp)
  have hdate := h.date
  have hdateTime := h.dateTime
  by_cases hkey : key = dateKey
  · subst hkey
    rw [values_cons_self] at hdate
    rw [values_cons_of_ne dateKey_ne_dateTimeKey] at hdateTime
    obtain ⟨s, hs, hnew, hothers, hfound⟩ := hdate.exists_isString
    exact ⟨_, .date hnew hs, by rw [hothers, hfound]; exact .keep _, hdateTime, hother⟩
  rw [values_cons_of_ne hkey] at hdate
  by_cases hkey' : key = dateTimeKey
  · subst hkey'
    rw [values_cons_self] at hdateTime
    obtain ⟨s, hs, hnew, hothers, hfound⟩ := hdateTime.exists_isString
    exact ⟨_, .dateTime hnew hs, hdate, by rw [hothers, hfound]; exact .keep _, hother⟩
  rw [values_cons_of_ne hkey'] at hdateTime
  have hvalue := h.other (key, value) List.mem_cons_self hkey hkey'
  exact ⟨m, .other hkey hkey' hvalue, hdate, hdateTime, hother⟩

/-! ### Reading -/

theorem readColon_append {b : List Char} (hb : Spaces b) (text : List Char) :
    readColon (b ++ ':' :: text) = .ok text := by
  rw [readColon, skipSpace_append_cons hb (by decide)]
  rfl

theorem readPattern_of_isString {s : String} {value c : List Char} (hc : Spaces c)
    (h : IsString s value) (rest : List Char) :
    readPattern (c ++ (value ++ rest)) = .ok (s, rest) := by
  obtain ⟨body, hbody, rfl⟩ := h
  have hread := readString?_of_spells hbody rest
  have hwanted : readStringAs "a string" (c ++ ('"' :: (body ++ ['"']) ++ rest)) =
      .ok (s.toList, rest) := by
    rw [readStringAs, List.cons_append, skipSpace_append_cons hc (by decide)]
    simp [hread]
  rw [readPattern, hwanted]
  simp [bind, Except.bind, pure, Except.pure]

/-- Reading a member does what the member says. -/
theorem readMember_of_takes {m found : Members} {key : String} {value b c rest : List Char}
    (h : Takes m key value found) (hb : Spaces b) (hc : Spaces c) (hrest : EndsValue rest) :
    readMember m key (b ++ ':' :: (c ++ (value ++ rest))) = .ok (found, rest) := by
  cases h with
  | date hnew hs =>
    simp [readMember, hnew, readColon_append hb, readPattern_of_isString hc hs, bind, Except.bind,
      pure, Except.pure]
  | dateTime hnew hs =>
    simp [readMember, hnew, dateKey_ne_dateTimeKey.symm, readColon_append hb,
      readPattern_of_isString hc hs, bind, Except.bind, pure, Except.pure]
  | other hdate hdateTime hvalue =>
    simp [readMember, hdate, hdateTime, readColon_append hb,
      passValue?_of_isPhrase hc hvalue hrest, bind, Except.bind, pure, Except.pure]

/-- One round of reading: a member and what follows it. -/
theorem readMembersFor_succ {m next : Members} {key : String} {value t : List Char}
    (h : IsMember key value t) (htakes : Takes m key value next) (fuel : Nat) (rest : List Char) :
    readMembersFor (fuel + 1) m (t ++ '}' :: rest) = .ok (next, rest) ∧
      readMembersFor (fuel + 1) m (t ++ ',' :: rest) = readMembersFor fuel next rest := by
  obtain ⟨ha, hkey, hb, hc, hd⟩ := h
  have hclose := readMember_of_takes htakes hb hc
    ((endsValue_cons (by decide : '}' ∈ delimiters) rest).append_left hd)
  have hgo := readMember_of_takes htakes hb hc
    ((endsValue_cons (by decide : ',' ∈ delimiters) rest).append_left hd)
  constructor
  · simp [readMembersFor, skipSpace_append ha, skipSpace_append hd, skipSpace_cons, isSpace,
      readString?_of_spells hkey, hclose, bind, Except.bind, pure, Except.pure]
  · simp [readMembersFor, skipSpace_append ha, skipSpace_append hd, skipSpace_cons, isSpace,
      readString?_of_spells hkey, hgo, bind, Except.bind]

/-- A run over members reads what they make of the patterns together.  Each round takes the
comma after its member, so the characters pay for the rounds. -/
theorem readMembersFor_of_isMembers {members : List (String × List Char)} {t : List Char}
    {m found : Members} {fuel : Nat} (h : IsMembers members t)
    (hfound : Completes m members found) (hfuel : t.length < fuel) (rest : List Char) :
    readMembersFor fuel m (t ++ '}' :: rest) = .ok (found, rest) := by
  induction h generalizing m fuel with
  | last h =>
    obtain ⟨next, htakes, hnext⟩ := hfound.exists_takes
    cases fuel with
    | zero => omega
    | succ fuel =>
      rw [hnext.eq_of_nil]
      exact (readMembersFor_succ h htakes fuel rest).1
  | @more key value t u members h hu ih =>
    obtain ⟨next, htakes, hnext⟩ := hfound.exists_takes
    cases fuel with
    | zero => omega
    | succ fuel =>
      rw [List.length_append, List.length_cons] at hfuel
      rw [List.append_assoc, List.cons_append, (readMembersFor_succ h htakes fuel _).2]
      exact ih hnext (by omega)

/-! ## Texts -/

theorem readObject_of_isMembers {members : List (String × List Char)} {t : List Char}
    {found : Members} (h : IsMembers members t) (hfound : Completes {} members found)
    (rest : List Char) : readObject (t ++ '}' :: rest) = .ok (found.settings, rest) := by
  -- The fuel counts the characters after the first blanks, so these go first.
  obtain ⟨u, hu, hskip⟩ := h.exists_skipSpace_eq
  have hfuel : ('"' :: u).length < ('"' :: (u ++ '}' :: rest)).length + 1 := by
    simp only [List.length_cons, List.length_append]
    omega
  have hread := readMembersFor_of_isMembers hu hfound hfuel rest
  simp only [List.length_cons, List.length_append, List.cons_append] at hread
  simp [readObject, hskip, hread, bind, Except.bind, pure, Except.pure]

theorem readObject_of_spaces {b : List Char} (hb : Spaces b) (rest : List Char) :
    readObject (b ++ '}' :: rest) = .ok (standard, rest) := by
  rw [readObject, skipSpace_append_cons hb (by decide)]
  rfl

theorem decode_of_readObject {a rest c : List Char} {text : String} {s : Settings}
    (htext : text.toList = a ++ '{' :: rest) (ha : Spaces a)
    (hread : readObject rest = .ok (s, c)) (hc : Spaces c) : decode text = .ok s := by
  have hend : readEnd c = .ok () := by simp [readEnd, skipSpace_eq_nil hc]
  rw [decode, htext, skipSpace_append_cons ha (by decide)]
  simp [hread, hend, bind, Except.bind, pure, Except.pure]

/-- The settings of an object are those that its members make, with the standard for what they
leave open. -/
theorem decode_of_isObject {members : List (String × List Char)} {text : String}
    {found : Members} (h : IsObject members text.toList) (hfound : Completes {} members found) :
    decode text = .ok found.settings := by
  generalize htext : text.toList = t at h
  cases h with
  | empty ha hb hc =>
    rw [hfound.eq_of_nil]
    exact decode_of_readObject htext ha (readObject_of_spaces hb _) hc
  | members ha h hc => exact decode_of_readObject htext ha (readObject_of_isMembers h hfound _) hc

theorem isMember_encodeMember (key value : String) :
    IsMember key (encodeString value.toList) (encodeMember key value) := by
  have h : IsMember key (encodeString value.toList) _ :=
    .intro spaces_nil (spells_flatMap_escapeChar key.toList) spaces_nil spaces_nil spaces_nil
  simpa [encodeMember, encodeString] using h

/-- The members that settings are written as. -/
def encodedMembers (s : Settings) : List (String × List Char) :=
  [(dateKey, encodeString s.dateFormat.toList), (dateTimeKey, encodeString s.dateTimeFormat.toList)]

theorem isObject_encode (s : Settings) : IsObject s.encodedMembers s.encode.toList := by
  have h : IsObject s.encodedMembers _ :=
    .members spaces_nil (.more (isMember_encodeMember dateKey s.dateFormat)
      (.last (isMember_encodeMember dateTimeKey s.dateTimeFormat))) spaces_nil
  simpa [encode] using h

theorem completes_encodedMembers (s : Settings) :
    Completes {} s.encodedMembers ⟨some s.dateFormat, some s.dateTimeFormat⟩ := by
  constructor
  · rw [encodedMembers, values_cons_self, values_cons_of_ne dateKey_ne_dateTimeKey.symm]
    exact .learn (isString_encodeString s.dateFormat)
  · rw [encodedMembers, values_cons_of_ne dateKey_ne_dateTimeKey, values_cons_self]
    exact .learn (isString_encodeString s.dateTimeFormat)
  · simp [encodedMembers]

/-- Settings are read back from the text that they are written as.  More generally, they are read
from the text of every object that has each of the two keys at most once, with a string, and any
values for other keys: those strings are the patterns, and the standard patterns stand in for
what is missing. -/
theorem decode_encode_and_object :
    (∀ s : Settings, decode s.encode = .ok s) ∧
      ∀ (text : String) (members : List (String × List Char)) (date? dateTime? : Option String),
        IsObject members text.toList →
        Settles none (values dateKey members) date? →
        Settles none (values dateTimeKey members) dateTime? →
        (∀ p ∈ members, p.1 ≠ dateKey → p.1 ≠ dateTimeKey → IsPhrase .value p.2) →
        decode text =
          .ok ⟨date?.getD standard.dateFormat, dateTime?.getD standard.dateTimeFormat⟩ := by
  constructor
  · intro s
    exact decode_of_isObject s.isObject_encode s.completes_encodedMembers
  · intro text members date? dateTime? h hdate hdateTime hother
    have hfound : Completes {} members ⟨date?, dateTime?⟩ := ⟨hdate, hdateTime, hother⟩
    exact decode_of_isObject h hfound

/-- A key and a string with escapes, and before them an unknown member whose value holds one of
the two keys with a number, and half of a surrogate pair. -/
theorem decode_encode_and_object_of_escapes :
    decode (" \x7b\"x\" : [\x7b\"date_format\":1.5e+3\x7d,\"\\ud800\"]," ++
      "\"date\\u005fformat\":\"\\ud83d\\ude00\"\x7d\n") =
      .ok ⟨"😀", "%Y-%m-%d %H:%M:%S"⟩ := by
  have hnumber : IsPhrase .value "1.5e+3".toList := by
    have hexponent : IsExponent ('e' :: (['+'] ++ ['3'])) :=
      .present (.inl rfl) (.inr (.inl rfl)) (by decide)
    have h : IsNumeral ([] ++ (['1'] ++ (['.', '5'] ++ 'e' :: (['+'] ++ ['3'])))) :=
      .intro (.inl rfl) ⟨by decide, nofun⟩ (.present (by decide)) hexponent
    exact .number h
  have hname : IsStringBody "date_format".toList := by
    iterate 11 refine .plain (by decide) (by decide) (by decide) ?_
    exact .nil
  have hobject : IsPhrase .value "\x7b\"date_format\":1.5e+3\x7d".toList :=
    .object (.lastMember (.member spaces_nil hname spaces_nil
      (.element spaces_nil hnumber spaces_nil)))
  have hhalf : IsPhrase .value "\"\\ud800\"".toList := by
    have h : IsStringBody ('\\' :: 'u' :: (['d', '8', '0', '0'] ++ [])) :=
      .unit (n := 0xd800) (by decide) .nil
    exact .string h
  have hother : IsPhrase .value "[\x7b\"date_format\":1.5e+3\x7d,\"\\ud800\"]".toList :=
    .array (.moreElements (.element spaces_nil hobject spaces_nil)
      (.lastElement (.element spaces_nil hhalf spaces_nil)))
  have hkey : Spells dateKey.toList "date\\u005fformat".toList := by
    have hunit : CharSpells '_' ('\\' :: 'u' :: ['0', '0', '5', 'f']) := .unit (by decide)
    iterate 4 refine .cons (charSpells_escapeChar _) ?_
    exact .cons hunit (spells_flatMap_escapeChar "format".toList)
  have hstring : IsString "😀" "\"\\ud83d\\ude00\"".toList := by
    have hpair : CharSpells '😀'
        ('\\' :: 'u' :: (['d', '8', '3', 'd'] ++ '\\' :: 'u' :: ['d', 'e', '0', '0'])) :=
      .pair (by decide) (by decide) (by decide)
    exact ⟨"\\ud83d\\ude00".toList, .cons hpair .nil, rfl⟩
  have hx : IsMember "x" "[\x7b\"date_format\":1.5e+3\x7d,\"\\ud800\"]".toList _ :=
    .intro (b := [' ']) (c := [' ']) spaces_nil (spells_flatMap_escapeChar "x".toList)
      (by decide) (by decide) spaces_nil
  have hdate : IsMember dateKey "\"\\ud83d\\ude00\"".toList _ :=
    .intro spaces_nil hkey spaces_nil spaces_nil spaces_nil
  refine decode_encode_and_object.2 _ _ (some "😀") none
    (.members (a := [' ']) (c := ['\n']) (by decide) (.more hx (.last hdate)) (by decide))
    (.learn hstring) (.keep none) fun p hp hne _ => ?_
  rcases List.mem_cons.1 hp with rfl | hp
  · exact hother
  · rw [List.mem_singleton.1 hp] at hne
    exact absurd rfl hne

end Settings

end FilterQuery
