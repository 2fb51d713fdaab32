import NewsCentral.Dart.UriComponent

/-
  The query of a URL: entries of a name and a value, joined
  with "&".

  `Uri.parse` writes a query anew, and keeps its delimiters
  where they are.  A server decodes what is between them.
  So the values that are spliced into a query come out as
  they were put in exactly if none of them contains what
  delimits or stands for something else.

  Key definitions include:
    * `Dart.Uri.query`
    * `Dart.Uri.decodeForm`
    * `Dart.Uri.splice`
    * `Dart.Uri.IsCarried`

  Key theorems include:
    * `Dart.Uri.pieces_induction`
    * `Dart.Uri.splitOn_normalize`
    * `Dart.Uri.decodeForm_splice_iff`
-/

------------------------------------------------------------
-- Queries
------------------------------------------------------------

namespace Dart

namespace Uri

/- Between the first "?" and the fragment. -/
def rawQuery (url : List Char) : List Char :=
  ((url.takeWhile (· ≠ '#')).dropWhile (· ≠ '?')).drop 1

/- The query that is requested for a URL. -/
def query (url : List Char) : List Char :=
  normalizeQuery (rawQuery url)

/- What is in front of the first "=", and behind it. -/
def nameOf (piece : List Char) : List Char :=
  piece.takeWhile (· ≠ '=')

def valueOf (piece : List Char) : List Char :=
  (piece.dropWhile (· ≠ '=')).drop 1

abbrev Entry : Type := List Char × List Char

def decodeEntry (piece : List Char) : Option Entry := do
  let name ← decodeFormComponent (nameOf piece)
  let value ← decodeFormComponent (valueOf piece)
  return (name, value)

/- `application/x-www-form-urlencoded` -/
def decodeForm (query : List Char) : Option (List Entry) :=
  ((query.splitOn '&').filter (· ≠ [])).mapM decodeEntry

def Entry.text (entry : Entry) : List Char :=
  entry.1 ++ '=' :: entry.2

/- Values are put behind their names as they are. -/
def splice
    (first : Entry)
    (rest : List Entry) : List Char :=
  first.text ++ rest.flatMap fun entry => '&' :: entry.text

end Uri

end Dart

------------------------------------------------------------
-- Delimiters
------------------------------------------------------------

namespace Dart

namespace Uri

variable {c : Char} {s t : List Char}

/- A character that delimits parts of a query. -/
structure IsDelimiter (c : Char) : Prop where
  separator : IsSeparator c
  reserved : isUnreserved c = false
  allowed : isQueryChar c = true

theorem isDelimiter_amp : IsDelimiter '&' :=
  ⟨⟨by decide, by decide⟩, rfl, rfl⟩

theorem isDelimiter_equals : IsDelimiter '=' :=
  ⟨⟨by decide, by decide⟩, rfl, rfl⟩

@[simp] theorem normalizeQuery_nil :
    normalizeQuery [] = [] := rfl

theorem normalize_append
    (hDelimiter : IsDelimiter c)
    (s t : List Char) :
    normalizeQuery (s ++ c :: t) =
      normalizeQuery s ++ c :: normalizeQuery t := by
  unfold normalizeQuery
  rw [tokens_append_separator hDelimiter.separator,
    List.flatMap_append, List.flatMap_cons, Token.normalized,
    if_pos hDelimiter.allowed]
  rfl

theorem normalized_ne_nil
    (token : Token) :
    token.normalized ≠ [] := by
  cases token with
  | char c =>
      rw [Token.normalized]
      split
      next => exact List.cons_ne_nil _ _
      next =>
        rw [escapeChar]
        intro hNil
        rw [List.flatMap_eq_nil_iff] at hNil
        rcases List.exists_mem_of_ne_nil _
            (@String.utf8EncodeChar_ne_nil c) with
          ⟨byte, hMem⟩
        exact absurd (hNil byte hMem) (List.cons_ne_nil _ _)
  | escape byte =>
      rw [Token.normalized]
      split
      next => exact List.cons_ne_nil _ _
      next => exact List.cons_ne_nil _ _

/- Something is left of anything. -/
theorem normalize_eq_nil_iff :
    normalizeQuery s = [] ↔ s = [] := by
  constructor
  · intro hNil
    rw [normalizeQuery, List.flatMap_eq_nil_iff] at hNil
    cases hTokens : tokens s with
    | nil =>
        cases s with
        | nil => rfl
        | cons c s =>
            rw [tokens.eq_def] at hTokens
            split at hTokens
            next => split at hTokens <;> cases hTokens
            next => cases hTokens
            next hNone => cases hNone
    | cons token ts =>
        rw [hTokens] at hNil
        exact absurd (hNil token (List.mem_cons_self ..))
          (normalized_ne_nil token)
  · rintro rfl
    rfl

theorem char_mem_tokens
    (hMem : Token.char c ∈ tokens s) :
    c ∈ s := by
  fun_induction tokens s with
  | case1 a b s byte hPair ih =>
      rw [List.mem_cons] at hMem
      rcases hMem with hHead | hTail
      · cases hHead
      · simp [ih hTail]
  | case2 a b s hPair ih =>
      rw [List.mem_cons] at hMem
      rcases hMem with hHead | hTail
      · cases hHead
        exact List.mem_cons_self ..
      · exact List.mem_cons_of_mem _ (ih hTail)
  | case3 d s hNot ih =>
      rw [List.mem_cons] at hMem
      rcases hMem with hHead | hTail
      · cases hHead
        exact List.mem_cons_self ..
      · exact List.mem_cons_of_mem _ (ih hTail)
  | case4 => cases hMem

theorem not_mem_escapeByte
    (hDelimiter : IsDelimiter c)
    (byte : UInt8) :
    c ∉ escapeByte byte := by
  have hLt := byte.toNat_lt
  have hOther :
      ∀ d, d < 16 → c ≠ (hexDigit d).toUpper := by
    rintro d hDigit rfl
    have hNone := hDelimiter.separator.2
    rw [hexValue_upper hDigit] at hNone
    cases hNone
  simp only [escapeByte, List.mem_cons, List.not_mem_nil,
    or_false, not_or]
  exact
    ⟨hDelimiter.separator.1, hOther _ (by omega),
      hOther _ (by omega)⟩

/- Delimiters are where they were. -/
theorem mem_of_mem_normalize
    (hDelimiter : IsDelimiter c)
    (hMem : c ∈ normalizeQuery s) :
    c ∈ s := by
  rw [normalizeQuery, List.mem_flatMap] at hMem
  rcases hMem with ⟨token, hToken, hMem⟩
  cases token with
  | char d =>
      rw [Token.normalized] at hMem
      split at hMem
      next =>
        rw [List.mem_singleton] at hMem
        rw [hMem]
        exact char_mem_tokens hToken
      next =>
        rw [escapeChar, List.mem_flatMap] at hMem
        rcases hMem with ⟨byte, _, hMem⟩
        exact absurd hMem (not_mem_escapeByte hDelimiter byte)
  | escape byte =>
      rw [Token.normalized] at hMem
      split at hMem
      next hUnreserved =>
        rw [List.mem_singleton] at hMem
        rw [← hMem, hDelimiter.reserved] at hUnreserved
        cases hUnreserved
      next =>
        exact absurd hMem (not_mem_escapeByte hDelimiter byte)

theorem not_mem_normalize
    (hDelimiter : IsDelimiter c)
    (hNot : c ∉ s) :
    c ∉ normalizeQuery s :=
  fun hMem => hNot (mem_of_mem_normalize hDelimiter hMem)

/- A text is a piece without a separator, or starts with one. -/
theorem pieces_induction
    (c : Char)
    {motive : List Char → Prop}
    (last : ∀ s, c ∉ s → motive s)
    (piece :
      ∀ s t, c ∉ s → motive t → motive (s ++ c :: t))
    (s : List Char) :
    motive s := by
  induction hLength : s.length using Nat.strong_induction_on
    generalizing s with
  | _ n ih =>
      by_cases hMem : c ∈ s
      · rcases List.eq_append_cons_of_mem hMem with
          ⟨a, b, rfl, hNot⟩
        refine piece a b hNot (ih b.length ?_ b rfl)
        rw [← hLength, List.length_append, List.length_cons]
        omega
      · exact last s hMem

/- A query is split where the text of it is. -/
theorem splitOn_normalize
    (hDelimiter : IsDelimiter c)
    (s : List Char) :
    (normalizeQuery s).splitOn c =
      (s.splitOn c).map normalizeQuery := by
  induction s using pieces_induction c with
  | last s hNot =>
      rw [List.splitOn_eq_singleton
          (not_mem_normalize hDelimiter hNot),
        List.splitOn_eq_singleton hNot]
      rfl
  | piece s t hNot ih =>
      rw [normalize_append hDelimiter,
        List.splitOn_append_cons_self_of_not_mem
          (not_mem_normalize hDelimiter hNot),
        List.splitOn_append_cons_self_of_not_mem hNot, ih]
      rfl

/- The character is looked for behind a text without it. -/
theorem takeWhile_append
    (hNot : c ∉ s)
    (t : List Char) :
    (s ++ t).takeWhile (· ≠ c) = s ++ t.takeWhile (· ≠ c) := by
  refine List.takeWhile_append_of_pos ?_
  intro d hMem
  exact decide_eq_true fun hSame => hNot (hSame ▸ hMem)

/- What is in front of a delimiter, and behind it. -/
theorem takeWhile_of_split
    (hNot : c ∉ s) :
    (s ++ c :: t).takeWhile (· ≠ c) = s := by
  rw [takeWhile_append hNot]
  simp

theorem dropWhile_of_split
    (hNot : c ∉ s) :
    (s ++ c :: t).dropWhile (· ≠ c) = c :: t := by
  rw [List.dropWhile_append_of_pos]
  · simp
  · intro d hMem
    exact decide_eq_true fun hSame => hNot (hSame ▸ hMem)

theorem takeWhile_of_not_mem
    (hNot : c ∉ s) :
    s.takeWhile (· ≠ c) = s := by
  have hWhole := takeWhile_append hNot []
  rwa [List.append_nil, List.takeWhile_nil, List.append_nil]
    at hWhole

theorem dropWhile_of_not_mem
    (hNot : c ∉ s) :
    s.dropWhile (· ≠ c) = [] := by
  rw [List.dropWhile_eq_nil_iff]
  intro d hMem
  exact decide_eq_true fun hSame => hNot (hSame ▸ hMem)

/- What is behind the first "?", up to a fragment. -/
theorem rawQuery_append
    (hMark : '?' ∉ s)
    (hHash : '#' ∉ s)
    (t : List Char) :
    rawQuery (s ++ '?' :: t) = t.takeWhile (· ≠ '#') := by
  rw [rawQuery, takeWhile_append hHash,
    List.takeWhile_cons_of_pos (by decide),
    dropWhile_of_split hMark]
  rfl

end Uri

end Dart

------------------------------------------------------------
-- Values In A Query
------------------------------------------------------------

namespace Dart

namespace Uri

variable {name value piece s t : List Char}
variable {first : Entry} {rest : List Entry}

/- A value that comes out of a query as it was put in. -/
structure IsCarried (value : List Char) : Prop where
  noAmp : '&' ∉ value
  noHash : '#' ∉ value
  verbatim : IsVerbatim value

/- The name of an entry. -/
structure IsName (name : List Char) : Prop where
  carried : IsCarried name
  noEquals : '=' ∉ name

theorem normalize_entry
    (name value : List Char) :
    normalizeQuery (name ++ '=' :: value) =
      normalizeQuery name ++ '=' :: normalizeQuery value :=
  normalize_append isDelimiter_equals name value

theorem decodeEntry_normalize
    (hName : '=' ∉ name)
    (value : List Char) :
    decodeEntry (normalizeQuery (name ++ '=' :: value)) = do
      let name ← decodeFormComponent (normalizeQuery name)
      let value ← decodeFormComponent (normalizeQuery value)
      return (name, value) := by
  have hNot := not_mem_normalize isDelimiter_equals hName
  rw [normalize_entry, decodeEntry, nameOf, valueOf,
    takeWhile_of_split hNot, dropWhile_of_split hNot]
  rfl

/- The first piece of a query gives the first entry. -/
theorem decodeForm_append
    (hPiece : '&' ∉ piece)
    (hSome : piece ≠ [])
    (t : List Char) :
    decodeForm (normalizeQuery (piece ++ '&' :: t)) = do
      let entry ← decodeEntry (normalizeQuery piece)
      let entries ← decodeForm (normalizeQuery t)
      return entry :: entries := by
  have hNe : normalizeQuery piece ≠ [] :=
    fun hNil => hSome (normalize_eq_nil_iff.mp hNil)
  have hNot := not_mem_normalize isDelimiter_amp hPiece
  rw [normalize_append isDelimiter_amp, decodeForm,
    List.splitOn_append_cons_self_of_not_mem hNot,
    List.filter_cons_of_pos
      (p := fun x => decide (x ≠ [])) (decide_eq_true hNe),
    List.mapM_cons]
  rfl

theorem decodeForm_single
    (hPiece : '&' ∉ piece)
    (hSome : piece ≠ []) :
    decodeForm (normalizeQuery piece) = do
      let entry ← decodeEntry (normalizeQuery piece)
      return [entry] := by
  have hNe : normalizeQuery piece ≠ [] :=
    fun hNil => hSome (normalize_eq_nil_iff.mp hNil)
  have hNot := not_mem_normalize isDelimiter_amp hPiece
  rw [decodeForm, List.splitOn_eq_singleton hNot,
    List.filter_cons_of_pos
      (p := fun x => decide (x ≠ [])) (decide_eq_true hNe)]
  simp

/- What is in front of a special character, and behind it. -/
theorem exists_special
    (hSpecial : '&' ∈ s ∨ '#' ∈ s) :
    ∃ a c b, s = a ++ c :: b ∧ (c = '&' ∨ c = '#') ∧
      '&' ∉ a ∧ '#' ∉ a := by
  induction s with
  | nil => simp at hSpecial
  | cons d s ih =>
      by_cases hHere : d = '&' ∨ d = '#'
      · exact ⟨[], d, s, rfl, hHere, by simp, by simp⟩
      · rw [not_or] at hHere
        have hLater : '&' ∈ s ∨ '#' ∈ s := by
          rw [List.mem_cons, List.mem_cons] at hSpecial
          rcases hSpecial with
            (hAmp | hAmp) | (hHash | hHash)
          · exact absurd hAmp.symm hHere.1
          · exact .inl hAmp
          · exact absurd hHash.symm hHere.2
          · exact .inr hHash
        rcases ih hLater with ⟨a, c, b, rfl, hC, hAmp, hHash⟩
        refine ⟨d :: a, c, b, rfl, hC, ?_, ?_⟩
        · rw [List.mem_cons, not_or]
          exact ⟨Ne.symm hHere.1, hAmp⟩
        · rw [List.mem_cons, not_or]
          exact ⟨Ne.symm hHere.2, hHash⟩

/- A part that gives the whole is the whole. -/
theorem eq_of_decode_infix
    (hInfix : s <:+: t)
    (hDecode :
      decodeFormComponent (normalizeQuery s) = some t) :
    s = t := by
  rcases hInfix with ⟨a, b, rfl⟩
  have hLe := length_of_decode hDecode
  simp only [utf8_append, List.length_append] at hLe
  have hEmpty :
      ∀ {part : List Char}, (utf8 part).length = 0 →
        part = [] := by
    intro part hZero
    exact utf8_inj.mp (List.length_eq_zero_iff.mp hZero)
  rw [@hEmpty a (by omega), @hEmpty b (by omega)]
  simp

/- A part in front of something does not give the whole. -/
theorem decode_part_ne
    {c : Char} :
    decodeFormComponent (normalizeQuery s) ≠
      some (s ++ c :: t) := by
  intro hDecode
  have hSame :=
    eq_of_decode_infix (List.infix_append [] s (c :: t))
      hDecode
  exact absurd hSame (by simp)

/- The value of an entry, if its name is carried. -/
theorem decodeEntry_eq_some_iff
    (hName : IsName name)
    {entry : Entry} :
    decodeEntry (normalizeQuery (name ++ '=' :: value)) =
        some entry ↔
      entry.1 = name ∧
        decodeFormComponent (normalizeQuery value) =
          some entry.2 := by
  rw [decodeEntry_normalize hName.noEquals,
    decode_normalize_iff.mpr hName.carried.verbatim]
  rcases entry with ⟨n, v⟩
  cases decodeFormComponent (normalizeQuery value) with
  | none => simp
  | some w =>
      simp only [Option.bind_eq_bind, Option.bind_some,
        Option.pure_def, Option.some.injEq, Prod.mk.injEq]
      exact and_congr_left fun _ => eq_comm

theorem not_mem_entry
    {c : Char}
    (hName : c ∉ name)
    (hEquals : c ≠ '=')
    (hValue : c ∉ value) :
    c ∉ name ++ '=' :: value := by
  simp [hName, hEquals, hValue]

/- An entry, and what follows on it. -/
theorem splice_cons
    (first second : Entry)
    (rest : List Entry) :
    splice first (second :: rest) =
      first.text ++ '&' :: splice second rest := by
  simp [splice]

/- A value with a delimiter is cut short. -/
theorem decodeForm_special_ne
    {entries : List Entry}
    (hName : IsName name)
    (hSpecial : '&' ∈ value ∨ '#' ∈ value)
    (t : List Char) :
    decodeForm
        (normalizeQuery
          ((name ++ '=' :: (value ++ t)).takeWhile
            (· ≠ '#'))) ≠
      some ((name, value) :: entries) := by
  rcases exists_special hSpecial with
    ⟨a, c, b, rfl, hC, hAmp, hHash⟩
  have hPieceAmp :=
    not_mem_entry hName.carried.noAmp (by decide) hAmp
  have hPieceHash :=
    not_mem_entry hName.carried.noHash (by decide) hHash
  have hSome : name ++ '=' :: a ≠ [] := by simp
  have hText :
      name ++ '=' :: (a ++ c :: b ++ t) =
        (name ++ '=' :: a) ++ c :: (b ++ t) := by simp
  have hEntry :
      decodeEntry (normalizeQuery (name ++ '=' :: a)) ≠
        some (name, a ++ c :: b) := by
    rw [ne_eq, decodeEntry_eq_some_iff hName]
    exact fun hBoth => decode_part_ne hBoth.2
  rw [hText]
  rcases hC with rfl | rfl
  · rw [takeWhile_append hPieceHash,
      List.takeWhile_cons_of_pos (by decide),
      decodeForm_append hPieceAmp hSome]
    simp only [Option.bind_eq_bind, Option.pure_def, ne_eq,
      Option.bind_eq_some_iff, Option.some.injEq,
      List.cons.injEq]
    rintro ⟨entry, hDecode, es, _, rfl, _⟩
    exact hEntry hDecode
  · rw [takeWhile_of_split hPieceHash,
      decodeForm_single hPieceAmp hSome]
    simp only [Option.bind_eq_bind, Option.pure_def, ne_eq,
      Option.bind_eq_some_iff, Option.some.injEq,
      List.cons.injEq]
    rintro ⟨entry, hDecode, rfl, _⟩
    exact hEntry hDecode

theorem isCarried_iff
    (hPlain : ¬ ('&' ∈ value ∨ '#' ∈ value)) :
    IsCarried value ↔
      decodeFormComponent (normalizeQuery value) =
        some value := by
  rw [not_or] at hPlain
  rw [decode_normalize_iff]
  exact ⟨fun h => h.verbatim, fun h => ⟨hPlain.1, hPlain.2, h⟩⟩

theorem IsCarried.notSpecial
    (hCarried : IsCarried value) :
    ¬ ('&' ∈ value ∨ '#' ∈ value) :=
  not_or.mpr ⟨hCarried.noAmp, hCarried.noHash⟩

/- The last entry comes out exactly if its value is carried. -/
theorem decodeForm_last_iff
    (hName : IsName name) :
    decodeForm
          (normalizeQuery
            ((name ++ '=' :: value).takeWhile (· ≠ '#'))) =
        some [(name, value)] ↔
      IsCarried value := by
  by_cases hSpecial : '&' ∈ value ∨ '#' ∈ value
  · refine iff_of_false ?_ fun h => h.notSpecial hSpecial
    have hNe :=
      @decodeForm_special_ne name value [] hName hSpecial []
    rwa [List.append_nil] at hNe
  · rw [isCarried_iff hSpecial]
    rw [not_or] at hSpecial
    have hAmp :=
      not_mem_entry hName.carried.noAmp (by decide) hSpecial.1
    have hHash :=
      not_mem_entry hName.carried.noHash (by decide) hSpecial.2
    rw [takeWhile_of_not_mem hHash,
      decodeForm_single hAmp (by simp)]
    simp only [Option.bind_eq_bind, Option.pure_def,
      Option.bind_eq_some_iff, Option.some.injEq,
      List.cons.injEq, and_true, decodeEntry_eq_some_iff hName]
    constructor
    · rintro ⟨entry, ⟨_, hValue⟩, rfl⟩
      exact hValue
    · intro hValue
      exact ⟨_, ⟨rfl, hValue⟩, rfl⟩

/- An entry in front of others comes out in front of theirs. -/
theorem decodeForm_cons_iff
    {entries : List Entry}
    (hName : IsName name)
    (t : List Char) :
    decodeForm
          (normalizeQuery
            ((name ++ '=' :: value ++ '&' :: t).takeWhile
              (· ≠ '#'))) =
        some ((name, value) :: entries) ↔
      IsCarried value ∧
        decodeForm (normalizeQuery (t.takeWhile (· ≠ '#'))) =
          some entries := by
  by_cases hSpecial : '&' ∈ value ∨ '#' ∈ value
  · refine iff_of_false ?_ fun h => h.1.notSpecial hSpecial
    have hNe :=
      @decodeForm_special_ne name value entries hName hSpecial
        ('&' :: t)
    rwa [← List.cons_append, ← List.append_assoc] at hNe
  · rw [isCarried_iff hSpecial]
    rw [not_or] at hSpecial
    have hAmp :=
      not_mem_entry hName.carried.noAmp (by decide) hSpecial.1
    have hHash :=
      not_mem_entry hName.carried.noHash (by decide) hSpecial.2
    rw [takeWhile_append hHash,
      List.takeWhile_cons_of_pos (by decide),
      decodeForm_append hAmp (by simp)]
    simp only [Option.bind_eq_bind, Option.pure_def,
      Option.bind_eq_some_iff, Option.some.injEq,
      List.cons.injEq, decodeEntry_eq_some_iff hName]
    constructor
    · rintro ⟨entry, ⟨_, hValue⟩, es, hRest, rfl, rfl⟩
      exact ⟨hValue, hRest⟩
    · rintro ⟨hValue, hRest⟩
      exact ⟨_, ⟨rfl, hValue⟩, _, hRest, rfl, rfl⟩

/-
  The values that are spliced into a query come out of it
  exactly if each of them is carried.  By induction on the
  entries: a value with a delimiter is cut short, so that
  what comes out for it is too short.
-/
theorem decodeForm_splice_iff
    (hNames : ∀ entry ∈ first :: rest, IsName entry.1) :
    decodeForm
          (normalizeQuery
            ((splice first rest).takeWhile (· ≠ '#'))) =
        some (first :: rest) ↔
      ∀ entry ∈ first :: rest, IsCarried entry.2 := by
  induction rest generalizing first with
  | nil =>
      rw [List.forall_mem_singleton, splice, Entry.text,
        List.flatMap_nil, List.append_nil]
      exact
        decodeForm_last_iff (hNames _ (List.mem_singleton_self _))
  | cons second rest ih =>
      have hLater :=
        @ih second fun entry hMem =>
          hNames entry (List.mem_cons_of_mem _ hMem)
      rw [List.forall_mem_cons, ← hLater, splice_cons,
        Entry.text]
      exact
        decodeForm_cons_iff (hNames _ (List.mem_cons_self ..)) _

end Uri

end Dart
