import NewsCentral.Dart.UriQuery
import NewsCentral.Lists.Written
import NewsCentral.Text.AllMatches

/-
  The query parser of `lib/services/helper/blognews_api.dart`.

  The parser takes the matches of a regular expression.
  They are the pieces between the separators, so that the
  parser inverts the encoder of queries.

  Key definitions include:
    * `NewsCentral.QueryString.parse`
    * `NewsCentral.QueryString.pairs`
    * `NewsCentral.QueryString.encode`

  Key theorems include:
    * `NewsCentral.QueryString.groups_allMatches`
    * `NewsCentral.QueryString.parse_eq`
    * `NewsCentral.QueryString.parse_encode`
    * `NewsCentral.QueryString.pairs_normalize`
    * `NewsCentral.QueryString.infix_of_mem_pairs`
-/

------------------------------------------------------------
-- Parser
------------------------------------------------------------

namespace NewsCentral

open Dart

namespace QueryString

/- `[^&=]` and `[^&]` -/
def isName (c : Char) : Bool :=
  c ≠ '&' && c ≠ '='

def isValue (c : Char) : Bool :=
  c ≠ '&'

/- `([^&=]+)=?([^&]*)` -/
def search : Text.Pattern Char :=
  .seq (.group (.repeated isName))
    (.seq (.optional (.letter (· = '=')))
      (.group (.optional (.repeated isValue))))

/- A custom decoder. -/
def decode (s : Option (List Char)) : Option String := do
  let text ←
    Uri.decodeComponent ((← s).map Uri.plusToSpace)
  return String.ofList text

/- Get rid of the "?" at the beginning. -/
def dropMark : List Char → List Char
  | '?' :: query => query
  | query => query

/- The result map, unless the decoder throws. -/
def parse (query : String) : Option (List (String × String)) :=
  (search.allMatches (dropMark query.toList)).foldlM
    (fun result m => do
      let key ← decode (m.group 1)
      let value ← decode (m.group 2)
      return Written.put result key value)
    []

/- What a piece between two separators gives. -/
def pair (piece : List Char) : Option Uri.Entry :=
  match piece.dropWhile (· = '=') with
  | [] => none
  | piece => some (Uri.nameOf piece, Uri.valueOf piece)

/- The names and values of a query, before decoding. -/
def pairs (query : List Char) : List Uri.Entry :=
  (query.splitOn '&').filterMap pair

def decodePair
    (entry : Uri.Entry) : Option (String × String) := do
  let key ← decode (some entry.1)
  let value ← decode (some entry.2)
  return (key, value)

end QueryString

end NewsCentral

------------------------------------------------------------
-- Matches And Pieces
------------------------------------------------------------

namespace NewsCentral

open Dart Uri Text

namespace QueryString

variable {c : Char} {piece s t : List Char}

theorem isName_iff :
    isName c = true ↔ c ≠ '&' ∧ c ≠ '=' := by
  simp [isName]

/- A match does not start at a separator. -/
theorem run_search_eq_nil
    (hNone : isName c = false)
    (s : List Char) :
    search.run (c :: s) = [] := by
  refine Pattern.run_seq_eq_nil ?_
  rw [Pattern.run, Pattern.run_repeated_eq_nil]
  · rfl
  · rw [List.takeWhile_cons, hNone]
    rfl

/- Characters of a class, where none of it follows. -/
theorem cut_append
    {p : Char → Bool}
    (hPiece : ∀ c ∈ piece, p c = true)
    (hStop : s.takeWhile p = []) :
    (piece ++ s).takeWhile p = piece ∧
      (piece ++ s).dropWhile p = s := by
  have hBoth := @List.takeWhile_append_dropWhile _ p s
  rw [hStop, List.nil_append] at hBoth
  rw [List.takeWhile_append_of_pos hPiece,
    List.dropWhile_append_of_pos hPiece, hStop, hBoth]
  simp

/- A rest of a query is nothing, or starts a piece. -/
def IsRest (s : List Char) : Prop :=
  s = [] ∨ ∃ t, s = '&' :: t

theorem IsRest.takeWhile
    {p : Char → Bool}
    (hRest : IsRest s)
    (hAmp : p '&' = false) :
    s.takeWhile p = [] := by
  rcases hRest with rfl | ⟨t, rfl⟩
  · rfl
  · rw [List.takeWhile_cons, hAmp]
    rfl

/- The first group takes a name. -/
theorem head_name
    {name : List Char}
    (hName : ∀ c ∈ name, isName c = true)
    (hSome : name ≠ [])
    (hStop : s.takeWhile isName = []) :
    ((Pattern.group (.repeated isName)).run
        (name ++ s)).head? =
      some
        { text := name, groups := [some name], rest := s } := by
  rcases cut_append hName hStop with ⟨hTake, hDrop⟩
  have hHead :=
    @Pattern.head_run_repeated _ (name ++ s) isName
      (by rwa [hTake])
  rw [hTake, hDrop] at hHead
  exact Pattern.head_run_group hHead

/- The second group takes a value. -/
theorem head_value
    {value : List Char}
    (hValue : '&' ∉ value)
    (hRest : IsRest s) :
    ((Pattern.group (.optional (.repeated isValue))).run
        (value ++ s)).head? =
      some
        { text := value
          groups := [some value]
          rest := s } := by
  have hEach : ∀ c ∈ value, isValue c = true := by
    intro c hMem
    exact decide_eq_true fun hSame => hValue (hSame ▸ hMem)
  rcases cut_append hEach (hRest.takeWhile rfl) with
    ⟨hTake, hDrop⟩
  have hHead := Pattern.head_run_star isValue (value ++ s)
  rw [hTake, hDrop] at hHead
  exact Pattern.head_run_group hHead

/- The first match takes the first piece. -/
theorem head_search
    (hAmp : '&' ∉ c :: piece)
    (hEquals : c ≠ '=')
    (hRest : IsRest s) :
    ∃ m, (search.run (c :: piece ++ s)).head? = some m ∧
      m.text ≠ [] ∧
      m.groups =
        [ some (nameOf (c :: piece)),
          some (valueOf (c :: piece)) ] ∧
      m.rest = s := by
  have hNames :
      ∀ name : List Char, '&' ∉ name → '=' ∉ name →
        ∀ c ∈ name, isName c = true := by
    intro name hNoAmp hNoEquals d hMem
    exact isName_iff.mpr
      ⟨fun hSame => hNoAmp (hSame ▸ hMem),
        fun hSame => hNoEquals (hSame ▸ hMem)⟩
  by_cases hMem : '=' ∈ c :: piece
  · rcases List.eq_append_cons_of_mem hMem with
      ⟨name, value, hPiece, hNot⟩
    have hSome : name ≠ [] := by
      rintro rfl
      rw [List.nil_append, List.cons.injEq] at hPiece
      exact hEquals hPiece.1
    rw [hPiece, List.mem_append, List.mem_cons, not_or, not_or]
      at hAmp
    have hFirst :=
      @head_name ('=' :: (value ++ s)) name
        (hNames name hAmp.1 hNot) hSome rfl
    have hSecond :=
      @Pattern.head_run_optional_letter _ (· = '=') '=' rfl
        (value ++ s)
    have hThird := head_value hAmp.2.2 hRest
    rw [hPiece, nameOf, valueOf, takeWhile_of_split hNot,
      dropWhile_of_split hNot, List.append_assoc]
    exact
      ⟨_, Pattern.head_run_seq hFirst
          (Pattern.head_run_seq hSecond hThird),
        by simp [hSome], rfl, rfl⟩
  · have hFirst :=
      head_name (hNames _ hAmp hMem) (List.cons_ne_nil _ _)
        (hRest.takeWhile rfl)
    have hNone :
        (Pattern.letter fun c => decide (c = '=')).run s =
          [] := by
      rcases hRest with rfl | ⟨t, rfl⟩
      · rfl
      · rfl
    have hSecond := Pattern.head_run_optional_none hNone
    have hThird := @head_value s [] List.not_mem_nil hRest
    rw [nameOf, valueOf, takeWhile_of_not_mem hMem,
      dropWhile_of_not_mem hMem]
    exact
      ⟨_, Pattern.head_run_seq hFirst
          (Pattern.head_run_seq hSecond hThird),
        by simp, rfl, rfl⟩

theorem pair_cons
    (hEquals : c ≠ '=')
    (piece : List Char) :
    pair (c :: piece) =
      some (nameOf (c :: piece), valueOf (c :: piece)) := by
  rw [pair, List.dropWhile_cons,
    if_neg (by simpa using hEquals)]

/- The matches of a piece, and of what is behind it. -/
theorem groups_append
    (hAmp : '&' ∉ piece)
    (hRest : IsRest s) :
    (search.allMatches (piece ++ s)).map Match.groups =
      (pair piece).toList.map
          (fun entry => [some entry.1, some entry.2]) ++
        (search.allMatches s).map Match.groups := by
  induction piece with
  | nil => rfl
  | cons c piece ih =>
      by_cases hEquals : c = '='
      · -- a match does not start at "="
        subst hEquals
        have hTail : '&' ∉ piece :=
          fun hMem => hAmp (List.mem_cons_of_mem _ hMem)
        rw [List.cons_append,
          Pattern.allMatches_skip
            (run_search_eq_nil rfl (piece ++ s)),
          ih hTail]
        rfl
      · rcases head_search hAmp hEquals hRest with
          ⟨m, hHead, hSome, hGroups, hBehind⟩
        rw [Pattern.allMatches_of_head hHead hSome, hBehind,
          List.map_cons, hGroups, pair_cons hEquals]
        rfl

/- A search finds the pieces between the separators. -/
theorem groups_allMatches
    (query : List Char) :
    (search.allMatches query).map Match.groups =
      (pairs query).map
        fun entry => [some entry.1, some entry.2] := by
  induction query using pieces_induction '&' with
  | last piece hNot =>
      have hNil : search.allMatches [] = [] :=
        Pattern.allMatches_nil rfl
      have hWhole := groups_append hNot (.inl rfl)
      rw [List.append_nil, hNil, List.map_nil, List.append_nil]
        at hWhole
      rw [hWhole, pairs, List.splitOn_eq_singleton hNot]
      cases hPair : pair piece <;> simp [hPair]
  | piece piece t hNot ih =>
      rw [groups_append hNot (.inr ⟨t, rfl⟩),
        Pattern.allMatches_skip (run_search_eq_nil rfl t), ih,
        pairs, pairs,
        List.splitOn_append_cons_self_of_not_mem hNot,
        List.filterMap_cons]
      cases pair piece <;> rfl

/- Entries are decoded and written one after the other. -/
theorem foldlM_decodePair
    (result : List (String × String))
    (entries : List Entry) :
    entries.foldlM
        (fun result entry => do
          let decoded ← decodePair entry
          return Written.put result decoded.1 decoded.2)
        result =
      (entries.mapM decodePair).map
        (Written.putEntries result) := by
  induction entries generalizing result with
  | nil => rfl
  | cons entry entries ih =>
      rw [List.foldlM_cons, List.mapM_cons]
      cases decodePair entry with
      | none => rfl
      | some decoded =>
          refine
            (ih (Written.put result decoded.1 decoded.2)).trans
              ?_
          cases entries.mapM decodePair <;> rfl

/- What the parser returns, piece by piece. -/
theorem parse_eq
    (query : String) :
    parse query =
      ((pairs (dropMark query.toList)).mapM decodePair).map
        (Written.putEntries []) := by
  have hGroups :
      parse query =
        ((search.allMatches (dropMark query.toList)).map
            Match.groups).foldlM
          (fun result groups => do
            let key ← decode groups[0]?.join
            let value ← decode groups[1]?.join
            return Written.put result key value)
          [] := by
    rw [List.foldlM_map]
    rfl
  rw [hGroups, groups_allMatches, List.foldlM_map,
    ← foldlM_decodePair]
  congr 1
  funext result entry
  simp only [decodePair, Option.bind_eq_bind, Option.pure_def,
    Option.bind_assoc, Option.bind_some]
  rfl

end QueryString

end NewsCentral

------------------------------------------------------------
-- Encoded Queries
------------------------------------------------------------

namespace NewsCentral

open Dart Uri

namespace QueryString

variable {name value text : List Char}

/- `encodeQueryComponent(k)=encodeQueryComponent(v)` -/
def encodeEntry (entry : String × String) : List Char :=
  encodeQueryComponent entry.1.toList ++
    '=' :: encodeQueryComponent entry.2.toList

/- The encoded entries, joined with "&". -/
def encode (entries : List (String × String)) : String :=
  String.ofList (['&'].intercalate (entries.map encodeEntry))

theorem isDelimiter_mark : IsDelimiter '?' :=
  ⟨⟨by decide, by decide⟩, rfl, rfl⟩

theorem not_mem_encode
    {c : Char}
    (hDelimiter : IsDelimiter c)
    (hPlus : c ≠ '+')
    (text : List Char) :
    c ∉ encodeQueryComponent text := by
  intro hMem
  rw [encodeQueryComponent, List.mem_flatMap] at hMem
  rcases hMem with ⟨byte, _, hMem⟩
  unfold encodeByte at hMem
  split at hMem
  next hUnreserved =>
    rw [List.mem_singleton] at hMem
    rw [← hMem, hDelimiter.reserved] at hUnreserved
    cases hUnreserved
  next =>
    split at hMem
    next => exact hPlus (List.mem_singleton.mp hMem)
    next =>
      exact not_mem_escapeByte hDelimiter byte hMem

theorem encode_eq_nil_iff :
    encodeQueryComponent text = [] ↔ text = [] := by
  constructor
  · intro hNil
    have hDecode := decode_encode text
    rw [hNil] at hDecode
    exact (Option.some.inj hDecode).symm
  · rintro rfl
    rfl

/- A name, and what is behind the first "=". -/
theorem pair_append
    (hName : '=' ∉ name)
    (hSome : name ≠ [])
    (value : List Char) :
    pair (name ++ '=' :: value) = some (name, value) := by
  cases name with
  | nil => exact absurd rfl hSome
  | cons c name =>
      have hHead : c ≠ '=' := by
        rintro rfl
        exact hName (List.mem_cons_self ..)
      rw [List.cons_append, pair_cons hHead, ← List.cons_append,
        nameOf, valueOf, takeWhile_of_split hName,
        dropWhile_of_split hName]
      rfl

theorem pair_encodeEntry
    {entry : String × String}
    (hKey : entry.1 ≠ "") :
    pair (encodeEntry entry) =
      some
        ( encodeQueryComponent entry.1.toList,
          encodeQueryComponent entry.2.toList ) := by
  refine pair_append ?_ ?_ _
  · exact not_mem_encode isDelimiter_equals (by decide) _
  · rw [ne_eq, encode_eq_nil_iff, String.toList_eq_nil_iff]
    exact hKey

theorem decode_some_encode
    {text : String}
    (hInverted : IsInverted text.toList) :
    decode (some (encodeQueryComponent text.toList)) =
      some text := by
  rw [IsInverted] at hInverted
  simp [decode, hInverted]

/- The pieces of the join are the encoded entries. -/
theorem pairs_intercalate
    {entries : List (String × String)}
    (hKeys : ∀ entry ∈ entries, entry.1 ≠ "") :
    pairs (['&'].intercalate (entries.map encodeEntry)) =
      entries.map fun entry =>
        ( encodeQueryComponent entry.1.toList,
          encodeQueryComponent entry.2.toList ) := by
  cases entries with
  | nil => rfl
  | cons first rest =>
      rw [pairs, List.splitOn_intercalate '&' _ (by simp),
        List.filterMap_map, ← List.filterMap_eq_map]
      · refine List.filterMap_congr ?_
        intro entry hMem
        exact pair_encodeEntry (hKeys entry hMem)
      · intro piece hPiece
        rw [List.mem_map] at hPiece
        rcases hPiece with ⟨entry, _, rfl⟩
        refine not_mem_entry ?_ (by decide) ?_
        · exact not_mem_encode isDelimiter_amp (by decide) _
        · exact not_mem_encode isDelimiter_amp (by decide) _

theorem mapM_decodePair
    {entries : List (String × String)}
    (hInverted :
      ∀ entry ∈ entries,
        IsInverted entry.1.toList ∧
          IsInverted entry.2.toList) :
    (entries.map fun entry =>
        ( encodeQueryComponent entry.1.toList,
          encodeQueryComponent entry.2.toList )).mapM
        decodePair =
      some entries := by
  induction entries with
  | nil => rfl
  | cons entry entries ih =>
      rw [List.forall_mem_cons] at hInverted
      rw [List.map_cons, List.mapM_cons, ih hInverted.2,
        decodePair, decode_some_encode hInverted.1.1,
        decode_some_encode hInverted.1.2]
      rfl

theorem not_mem_intercalate
    {c : Char}
    {pieces : List (List Char)}
    (hOther : c ≠ '&')
    (hEach : ∀ piece ∈ pieces, c ∉ piece) :
    c ∉ ['&'].intercalate pieces := by
  induction pieces with
  | nil => exact List.not_mem_nil
  | cons first rest ih =>
      rw [List.forall_mem_cons] at hEach
      cases rest with
      | nil =>
          rw [List.intercalate_singleton]
          exact hEach.1
      | cons second rest =>
          rw [List.intercalate_cons_cons, List.mem_append,
            List.mem_append, List.mem_singleton]
          rintro ((hFirst | hSeparator) | hRest)
          · exact hEach.1 hFirst
          · exact hOther hSeparator
          · exact ih hEach.2 hRest

theorem dropMark_of_not_mem
    (hMark : '?' ∉ text) :
    dropMark text = text := by
  unfold dropMark
  split
  next => exact absurd (List.mem_cons_self ..) hMark
  next => rfl

/- An encoded query does not start with "?". -/
theorem dropMark_encode
    (entries : List (String × String)) :
    dropMark (encode entries).toList =
      (encode entries).toList := by
  refine dropMark_of_not_mem ?_
  rw [encode, String.toList_ofList]
  refine not_mem_intercalate (by decide) ?_
  intro piece hPiece
  rw [List.mem_map] at hPiece
  rcases hPiece with ⟨entry, _, rfl⟩
  refine not_mem_entry ?_ (by decide) ?_
  · exact not_mem_encode isDelimiter_mark (by decide) _
  · exact not_mem_encode isDelimiter_mark (by decide) _

/-
  The parser inverts the encoder wherever the percent-decoder
  does: of the entries with a key the last one is in the
  result map.
-/
theorem parse_encode
    (entries : List (String × String))
    (hKeys : ∀ entry ∈ entries, entry.1 ≠ "")
    (hInverted :
      ∀ entry ∈ entries,
        IsInverted entry.1.toList ∧
          IsInverted entry.2.toList) :
    ∃ result,
      parse (encode entries) = some result ∧
        parse ("?" ++ encode entries) = some result ∧
        (result.map Prod.fst).Nodup ∧
        ∀ key,
          result.lookup key =
            (Written.lastWith Prod.fst key entries).map
              Prod.snd := by
  have hPairs :
      ((pairs (encode entries).toList).mapM decodePair).map
          (Written.putEntries []) =
        some (Written.putEntries [] entries) := by
    rw [encode, String.toList_ofList, pairs_intercalate hKeys,
      mapM_decodePair hInverted]
    rfl
  refine ⟨Written.putEntries [] entries, ?_, ?_, ?_, ?_⟩
  · rw [parse_eq, dropMark_encode, hPairs]
  · rw [parse_eq, String.toList_append]
    exact hPairs
  · exact Written.nodup_putEntries List.nodup_nil
  · intro key
    rw [Written.lookup_putEntries, List.lookup_nil,
      Option.or_none]

/- A key with two values, and an encoded separator. -/
theorem parse_encode_twice :
    ∃ result,
      parse
          (encode
            [("a&b", "="), ("c", ""), ("a&b", "d e")]) =
        some result ∧
      parse
          ("?" ++
            encode
              [("a&b", "="), ("c", ""), ("a&b", "d e")]) =
        some result ∧
      result.lookup "a&b" = some "d e" ∧
      result.lookup "c" = some "" := by
  have hKeys :
      ∀ entry ∈ [("a&b", "="), ("c", ""), ("a&b", "d e")],
        entry.1 ≠ "" := by
    simp
  have hInverted :
      ∀ entry ∈ [("a&b", "="), ("c", ""), ("a&b", "d e")],
        IsInverted entry.1.toList ∧
          IsInverted entry.2.toList := by
    simp only [isInverted_iff]
    decide
  rcases parse_encode _ hKeys hInverted with
    ⟨result, hPlain, hMark, _, hLookup⟩
  exact
    ⟨result, hPlain, hMark, (hLookup "a&b").trans rfl,
      (hLookup "c").trans rfl⟩

end QueryString

end NewsCentral

------------------------------------------------------------
-- Requested Queries
------------------------------------------------------------

namespace NewsCentral

open Dart Uri

namespace QueryString

variable {name value text piece s : List Char}

/- A custom decoder, where no mark is lost. -/
theorem decode_of_form
    {text : String}
    (hForm : decodeFormComponent s = some text.toList)
    (hMark : text.toList.head? ≠ some orderMark) :
    decode (some s) = some text := by
  simp [decode, decodeComponent_eq, hForm,
    dropOrderMark_of_head hMark]

theorem form_of_decode
    {text : String}
    (hDecode : decode (some s) = some text) :
    ∃ full, decodeFormComponent s = some full ∧
      dropOrderMark full = text.toList := by
  simp only [decode, decodeComponent_eq,
    Option.bind_eq_bind, Option.bind_some, Option.pure_def,
    Option.bind_eq_some_iff, Option.map_eq_some_iff,
    Option.some.injEq] at hDecode
  rcases hDecode with ⟨_, ⟨full, hForm, rfl⟩, hText⟩
  refine ⟨full, hForm, ?_⟩
  rw [← hText, String.toList_ofList]

theorem decodePair_eq_some_iff
    {entry : Entry}
    {key value : String} :
    decodePair entry = some (key, value) ↔
      decode (some entry.1) = some key ∧
        decode (some entry.2) = some value := by
  rw [decodePair]
  cases decode (some entry.1) with
  | none => simp
  | some k =>
      cases decode (some entry.2) with
      | none => simp
      | some v => simp

/- Each decoded entry comes from a piece. -/
theorem exists_of_mem_decoded
    {entries : List Entry}
    {decoded : List (String × String)}
    {param : String × String}
    (hDecoded : entries.mapM decodePair = some decoded)
    (hMem : param ∈ decoded) :
    ∃ entry ∈ entries, decodePair entry = some param := by
  induction entries generalizing decoded with
  | nil =>
      cases hDecoded
      cases hMem
  | cons entry entries ih =>
      rw [List.mapM_cons] at hDecoded
      simp only [Option.bind_eq_bind, Option.pure_def,
        Option.bind_eq_some_iff, Option.some.injEq] at hDecoded
      rcases hDecoded with ⟨first, hFirst, rest, hRest, rfl⟩
      rcases List.mem_cons.mp hMem with rfl | hLater
      · exact ⟨entry, List.mem_cons_self .., hFirst⟩
      · rcases ih hRest hLater with ⟨other, hOther, hSome⟩
        exact ⟨other, List.mem_cons_of_mem _ hOther, hSome⟩

theorem decode_normalized
    {text : String}
    (hVerbatim : IsVerbatim text.toList)
    (hMark : text.toList.head? ≠ some orderMark) :
    decode (some (normalizeQuery text.toList)) = some text :=
  decode_of_form (decode_normalize_iff.mpr hVerbatim) hMark

/- A name without a value. -/
theorem pair_single
    (hName : '=' ∉ name)
    (hSome : name ≠ []) :
    pair name = some (name, []) := by
  cases name with
  | nil => exact absurd rfl hSome
  | cons c name =>
      have hHead : c ≠ '=' := by
        rintro rfl
        exact hName (List.mem_cons_self ..)
      rw [pair_cons hHead, nameOf, valueOf,
        takeWhile_of_not_mem hName, dropWhile_of_not_mem hName]
      rfl

/- The names and values are written anew by `Uri.parse`. -/
def normalizeEntry (entry : Entry) : Entry :=
  (normalizeQuery entry.1, normalizeQuery entry.2)

theorem pair_normalize
    (piece : List Char) :
    pair (normalizeQuery piece) =
      (pair piece).map normalizeEntry := by
  induction piece with
  | nil => rfl
  | cons c piece ih =>
      by_cases hEquals : c = '='
      · subst hEquals
        have hHead :=
          normalize_append isDelimiter_equals [] piece
        rw [List.nil_append, normalizeQuery_nil,
          List.nil_append] at hHead
        rw [hHead]
        exact ih
      · have hSome : normalizeQuery (c :: piece) ≠ [] :=
          fun hNil =>
            List.cons_ne_nil _ _ (normalize_eq_nil_iff.mp hNil)
        by_cases hMem : '=' ∈ c :: piece
        · rcases List.eq_append_cons_of_mem hMem with
            ⟨name, value, hPiece, hNot⟩
          have hName : name ≠ [] := by
            rintro rfl
            rw [List.nil_append, List.cons.injEq] at hPiece
            exact hEquals hPiece.1
          rw [hPiece, normalize_entry, pair_append hNot hName,
            pair_append
              (not_mem_normalize isDelimiter_equals hNot)
              fun hNil => hName (normalize_eq_nil_iff.mp hNil)]
          rfl
        · rw [pair_single hMem (List.cons_ne_nil _ _),
            pair_single
              (not_mem_normalize isDelimiter_equals hMem)
              hSome]
          rfl

theorem pairs_normalize
    (query : List Char) :
    pairs (normalizeQuery query) =
      (pairs query).map normalizeEntry := by
  rw [pairs, pairs, splitOn_normalize isDelimiter_amp,
    List.filterMap_map, List.map_filterMap]
  exact List.filterMap_congr fun piece _ => pair_normalize piece

theorem pairs_append
    (hAmp : '&' ∉ piece)
    (s : List Char) :
    pairs (piece ++ '&' :: s) =
      (pair piece).toList ++ pairs s := by
  rw [pairs, List.splitOn_append_cons_self_of_not_mem hAmp,
    List.filterMap_cons]
  cases pair piece <;> rfl

theorem pairs_single
    (hAmp : '&' ∉ piece) :
    pairs piece = (pair piece).toList := by
  rw [pairs, List.splitOn_eq_singleton hAmp]
  cases hPair : pair piece <;> simp [hPair]

/- A value is a part of a piece. -/
theorem suffix_of_pair
    {entry : Entry}
    (hPair : pair piece = some entry) :
    entry.2 <:+ piece := by
  unfold pair at hPair
  split at hPair
  next => cases hPair
  next hDrop =>
    cases hPair
    refine (List.drop_suffix 1 _).trans ?_
    exact
      (List.dropWhile_suffix _).trans
        (List.dropWhile_suffix _)

/- A value is a part of the query, without separators. -/
theorem infix_of_mem_pairs
    {entry : Entry}
    (hMem : entry ∈ pairs s) :
    entry.2 <:+: s ∧ '&' ∉ entry.2 := by
  induction s using pieces_induction '&' with
  | last piece hNot =>
      rw [pairs_single hNot, Option.mem_toList] at hMem
      have hSuffix := suffix_of_pair hMem
      exact
        ⟨hSuffix.isInfix,
          fun hIn => hNot (hSuffix.subset hIn)⟩
  | piece piece t hNot ih =>
      rw [pairs_append hNot, List.mem_append,
        Option.mem_toList] at hMem
      rcases hMem with hHere | hLater
      · have hSuffix := suffix_of_pair hHere
        refine
          ⟨hSuffix.isInfix.trans ?_,
            fun hIn => hNot (hSuffix.subset hIn)⟩
        exact (List.prefix_append _ _).isInfix
      · rcases ih hLater with ⟨hInfix, hNone⟩
        refine ⟨hInfix.trans ?_, hNone⟩
        exact ((List.suffix_cons '&' t).trans
          (List.suffix_append _ _)).isInfix

end QueryString

end NewsCentral
