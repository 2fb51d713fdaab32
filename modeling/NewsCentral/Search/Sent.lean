import NewsCentral.Services.QueryString
import NewsCentral.Services.WordPress

/-
  What the request of a search carries.  The typed text is
  spliced into the URL as it is, and the query parser of the
  repository reads it there.

  Key definitions include:
    * `NewsCentral.searchQuery`
    * `NewsCentral.IsSearchable`
    * `NewsCentral.searchParameter`

  Key theorems include:
    * `NewsCentral.parse_searchQuery`
    * `NewsCentral.isSearchable_of_parse`
    * `NewsCentral.searchBlog_sends_iff`
-/

------------------------------------------------------------
-- Searches
------------------------------------------------------------

namespace NewsCentral

open Dart Uri QueryString

/- What `searchBlog` requests. -/
def searchRequest (name : String) : Request :=
  newsService.getRequest ("posts?_embed&search=" ++ name)

/- The query of the URL, up to a fragment. -/
def searchQuery (name : String) : String :=
  String.ofList (query (searchRequest name).url.toList)

variable {name : String}

/- The part of a typed text in front of a fragment. -/
def untilHash (name : String) : List Char :=
  name.toList.takeWhile (· ≠ '#')

theorem toList_searchQuery
    (name : String) :
    (searchQuery name).toList =
      normalizeQuery
        ("_embed".toList ++
          '&' :: ("search".toList ++ '=' :: untilHash name)) := by
  have hFront :
      "http://newscentral.africa".toList ++
          ("/wp-json/wp/v2/".toList ++
            "posts?_embed&search=".toList) =
        "http://newscentral.africa/wp-json/wp/v2/posts".toList ++
          '?' :: "_embed&search=".toList := by
    decide +kernel
  have hUrl :
      (searchRequest name).url.toList =
        "http://newscentral.africa/wp-json/wp/v2/posts".toList ++
          '?' :: ("_embed&search=".toList ++ name.toList) := by
    rw [← List.cons_append, ← List.append_assoc, ← hFront,
      searchRequest, WordPress.getRequest,
      WordPress.interpolate_url]
    simp only [String.toList_append, List.append_assoc]
  rw [searchQuery, String.toList_ofList, query, hUrl,
    rawQuery_append (by decide) (by decide),
    takeWhile_append (by decide)]
  rfl

theorem pairs_searchQuery
    (name : String) :
    pairs (searchQuery name).toList =
      (("_embed".toList, []) ::
        pairs ("search".toList ++ '=' :: untilHash name)).map
          normalizeEntry := by
  rw [toList_searchQuery, pairs_normalize,
    pairs_append (by decide),
    pair_single (by decide) (by decide)]
  rfl

/- Values of a search are parts of it without separators. -/
theorem infix_of_mem_search
    {entry : Entry}
    (hMem :
      entry ∈ pairs ("search".toList ++ '=' :: untilHash name)) :
    entry.2 <:+: untilHash name ∧ '&' ∉ entry.2 := by
  by_cases hAmp : '&' ∈ untilHash name
  · rcases List.eq_append_cons_of_mem hAmp with
      ⟨a, b, hShown, hNot⟩
    have hFirst : '&' ∉ "search".toList ++ '=' :: a :=
      not_mem_entry (by decide) (by decide) hNot
    rw [hShown, ← List.cons_append, ← List.append_assoc,
      pairs_append hFirst,
      pair_append (by decide) (by decide)] at hMem
    rw [hShown]
    rcases List.mem_cons.mp hMem with rfl | hLater
    · exact ⟨(List.prefix_append _ _).isInfix, hNot⟩
    · rcases infix_of_mem_pairs hLater with ⟨hInfix, hNone⟩
      refine ⟨hInfix.trans ?_, hNone⟩
      exact ((List.suffix_cons '&' b).trans
        (List.suffix_append _ _)).isInfix
  · rw [pairs_single
        (not_mem_entry (by decide) (by decide) hAmp),
      pair_append (by decide) (by decide)] at hMem
    rcases List.mem_singleton.mp hMem with rfl
    exact ⟨List.infix_rfl, hAmp⟩

theorem dropMark_searchQuery
    (name : String) :
    dropMark (searchQuery name).toList =
      (searchQuery name).toList := by
  have hEmbed :
      normalizeQuery "_embed".toList = "_embed".toList := by
    decide
  rw [toList_searchQuery, normalize_append isDelimiter_amp,
    hEmbed]
  rfl

/-
  A text that is carried by the query, and whose start the
  decoder of the parser does not take for a mark.
-/
structure IsSearchable (name : String) : Prop where
  carried : IsCarried name.toList
  noMark : name.toList.head? ≠ some orderMark

/- Such a text is the value that is read. -/
theorem parse_searchQuery
    (hName : IsSearchable name) :
    parse (searchQuery name) =
      some
        (Written.putEntries []
          [("_embed", ""), ("search", name)]) := by
  have hCarried := hName.carried
  have hShown : untilHash name = name.toList :=
    takeWhile_of_not_mem hCarried.noHash
  have hPairs :
      pairs ("search".toList ++ '=' :: name.toList) =
        [("search".toList, name.toList)] := by
    rw [pairs_single
        (not_mem_entry (by decide) (by decide) hCarried.noAmp),
      pair_append (by decide) (by decide)]
    rfl
  have hPlain :
      ∀ {text : String},
        '+' ∉ text.toList →
        '%' ∉ text.toList →
        text.toList.head? ≠ some orderMark →
        decode (some (normalizeQuery text.toList)) =
          some text :=
    fun hPlus hPercent =>
      decode_normalized (isVerbatim_of_plain hPlus hPercent)
  have hEmbed :
      decodePair (normalizeEntry ("_embed".toList, [])) =
        some ("_embed", "") :=
    decodePair_eq_some_iff.mpr
      ⟨@hPlain "_embed" (by decide) (by decide) (by decide),
        @hPlain "" (by decide) (by decide) (by decide)⟩
  have hSearch :
      decodePair
          (normalizeEntry ("search".toList, name.toList)) =
        some ("search", name) :=
    decodePair_eq_some_iff.mpr
      ⟨@hPlain "search" (by decide) (by decide) (by decide),
        decode_normalized hCarried.verbatim hName.noMark⟩
  rw [parse_eq, dropMark_searchQuery, pairs_searchQuery,
    hShown, hPairs]
  simp only [List.map_cons, List.map_nil, List.mapM_cons,
    List.mapM_nil, hEmbed, hSearch]
  rfl

/- Of a part of a text, the whole is read only as it is. -/
theorem verbatim_of_infix
    {part : List Char}
    (hInfix : part <:+: name.toList)
    (hDecode :
      decode (some (normalizeQuery part)) = some name) :
    part = name.toList ∧ IsVerbatim name.toList ∧
      name.toList.head? ≠ some orderMark := by
  rcases form_of_decode hDecode with ⟨full, hForm, hDrop⟩
  rcases dropOrderMark_eq_iff.mp hDrop with
    ⟨rfl, hMark⟩ | rfl
  · have hWhole := eq_of_decode_infix hInfix hForm
    refine ⟨hWhole, ?_, hMark⟩
    rw [hWhole] at hForm
    exact decode_normalize_iff.mp hForm
  · -- what is read with a mark is longer than the part
    have hLonger : name.toList <:+: orderMark :: name.toList :=
      (List.suffix_cons _ _).isInfix
    have hWhole :=
      eq_of_decode_infix (hInfix.trans hLonger) hForm
    have hLe := hInfix.length_le
    rw [hWhole, List.length_cons] at hLe
    omega

/- A text that is read under any name is searchable. -/
theorem isSearchable_of_parse
    {result : List (String × String)}
    {key : String}
    (hParse : parse (searchQuery name) = some result)
    (hKey : result.lookup key = some name) :
    IsSearchable name := by
  rw [parse_eq, Option.map_eq_some_iff] at hParse
  rcases hParse with ⟨decoded, hDecoded, rfl⟩
  rw [Written.lookup_putEntries, List.lookup_nil,
    Option.or_none, Option.map_eq_some_iff] at hKey
  rcases hKey with ⟨⟨k, v⟩, hLast, hName⟩
  have hMem :=
    (List.mem_filter.mp (List.mem_of_getLast? hLast)).1
  rcases exists_of_mem_decoded hDecoded hMem with
    ⟨entry, hEntry, hPair⟩
  have hValue := (decodePair_eq_some_iff.mp hPair).2
  change v = name at hName
  subst hName
  rw [dropMark_searchQuery, pairs_searchQuery, List.mem_map]
    at hEntry
  rcases hEntry with ⟨raw, hRaw, rfl⟩
  have hPart :
      raw.2 <:+: untilHash v ∧ '&' ∉ raw.2 := by
    rcases List.mem_cons.mp hRaw with rfl | hSearch
    · exact ⟨List.nil_infix, List.not_mem_nil⟩
    · exact infix_of_mem_search hSearch
  have hPrefix : untilHash v <+: v.toList :=
    List.takeWhile_prefix _
  rcases verbatim_of_infix
      (hPart.1.trans hPrefix.isInfix) hValue with
    ⟨hWhole, hVerbatim, hMark⟩
  have hShown : untilHash v = v.toList :=
    hPrefix.eq_of_length_le (hWhole ▸ hPart.1.length_le)
  refine ⟨⟨hWhole ▸ hPart.2, ?_, hVerbatim⟩, hMark⟩
  intro hHash
  rw [← hShown] at hHash
  have hOther := List.mem_takeWhile_imp hHash
  exact of_decide_eq_true hOther rfl

end NewsCentral

------------------------------------------------------------
-- What A Search Sends
------------------------------------------------------------

namespace NewsCentral

open Dart QueryString

/- What a search for a text is meant to send. -/
def searchParameter
    (name key : String) : Option String :=
  if key = "search" then some name
  else if key = "_embed" then some ""
  else none

/-
  The query of a search is read as the typed text exactly if
  the text is searchable: whatever else is read is a part of
  it.
-/
theorem searchBlog_sends_iff
    (name : String) :
    (∀ http unescape,
        newsService.searchBlog http unescape name = do
          let response ← http (searchRequest name)
          WordPress.decodeBlogs unescape
            (← response.jsonDecode)) ∧
      ((∃ result,
          parse (searchQuery name) = some result ∧
            ∀ key,
              result.lookup key = searchParameter name key) ↔
        IsSearchable name) := by
  refine ⟨fun http _ => ?_, ?_, ?_⟩
  · rw [WordPress.searchBlog, WordPress.getAsync, searchRequest]
    cases http (newsService.getRequest _) <;> rfl
  · rintro ⟨result, hParse, hAll⟩
    exact isSearchable_of_parse hParse (hAll "search")
  · intro hName
    refine ⟨_, parse_searchQuery hName, ?_⟩
    intro key
    rw [Written.lookup_putEntries, List.lookup_nil,
      Option.or_none, searchParameter]
    by_cases hSearch : key = "search"
    · subst hSearch
      rfl
    · by_cases hEmbed : key = "_embed"
      · subst hEmbed
        rfl
      · simp [Written.lastWith, Ne.symm hSearch,
          Ne.symm hEmbed, hSearch, hEmbed]

/- Behind an ampersand a further parameter starts. -/
theorem search_with_ampersand_is_cut :
    ¬ ∃ result,
      parse (searchQuery "a&b") = some result ∧
        ∀ key,
          result.lookup key = searchParameter "a&b" key := by
  rintro ⟨result, hParse, hAll⟩
  have hName := isSearchable_of_parse hParse (hAll "search")
  exact hName.carried.noAmp (by decide)

end NewsCentral
