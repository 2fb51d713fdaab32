import NewsCentral.Dart.JsonRead

/-
  Decoding the text of a value gives the value back, and
  whatever is decoded is such a value.

  Reading back goes by induction on the value.  What follows
  an item or an entry in a text is a comma or a closing
  bracket, so a number ends where its own text does.

  Key definitions include:
    * `Dart.ReadsBack`

  Key theorems include:
    * `Dart.jsonDecode_of_jsonEncode`
    * `Dart.reload_of_isFinite`
    * `Dart.isDecoded_of_jsonDecode`
-/

------------------------------------------------------------
-- Induction Over Values
------------------------------------------------------------

namespace Dart

namespace Json

/- Values are built from smaller ones. -/
@[elab_as_elim]
theorem induct
    {P : Json → Prop}
    (null : P .null)
    (bool : ∀ b, P (.bool b))
    (int : ∀ n, P (.int n))
    (double : ∀ text, P (.double text))
    (str : ∀ s, P (.str s))
    (arr : ∀ items, (∀ j ∈ items, P j) → P (.arr items))
    (obj :
      ∀ fields, (∀ entry ∈ fields, P entry.2) →
        P (.obj fields)) :
    ∀ j, P j
  | .null => null
  | .bool b => bool b
  | .int n => int n
  | .double text => double text
  | .str s => str s
  | .arr items =>
      arr items fun j _hMem =>
        induct null bool int double str arr obj j
  | .obj fields =>
      obj fields fun entry _hMem =>
        induct null bool int double str arr obj entry.2
termination_by j => sizeOf j
decreasing_by
  · have hSmaller := List.sizeOf_lt_of_mem _hMem
    simp only [Json.arr.sizeOf_spec]
    omega
  · have hSmaller := List.sizeOf_lt_of_mem _hMem
    have hValue : sizeOf entry.2 < sizeOf entry := by
      cases entry
      simp
    simp only [Json.obj.sizeOf_spec]
    omega

/- An item is a value like the list it is in. -/
theorem isFiniteItems_iff
    (items : List Json) :
    isFiniteItems items = true ↔
      ∀ j ∈ items, j.isFinite = true := by
  induction items with
  | nil => simp [isFiniteItems]
  | cons j items ih => simp [isFiniteItems, ih]

theorem isFiniteFields_iff
    (fields : List (String × Json)) :
    isFiniteFields fields = true ↔
      ∀ entry ∈ fields, entry.2.isFinite = true := by
  induction fields with
  | nil => simp [isFiniteFields]
  | cons entry fields ih =>
      rcases entry with ⟨key, j⟩
      simp [isFiniteFields, ih]

variable {doubles : Doubles}

theorem isDecodedItems_iff
    (items : List Json) :
    isDecodedItems doubles items = true ↔
      ∀ j ∈ items, j.isDecoded doubles = true := by
  induction items with
  | nil => simp [isDecodedItems]
  | cons j items ih => simp [isDecodedItems, ih]

theorem isDecodedFields_iff
    (fields : List (String × Json)) :
    isDecodedFields doubles fields = true ↔
      ∀ entry ∈ fields,
        entry.2.isDecoded doubles = true := by
  induction fields with
  | nil => simp [isDecodedFields]
  | cons entry fields ih =>
      rcases entry with ⟨key, j⟩
      simp [isDecodedFields, ih]
end Json

end Dart

------------------------------------------------------------
-- Characters And Numbers
------------------------------------------------------------

namespace Dart

section

variable {c d : Char} {cs rest : List Char}

theorem expect_self
    (hSpace : isSpace c = false) :
    expect c (c :: rest) = some rest := by
  simp [expect, hSpace]

theorem expect_other
    (hSpace : isSpace d = false)
    (hOther : d ≠ c) :
    expect c (d :: rest) = none := by
  simp [expect, hSpace, hOther]

end

variable {doubles : Doubles}

/- A number starts with a digit or a sign. -/
theorem head_of_readNumeral
    {cs more : List Char}
    {n : Numeral}
    (hRead : readNumeral cs = some (n, more)) :
    ∃ c rest, cs = c :: rest ∧ (c.isDigit ∨ c = '-') := by
  cases cs with
  | nil => cases hRead
  | cons c cs =>
      refine ⟨c, cs, rfl, ?_⟩
      by_contra hNot
      rw [not_or] at hNot
      have hDigit : c.isDigit = false := by
        simpa using hNot.1
      simp [readNumeral, readOneOf, hNot.2, readWhole,
        readDigits, hDigit] at hRead

/- So its first character is none that means another value. -/
theorem ne_of_number
    {c d : Char}
    (hStart : c.isDigit ∨ c = '-')
    (hOther : d.isDigit = false ∧ d ≠ '-') :
    c ≠ d := by
  rintro rfl
  rcases hStart with hDigit | hSign
  · rw [hOther.1] at hDigit
    cases hDigit
  · exact hOther.2 hSign

theorem isSpace_of_number
    {c : Char}
    (hStart : c.isDigit ∨ c = '-') :
    isSpace c = false := by
  simp only [isSpace, List.mem_cons, List.not_mem_nil,
    or_false, decide_eq_false_iff_not, not_or]
  exact ⟨ne_of_number hStart (by decide),
    ne_of_number hStart (by decide),
    ne_of_number hStart (by decide),
    ne_of_number hStart (by decide)⟩

theorem readValue_numeral
    {cs rest : List Char}
    {n : Numeral}
    {depth : Nat}
    (hRead : readNumeral cs = some (n, []))
    (hStops : Stops rest) :
    readValue doubles (depth + 1) (cs ++ rest) =
      some (n.value doubles, rest) := by
  rcases head_of_readNumeral hRead with ⟨c, more, rfl, hStart⟩
  have hQuote : c ≠ '"' := ne_of_number hStart (by decide)
  have hBracket : c ≠ '[' := ne_of_number hStart (by decide)
  have hBrace : c ≠ '\x7b' := ne_of_number hStart (by decide)
  have hAppend := readNumeral_append hStops hRead
  rw [readValue, List.cons_append, List.dropWhile_cons,
    isSpace_of_number hStart]
  simp only [Bool.false_eq_true, if_false, if_neg hQuote,
    if_neg hBracket, if_neg hBrace, if_pos hStart]
  rw [← List.cons_append, hAppend]
  rfl

/- An integer of 64 bits is the value of its numeral. -/
theorem Numeral.value_ofInt
    {n : Int}
    (hFits : isInt64 n = true) :
    (Numeral.ofInt n).value doubles = .int n := by
  have hInteger : (Numeral.ofInt n).isInteger = true := rfl
  rw [Numeral.value, hInteger, Numeral.toInt_ofInt, hFits]
  rfl

/- So is a number of the text that it prints. -/
theorem exists_numeral_of_isDouble
    {text : String}
    (hDouble : isDouble text = true)
    (hPrinted : doubles.printed text = text) :
    ∃ n, readNumeral text.toList = some (n, []) ∧
      n.value doubles = .double text := by
  unfold isDouble at hDouble
  split at hDouble
  · next n hRead =>
      refine ⟨n, hRead, ?_⟩
      have hText := eq_of_readNumeral hRead
      rw [List.append_nil] at hText
      have hNot : n.isInteger = false := by
        simpa using hDouble
      rw [Numeral.value, hNot, ← hText, String.ofList_toList,
        hPrinted]
      rfl
  · cases hDouble

end Dart

------------------------------------------------------------
-- Reading Back
------------------------------------------------------------

namespace Dart

variable {doubles : Doubles}

/-
  Reading a value in front of what stops it gives the value,
  with a depth that its length allows.
-/
def ReadsBack
    (doubles : Doubles)
    (j : Json) : Prop :=
  (∃ c cs, j.write = c :: cs ∧ isSpace c = false ∧ c ≠ ']') ∧
    ∀ depth rest,
      j.write.length ≤ depth →
      Stops rest →
      readValue doubles depth (j.write ++ rest) =
        some (j, rest)

/- A value whose text is one number is read back. -/
theorem readsBack_of_numeral
    {j : Json}
    {n : Numeral}
    (hRead : readNumeral j.write = some (n, []))
    (hValue : n.value doubles = j) :
    ReadsBack doubles j := by
  rcases head_of_readNumeral hRead with ⟨c, cs, hText, hStart⟩
  refine ⟨⟨c, cs, hText, isSpace_of_number hStart,
    ne_of_number hStart (by decide)⟩, ?_⟩
  intro depth rest hDepth hStops
  cases depth with
  | zero =>
      rw [hText] at hDepth
      cases hDepth
  | succ depth =>
      rw [readValue_numeral hRead hStops, hValue]

theorem stops_writeItems
    (js : List Json)
    (rest : List Char) :
    Stops (Json.writeItems js ++ rest) := by
  cases js with
  | nil => exact stops_cons (by simp)
  | cons j js => exact stops_cons (by simp)

theorem stops_writeFields
    (fields : List (String × Json))
    (rest : List Char) :
    Stops (Json.writeFields fields ++ rest) := by
  cases fields with
  | nil => exact stops_cons (by simp)
  | cons entry fields => exact stops_cons (by simp)

/- The items of a list are read back one after the other. -/
theorem readItems_write
    {j : Json}
    {js : List Json}
    (hEach : ∀ i ∈ j :: js, ReadsBack doubles i)
    {depth : Nat}
    (hDepth : (j.write ++ Json.writeItems js).length ≤ depth)
    (rest : List Char) :
    readItems doubles depth
        (j.write ++ (Json.writeItems js ++ rest)) =
      some (j :: js, rest) := by
  induction js generalizing j depth with
  | nil =>
      rw [List.length_append] at hDepth
      cases depth with
      | zero => simp [Json.writeItems] at hDepth
      | succ depth =>
          have hHead :=
            (hEach j (by simp)).2 depth _
              (by
                simp [Json.writeItems] at hDepth
                exact hDepth)
              (stops_writeItems [] rest)
          rw [readItems, hHead]
          simp [Json.writeItems, expect, isSpace]
  | cons i js ih =>
      rw [List.length_append] at hDepth
      cases depth with
      | zero => simp [Json.writeItems] at hDepth
      | succ depth =>
          have hHead :=
            (hEach j (by simp)).2 depth _
              (by
                simp [Json.writeItems] at hDepth
                omega)
              (stops_writeItems (i :: js) rest)
          have hTail :=
            @ih i (fun k hMem => hEach k (by simp [hMem]))
              depth
              (by
                simp [Json.writeItems] at hDepth ⊢
                omega)
          rw [readItems, hHead]
          simp [Json.writeItems, expect, isSpace, hTail]
/- The entries of a map likewise. -/
theorem readEntries_write
    {key : String}
    {j : Json}
    {fields : List (String × Json)}
    (hEach :
      ∀ entry ∈ (key, j) :: fields,
        ReadsBack doubles entry.2)
    {depth : Nat}
    (hDepth :
      (quoted key ++
        ':' :: (j.write ++ Json.writeFields fields)).length ≤
        depth)
    (rest : List Char) :
    readEntries doubles depth
        (quoted key ++
          ':' :: (j.write ++
            (Json.writeFields fields ++ rest))) =
      some ((key, j) :: fields, rest) := by
  have hColon :
      ∀ cs, expect ':' (':' :: cs) = some cs :=
    fun _ => expect_self (by decide)
  induction fields generalizing key j depth with
  | nil =>
      cases depth with
      | zero => simp at hDepth
      | succ depth =>
          have hValue : ReadsBack doubles j :=
            hEach (key, j) (by simp)
          have hHead :=
            hValue.2 depth _
              (by
                simp at hDepth
                omega)
              (stops_writeFields [] rest)
          rw [readEntries, quoted, List.cons_append,
            expect_self (by decide), List.append_assoc,
            List.singleton_append]
          simp only [Option.bind_eq_bind, Option.bind_some,
            readString_flatMap_escaped, hColon, hHead]
          simp [Json.writeFields, expect, isSpace]
  | cons entry fields ih =>
      rcases entry with ⟨next, i⟩
      cases depth with
      | zero => simp at hDepth
      | succ depth =>
          have hValue : ReadsBack doubles j :=
            hEach (key, j) (by simp)
          have hHead :=
            hValue.2 depth _
              (by
                simp at hDepth
                omega)
              (stops_writeFields ((next, i) :: fields) rest)
          have hTail :=
            @ih next i
              (fun entry hMem => hEach entry (by simp [hMem]))
              depth
              (by
                simp [Json.writeFields] at hDepth ⊢
                omega)
          rw [readEntries, quoted, List.cons_append,
            expect_self (by decide), List.append_assoc,
            List.singleton_append]
          simp only [Option.bind_eq_bind, Option.bind_some,
            readString_flatMap_escaped, hColon, hHead]
          simp [Json.writeFields, expect, isSpace, hTail]

/- Entries with keys of their own are a map as they are. -/
theorem ofEntries_append
    {fields entries : List (String × Json)}
    (hKeys : ((fields ++ entries).map Prod.fst).Nodup) :
    entries.foldl putEntry fields = fields ++ entries := by
  induction entries generalizing fields with
  | nil => simp
  | cons entry entries ih =>
      have hNew : entry.1 ∉ fields.map Prod.fst := by
        intro hMem
        rw [List.map_append, List.map_cons,
          List.nodup_append] at hKeys
        exact hKeys.2.2 _ hMem _ (by simp) rfl
      rw [List.foldl_cons, putEntry, if_neg hNew, ih]
      · simp
      · simpa using hKeys

/- Each decoded value without infinite numbers reads back. -/
theorem readsBack
    {j : Json}
    (hDecoded : j.isDecoded doubles = true)
    (hFinite : j.isFinite = true) :
    ReadsBack doubles j := by
  induction j using Json.induct with
  | null =>
      refine ⟨⟨_, _, rfl, by decide, by decide⟩, ?_⟩
      intro depth rest hDepth _
      cases depth with
      | zero => cases hDepth
      | succ depth =>
          simp [readValue, Json.write, isSpace, readWord]
  | bool b =>
      cases b <;>
        refine ⟨⟨_, _, rfl, by decide, by decide⟩, ?_⟩ <;>
        intro depth rest hDepth _ <;>
        cases depth with
        | zero => cases hDepth
        | succ depth =>
            simp [readValue, Json.write, isSpace, readWord]
  | int n =>
      exact readsBack_of_numeral (readNumeral_int n)
        (Numeral.value_ofInt hDecoded)
  | double text =>
      have hNumber :
          text ∈ Json.infinite ∨
            isDouble text = true ∧
              doubles.printed text = text := by
        simpa [Json.isDecoded] using hDecoded
      have hNot : text ∉ Json.infinite := by
        simpa [Json.isFinite] using hFinite
      rcases hNumber.resolve_left hNot with
        ⟨hDouble, hPrinted⟩
      rcases exists_numeral_of_isDouble hDouble hPrinted with
        ⟨n, hRead, hValue⟩
      exact readsBack_of_numeral hRead hValue
  | str s =>
      refine ⟨⟨_, _, rfl, by decide, by decide⟩, ?_⟩
      intro depth rest hDepth _
      cases depth with
      | zero => cases hDepth
      | succ depth =>
          have hText := readString_flatMap_escaped s rest
          simp [readValue, Json.write, quoted, isSpace, hText]
  | arr items ih =>
      have hItems :
          ∀ j ∈ items, ReadsBack doubles j := fun j hMem =>
        ih j hMem
          ((Json.isDecodedItems_iff items).mp hDecoded j hMem)
          ((Json.isFiniteItems_iff items).mp hFinite j hMem)
      cases items with
      | nil =>
          refine ⟨⟨_, _, rfl, by decide, by decide⟩, ?_⟩
          intro depth rest hDepth _
          cases depth with
          | zero => cases hDepth
          | succ depth =>
              simp [readValue, Json.write, isSpace, expect]
      | cons j js =>
          refine ⟨⟨_, _, rfl, by decide, by decide⟩, ?_⟩
          intro depth rest hDepth _
          cases depth with
          | zero => cases hDepth
          | succ depth =>
              have hRead :=
                readItems_write hItems
                  (Nat.le_of_succ_le_succ hDepth) rest
              rcases (hItems j (by simp)).1 with
                ⟨c, cs, hText, hSpace, hBracket⟩
              have hNone :
                  expect ']'
                      (j.write ++
                        (Json.writeItems js ++ rest)) =
                    none := by
                rw [hText]
                exact expect_other hSpace hBracket
              simp [readValue, Json.write, isSpace, hNone, hRead]
  | obj fields ih =>
      rw [Json.isDecoded, Bool.and_eq_true,
        decide_eq_true_iff] at hDecoded
      have hFields :
          ∀ entry ∈ fields, ReadsBack doubles entry.2 :=
        fun entry hMem =>
          ih entry hMem
            ((Json.isDecodedFields_iff fields).mp hDecoded.2
              entry hMem)
            ((Json.isFiniteFields_iff fields).mp hFinite
              entry hMem)
      have hMap : ofEntries fields = fields :=
        @ofEntries_append [] fields hDecoded.1
      cases fields with
      | nil =>
          refine ⟨⟨_, _, rfl, by decide, by decide⟩, ?_⟩
          intro depth rest hDepth _
          cases depth with
          | zero => cases hDepth
          | succ depth =>
              simp [readValue, Json.write, isSpace, expect]
      | cons entry fields =>
          rcases entry with ⟨key, j⟩
          refine ⟨⟨_, _, rfl, by decide, by decide⟩, ?_⟩
          intro depth rest hDepth _
          cases depth with
          | zero => cases hDepth
          | succ depth =>
              have hRead :=
                readEntries_write hFields
                  (Nat.le_of_succ_le_succ hDepth) rest
              have hNone :
                  expect '\x7d'
                      (quoted key ++
                        ':' :: (j.write ++
                          (Json.writeFields fields ++ rest))) =
                    none :=
                expect_other (by decide) (by decide)
              simp [readValue, Json.write, isSpace, hNone,
                hRead, hMap]

/- What is encoded is decoded to the same value. -/
theorem jsonDecode_of_jsonEncode
    {j : Json}
    {text : String}
    (hDecoded : j.isDecoded doubles = true)
    (hText : jsonEncode j = .ok text) :
    jsonDecode doubles text = .ok j := by
  unfold jsonEncode at hText
  split at hText
  · next hFinite =>
      cases hText
      have hRead :=
        (readsBack hDecoded hFinite).2
          ((String.ofList j.write).length + 1) []
          (by simp) stops_nil
      rw [List.append_nil] at hRead
      rw [jsonDecode, String.toList_ofList, hRead]
      rfl
  · cases hText

/- A value is encoded unless some number is infinite. -/
theorem exists_jsonEncode_iff
    {j : Json} :
    (∃ text, jsonEncode j = .ok text) ↔
      j.isFinite = true := by
  unfold jsonEncode
  split <;> simp_all

/- What decoding makes of the text of a value. -/
def reload
    (doubles : Doubles)
    (j : Json) : Except Thrown Json := do
  jsonDecode doubles (← jsonEncode j)

theorem reload_of_isFinite
    {j : Json}
    (hDecoded : j.isDecoded doubles = true)
    (hFinite : j.isFinite = true) :
    reload doubles j = .ok j := by
  rcases exists_jsonEncode_iff.mpr hFinite with ⟨text, hText⟩
  rw [reload, hText]
  exact jsonDecode_of_jsonEncode hDecoded hText

theorem isFinite_of_reload
    {j k : Json}
    (hReload : reload doubles j = .ok k) :
    j.isFinite = true := by
  refine exists_jsonEncode_iff.mp ?_
  cases hText : jsonEncode j with
  | ok text => exact ⟨text, rfl⟩
  | error e =>
      rw [reload, hText] at hReload
      cases hReload

end Dart

------------------------------------------------------------
-- What Decoding Builds
------------------------------------------------------------

namespace Dart

variable {doubles : Doubles}

/- The value of a numeral is one that decoding builds. -/
theorem Numeral.isDecoded_value
    {cs rest : List Char}
    {n : Numeral}
    (hRead : readNumeral cs = some (n, rest)) :
    (n.value doubles).isDecoded doubles = true := by
  unfold Numeral.value
  split
  · next hFits =>
      rw [Bool.and_eq_true] at hFits
      exact hFits.2
  · have hPrinted :=
      doubles.printed_numeral cs n rest hRead
    simpa [Json.isDecoded] using hPrinted

/- A map made of entries has each key once. -/
theorem nodup_putEntry
    {fields : List (String × Json)}
    (entry : String × Json)
    (hKeys : (fields.map Prod.fst).Nodup) :
    ((putEntry fields entry).map Prod.fst).Nodup := by
  unfold putEntry
  split
  · have hSame :
        (fields.map fun old =>
          if old.1 = entry.1 then entry else old).map
            Prod.fst =
          fields.map Prod.fst := by
      rw [List.map_map]
      refine List.map_congr_left fun old _ => ?_
      by_cases hKey : old.1 = entry.1 <;> simp [hKey]
    rw [hSame]
    exact hKeys
  · next hNew =>
      rw [List.map_append]
      exact List.nodup_append.mpr
        ⟨hKeys, by simp, by
          intro key hOld next hLast hEq
          simp at hLast
          subst hLast
          exact hNew (hEq ▸ hOld)⟩

theorem mem_putEntry
    {fields : List (String × Json)}
    {entry found : String × Json}
    (hMem : found ∈ putEntry fields entry) :
    found ∈ fields ∨ found = entry := by
  unfold putEntry at hMem
  split at hMem
  · rcases List.mem_map.mp hMem with ⟨old, hOld, hFound⟩
    split at hFound
    · exact .inr hFound.symm
    · exact .inl (hFound ▸ hOld)
  · simpa using hMem

theorem isDecoded_ofEntries
    {entries : List (String × Json)}
    (hEach :
      ∀ entry ∈ entries,
        entry.2.isDecoded doubles = true) :
    (Json.obj (ofEntries entries)).isDecoded doubles =
      true := by
  have hFold :
      ∀ (more fields : List (String × Json)),
        (∀ entry ∈ more,
          entry.2.isDecoded doubles = true) →
        (∀ entry ∈ fields,
          entry.2.isDecoded doubles = true) →
        (fields.map Prod.fst).Nodup →
        ((more.foldl putEntry fields).map
            Prod.fst).Nodup ∧
          ∀ entry ∈ more.foldl putEntry fields,
            entry.2.isDecoded doubles = true := by
    intro more
    induction more with
    | nil =>
        intro fields _ hFields hKeys
        exact ⟨hKeys, hFields⟩
    | cons entry more ih =>
        intro fields hMore hFields hKeys
        refine ih _
          (fun next hNext => hMore next (by simp [hNext]))
          (fun next hNext => ?_)
          (nodup_putEntry entry hKeys)
        rcases mem_putEntry hNext with hOld | rfl
        · exact hFields next hOld
        · exact hMore next (by simp)
  rcases hFold entries [] hEach (by simp) (by simp) with
    ⟨hKeys, hFields⟩
  rw [Json.isDecoded, Bool.and_eq_true, decide_eq_true_iff,
    Json.isDecodedFields_iff]
  exact ⟨hKeys, hFields⟩

theorem isDecoded_of_readWord
    {cs rest : List Char}
    {j : Json}
    (hRead : readWord cs = some (j, rest)) :
    j.isDecoded doubles = true := by
  unfold readWord at hRead
  split at hRead <;> cases hRead <;> rfl

/- What is read at a depth is decoded. -/
def ReadsDecoded
    (doubles : Doubles)
    (depth : Nat) : Prop :=
  (∀ cs j rest,
      readValue doubles depth cs = some (j, rest) →
      j.isDecoded doubles = true) ∧
    (∀ cs js rest,
      readItems doubles depth cs = some (js, rest) →
      ∀ j ∈ js, j.isDecoded doubles = true) ∧
    ∀ cs entries rest,
      readEntries doubles depth cs = some (entries, rest) →
      ∀ entry ∈ entries, entry.2.isDecoded doubles = true

theorem ReadsDecoded.readValue
    {depth : Nat}
    (hInner : ReadsDecoded doubles depth)
    {cs rest : List Char}
    {j : Json}
    (hRead :
      readValue doubles (depth + 1) cs = some (j, rest)) :
    j.isDecoded doubles = true := by
  rw [Dart.readValue] at hRead
  split at hRead
  · cases hRead
  · split at hRead
    · -- a text
      rw [Option.bind_eq_bind, Option.bind_eq_some_iff]
        at hRead
      rcases hRead with ⟨text, _, hRead⟩
      cases hRead
      rfl
    split at hRead
    · -- a list
      split at hRead
      · cases hRead
        rfl
      · rw [Option.bind_eq_bind, Option.bind_eq_some_iff]
          at hRead
        rcases hRead with ⟨items, hItems, hRead⟩
        cases hRead
        exact (Json.isDecodedItems_iff _).mpr
          (hInner.2.1 _ _ _ hItems)
    split at hRead
    · -- a map
      split at hRead
      · cases hRead
        rfl
      · rw [Option.bind_eq_bind, Option.bind_eq_some_iff]
          at hRead
        rcases hRead with ⟨entries, hEntries, hRead⟩
        cases hRead
        exact isDecoded_ofEntries
          (hInner.2.2 _ _ _ hEntries)
    split at hRead
    · rw [Option.bind_eq_bind, Option.bind_eq_some_iff]
        at hRead
      rcases hRead with ⟨n, hNumeral, hRead⟩
      cases hRead
      exact Numeral.isDecoded_value hNumeral
    · exact isDecoded_of_readWord hRead

theorem ReadsDecoded.readItems
    {depth : Nat}
    (hInner : ReadsDecoded doubles depth)
    {cs rest : List Char}
    {js : List Json}
    (hRead :
      readItems doubles (depth + 1) cs = some (js, rest)) :
    ∀ j ∈ js, j.isDecoded doubles = true := by
  rw [Dart.readItems, Option.bind_eq_bind,
    Option.bind_eq_some_iff] at hRead
  rcases hRead with ⟨item, hItem, hRead⟩
  have hHead := hInner.1 _ _ _ hItem
  split at hRead <;>
    rw [Option.bind_eq_bind, Option.bind_eq_some_iff] at hRead
  · rcases hRead with ⟨items, hItems, hRead⟩
    cases hRead
    intro j hMem
    rcases List.mem_cons.mp hMem with rfl | hMore
    · exact hHead
    · exact hInner.2.1 _ _ _ hItems j hMore
  · rcases hRead with ⟨more, _, hRead⟩
    cases hRead
    intro j hMem
    cases List.mem_singleton.mp hMem
    exact hHead

theorem ReadsDecoded.readEntries
    {depth : Nat}
    (hInner : ReadsDecoded doubles depth)
    {cs rest : List Char}
    {entries : List (String × Json)}
    (hRead :
      readEntries doubles (depth + 1) cs =
        some (entries, rest)) :
    ∀ entry ∈ entries,
      entry.2.isDecoded doubles = true := by
  simp only [Dart.readEntries, Option.bind_eq_bind,
    Option.bind_eq_some_iff] at hRead
  rcases hRead with
    ⟨_, _, key, _, _, _, value, hValue, hRead⟩
  have hHead := hInner.1 _ _ _ hValue
  split at hRead <;> rw [Option.bind_eq_some_iff] at hRead
  · rcases hRead with ⟨entries, hEntries, hRead⟩
    cases hRead
    intro entry hMem
    rcases List.mem_cons.mp hMem with rfl | hMore
    · exact hHead
    · exact hInner.2.2 _ _ _ hEntries entry hMore
  · rcases hRead with ⟨more, _, hRead⟩
    cases hRead
    intro entry hMem
    cases List.mem_singleton.mp hMem
    exact hHead

theorem readsDecoded
    (depth : Nat) :
    ReadsDecoded doubles depth := by
  induction depth with
  | zero =>
      refine ⟨?_, ?_, ?_⟩ <;> intro cs _ rest hRead
      · simp [readValue] at hRead
      · simp [readItems] at hRead
      · simp [readEntries] at hRead
  | succ depth ih =>
      exact ⟨fun _ _ _ hRead => ih.readValue hRead,
        fun _ _ _ hRead => ih.readItems hRead,
        fun _ _ _ hRead => ih.readEntries hRead⟩

/- Whatever is decoded is a decoded value. -/
theorem isDecoded_of_jsonDecode
    {j : Json}
    {text : String}
    (hText : jsonDecode doubles text = .ok j) :
    j.isDecoded doubles = true := by
  unfold jsonDecode at hText
  split at hText
  · cases hText
  · next found rest hRead =>
      split at hText
      · cases hText
        exact (readsDecoded _).1 _ _ _ hRead
      · cases hText

/- The value under a key is decoded with its map. -/
theorem Json.isDecoded_field
    {fields : List (String × Json)}
    (hDecoded : (Json.obj fields).isDecoded doubles = true)
    (key : String) :
    (Json.field fields key).isDecoded doubles = true := by
  rw [Json.isDecoded, Bool.and_eq_true] at hDecoded
  have hEach := (Json.isDecodedFields_iff fields).mp hDecoded.2
  unfold Json.field
  cases hFound : fields.lookup key with
  | none => rfl
  | some j =>
      rcases List.lookup_eq_some_iff.mp hFound with
        ⟨front, back, hFields, _⟩
      exact hEach (key, j) (by rw [hFields]; simp)

/- So is an item with its list. -/
theorem Json.isDecoded_of_itemAt
    {j item : Json}
    (hDecoded : j.isDecoded doubles = true)
    {i : Nat}
    (hItem : j.itemAt i = .ok item) :
    item.isDecoded doubles = true := by
  cases j with
  | arr items =>
      simp only [Json.itemAt] at hItem
      split at hItem
      · next found hFound =>
          cases hItem
          exact (Json.isDecodedItems_iff items).mp hDecoded
            item (List.mem_of_getElem? hFound)
      · cases hItem
  | str s =>
      simp only [Json.itemAt] at hItem
      split at hItem <;> cases hItem
      rfl
  | obj fields =>
      cases hItem
      rfl
  | _ => cases hItem

/- An integer of decoded JSON has at most 64 bits. -/
theorem Json.isInt64_of_asInt
    {j : Json}
    (hDecoded : j.isDecoded doubles = true)
    {n : Option Int}
    (hInt : j.asInt = .ok n) :
    ∀ k ∈ n, isInt64 k = true := by
  intro k hMem
  cases j with
  | null =>
      cases hInt
      cases hMem
  | int m =>
      cases hInt
      cases hMem
      exact hDecoded
  | _ => cases hInt

/- The JSON of nullable texts and flags can be decoded. -/
@[simp] theorem Json.isDecoded_ofString?
    (s : Option String) :
    (Json.ofString? s).isDecoded doubles = true := by
  cases s <;> rfl

theorem Json.isDecoded_ofInt?
    {n : Option Int}
    (hFits : ∀ k ∈ n, isInt64 k = true) :
    (Json.ofInt? n).isDecoded doubles = true := by
  cases n with
  | none => rfl
  | some k => exact hFits k rfl

@[simp] theorem Json.isDecoded_ofBool?
    (b : Option Bool) :
    (Json.ofBool? b).isDecoded doubles = true := by
  cases b <;> rfl

/- It has no infinite numbers. -/
@[simp] theorem Json.isFinite_ofString?
    (s : Option String) :
    (Json.ofString? s).isFinite = true := by
  cases s <;> rfl

@[simp] theorem Json.isFinite_ofInt?
    (n : Option Int) :
    (Json.ofInt? n).isFinite = true := by
  cases n <;> rfl

@[simp] theorem Json.isFinite_ofBool?
    (b : Option Bool) :
    (Json.ofBool? b).isFinite = true := by
  cases b <;> rfl

end Dart
