import NewsCentral.Dart.JsonText

/-
  Percent-encoding, as the class `Uri` does it.

  A text of a URL consists of characters and of escaped
  bytes, `%` and two hexadecimal digits.  `Uri.parse` writes
  the query of a URL anew: what may not stand there is
  escaped, and so is a `%` that escapes nothing.  The
  decoder refuses both.

  Key definitions include:
    * `Dart.decodeUtf8`
    * `Dart.Uri.tokens`
    * `Dart.Uri.normalizeQuery`
    * `Dart.Uri.decodeComponent`
    * `Dart.Uri.decodeFormComponent`
    * `Dart.Uri.encodeQueryComponent`

  Key theorems include:
    * `Dart.Uri.decode_encode`
    * `Dart.Uri.decode_normalize`
    * `Dart.Uri.decode_normalize_iff`
-/

------------------------------------------------------------
-- UTF-8
------------------------------------------------------------

namespace Dart

def utf8 (text : List Char) : List UInt8 :=
  text.flatMap String.utf8EncodeChar

/- Bytes that are no text are refused. -/
def decodeUtf8 (bytes : List UInt8) : Option (List Char) :=
  (bytes.toByteArray.utf8Decode?).map Array.toList

theorem decodeUtf8_utf8
    (text : List Char) :
    decodeUtf8 (utf8 text) = some text := by
  have hDecode := @List.utf8Decode?_utf8Encode text
  rw [List.utf8Encode] at hDecode
  rw [decodeUtf8, utf8, hDecode]
  rfl

theorem decodeUtf8_eq_some_iff
    {bytes : List UInt8}
    {text : List Char} :
    decodeUtf8 bytes = some text ↔ bytes = utf8 text := by
  constructor
  · intro hText
    have hSome : (bytes.toByteArray.utf8Decode?).isSome := by
      rw [decodeUtf8, Option.map_eq_some_iff] at hText
      rcases hText with ⟨cs, hCs, _⟩
      rw [hCs]
      rfl
    rw [ByteArray.isSome_utf8Decode?_iff] at hSome
    rcases hSome with ⟨other, hOther⟩
    have hBytes : bytes = utf8 other :=
      List.toByteArray_inj.mp hOther
    rw [hBytes, decodeUtf8_utf8, Option.some.injEq] at hText
    rw [hBytes, hText]
  · rintro rfl
    exact decodeUtf8_utf8 text

theorem utf8_inj
    {s t : List Char} :
    utf8 s = utf8 t ↔ s = t := by
  constructor
  · intro hSame
    have hDecode := decodeUtf8_utf8 s
    rw [hSame, decodeUtf8_utf8, Option.some.injEq] at hDecode
    exact hDecode.symm
  · rintro rfl
    rfl

theorem utf8_append
    (s t : List Char) :
    utf8 (s ++ t) = utf8 s ++ utf8 t :=
  List.flatMap_append

theorem utf8_cons
    (c : Char)
    (s : List Char) :
    utf8 (c :: s) = String.utf8EncodeChar c ++ utf8 s :=
  List.flatMap_cons

/- A character of seven bits is its own byte. -/
theorem utf8EncodeChar_ascii
    {c : Char}
    (hAscii : c.toNat < 128) :
    String.utf8EncodeChar c = [UInt8.ofNat c.toNat] := by
  unfold String.utf8EncodeChar
  have hLe : c.val.toNat ≤ 0x7f := by
    change c.toNat ≤ 127
    omega
  simp only [hLe, if_true]
  rfl

end Dart

------------------------------------------------------------
-- Components
------------------------------------------------------------

namespace Dart

namespace Uri

/- A character of a URL, or an escaped byte. -/
inductive Token where
  | char (c : Char)
  | escape (byte : UInt8)
deriving DecidableEq

/- The byte of two hexadecimal digits. -/
def hexPair (a b : Char) : Option UInt8 := do
  let high ← hexValue a
  let low ← hexValue b
  return UInt8.ofNat (16 * high + low)

/- A `%` without two digits behind it escapes nothing. -/
def tokens : List Char → List Token
  | '%' :: a :: b :: s =>
      match hexPair a b with
      | some byte => .escape byte :: tokens s
      | none => .char '%' :: tokens (a :: b :: s)
  | c :: s => .char c :: tokens s
  | [] => []

/- `%` and two digits in upper case. -/
def escapeByte (byte : UInt8) : List Char :=
  [ '%', (hexDigit (byte.toNat / 16)).toUpper,
    (hexDigit (byte.toNat % 16)).toUpper ]

def escapeChar (c : Char) : List Char :=
  (String.utf8EncodeChar c).flatMap escapeByte

def isUnreserved (c : Char) : Bool :=
  c.isAlphanum || c = '-' || c = '.' || c = '_' || c = '~'

/- What may stand in a query. -/
def isQueryChar (c : Char) : Bool :=
  isUnreserved c || "!$&'()*+,;=:@/?".toList.contains c

/- How `Uri.parse` writes a token of a query. -/
def Token.normalized : Token → List Char
  | .char c => if isQueryChar c then [c] else escapeChar c
  | .escape byte =>
      if isUnreserved (Char.ofNat byte.toNat) then
        [Char.ofNat byte.toNat]
      else
        escapeByte byte

def normalizeQuery (query : List Char) : List Char :=
  (tokens query).flatMap Token.normalized

/- The byte of a token; what has to be escaped is refused. -/
def Token.byte : Token → Option UInt8
  | .char c =>
      if c = '%' || 127 < c.toNat then
        none
      else
        some (UInt8.ofNat c.toNat)
  | .escape byte => some byte

/- The text of the bytes. -/
def decodeEscapes
    (encoded : List Char) : Option (List Char) := do
  decodeUtf8 (← (tokens encoded).mapM Token.byte)

def orderMark : Char := '\uFEFF'

/- `utf8.decode` discards one byte order mark in front. -/
def dropOrderMark (text : List Char) : List Char :=
  if text.head? = some orderMark then text.tail else text

def decodeComponent
    (encoded : List Char) : Option (List Char) :=
  (decodeEscapes encoded).map dropOrderMark

/- `replaceAll('+', ' ')` -/
def plusToSpace (c : Char) : Char :=
  if c = '+' then ' ' else c

/- What a server makes of a component of a form. -/
def decodeFormComponent
    (encoded : List Char) : Option (List Char) :=
  decodeEscapes (encoded.map plusToSpace)

def encodeByte (byte : UInt8) : List Char :=
  if isUnreserved (Char.ofNat byte.toNat) then
    [Char.ofNat byte.toNat]
  else if byte = 32 then
    ['+']
  else
    escapeByte byte

def encodeQueryComponent (text : List Char) : List Char :=
  (utf8 text).flatMap encodeByte

end Uri

end Dart

------------------------------------------------------------
-- Reading Tokens
------------------------------------------------------------

namespace Dart

namespace Uri

variable {c a b : Char} {s t : List Char} {byte : UInt8}

theorem tokens_cons
    (hPlain : c ≠ '%')
    (s : List Char) :
    tokens (c :: s) = .char c :: tokens s := by
  rw [tokens]
  rintro a b rest rfl
  exact absurd rfl hPlain

theorem tokens_escape
    (hPair : hexPair a b = some byte)
    (s : List Char) :
    tokens ('%' :: a :: b :: s) = .escape byte :: tokens s := by
  rw [tokens, hPair]

theorem tokens_alone
    (hPair : hexPair a b = none)
    (s : List Char) :
    tokens ('%' :: a :: b :: s) =
      .char '%' :: tokens (a :: b :: s) := by
  rw [tokens, hPair]

/- Digits are read as they are written. -/
theorem hexValue_upper
    {d : Nat}
    (hDigit : d < 16) :
    hexValue (hexDigit d).toUpper = some d := by
  have hAll :
      ∀ d : Fin 16, hexValue (hexDigit d).toUpper = some d.val :=
    by decide
  exact hAll ⟨d, hDigit⟩

theorem hexPair_upper
    (byte : UInt8) :
    hexPair (hexDigit (byte.toNat / 16)).toUpper
        (hexDigit (byte.toNat % 16)).toUpper =
      some byte := by
  have hLt := byte.toNat_lt
  rw [hexPair, hexValue_upper (by omega),
    hexValue_upper (by omega)]
  simp only [Option.bind_eq_bind, Option.bind_some,
    Option.pure_def, Option.some.injEq]
  rw [show 16 * (byte.toNat / 16) + byte.toNat % 16 =
    byte.toNat by omega]
  exact UInt8.ofNat_toNat

theorem tokens_escapeByte
    (byte : UInt8)
    (s : List Char) :
    tokens (escapeByte byte ++ s) =
      .escape byte :: tokens s :=
  tokens_escape (hexPair_upper byte) s

/- A separator is no part of an escaped byte. -/
def IsSeparator (c : Char) : Prop :=
  c ≠ '%' ∧ hexValue c = none

theorem tokens_append_separator
    (hSeparator : IsSeparator c)
    (s t : List Char) :
    tokens (s ++ c :: t) =
      tokens s ++ .char c :: tokens t := by
  fun_induction tokens s with
  | case1 a b s byte hPair ih =>
      rw [List.cons_append, List.cons_append, List.cons_append,
        tokens_escape hPair, ih]
      rfl
  | case2 a b s hPair ih =>
      rw [List.cons_append, List.cons_append, List.cons_append,
        tokens_alone hPair, List.cons_append]
      rw [List.cons_append, List.cons_append] at ih
      rw [ih]
  | case3 d s hNot ih =>
      by_cases hPercent : d = '%'
      · subst hPercent
        rw [List.cons_append, List.cons_append, ← ih]
        rcases s with _ | ⟨a, _ | ⟨b, s⟩⟩
        · cases t with
          | nil => rfl
          | cons e t =>
              refine tokens_alone ?_ t
              rw [hexPair, hSeparator.2]
              rfl
        · refine tokens_alone ?_ t
          rw [hexPair, hSeparator.2]
          cases hexValue a <;> rfl
        · exact (hNot a b s rfl rfl).elim
      · rw [List.cons_append, tokens_cons hPercent, ih]
        rfl
  | case4 => exact tokens_cons hSeparator.1 t

end Uri

end Dart

------------------------------------------------------------
-- Decoding
------------------------------------------------------------

namespace Dart

namespace Uri

variable {c : Char} {s t : List Char} {byte : UInt8}

/- The bytes of a component, unless something is refused. -/
def bytesOf (encoded : List Char) : Option (List UInt8) :=
  (tokens (encoded.map plusToSpace)).mapM Token.byte

theorem decodeFormComponent_eq
    (encoded : List Char) :
    decodeFormComponent encoded =
      (bytesOf encoded).bind decodeUtf8 := rfl

theorem isAlphanum_ascii
    (hLetter : c.isAlphanum = true) :
    c.toNat < 128 := by
  have hRanges :
      (decide (c.val ≥ 65 ∧ c.val ≤ 90) ||
          decide (c.val ≥ 97) && decide (c.val ≤ 122) ||
        decide (c.val ≥ 48) && decide (c.val ≤ 57)) = true :=
    hLetter
  simp only [Bool.or_eq_true, Bool.and_eq_true,
    decide_eq_true_eq, UInt32.le_iff_toNat_le, ge_iff_le]
    at hRanges
  have hVal : c.toNat = c.val.toNat := rfl
  have hUpper : (90 : UInt32).toNat = 90 := rfl
  have hLower : (122 : UInt32).toNat = 122 := rfl
  have hDigit : (57 : UInt32).toNat = 57 := rfl
  omega

/- Unreserved characters are ASCII, and not special. -/
theorem isUnreserved_plain
    (hUnreserved : isUnreserved c = true) :
    c.toNat < 128 ∧ c ≠ '%' ∧ c ≠ '+' := by
  refine ⟨?_, ?_, ?_⟩
  · simp only [isUnreserved, Bool.or_eq_true,
      decide_eq_true_eq] at hUnreserved
    rcases hUnreserved with (((hLetter | rfl) | rfl) | rfl) | rfl
    · exact isAlphanum_ascii hLetter
    all_goals decide
  · rintro rfl
    cases hUnreserved
  · rintro rfl
    cases hUnreserved

theorem isQueryChar_plain
    (hQuery : isQueryChar c = true) :
    c.toNat < 128 ∧ c ≠ '%' := by
  constructor
  · rw [isQueryChar, Bool.or_eq_true] at hQuery
    rcases hQuery with hUnreserved | hDelimiter
    · exact (isUnreserved_plain hUnreserved).1
    · rw [List.contains_iff_mem] at hDelimiter
      have hAll :
          "!$&'()*+,;=:@/?".toList.all
            (fun c => c.toNat < 128) = true := by decide
      exact
        of_decide_eq_true
          (List.all_eq_true.mp hAll c hDelimiter)
  · rintro rfl
    cases hQuery

theorem plusToSpace_of_ne
    (hPlus : c ≠ '+') :
    plusToSpace c = c := if_neg hPlus

theorem plusToSpace_escapeByte
    (byte : UInt8) :
    (escapeByte byte).map plusToSpace = escapeByte byte := by
  have hAll :
      ∀ d : Fin 16,
        plusToSpace (hexDigit d).toUpper =
          (hexDigit d).toUpper := by decide
  have hLt := byte.toNat_lt
  have hHigh := hAll ⟨byte.toNat / 16, by omega⟩
  have hLow := hAll ⟨byte.toNat % 16, by omega⟩
  simp only [escapeByte, List.map_cons, List.map_nil, hHigh,
    hLow]
  rfl

theorem bytesOf_escapeBytes
    (bytes : List UInt8)
    (s : List Char) :
    bytesOf (bytes.flatMap escapeByte ++ s) =
      (bytesOf s).map (bytes ++ ·) := by
  induction bytes with
  | nil => simp
  | cons byte bytes ih =>
      rw [List.flatMap_cons, List.append_assoc]
      unfold bytesOf at ih ⊢
      rw [List.map_append, plusToSpace_escapeByte,
        tokens_escapeByte, List.mapM_cons, ih]
      cases (tokens (s.map plusToSpace)).mapM Token.byte <;> rfl

/- A character that stands for its own byte. -/
theorem bytesOf_plain
    (hAscii : c.toNat < 128)
    (hPercent : c ≠ '%')
    (hPlus : c ≠ '+')
    (s : List Char) :
    bytesOf (c :: s) =
      (bytesOf s).map (UInt8.ofNat c.toNat :: ·) := by
  unfold bytesOf
  rw [List.map_cons, plusToSpace_of_ne hPlus,
    tokens_cons hPercent, List.mapM_cons, Token.byte, if_neg]
  · cases (tokens (s.map plusToSpace)).mapM Token.byte <;> rfl
  · simp only [Bool.or_eq_true, decide_eq_true_eq, not_or]
    exact ⟨hPercent, by omega⟩

theorem bytesOf_plus
    (s : List Char) :
    bytesOf ('+' :: s) = (bytesOf s).map (32 :: ·) := by
  unfold bytesOf
  rw [List.map_cons]
  change (tokens (' ' :: _)).mapM Token.byte = _
  rw [tokens_cons (by decide), List.mapM_cons]
  cases (tokens (s.map plusToSpace)).mapM Token.byte <;> rfl

/- A byte that is written as an unreserved character. -/
theorem bytesOf_unreserved
    (hUnreserved :
      isUnreserved (Char.ofNat byte.toNat) = true)
    (s : List Char) :
    bytesOf (Char.ofNat byte.toNat :: s) =
      (bytesOf s).map (byte :: ·) := by
  rcases isUnreserved_plain hUnreserved with
    ⟨hAscii, hPercent, hPlus⟩
  rw [bytesOf_plain hAscii hPercent hPlus]
  have hLt := byte.toNat_lt
  have hVal : (Char.ofNat byte.toNat).toNat = byte.toNat := by
    rw [Char.ofNat, dif_pos (.inl (by omega))]
    rfl
  rw [hVal, UInt8.ofNat_toNat]

end Uri

end Dart

------------------------------------------------------------
-- Round Trips
------------------------------------------------------------

namespace Dart

namespace Uri

variable {c : Char} {s t : List Char} {byte : UInt8}

theorem bytesOf_encodeByte
    (byte : UInt8)
    (s : List Char) :
    bytesOf (encodeByte byte ++ s) =
      (bytesOf s).map (byte :: ·) := by
  unfold encodeByte
  split
  next hUnreserved => exact bytesOf_unreserved hUnreserved s
  next =>
    split
    next hSpace =>
      rw [hSpace]
      exact bytesOf_plus s
    next =>
      have hEscape := bytesOf_escapeBytes [byte] s
      simpa using hEscape

/- The decoder of forms inverts the encoder. -/
theorem decode_encode
    (text : List Char) :
    decodeFormComponent (encodeQueryComponent text) =
      some text := by
  have hBytes :
      ∀ bytes : List UInt8,
        bytesOf (bytes.flatMap encodeByte) = some bytes := by
    intro bytes
    induction bytes with
    | nil => rfl
    | cons byte bytes ih =>
        rw [List.flatMap_cons, bytesOf_encodeByte, ih]
        rfl
  rw [decodeFormComponent_eq, encodeQueryComponent, hBytes]
  exact decodeUtf8_utf8 text

theorem dropOrderMark_of_head
    {text : List Char}
    (hMark : text.head? ≠ some orderMark) :
    dropOrderMark text = text :=
  if_neg hMark

/- A mark is lost, and nothing else is. -/
theorem dropOrderMark_eq_iff
    {text rest : List Char} :
    dropOrderMark text = rest ↔
      text = rest ∧ rest.head? ≠ some orderMark ∨
        text = orderMark :: rest := by
  unfold dropOrderMark
  by_cases hMark : text.head? = some orderMark
  · rw [if_pos hMark]
    cases text with
    | nil => cases hMark
    | cons c text =>
        cases hMark
        rw [List.tail_cons, List.cons.injEq]
        constructor
        · exact fun hRest => .inr ⟨rfl, hRest⟩
        · rintro (⟨rfl, hNot⟩ | ⟨_, hRest⟩)
          · exact absurd rfl hNot
          · exact hRest
  · rw [if_neg hMark]
    constructor
    · rintro rfl
      exact .inl ⟨rfl, hMark⟩
    · rintro (⟨hRest, _⟩ | rfl)
      · exact hRest
      · exact absurd rfl hMark

/- `Uri.decodeComponent` inverts the encoding of a text. -/
def IsInverted (text : List Char) : Prop :=
  decodeComponent
      ((encodeQueryComponent text).map plusToSpace) =
    some text

theorem decodeComponent_eq
    (encoded : List Char) :
    decodeComponent (encoded.map plusToSpace) =
      (decodeFormComponent encoded).map dropOrderMark := rfl

theorem isInverted_iff
    {text : List Char} :
    IsInverted text ↔ text.head? ≠ some orderMark := by
  rw [IsInverted, decodeComponent_eq, decode_encode,
    Option.map_some, Option.some.injEq, dropOrderMark_eq_iff]
  constructor
  · rintro (⟨_, hMark⟩ | hLonger)
    · exact hMark
    · exact absurd (congrArg List.length hLonger) (by simp)
  · exact fun hMark => .inl ⟨rfl, hMark⟩

/- The bytes that a query stands for. -/
def Token.formBytes : Token → List UInt8
  | .char c => if c = '+' then [32] else String.utf8EncodeChar c
  | .escape byte => [byte]

theorem bytesOf_normalized
    (token : Token)
    (s : List Char) :
    bytesOf (token.normalized ++ s) =
      (bytesOf s).map (token.formBytes ++ ·) := by
  cases token with
  | escape byte =>
      rw [Token.normalized]
      split
      next hUnreserved => exact bytesOf_unreserved hUnreserved s
      next =>
        have hEscape := bytesOf_escapeBytes [byte] s
        rw [List.flatMap_singleton] at hEscape
        exact hEscape
  | char c =>
      rw [Token.normalized]
      split
      next hQuery =>
        rcases isQueryChar_plain hQuery with ⟨hAscii, hPercent⟩
        by_cases hPlus : c = '+'
        · subst hPlus
          exact bytesOf_plus s
        · rw [Token.formBytes, if_neg hPlus,
            utf8EncodeChar_ascii hAscii]
          exact bytesOf_plain hAscii hPercent hPlus s
      next hQuery =>
        have hPlus : c ≠ '+' := by
          rintro rfl
          exact hQuery rfl
        rw [Token.formBytes, if_neg hPlus]
        exact bytesOf_escapeBytes _ s

/- A query is decoded to the bytes that it stands for. -/
theorem decode_normalize
    (query : List Char) :
    decodeFormComponent (normalizeQuery query) =
      decodeUtf8 ((tokens query).flatMap Token.formBytes) := by
  have hBytes :
      ∀ ts : List Token,
        bytesOf (ts.flatMap Token.normalized) =
          some (ts.flatMap Token.formBytes) := by
    intro ts
    induction ts with
    | nil => rfl
    | cons token ts ih =>
        rw [List.flatMap_cons, bytesOf_normalized, ih]
        rfl
  rw [decodeFormComponent_eq, normalizeQuery, hBytes]
  rfl

/- A text without a plus and without an escaped byte. -/
structure IsVerbatim (text : List Char) : Prop where
  noPlus : '+' ∉ text
  noEscape : ∀ byte, .escape byte ∉ tokens text

theorem percent_of_escape
    {text : List Char}
    (hMem : Token.escape byte ∈ tokens text) :
    '%' ∈ text := by
  fun_induction tokens text with
  | case1 => exact List.mem_cons_self ..
  | case2 => exact List.mem_cons_self ..
  | case3 c s hNot ih =>
      rw [List.mem_cons] at hMem
      rcases hMem with hHead | hTail
      · cases hHead
      · exact List.mem_cons_of_mem _ (ih hTail)
  | case4 => cases hMem

theorem isVerbatim_of_plain
    {text : List Char}
    (hPlus : '+' ∉ text)
    (hPercent : '%' ∉ text) :
    IsVerbatim text :=
  ⟨hPlus, fun _ hMem => hPercent (percent_of_escape hMem)⟩

/- Escaped bytes make a text shorter. -/
theorem length_formBytes
    (text : List Char) :
    ((tokens text).flatMap Token.formBytes).length ≤
        (utf8 text).length ∧
      ((∃ byte, .escape byte ∈ tokens text) →
        ((tokens text).flatMap Token.formBytes).length <
          (utf8 text).length) := by
  have hPositive :
      ∀ c, 0 < (String.utf8EncodeChar c).length :=
    fun c => List.length_pos_iff.mpr String.utf8EncodeChar_ne_nil
  have hChar :
      ∀ c, (Token.char c).formBytes.length ≤
        (String.utf8EncodeChar c).length := by
    intro c
    rw [Token.formBytes]
    split
    next => exact hPositive c
    next => exact Nat.le_refl _
  have hStep :
      ∀ c s,
        (((tokens s).flatMap Token.formBytes).length ≤
            (utf8 s).length ∧
          ((∃ byte, Token.escape byte ∈ tokens s) →
            ((tokens s).flatMap Token.formBytes).length <
              (utf8 s).length)) →
        ((Token.char c :: tokens s).flatMap
              Token.formBytes).length ≤ (utf8 (c :: s)).length ∧
          ((∃ byte, .escape byte ∈ Token.char c :: tokens s) →
            ((Token.char c :: tokens s).flatMap
                Token.formBytes).length <
              (utf8 (c :: s)).length) := by
    intro c s ih
    rw [List.flatMap_cons, utf8_cons, List.length_append,
      List.length_append]
    refine ⟨Nat.add_le_add (hChar c) ih.1, ?_⟩
    rintro ⟨byte, hMem⟩
    rw [List.mem_cons] at hMem
    rcases hMem with hHead | hTail
    · cases hHead
    · exact Nat.add_lt_add_of_le_of_lt (hChar c)
        (ih.2 ⟨byte, hTail⟩)
  fun_induction tokens text with
  | case1 a b s byte hPair ih =>
      have hA := hPositive a
      have hB := hPositive b
      have hPercent := hPositive '%'
      have hLe := ih.1
      simp only [List.flatMap_cons, utf8_cons,
        List.length_append, Token.formBytes,
        List.length_singleton]
      omega
  | case2 a b s hPair ih => exact hStep '%' (a :: b :: s) ih
  | case3 c s hNot ih => exact hStep c s ih
  | case4 => exact ⟨Nat.le_refl _, by simp⟩

/- Without escaped bytes the tokens are the characters. -/
theorem tokens_eq_map
    {text : List Char}
    (hNone : ∀ byte, .escape byte ∉ tokens text) :
    tokens text = text.map .char := by
  fun_induction tokens text with
  | case1 a b s byte hPair ih =>
      exact absurd (List.mem_cons_self ..) (hNone byte)
  | case2 a b s hPair ih =>
      rw [ih fun byte hMem =>
        hNone byte (List.mem_cons_of_mem _ hMem)]
      rfl
  | case3 c s hNot ih =>
      rw [ih fun byte hMem =>
        hNone byte (List.mem_cons_of_mem _ hMem)]
      rfl
  | case4 => rfl

theorem formBytes_of_no_escape
    {text : List Char}
    (hNone : ∀ byte, .escape byte ∉ tokens text) :
    (tokens text).flatMap Token.formBytes =
      utf8 (text.map plusToSpace) := by
  rw [tokens_eq_map hNone, utf8, List.flatMap_map,
    List.flatMap_map]
  congr 1
  funext c
  by_cases hPlus : c = '+'
  · subst hPlus
    rfl
  · rw [Token.formBytes, if_neg hPlus, plusToSpace_of_ne hPlus]

/- Exactly a verbatim text is carried as it is. -/
theorem decode_normalize_iff
    {text : List Char} :
    decodeFormComponent (normalizeQuery text) = some text ↔
      IsVerbatim text := by
  rw [decode_normalize, decodeUtf8_eq_some_iff]
  constructor
  · intro hBytes
    have hNone : ∀ byte, .escape byte ∉ tokens text := by
      intro byte hMem
      have hLess := (length_formBytes text).2 ⟨byte, hMem⟩
      rw [hBytes] at hLess
      exact Nat.lt_irrefl _ hLess
    refine ⟨?_, hNone⟩
    intro hPlus
    rw [formBytes_of_no_escape hNone, utf8_inj] at hBytes
    rw [← hBytes, List.mem_map] at hPlus
    rcases hPlus with ⟨c, _, hC⟩
    unfold plusToSpace at hC
    split at hC
    next => cases hC
    next hOther => exact hOther hC
  · rintro ⟨hPlus, hNone⟩
    rw [formBytes_of_no_escape hNone]
    congr 1
    refine (List.map_congr_left ?_).trans (List.map_id' text)
    intro c hMem
    exact plusToSpace_of_ne fun hIs => hPlus (hIs ▸ hMem)

/- A part that is decoded to a text is at least as long. -/
theorem length_of_decode
    {raw text : List Char}
    (hDecode :
      decodeFormComponent (normalizeQuery raw) = some text) :
    (utf8 text).length ≤ (utf8 raw).length := by
  rw [decode_normalize, decodeUtf8_eq_some_iff] at hDecode
  rw [← hDecode]
  exact (length_formBytes raw).1

end Uri

end Dart
