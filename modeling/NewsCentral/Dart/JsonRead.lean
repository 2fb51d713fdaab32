import NewsCentral.Dart.JsonText

/-
  How numbers and texts are read.

  A number is read to its end because what follows it, if
  anything, cannot go on with it.

  Key definitions include:
    * `Dart.Stops`

  Key theorems include:
    * `Dart.readNumeral_append` and `Dart.eq_of_readNumeral`
    * `Dart.readNumeral_int`
    * `Dart.readString_flatMap_escaped`
-/

------------------------------------------------------------
-- What Follows A Number
------------------------------------------------------------

namespace Dart

/- The rest of a text does not go on with a number. -/
def Stops (rest : List Char) : Prop :=
  ∀ c ∈ rest.head?,
    c.isDigit = false ∧ c ∉ ['.', 'e', 'E', '+', '-']

theorem stops_nil : Stops [] := by
  simp [Stops]

theorem stops_cons
    {c : Char}
    {rest : List Char}
    (hStop : c ∈ [',', ']', '\x7d']) :
    Stops (c :: rest) := by
  simp only [List.mem_cons, List.not_mem_nil, or_false]
    at hStop
  rcases hStop with rfl | rfl | rfl <;> simp [Stops]

section

variable {cs rest more : List Char}

theorem Stops.takeWhile
    (hStops : Stops rest) :
    (cs ++ rest).takeWhile Char.isDigit =
      cs.takeWhile Char.isDigit := by
  induction cs with
  | nil =>
      cases rest with
      | nil => rfl
      | cons c rest =>
          have hNot := (hStops c rfl).1
          simp [hNot]
  | cons c cs ih =>
      simp only [List.cons_append, List.takeWhile_cons, ih]

theorem Stops.dropWhile
    (hStops : Stops rest) :
    (cs ++ rest).dropWhile Char.isDigit =
      cs.dropWhile Char.isDigit ++ rest := by
  induction cs with
  | nil =>
      cases rest with
      | nil => rfl
      | cons c rest =>
          have hNot := (hStops c rfl).1
          simp [hNot]
  | cons c cs ih =>
      simp only [List.cons_append, List.dropWhile_cons, ih]
      split <;> rfl

theorem Stops.readOneOf
    (hStops : Stops rest)
    (allowed : List Char)
    (hAllowed : allowed ⊆ ['.', 'e', 'E', '+', '-']) :
    readOneOf allowed (cs ++ rest) =
      ((readOneOf allowed cs).1,
        (readOneOf allowed cs).2 ++ rest) := by
  cases cs with
  | nil =>
      cases rest with
      | nil => rfl
      | cons c rest =>
          have hNot : c ∉ allowed := fun hMem =>
            (hStops c rfl).2 (hAllowed hMem)
          simp [Dart.readOneOf, hNot]
  | cons c cs =>
      by_cases hMem : c ∈ allowed <;>
        simp [Dart.readOneOf, hMem]

end

end Dart

------------------------------------------------------------
-- Numbers
------------------------------------------------------------

namespace Dart

variable {cs rest more : List Char}

/- A reader that stops in front of a rest stops there. -/
theorem readDigits_append
    {digits : List Char}
    (hStops : Stops rest)
    (hRead : readDigits cs = some (digits, more)) :
    readDigits (cs ++ rest) =
      some (digits, more ++ rest) := by
  unfold readDigits at hRead ⊢
  rw [hStops.takeWhile, hStops.dropWhile]
  split at hRead
  · cases hRead
  · next hSome =>
      rw [if_neg hSome]
      cases hRead
      rfl

theorem readWhole_append
    {digits : List Char}
    (hStops : Stops rest)
    (hRead : readWhole cs = some (digits, more)) :
    readWhole (cs ++ rest) =
      some (digits, more ++ rest) := by
  unfold readWhole at hRead ⊢
  rw [Option.bind_eq_bind, Option.bind_eq_some_iff] at hRead
  rcases hRead with ⟨found, hDigits, hRead⟩
  rw [readDigits_append hStops hDigits, Option.bind_eq_bind,
    Option.bind_some]
  split at hRead
  · cases hRead
  · next hNoZero =>
      rw [if_neg hNoZero]
      cases hRead
      rfl

theorem readFraction_append
    {fraction : List Char}
    (hStops : Stops rest)
    (hRead : readFraction cs = some (fraction, more)) :
    readFraction (cs ++ rest) =
      some (fraction, more ++ rest) := by
  unfold readFraction at hRead ⊢
  simp only [hStops.readOneOf ['.'] (by simp)] at hRead ⊢
  split at hRead
  · next hNone =>
      rw [if_pos hNone]
      cases hRead
      rfl
  · next hPoint =>
      rw [if_neg hPoint]
      rw [Option.bind_eq_bind, Option.bind_eq_some_iff]
        at hRead
      rcases hRead with ⟨found, hDigits, hRead⟩
      rw [readDigits_append hStops hDigits]
      cases hRead
      rfl

theorem readExponent_append
    {exponent : List Char}
    (hStops : Stops rest)
    (hRead : readExponent cs = some (exponent, more)) :
    readExponent (cs ++ rest) =
      some (exponent, more ++ rest) := by
  unfold readExponent at hRead ⊢
  simp only [hStops.readOneOf ['e', 'E'] (by simp),
    hStops.readOneOf ['+', '-'] (by simp)] at hRead ⊢
  split at hRead
  · next hNone =>
      rw [if_pos hNone]
      cases hRead
      rfl
  · next hLetter =>
      rw [if_neg hLetter]
      rw [Option.bind_eq_bind, Option.bind_eq_some_iff]
        at hRead
      rcases hRead with ⟨found, hDigits, hRead⟩
      rw [readDigits_append hStops hDigits]
      cases hRead
      rfl

theorem readNumeral_append
    {n : Numeral}
    (hStops : Stops rest)
    (hRead : readNumeral cs = some (n, more)) :
    readNumeral (cs ++ rest) = some (n, more ++ rest) := by
  unfold readNumeral at hRead ⊢
  simp only [Option.bind_eq_bind,
    Option.bind_eq_some_iff] at hRead
  rcases hRead with
    ⟨whole, hWhole, fraction, hFraction, exponent,
      hExponent, hRead⟩
  simp only [hStops.readOneOf ['-'] (by simp),
    readWhole_append hStops hWhole, Option.bind_eq_bind,
    Option.bind_some, readFraction_append hStops hFraction,
    readExponent_append hStops hExponent]
  cases hRead
  rfl

/- What was read and what is left make up the text. -/
theorem eq_of_readDigits
    {digits : List Char}
    (hRead : readDigits cs = some (digits, more)) :
    cs = digits ++ more := by
  unfold readDigits at hRead
  split at hRead
  · cases hRead
  · cases hRead
    exact (List.takeWhile_append_dropWhile).symm

theorem eq_of_readOneOf
    (allowed : List Char) :
    cs =
      (readOneOf allowed cs).1 ++
        (readOneOf allowed cs).2 := by
  cases cs with
  | nil => rfl
  | cons c cs =>
      by_cases hMem : c ∈ allowed <;> simp [readOneOf, hMem]

theorem eq_of_readWhole
    {digits : List Char}
    (hRead : readWhole cs = some (digits, more)) :
    cs = digits ++ more := by
  unfold readWhole at hRead
  rw [Option.bind_eq_bind, Option.bind_eq_some_iff] at hRead
  rcases hRead with ⟨found, hDigits, hRead⟩
  split at hRead
  · cases hRead
  · cases hRead
    exact eq_of_readDigits hDigits

theorem eq_of_readFraction
    {fraction : List Char}
    (hRead : readFraction cs = some (fraction, more)) :
    cs = fraction ++ more := by
  simp only [readFraction] at hRead
  split at hRead
  · cases hRead
    rfl
  · rw [Option.bind_eq_bind, Option.bind_eq_some_iff]
      at hRead
    rcases hRead with ⟨found, hDigits, hRead⟩
    cases hRead
    rw [List.append_assoc, ← eq_of_readDigits hDigits]
    exact eq_of_readOneOf _

theorem eq_of_readExponent
    {exponent : List Char}
    (hRead : readExponent cs = some (exponent, more)) :
    cs = exponent ++ more := by
  simp only [readExponent] at hRead
  split at hRead
  · cases hRead
    rfl
  · rw [Option.bind_eq_bind, Option.bind_eq_some_iff]
      at hRead
    rcases hRead with ⟨found, hDigits, hRead⟩
    cases hRead
    rw [List.append_assoc, List.append_assoc,
      ← eq_of_readDigits hDigits, ← eq_of_readOneOf]
    exact eq_of_readOneOf _

theorem eq_of_readNumeral
    {n : Numeral}
    (hRead : readNumeral cs = some (n, more)) :
    cs = n.text ++ more := by
  unfold readNumeral at hRead
  simp only [Option.bind_eq_bind,
    Option.bind_eq_some_iff] at hRead
  rcases hRead with
    ⟨whole, hWhole, fraction, hFraction, exponent,
      hExponent, hRead⟩
  cases hRead
  simp only [Numeral.text, List.append_assoc]
  rw [← eq_of_readExponent hExponent,
    ← eq_of_readFraction hFraction,
    ← eq_of_readWhole hWhole]
  exact eq_of_readOneOf _

end Dart

------------------------------------------------------------
-- Integers
------------------------------------------------------------

namespace Dart

/- The digits of a number start with zero only as zero. -/
theorem toDigits_eq_of_head?
    {n : Nat}
    (hZero : (Nat.toDigits 10 n).head? = some '0') :
    Nat.toDigits 10 n = ['0'] := by
  induction n using Nat.strong_induction_on with
  | _ n ih =>
      by_cases hSmall : n < 10
      · rw [Nat.toDigits_of_lt_base hSmall] at hZero ⊢
        simpa using hZero
      · have hStep :=
          Nat.toDigits_of_base_le (b := 10) (by omega)
            (Nat.not_lt.mp hSmall)
        have hHead :
            (Nat.toDigits 10 (n / 10)).head? = some '0' := by
          rw [hStep, List.head?_append_of_ne_nil _
            Nat.toDigits_ne_nil] at hZero
          exact hZero
        have hDigits := ih (n / 10) (by omega) hHead
        have hValue :=
          Nat.ofDigitChars_ten_toDigits (n := n / 10)
        rw [hDigits] at hValue
        have hNone : 0 = n / 10 := hValue
        omega

theorem isDigit_of_mem_toDigits
    {n : Nat} :
    ∀ c ∈ Nat.toDigits 10 n, c.isDigit = true :=
  fun _ hMem =>
    Nat.isDigit_of_mem_toDigits (by omega) (by omega) hMem

theorem readWhole_toDigits
    (n : Nat) :
    readWhole (Nat.toDigits 10 n) =
      some (Nat.toDigits 10 n, []) := by
  have hTake :
      (Nat.toDigits 10 n).takeWhile Char.isDigit =
        Nat.toDigits 10 n :=
    List.takeWhile_eq_self_iff.mpr isDigit_of_mem_toDigits
  have hDrop :
      (Nat.toDigits 10 n).dropWhile Char.isDigit = [] :=
    List.dropWhile_eq_nil_iff.mpr isDigit_of_mem_toDigits
  have hDigits :
      readDigits (Nat.toDigits 10 n) =
        some (Nat.toDigits 10 n, []) := by
    have hSome :
        ((Nat.toDigits 10 n).takeWhile
          Char.isDigit).isEmpty = false := by
      rw [hTake]
      simp [Nat.toDigits_ne_nil]
    rw [readDigits, hSome, hTake, hDrop]
    rfl
  rw [readWhole, hDigits, Option.bind_eq_bind,
    Option.bind_some, if_neg]
  rintro ⟨hZero, hMore⟩
  exact hMore (toDigits_eq_of_head? hZero)

/- The parts of an integer as it prints. -/
def Numeral.ofInt (n : Int) : Numeral where
  sign := if 0 ≤ n then [] else ['-']
  whole := Nat.toDigits 10 n.natAbs
  fraction := []
  exponent := []

theorem Numeral.text_ofInt
    (n : Int) :
    (Numeral.ofInt n).text = (toString n).toList := by
  rw [Int.toString_eq_repr, Int.repr_eq_if]
  by_cases hSign : 0 ≤ n
  · have hAbs : n.natAbs = n.toNat := by omega
    simp [Numeral.ofInt, Numeral.text, hSign, hAbs,
      Nat.toList_repr]
  · have hAbs : n.natAbs = (-n).toNat := by omega
    simp [Numeral.ofInt, Numeral.text, hSign, hAbs,
      Nat.toList_repr]

theorem Numeral.toInt_ofInt
    (n : Int) :
    (Numeral.ofInt n).toInt = n := by
  simp only [Numeral.toInt, Numeral.ofInt,
    Nat.ofDigitChars_ten_toDigits]
  by_cases hSign : 0 ≤ n
  · simp [hSign]
  · simp only [hSign, if_false, List.isEmpty_cons,
      Bool.false_eq_true]
    omega

theorem readNumeral_int
    (n : Int) :
    readNumeral (toString n).toList =
      some (Numeral.ofInt n, []) := by
  have hOneOf :
      readOneOf ['-'] (toString n).toList =
        ((Numeral.ofInt n).sign,
          Nat.toDigits 10 n.natAbs) := by
    rw [← Numeral.text_ofInt]
    by_cases hSign : 0 ≤ n
    · simp only [Numeral.text, Numeral.ofInt, hSign, if_true,
        List.nil_append, List.append_nil]
      cases hDigits : Nat.toDigits 10 n.natAbs with
      | nil => rfl
      | cons c cs =>
          have hDigit : c.isDigit = true :=
            isDigit_of_mem_toDigits c
              (by rw [hDigits]; simp)
          have hNot : c ≠ '-' := by
            rintro rfl
            simp at hDigit
          simp [readOneOf, hNot]
    · simp [Numeral.text, Numeral.ofInt, hSign, readOneOf]
  simp only [readNumeral, hOneOf, readWhole_toDigits,
    Option.bind_eq_bind, Option.bind_some]
  rfl

end Dart

------------------------------------------------------------
-- Texts
------------------------------------------------------------

namespace Dart

/- What reading a character adds to what is read next. -/
def addPiece
    (c : Char)
    (more : List Piece × List Char) :
    List Piece × List Char :=
  (.char c :: more.1, more.2)

variable {c : Char} {cs rest : List Char}

theorem readPieces_plain
    (hQuote : c ≠ '"')
    (hSlash : c ≠ '\\')
    (hControl : ¬ c.toNat < 32) :
    readPieces (c :: cs) =
      (readPieces cs).map (addPiece c) := by
  rw [readPieces.eq_def]
  simp only [if_neg hQuote, if_neg hSlash, if_neg hControl]
  cases readPieces cs <;> rfl

theorem readPieces_named
    {name : Char}
    (hName : name ≠ 'u')
    (hChar : unescapedChar name = some c) :
    readPieces ('\\' :: name :: cs) =
      (readPieces cs).map (addPiece c) := by
  rw [readPieces.eq_def]
  simp only [if_neg (show '\\' ≠ '"' by decide), if_true]
  split
  · next hEq =>
      cases hEq
      exact absurd rfl hName
  · next hEq =>
      cases hEq
      rw [hChar]
      cases readPieces cs <;> rfl
  · next hEq => cases hEq

theorem Piece.ofUnit_toNat
    (c : Char) :
    Piece.ofUnit c.toNat = .char c := by
  have hValid := c.valid
  have hNot : ¬ (0xD800 ≤ c.toNat ∧ c.toNat < 0xE000) := by
    have hCases :
        c.toNat < 0xD800 ∨
          0xDFFF < c.toNat ∧ c.toNat < 0x110000 := hValid
    omega
  rw [Piece.ofUnit, if_neg hNot, Char.ofNat_toNat]

theorem readPieces_unit
    {h₁ h₂ h₃ h₄ : Char}
    (hUnit : hexUnit h₁ h₂ h₃ h₄ = some c.toNat) :
    readPieces ('\\' :: 'u' :: h₁ :: h₂ :: h₃ :: h₄ :: cs) =
      (readPieces cs).map (addPiece c) := by
  rw [readPieces.eq_def]
  simp only [if_neg (show '\\' ≠ '"' by decide), if_true,
    hUnit, Option.bind_eq_bind, Option.bind_some,
    Piece.ofUnit_toNat]
  cases readPieces cs <;> rfl

theorem hexValue_hexDigit
    {d : Nat}
    (hDigit : d < 16) :
    hexValue (hexDigit d) = some d := by
  interval_cases d <;> decide

theorem hexUnit_control
    (hControl : c.toNat < 32) :
    hexUnit '0' '0' (hexDigit (c.toNat / 16))
        (hexDigit (c.toNat % 16)) =
      some c.toNat := by
  have hZero : hexValue '0' = some 0 := by decide
  simp only [hexUnit, hZero,
    hexValue_hexDigit (d := c.toNat / 16) (by omega),
    hexValue_hexDigit (d := c.toNat % 16) (by omega),
    Option.bind_eq_bind, Option.bind_some,
    Option.some.injEq]
  omega

/- An escaped character is read as that character. -/
theorem readPieces_escaped :
    readPieces (escaped c ++ cs) =
      (readPieces cs).map (addPiece c) := by
  have hCode :
      ∀ code name,
        c.toNat = code →
        unescapedChar name = some (Char.ofNat code) →
        unescapedChar name = some c := by
    rintro code name rfl hChar
    rw [hChar, Char.ofNat_toNat]
  unfold escaped
  by_cases hControl : c.toNat < 32
  · rw [if_pos hControl]
    -- the five named ones, then the code
    iterate 5
      split
      · next h =>
          exact
            readPieces_named (by decide) (hCode _ _ h rfl)
    · exact readPieces_unit (hexUnit_control hControl)
  · rw [if_neg hControl]
    split
    · next hNamed =>
        rcases hNamed with rfl | rfl <;>
          exact readPieces_named (by decide) rfl
    · next hPlain =>
        rw [not_or] at hPlain
        exact readPieces_plain hPlain.1 hPlain.2 hControl

/- The text between the quotes is read back. -/
theorem readPieces_flatMap_escaped
    (text : List Char) :
    readPieces (text.flatMap escaped ++ '"' :: rest) =
      some (text.map .char, rest) := by
  induction text with
  | nil =>
      rw [List.flatMap_nil, List.nil_append,
        readPieces.eq_def]
      simp only [if_true, List.map_nil]
  | cons c text ih =>
      rw [List.flatMap_cons, List.append_assoc,
        readPieces_escaped, ih]
      rfl

theorem joined_char
    (text : List Char) :
    joined (text.map .char) = text := by
  induction text with
  | nil => rfl
  | cons c text ih => rw [List.map_cons, joined, ih]

theorem readString_flatMap_escaped
    (s : String)
    (rest : List Char) :
    readString (s.toList.flatMap escaped ++ '"' :: rest) =
      some (s, rest) := by
  rw [readString, readPieces_flatMap_escaped,
    Option.bind_eq_bind, Option.bind_some, joined_char,
    String.ofList_toList]

end Dart
