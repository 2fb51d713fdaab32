import NewsCentral.Lists.Digits

/-
  The fields of a `DateTime` and its texts.

  Both texts give the fields without the offset of their
  time zone.  They are read back here in the form in which
  they are written, which is one of those that
  `DateTime.parse` accepts.

  Key definitions include:
    * `Dart.DateTime`
    * `Dart.DateTime.toText` and `toIso8601String`
    * `Dart.DateTime.parseWith`
    * `Dart.DateTime.parse` and `parseText`

  Key theorems include:
    * `Dart.DateTime.fourDigits_inj`
    * `Dart.DateTime.toText_lt_toText_iff`
    * `Dart.DateTime.parseWith_tail`
    * `Dart.DateTime.parse_toIso8601String`
    * `Dart.DateTime.parseText_toText`
-/

------------------------------------------------------------
-- Fields And Texts
------------------------------------------------------------

namespace Dart

/- A point of time that is not UTC, as its clock shows it. -/
structure DateTime where
  year : Int
  month : Nat
  day : Nat
  hour : Nat
  minute : Nat
  second : Nat
  millisecond : Nat
  microsecond : Nat
  year_bounds : -271821 ≤ year ∧ year ≤ 275760
  month_le : month ≤ 12
  day_le : day ≤ 31
  hour_lt : hour < 24
  minute_lt : minute < 60
  second_lt : second < 60
  millisecond_lt : millisecond < 1000
  microsecond_lt : microsecond < 1000
deriving DecidableEq

namespace DateTime

/- `_twoDigits` -/
def twoDigits (n : Nat) : String :=
  if n ≥ 10 then n.repr else "0" ++ n.repr

/- `_threeDigits` -/
def threeDigits (n : Nat) : String :=
  if n ≥ 100 then
    n.repr
  else if n ≥ 10 then
    "0" ++ n.repr
  else
    "00" ++ n.repr

/- `_fourDigits` -/
def fourDigits (n : Int) : String :=
  let absN := n.natAbs
  let sign := if n < 0 then "-" else ""
  if absN ≥ 1000 then
    sign ++ absN.repr
  else if absN ≥ 100 then
    sign ++ ("0" ++ absN.repr)
  else if absN ≥ 10 then
    sign ++ ("00" ++ absN.repr)
  else
    sign ++ ("000" ++ absN.repr)

/- `_sixDigits` -/
def sixDigits (n : Int) : String :=
  let absN := n.natAbs
  let sign := if n < 0 then "-" else "+"
  if absN ≥ 100000 then
    sign ++ absN.repr
  else
    sign ++ ("0" ++ absN.repr)

/- What both texts give behind the year. -/
def tail (separator : String) (d : DateTime) : String :=
  "-" ++ twoDigits d.month ++ "-" ++ twoDigits d.day ++
    separator ++ twoDigits d.hour ++ ":" ++
    twoDigits d.minute ++ ":" ++ twoDigits d.second ++
    "." ++ threeDigits d.millisecond ++
    if d.microsecond = 0 then
      ""
    else
      threeDigits d.microsecond

/- `toString` -/
def toText (d : DateTime) : String :=
  fourDigits d.year ++ tail " " d

/- `toIso8601String` -/
def toIso8601String (d : DateTime) : String :=
  (if -9999 ≤ d.year ∧ d.year ≤ 9999 then
    fourDigits d.year
  else
    sixDigits d.year) ++
    tail "T" d

/- A number of as many digits as asked for. -/
def readDigits
    (width : Nat)
    (cs : List Char) : Option (Nat × List Char) :=
  let run := cs.take width
  if run.length = width ∧ run.all Char.isDigit then
    some (Nat.ofDigitChars 10 run 0, cs.drop width)
  else
    none

/- One given character. -/
def readChar
    (c : Char) : List Char → Option (List Char)
  | [] => none
  | first :: cs => if first = c then some cs else none

/- The digits of a year, with its sign. -/
def readSigned
    (negative : Bool)
    (cs : List Char) : Option (Int × List Char) :=
  let run := cs.takeWhile Char.isDigit
  let absN := Nat.ofDigitChars 10 run 0
  if 4 ≤ run.length ∧ run.length ≤ 6 then
    some
      (if negative then -(absN : Int) else (absN : Int),
        cs.drop run.length)
  else
    none

/- A year of four to six digits, perhaps with a sign. -/
def readYear : List Char → Option (Int × List Char)
  | [] => none
  | c :: cs =>
      if c = '-' then
        readSigned true cs
      else if c = '+' then
        readSigned false cs
      else
        readSigned false (c :: cs)

/- The digits behind the milliseconds, if there are any. -/
def readMicro : List Char → Option (Nat × List Char)
  | [] => some (0, [])
  | c :: cs => readDigits 3 (c :: cs)

/- The fields that were read, if they are those of a date. -/
def ofFields
    (year : Int)
    (month day hour minute second millisecond microsecond :
      Nat) : Option DateTime :=
  if h : (-271821 ≤ year ∧ year ≤ 275760) ∧ month ≤ 12 ∧
      day ≤ 31 ∧ hour < 24 ∧ minute < 60 ∧ second < 60 ∧
      millisecond < 1000 ∧ microsecond < 1000 then
    some
      { year := year
        month := month
        day := day
        hour := hour
        minute := minute
        second := second
        millisecond := millisecond
        microsecond := microsecond
        year_bounds := h.1
        month_le := h.2.1
        day_le := h.2.2.1
        hour_lt := h.2.2.2.1
        minute_lt := h.2.2.2.2.1
        second_lt := h.2.2.2.2.2.1
        millisecond_lt := h.2.2.2.2.2.2.1
        microsecond_lt := h.2.2.2.2.2.2.2 }
  else
    none

/-
  `parse`, for texts that have the separator in front of the
  time; the others that it accepts are not read here.
-/
def parseWith
    (separator : Char)
    (text : String) : Option DateTime := do
  let (year, cs) ← readYear text.toList
  let cs ← readChar '-' cs
  let (month, cs) ← readDigits 2 cs
  let cs ← readChar '-' cs
  let (day, cs) ← readDigits 2 cs
  let cs ← readChar separator cs
  let (hour, cs) ← readDigits 2 cs
  let cs ← readChar ':' cs
  let (minute, cs) ← readDigits 2 cs
  let cs ← readChar ':' cs
  let (second, cs) ← readDigits 2 cs
  let cs ← readChar '.' cs
  let (millisecond, cs) ← readDigits 3 cs
  let (microsecond, cs) ← readMicro cs
  if cs = [] then
    ofFields year month day hour minute second millisecond
      microsecond
  else
    none

/- Of the texts that `toIso8601String` writes. -/
def parse (text : String) : Option DateTime :=
  parseWith 'T' text

/- Of those that `toString` writes. -/
def parseText (text : String) : Option DateTime :=
  parseWith ' ' text

end DateTime

end Dart

------------------------------------------------------------
-- The Characters Of The Texts
------------------------------------------------------------

namespace Dart

open Digits

namespace DateTime

variable {n : Nat} {y : Int}

/- A number padded by `k` zeros to its width. -/
theorem toList_padded
    (k width : Nat)
    (hLow : width = 0 ∨ 10 ^ width ≤ n)
    (hHigh : n < 10 ^ (width + 1)) :
    List.replicate k '0' ++ n.repr.toList =
      digits (k + (width + 1)) n := by
  rw [Nat.toList_repr]
  exact replicate_append_toDigits
    (by rw [length_toDigits hLow hHigh])

theorem toList_twoDigits
    (hn : n < 100) :
    (twoDigits n).toList = digits 2 n := by
  unfold twoDigits
  by_cases hTwo : n ≥ 10
  · rw [if_pos hTwo]
    exact toList_padded 0 1
      (.inr hTwo) hn
  · rw [if_neg hTwo, String.toList_append]
    exact toList_padded 1 0
      (.inl rfl) (by omega)

theorem toList_threeDigits
    (hn : n < 1000) :
    (threeDigits n).toList = digits 3 n := by
  unfold threeDigits
  by_cases hThree : n ≥ 100
  · rw [if_pos hThree]
    exact toList_padded 0 2
      (.inr hThree) hn
  · rw [if_neg hThree]
    by_cases hTwo : n ≥ 10
    · rw [if_pos hTwo, String.toList_append]
      exact toList_padded 1 1
        (.inr hTwo) (by omega)
    · rw [if_neg hTwo, String.toList_append]
      exact toList_padded 2 0
        (.inl rfl) (by omega)

/- The sign of a year in its text of four digits. -/
def sign (y : Int) : List Char :=
  if y < 0 then ['-'] else []

theorem toList_sign :
    (if y < 0 then "-" else "").toList = sign y := by
  unfold sign
  split <;> rfl

/- A year has at least four digits. -/
theorem toList_fourDigits
    (y : Int) :
    ∃ width, y.natAbs < 10 ^ width ∧
      (y.natAbs < 10000 → width = 4) ∧
      4 ≤ width ∧
      (fourDigits y).toList =
        sign y ++ digits width y.natAbs := by
  unfold fourDigits
  simp only
  by_cases hFour : y.natAbs ≥ 1000
  · -- no zeros: the width is that of the shortest text
    have hPos :=
      Nat.length_toDigits_pos (b := 10) (n := y.natAbs)
    refine ⟨(Nat.toDigits 10 y.natAbs).length, ?_, ?_, ?_, ?_⟩
    · exact (Nat.length_toDigits_le_iff (by omega) hPos).mp
        (Nat.le_refl _)
    · intro hSmall
      have hLength :
          (Nat.toDigits 10 y.natAbs).length = 3 + 1 :=
        length_toDigits (.inr hFour) hSmall
      exact hLength
    · by_contra hShort
      have hLess :=
        (Nat.length_toDigits_le_iff (b := 10) (k := 3)
          (n := y.natAbs) (by omega) (by omega)).mp
          (by omega)
      omega
    · rw [if_pos hFour, String.toList_append, toList_sign,
        Nat.toList_repr]
      exact congrArg _
        (replicate_append_toDigits (k := 0) (by simp))
  · have hSmall : y.natAbs < 10 ^ 4 := by omega
    refine ⟨4, hSmall, fun _ => rfl, Nat.le_refl 4, ?_⟩
    rw [if_neg hFour]
    by_cases hThree : y.natAbs ≥ 100
    · rw [if_pos hThree, String.toList_append, toList_sign,
        String.toList_append]
      exact congrArg _
        (toList_padded 1 2
          (.inr hThree) (by omega))
    · rw [if_neg hThree]
      by_cases hTwo : y.natAbs ≥ 10
      · rw [if_pos hTwo, String.toList_append, toList_sign,
          String.toList_append]
        exact congrArg _
          (toList_padded 2 1
            (.inr hTwo) (by omega))
      · rw [if_neg hTwo, String.toList_append, toList_sign,
          String.toList_append]
        exact congrArg _
          (toList_padded 3 0
            (.inl rfl) (by omega))

/- Beyond four digits a year has six, always with a sign. -/
theorem toList_sixDigits
    (hLong : 9999 < y.natAbs)
    (hShort : y.natAbs < 1000000) :
    (sixDigits y).toList =
      (if y < 0 then '-' else '+') :: digits 6 y.natAbs := by
  have hSign :
      (if y < 0 then "-" else "+").toList =
        [if y < 0 then '-' else '+'] := by
    split <;> rfl
  unfold sixDigits
  simp only
  by_cases hSix : y.natAbs ≥ 100000
  · rw [if_pos hSix, String.toList_append, hSign]
    exact congrArg _
      (toList_padded 0 5
        (.inr hSix) hShort)
  · rw [if_neg hSix, String.toList_append, hSign,
      String.toList_append]
    exact congrArg _
      (toList_padded 1 4
        (.inr (by omega)) (by omega))

theorem minus_not_mem_digits
    {width : Nat} :
    '-' ∉ digits width n := by
  intro hMem
  exact absurd
    (lt_of_mem_digits (show '-' < '0' by decide) hMem)
    (by decide)

/- A sign is told from the digits. -/
theorem sign_append_digits_inj
    {z : Int}
    {k j : Nat}
    (hEq :
      sign y ++ digits k y.natAbs =
        sign z ++ digits j z.natAbs) :
    (y < 0 ↔ z < 0) ∧
      digits k y.natAbs = digits j z.natAbs := by
  unfold sign at hEq
  by_cases hy : y < 0
  · by_cases hz : z < 0
    · rw [if_pos hy, if_pos hz] at hEq
      exact ⟨iff_of_true hy hz, List.append_cancel_left hEq⟩
    · rw [if_pos hy, if_neg hz] at hEq
      have hNone : '-' ∉ digits j z.natAbs :=
        minus_not_mem_digits
      refine absurd ?_ hNone
      rw [List.nil_append] at hEq
      rw [← hEq]
      simp
  · by_cases hz : z < 0
    · rw [if_neg hy, if_pos hz] at hEq
      have hNone : '-' ∉ digits k y.natAbs :=
        minus_not_mem_digits
      refine absurd ?_ hNone
      rw [List.nil_append] at hEq
      rw [hEq]
      simp
    · rw [if_neg hy, if_neg hz] at hEq
      exact ⟨iff_of_false hy hz, hEq⟩

/- Different years have different texts. -/
theorem fourDigits_inj
    {z : Int} :
    fourDigits y = fourDigits z ↔ y = z := by
  constructor
  · intro hEq
    have hList := congrArg String.toList hEq
    rcases toList_fourDigits y with ⟨k, hFits, _, _, hy⟩
    rcases toList_fourDigits z with ⟨j, hFits', _, _, hz⟩
    rw [hy, hz] at hList
    rcases sign_append_digits_inj hList with
      ⟨hSign, hDigits⟩
    have hWidth := congrArg List.length hDigits
    rw [length_digits, length_digits] at hWidth
    subst hWidth
    rw [digits_inj hFits hFits'] at hDigits
    omega
  · rintro rfl
    rfl

/- Years of four digits are ordered as their texts. -/
theorem fourDigits_lt_fourDigits_iff
    {z : Int}
    (hy : 0 ≤ y ∧ y ≤ 9999)
    (hz : 0 ≤ z ∧ z ≤ 9999) :
    fourDigits y < fourDigits z ↔ y < z := by
  rcases toList_fourDigits y with ⟨k, hFits, hk, _, hText⟩
  rcases toList_fourDigits z with ⟨j, hFits', hj, _, hText'⟩
  cases hk (by omega)
  cases hj (by omega)
  rw [String.lt_iff, hText, hText', sign, sign,
    if_neg (by omega), if_neg (by omega), List.nil_append,
    List.nil_append, digits_lt_digits_iff hFits hFits']
  omega

end DateTime

end Dart

------------------------------------------------------------
-- The Order Of The Texts
------------------------------------------------------------

namespace Dart

open Digits

namespace DateTime

/- The fields behind the year come one after another. -/
def FieldsBefore (d e : DateTime) : Prop :=
  d.month < e.month ∨ d.month = e.month ∧
    (d.day < e.day ∨ d.day = e.day ∧
      (d.hour < e.hour ∨ d.hour = e.hour ∧
        (d.minute < e.minute ∨ d.minute = e.minute ∧
          (d.second < e.second ∨ d.second = e.second ∧
            (d.millisecond < e.millisecond ∨
              d.millisecond = e.millisecond ∧
                d.microsecond < e.microsecond)))))

/- Padded fields in front of more text decide first. -/
theorem field_lt_iff
    {width n m : Nat}
    {us vs : List Char}
    {sep : Char}
    (hn : n < 10 ^ width)
    (hm : m < 10 ^ width) :
    digits width n ++ sep :: us <
        digits width m ++ sep :: vs ↔
      n < m ∨ n = m ∧ us < vs := by
  rw [append_lt_append_iff (by simp),
    digits_lt_digits_iff hn hm, digits_inj hn hm]
  simp

/- The digits behind the milliseconds. -/
def microText (n : Nat) : List Char :=
  if n = 0 then [] else digits 3 n

theorem microText_lt_iff
    {n m : Nat}
    (hn : n < 1000)
    (hm : m < 1000) :
    microText n < microText m ↔ n < m := by
  unfold microText
  by_cases hZero : m = 0
  · simp [hZero]
  · by_cases hFirst : n = 0
    · rw [if_pos hFirst, if_neg hZero]
      refine iff_of_true ?_ (by omega)
      cases hDigits : digits 3 m with
      | nil =>
          have hLength : (digits 3 m).length = 3 :=
            length_digits
          rw [hDigits] at hLength
          cases hLength
      | cons c cs => exact List.nil_lt_cons c cs
    · rw [if_neg hFirst, if_neg hZero]
      exact digits_lt_digits_iff hn hm

theorem toList_microText
    {n : Nat}
    (hn : n < 1000) :
    (if n = 0 then "" else threeDigits n).toList =
      microText n := by
  unfold microText
  split
  · rfl
  · exact toList_threeDigits hn

/- The characters behind the year. -/
theorem toList_tail
    (separator : String)
    (d : DateTime) :
    (tail separator d).toList =
      '-' :: (digits 2 d.month ++
        '-' :: (digits 2 d.day ++
          (separator.toList ++ (digits 2 d.hour ++
            ':' :: (digits 2 d.minute ++
              ':' :: (digits 2 d.second ++
                '.' :: (digits 3 d.millisecond ++
                  microText d.microsecond))))))) := by
  have hMonth := d.month_le
  have hDay := d.day_le
  have hHour := d.hour_lt
  have hMinute := d.minute_lt
  have hSecond := d.second_lt
  have hDash : "-".toList = ['-'] := rfl
  have hColon : ":".toList = [':'] := rfl
  have hPoint : ".".toList = ['.'] := rfl
  unfold tail
  simp only [String.toList_append]
  rw [toList_twoDigits (by omega), toList_twoDigits (by omega),
    toList_twoDigits (by omega), toList_twoDigits (by omega),
    toList_twoDigits (by omega),
    toList_threeDigits d.millisecond_lt,
    toList_microText d.microsecond_lt, hDash, hColon, hPoint]
  simp only [List.append_assoc, List.cons_append,
    List.nil_append]

/- Behind the year the texts are ordered as the fields. -/
theorem tail_lt_tail_iff
    (d e : DateTime) :
    (tail " " d).toList < (tail " " e).toList ↔
      FieldsBefore d e := by
  have hMonth := d.month_le
  have hDay := d.day_le
  have hHour := d.hour_lt
  have hMinute := d.minute_lt
  have hSecond := d.second_lt
  have hMonth' := e.month_le
  have hDay' := e.day_le
  have hHour' := e.hour_lt
  have hMinute' := e.minute_lt
  have hSecond' := e.second_lt
  have hSpace : " ".toList = [' '] := rfl
  rw [toList_tail, toList_tail, hSpace]
  simp only [List.cons_append, List.nil_append]
  rw [List.cons_lt_cons_self]
  rw [field_lt_iff (by omega) (by omega),
    field_lt_iff (by omega) (by omega),
    field_lt_iff (by omega) (by omega),
    field_lt_iff (by omega) (by omega),
    field_lt_iff (by omega) (by omega),
    append_lt_append_iff (by simp),
    digits_lt_digits_iff d.millisecond_lt e.millisecond_lt,
    digits_inj d.millisecond_lt e.millisecond_lt,
    microText_lt_iff d.microsecond_lt e.microsecond_lt]
  rfl

/- Only the first character of a year can be a sign. -/
theorem toList_fourDigits_cons
    (y : Int) :
    ∃ c cs, (fourDigits y).toList = c :: cs ∧
      ∀ x ∈ cs, '-' < x := by
  rcases toList_fourDigits y with ⟨width, _, _, hWidth, hText⟩
  have hMore : ∀ x ∈ digits width y.natAbs, '-' < x :=
    fun x hMem => lt_of_mem_digits (by decide) hMem
  unfold sign at hText
  by_cases hy : y < 0
  · rw [if_pos hy] at hText
    exact ⟨'-', _, hText, hMore⟩
  · rw [if_neg hy, List.nil_append] at hText
    cases hDigits : digits width y.natAbs with
    | nil =>
        have hLength : (digits width y.natAbs).length = width :=
          length_digits
        rw [hDigits, List.length_nil] at hLength
        omega
    | cons c cs =>
        rw [hDigits] at hText hMore
        exact ⟨c, cs, hText, fun x hMem =>
          hMore x (List.mem_cons_of_mem c hMem)⟩

/-
  The texts are ordered as their years' texts, and within a
  year as the other fields.
-/
theorem toText_lt_toText_iff
    (d e : DateTime) :
    d.toText < e.toText ↔
      fourDigits d.year < fourDigits e.year ∨
        d.year = e.year ∧ FieldsBefore d e := by
  rcases toList_fourDigits_cons d.year with
    ⟨c, cs, hText, hMore⟩
  rcases toList_fourDigits_cons e.year with
    ⟨c', cs', hText', hMore'⟩
  have hYear :
      d.year = e.year ↔ c = c' ∧ cs = cs' := by
    rw [← fourDigits_inj, ← String.toList_inj, hText,
      hText', List.cons.injEq]
  rw [hYear, ← tail_lt_tail_iff d e, String.lt_iff,
    String.lt_iff, toText, toText, String.toList_append,
    String.toList_append, hText, hText', toList_tail,
    toList_tail]
  simp only [List.cons_append, List.cons_lt_cons_self]
  rw [List.cons_lt_cons_iff,
    append_sep_lt_append_sep_iff hMore hMore',
    List.cons_lt_cons_iff]
  tauto

end DateTime

end Dart

------------------------------------------------------------
-- Reading A Text Back
------------------------------------------------------------

namespace Dart

open Digits

namespace DateTime

variable {n : Nat} {cs : List Char}

/- Padded fields are read back. -/
theorem readDigits_digits
    (width : Nat)
    (hn : n < 10 ^ width) :
    readDigits width (digits width n ++ cs) =
      some (n, cs) := by
  have hRun :
      (digits width n ++ cs).take width =
        digits width n := by
    simp
  have hRest :
      (digits width n ++ cs).drop width = cs := by
    simp
  have hAll :
      (digits width n).all Char.isDigit = true := by
    rw [List.all_eq_true]
    exact fun c hMem => isDigit_of_mem_digits hMem
  unfold readDigits
  simp only [hRun, hRest]
  rw [if_pos ⟨length_digits, hAll⟩, ofDigitChars_digits hn]

theorem readChar_same
    (c : Char) :
    readChar c (c :: cs) = some cs := by
  simp [readChar]

theorem readMicro_microText
    (hn : n < 1000) :
    readMicro (microText n) = some (n, []) := by
  unfold microText
  by_cases hZero : n = 0
  · rw [if_pos hZero, hZero]
    rfl
  · rw [if_neg hZero]
    have hRead :
        readDigits 3 (digits 3 n ++ []) = some (n, []) :=
      readDigits_digits 3 hn
    rw [List.append_nil] at hRead
    cases hDigits : digits 3 n with
    | nil =>
        have hLength : (digits 3 n).length = 3 :=
          length_digits
        rw [hDigits] at hLength
        cases hLength
    | cons c cs =>
        rw [hDigits] at hRead
        exact hRead

/- The digits of a year in front of something else. -/
theorem readSigned_digits
    (negative : Bool)
    {width : Nat}
    (hn : n < 10 ^ width)
    (hWidth : 4 ≤ width ∧ width ≤ 6)
    (hRest : ∀ c ∈ cs.head?, c.isDigit = false) :
    readSigned negative (digits width n ++ cs) =
      some (if negative then -(n : Int) else (n : Int), cs) := by
  have hRun :
      (digits width n ++ cs).takeWhile Char.isDigit =
        digits width n := by
    rw [List.takeWhile_append_of_pos
      (fun c hMem => isDigit_of_mem_digits hMem)]
    cases cs with
    | nil => simp
    | cons c cs =>
        have hStop := hRest c rfl
        simp [hStop]
  unfold readSigned
  simp only [hRun, length_digits]
  rw [if_pos hWidth, ofDigitChars_digits hn]
  simp

/- Without a sign, a year begins with a digit. -/
theorem readYear_digits
    {width : Nat}
    (hn : n < 10 ^ width)
    (hWidth : 4 ≤ width ∧ width ≤ 6)
    (hRest : ∀ c ∈ cs.head?, c.isDigit = false) :
    readYear (digits width n ++ cs) =
      some ((n : Int), cs) := by
  have hRead :=
    readSigned_digits false hn hWidth hRest
  cases hDigits : digits width n with
  | nil =>
      have hLength : (digits width n).length = width :=
        length_digits
      rw [hDigits, List.length_nil] at hLength
      omega
  | cons c ds =>
      have hFirst : c ∈ digits width n := by
        simp [hDigits]
      have hDigit : c.isDigit = true :=
        isDigit_of_mem_digits hFirst
      have hMinus : c ≠ '-' := by
        rintro rfl
        cases hDigit
      have hPlus : c ≠ '+' := by
        rintro rfl
        cases hDigit
      rw [hDigits] at hRead
      rw [List.cons_append, readYear, if_neg hMinus,
        if_neg hPlus]
      exact hRead

/- A year of a date has four to six digits in its text. -/
theorem toList_fourDigits_of_date
    (d : DateTime) :
    ∃ width, d.year.natAbs < 10 ^ width ∧
      (4 ≤ width ∧ width ≤ 6) ∧
      (fourDigits d.year).toList =
        sign d.year ++ digits width d.year.natAbs := by
  have hBounds := d.year_bounds
  by_cases hFour : d.year.natAbs < 10000
  · rcases toList_fourDigits d.year with
      ⟨width, hFits, hWidth, _, hText⟩
    cases hWidth hFour
    exact ⟨4, hFits, by omega, hText⟩
  · -- no zeros: the width is that of the shortest text
    have hPos :=
      Nat.length_toDigits_pos (b := 10) (n := d.year.natAbs)
    have hLe {k : Nat} (hk : 0 < k) :
        (Nat.toDigits 10 d.year.natAbs).length ≤ k ↔
          d.year.natAbs < 10 ^ k :=
      Nat.length_toDigits_le_iff (by omega) hk
    refine
      ⟨(Nat.toDigits 10 d.year.natAbs).length, ?_, ⟨?_, ?_⟩,
        ?_⟩
    · exact (hLe hPos).mp (Nat.le_refl _)
    · by_contra hShort
      have hLess := (hLe (k := 3) (by omega)).mp (by omega)
      omega
    · exact (hLe (by omega)).mpr (by omega)
    · unfold fourDigits
      simp only
      rw [if_pos (by omega), String.toList_append, toList_sign,
        Nat.toList_repr]
      exact congrArg _
        (replicate_append_toDigits (k := 0) (by simp))

/- A year of a date is read back. -/
theorem readYear_fourDigits
    (d : DateTime)
    (cs : List Char) :
    readYear ((fourDigits d.year).toList ++ '-' :: cs) =
      some (d.year, '-' :: cs) := by
  have hRest :
      ∀ c ∈ ('-' :: cs).head?, c.isDigit = false := by
    intro c hMem
    cases hMem
    rfl
  rcases toList_fourDigits_of_date d with
    ⟨width, hFits, hWidth, hText⟩
  rw [hText]
  by_cases hSign : d.year < 0
  · rw [sign, if_pos hSign, List.cons_append,
      List.nil_append, List.cons_append, readYear,
      if_pos rfl,
      readSigned_digits _ hFits hWidth hRest, if_pos rfl]
    congr 2
    omega
  · rw [sign, if_neg hSign, List.nil_append,
      readYear_digits hFits hWidth hRest]
    congr 2
    omega

/- The year of a text in the ISO form. -/
theorem readYear_toIso8601String
    (d : DateTime)
    (cs : List Char) :
    readYear
        ((if -9999 ≤ d.year ∧ d.year ≤ 9999 then
            fourDigits d.year
          else
            sixDigits d.year).toList ++ '-' :: cs) =
      some (d.year, '-' :: cs) := by
  by_cases hFour : -9999 ≤ d.year ∧ d.year ≤ 9999
  · rw [if_pos hFour]
    exact readYear_fourDigits d cs
  · have hBounds := d.year_bounds
    have hFits : d.year.natAbs < 10 ^ 6 := by omega
    have hRest :
        ∀ c ∈ ('-' :: cs).head?, c.isDigit = false := by
      intro c hMem
      cases hMem
      rfl
    rw [if_neg hFour, toList_sixDigits (by omega) (by omega)]
    by_cases hSign : d.year < 0
    · rw [if_pos hSign, List.cons_append, readYear,
        if_pos rfl,
        readSigned_digits _ hFits (by omega) hRest, if_pos rfl]
      congr 2
      omega
    · rw [if_neg hSign, List.cons_append, readYear,
        if_neg (by decide), if_pos rfl,
        readSigned_digits _ hFits (by omega) hRest,
        if_neg (by decide)]
      congr 2
      omega

/- The fields of a date are those of a date. -/
theorem ofFields_self
    (d : DateTime) :
    ofFields d.year d.month d.day d.hour d.minute d.second
        d.millisecond d.microsecond =
      some d := by
  unfold ofFields
  rw [dif_pos]
  exact ⟨d.year_bounds, d.month_le, d.day_le, d.hour_lt,
    d.minute_lt, d.second_lt, d.millisecond_lt,
    d.microsecond_lt⟩

/- A step of `parseWith` that reads what was written. -/
theorem some_bind_eq
    {α β : Type}
    (a : α)
    (next : α → Option β) :
    (some a >>= next) = next a := rfl

theorem bind_readDigits
    {β : Type}
    (width : Nat)
    (hn : n < 10 ^ width)
    (next : Nat × List Char → Option β) :
    (readDigits width (digits width n ++ cs) >>= next) =
      next (n, cs) := by
  rw [readDigits_digits width hn, some_bind_eq]

theorem bind_readChar
    {β : Type}
    (c : Char)
    (next : List Char → Option β) :
    (readChar c (c :: cs) >>= next) = next cs := by
  rw [readChar_same, some_bind_eq]

/- A text is read back if its year is. -/
theorem parseWith_tail
    {separator : Char}
    {year text : String}
    (d : DateTime)
    (hSeparator : text.toList = [separator])
    (hYear : ∀ cs,
      readYear (year.toList ++ '-' :: cs) =
        some (d.year, '-' :: cs)) :
    parseWith separator (year ++ tail text d) = some d := by
  have hMonth := d.month_le
  have hDay := d.day_le
  have hHour := d.hour_lt
  have hMinute := d.minute_lt
  have hSecond := d.second_lt
  unfold parseWith
  rw [String.toList_append, toList_tail, hSeparator, hYear,
    some_bind_eq]
  dsimp only
  rw [bind_readChar, bind_readDigits 2 (by omega)]
  dsimp only
  rw [bind_readChar, bind_readDigits 2 (by omega)]
  dsimp only [List.cons_append, List.nil_append]
  rw [bind_readChar, bind_readDigits 2 (by omega)]
  dsimp only
  rw [bind_readChar, bind_readDigits 2 (by omega)]
  dsimp only
  rw [bind_readChar, bind_readDigits 2 (by omega)]
  dsimp only
  rw [bind_readChar, bind_readDigits 3 d.millisecond_lt]
  dsimp only
  rw [readMicro_microText d.microsecond_lt, some_bind_eq,
    if_pos rfl]
  exact ofFields_self d

/- What is written in the ISO form is read back. -/
theorem parse_toIso8601String
    (d : DateTime) :
    parse d.toIso8601String = some d :=
  parseWith_tail d rfl (readYear_toIso8601String d)

/- What `toString` writes is read back. -/
theorem parseText_toText
    (d : DateTime) :
    parseText d.toText = some d :=
  parseWith_tail d rfl (readYear_fourDigits d)

/- Some day at noon. -/
def noon : DateTime where
  year := 2020
  month := 10
  day := 1
  hour := 12
  minute := 0
  second := 0
  millisecond := 0
  microsecond := 0
  year_bounds := by decide
  month_le := by decide
  day_le := by decide
  hour_lt := by decide
  minute_lt := by decide
  second_lt := by decide
  millisecond_lt := by decide
  microsecond_lt := by decide

end DateTime

end Dart
