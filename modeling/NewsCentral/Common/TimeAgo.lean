import NewsCentral.Dart.Json
import NewsCentral.Lists.Units

/-
  How long ago an article is of: the method
  `displayTimeAgoFromTimestamp` of `lib/common/tools.dart`.

  The text names the largest unit that fits, with the number
  of whole units.  Several months are counted in years.

  Key definitions include:
    * `NewsCentral.Tools.displayTimeAgoFromTimestamp`
    * `NewsCentral.Tools.TimeUnit`
    * `NewsCentral.Tools.duration`
    * `NewsCentral.Tools.IsTold`

  Key theorems include:
    * `NewsCentral.Tools.timeAgo_displays`
    * `NewsCentral.Tools.duration_text`
    * `NewsCentral.Tools.isTold_iff`
-/

------------------------------------------------------------
-- Durations
------------------------------------------------------------

namespace Dart

structure Duration where
  inMicroseconds : Int

namespace Duration

/- Whole units, towards zero. -/
def inDays (d : Duration) : Int :=
  d.inMicroseconds.tdiv 86400000000

def inHours (d : Duration) : Int :=
  d.inMicroseconds.tdiv 3600000000

def inMinutes (d : Duration) : Int :=
  d.inMicroseconds.tdiv 60000000

def inSeconds (d : Duration) : Int :=
  d.inMicroseconds.tdiv 1000000

end Duration

end Dart

------------------------------------------------------------
-- The Displayed Text
------------------------------------------------------------

namespace NewsCentral

open Dart

namespace Tools

/-
  The text for a difference.  The quotients are rounded
  down; as doubles they are far from the next integer.
-/
def timeAgo
    (numericDates : Bool)
    (difference : Duration) : String :=
  if difference.inDays / 365 ≥ 2 then
    (difference.inDays / 365).repr ++ " years ago"
  else if difference.inDays / 365 ≥ 1 then
    if numericDates then "1 year ago" else "Last year"
  else if difference.inDays / 30 ≥ 2 then
    -- the number of years, which is 0 here
    (difference.inDays / 365).repr ++ " months ago"
  else if difference.inDays / 30 ≥ 1 then
    if numericDates then "1 month ago" else "Last month"
  else if difference.inDays / 7 ≥ 2 then
    (difference.inDays / 7).repr ++ " weeks ago"
  else if difference.inDays / 7 ≥ 1 then
    if numericDates then "1 week ago" else "Last week"
  else if difference.inDays ≥ 2 then
    difference.inDays.repr ++ " days ago"
  else if difference.inDays ≥ 1 then
    if numericDates then "1 day ago" else "Yesterday"
  else if difference.inHours ≥ 2 then
    difference.inHours.repr ++ " hours ago"
  else if difference.inHours ≥ 1 then
    if numericDates then "1 hour ago" else "An hour ago"
  else if difference.inMinutes ≥ 2 then
    difference.inMinutes.repr ++ " minutes ago"
  else if difference.inMinutes ≥ 1 then
    if numericDates then "1 minute ago" else "A minute ago"
  else if difference.inSeconds ≥ 3 then
    difference.inSeconds.repr ++ " seconds ago"
  else
    "Just now"

/-
  The instants are in microseconds; which one a text stands
  for depends on the time zone of the device.
-/
def displayTimeAgoFromTimestamp
    (parse : String → Except Thrown Int)
    (now : Int)
    (dateString : String)
    (numericDates : Bool) : Except Thrown String := do
  let date ← parse dateString
  return timeAgo numericDates ⟨now - date⟩

/- The units in which time is told. -/
inductive TimeUnit where
  | years
  | months
  | weeks
  | days
  | hours
  | minutes
  | seconds
deriving DecidableEq

namespace TimeUnit

/- In microseconds. -/
def length : TimeUnit → Nat
  | .years => 365 * 86400000000
  | .months => 30 * 86400000000
  | .weeks => 7 * 86400000000
  | .days => 86400000000
  | .hours => 3600000000
  | .minutes => 60000000
  | .seconds => 1000000

/- How many there have to be. -/
def least : TimeUnit → Nat
  | .seconds => 3
  | _ => 1

/- What is behind the number of several units, and of one. -/
def plural : TimeUnit → String
  | .years => " years ago"
  | .months => " months ago"
  | .weeks => " weeks ago"
  | .days => " days ago"
  | .hours => " hours ago"
  | .minutes => " minutes ago"
  | .seconds => " seconds ago"

def singular : TimeUnit → String
  | .years => " year ago"
  | .months => " month ago"
  | .weeks => " week ago"
  | .days => " day ago"
  | .hours => " hour ago"
  | .minutes => " minute ago"
  | .seconds => " second ago"

/- One unit without a number. -/
def worded : TimeUnit → String
  | .years => "Last year"
  | .months => "Last month"
  | .weeks => "Last week"
  | .days => "Yesterday"
  | .hours => "An hour ago"
  | .minutes => "A minute ago"
  | .seconds => "A second ago"

/- The text of a number of units. -/
def text
    (numericDates : Bool)
    (unit : TimeUnit)
    (count : Nat) : String :=
  if count = 1 then
    if numericDates then
      count.repr ++ unit.singular
    else
      unit.worded
  else
    count.repr ++ unit.plural

end TimeUnit

/- What is behind the number of a text, and its meaning. -/
def meanings : List (String × Nat) :=
  ("Just now", 0) ::
    [ .years, .months, .weeks, .days, .hours, .minutes,
      .seconds ].flatMap fun unit : TimeUnit =>
        [ (unit.plural, unit.length),
          (unit.singular, unit.length),
          (unit.worded, unit.length) ]

/- The duration that a text tells, in microseconds. -/
def duration (text : String) : Option Nat :=
  let digits := text.toList.takeWhile Char.isDigit
  let words := text.toList.dropWhile Char.isDigit
  let count :=
    if digits = [] then 1 else Nat.ofDigitChars 10 digits 0
  (meanings.lookup (String.ofList words)).map (count * ·)

/- The largest unit that has elapsed, with its number. -/
abbrev Tells : Nat → TimeUnit → Nat → Prop :=
  Units.Tells TimeUnit.length TimeUnit.least

/- A text tells the time that has elapsed. -/
structure IsTold
    (numericDates : Bool)
    (elapsed : Nat)
    (text : String) : Prop where
  unit :
    ∀ unit count, Tells elapsed unit count →
      text = unit.text numericDates count
  now : elapsed < 3000000 → text = "Just now"

/- Two months, and less than a year. -/
def SeveralMonths (elapsed : Nat) : Prop :=
  2 * TimeUnit.months.length ≤ elapsed ∧
    elapsed < TimeUnit.years.length

end Tools

end NewsCentral

------------------------------------------------------------
-- Meanings Of Texts
------------------------------------------------------------

namespace NewsCentral

open Dart

namespace Tools

variable {n : Nat} {words : String}

theorem duration_repr
    (n : Nat)
    (hWords :
      words.toList.takeWhile Char.isDigit = []) :
    duration (n.repr ++ words) =
      (meanings.lookup words).map (n * ·) := by
  have hRepr : n.repr.toList = Nat.toDigits 10 n :=
    String.toList_ofList
  have hDigits :
      ∀ c ∈ Nat.toDigits 10 n, c.isDigit = true :=
    fun c hMem =>
      Nat.isDigit_of_mem_toDigits (by decide) (by decide) hMem
  have hDrop : words.toList.dropWhile Char.isDigit =
      words.toList := by
    have hBoth :=
      @List.takeWhile_append_dropWhile _ Char.isDigit
        words.toList
    rwa [hWords, List.nil_append] at hBoth
  unfold duration
  simp only [String.toList_append, hRepr,
    List.takeWhile_append_of_pos hDigits,
    List.dropWhile_append_of_pos hDigits, hWords, hDrop,
    List.append_nil, if_neg Nat.toDigits_ne_nil,
    Nat.ofDigitChars_ten_toDigits, String.ofList_toList]

/- A text tells the duration of its units. -/
theorem duration_text
    (numericDates : Bool)
    (unit : TimeUnit)
    (count : Nat) :
    duration (unit.text numericDates count) =
      some (count * unit.length) := by
  unfold TimeUnit.text
  split
  next hOne =>
    split
    next =>
      rw [duration_repr]
      · cases unit <;> rfl
      · cases unit <;> rfl
    next =>
      rw [hOne]
      cases unit <;> rfl
  next =>
    rw [duration_repr]
    · cases unit <;> rfl
    · cases unit <;> rfl

end Tools

end NewsCentral

------------------------------------------------------------
-- What Is Displayed
------------------------------------------------------------

namespace NewsCentral

open Dart

namespace Tools

variable {numericDates : Bool} {elapsed : Nat} {text : String}

theorem tdiv_natCast
    (n m : Nat) :
    (n : Int).tdiv m = (n / m : Nat) :=
  rfl

/- From where on, and up to where, a unit is told rightly. -/
def IsUnit (elapsed : Nat) : TimeUnit → Prop
  | .years => 31536000000000 ≤ elapsed
  | .months =>
      2592000000000 ≤ elapsed ∧ elapsed < 5184000000000
  | .weeks =>
      604800000000 ≤ elapsed ∧ elapsed < 2592000000000
  | .days => 86400000000 ≤ elapsed ∧ elapsed < 604800000000
  | .hours => 3600000000 ≤ elapsed ∧ elapsed < 86400000000
  | .minutes => 60000000 ≤ elapsed ∧ elapsed < 3600000000
  | .seconds => 3000000 ≤ elapsed ∧ elapsed < 60000000

theorem IsUnit.tells
    {unit : TimeUnit}
    (hUnit : IsUnit elapsed unit) :
    Tells elapsed unit (elapsed / unit.length) := by
  refine Units.tells_div ?_ ?_ ?_
  · cases unit <;> decide
  · cases unit <;>
      simp only [IsUnit, TimeUnit.length, TimeUnit.least]
        at hUnit ⊢ <;>
      omega
  · intro other hLonger
    cases unit <;> cases other <;>
      simp only [IsUnit, TimeUnit.length, TimeUnit.least]
        at hUnit hLonger ⊢ <;>
      omega

theorem IsUnit.right
    {unit : TimeUnit}
    (hUnit : IsUnit elapsed unit) :
    ¬ SeveralMonths elapsed := by
  rintro ⟨hLow, hHigh⟩
  cases unit <;>
    simp only [IsUnit, TimeUnit.length] at hUnit hLow hHigh <;>
    omega

theorem length_inj
    (u v : TimeUnit)
    (hSame : u.length = v.length) :
    u = v := by
  cases u <;> cases v <;> first | rfl | cases hSame

/- No unit is told of less than three seconds. -/
theorem shortest
    (unit : TimeUnit) :
    3000000 ≤ unit.least * unit.length := by
  cases unit <;> decide

/- Several months are told as such. -/
theorem SeveralMonths.tells
    (hMonths : SeveralMonths elapsed) :
    ∃ count, 2 ≤ count ∧ Tells elapsed .months count := by
  refine
    ⟨elapsed / TimeUnit.months.length, ?_,
      Units.tells_div (by decide) ?_ ?_⟩
  · simp only [SeveralMonths, TimeUnit.length] at hMonths ⊢
    omega
  · simp only [SeveralMonths, TimeUnit.length, TimeUnit.least]
      at hMonths ⊢
    omega
  · intro other hLonger
    cases other <;>
      simp only [SeveralMonths, TimeUnit.length,
        TimeUnit.least] at hMonths hLonger ⊢ <;>
      omega

/- What the text says: it tells a unit, or goes wrong. -/
inductive Displays
    (numericDates : Bool)
    (elapsed : Nat) : String → Prop where
  | told
      {unit : TimeUnit}
      {count : Nat}
      (hTells : Tells elapsed unit count)
      (hRight : ¬ SeveralMonths elapsed) :
      Displays numericDates elapsed
        (unit.text numericDates count)
  | wrong
      (hMonths : SeveralMonths elapsed) :
      Displays numericDates elapsed "0 months ago"
  | now
      (hNow : elapsed < 3000000) :
      Displays numericDates elapsed "Just now"

namespace Displays

theorem ite
    {p : Prop}
    [Decidable p]
    {other : String}
    (hThen : p → Displays numericDates elapsed text)
    (hElse : ¬ p → Displays numericDates elapsed other) :
    Displays numericDates elapsed
      (if p then text else other) := by
  by_cases hTest : p
  · rw [if_pos hTest]
    exact hThen hTest
  · rw [if_neg hTest]
    exact hElse hTest

/- Several units are told by their number. -/
theorem several
    {count : Int}
    (unit : TimeUnit)
    (hUnit : IsUnit elapsed unit)
    (hCount : count = (elapsed / unit.length : Nat))
    (hSeveral : 2 ≤ count) :
    Displays numericDates elapsed
      (count.repr ++ unit.plural) := by
  have hText :
      count.repr ++ unit.plural =
        unit.text numericDates (elapsed / unit.length) := by
    rw [TimeUnit.text, if_neg (by omega), hCount]
    rfl
  rw [hText]
  exact .told hUnit.tells hUnit.right

/- One unit is told with its number or in words. -/
theorem single
    (unit : TimeUnit)
    (hUnit : IsUnit elapsed unit)
    (hSingle : elapsed / unit.length = 1) :
    Displays numericDates elapsed
      (if numericDates then "1" ++ unit.singular
        else unit.worded) := by
  have hText :
      (if numericDates then "1" ++ unit.singular
        else unit.worded) =
        unit.text numericDates (elapsed / unit.length) := by
    rw [TimeUnit.text, if_pos hSingle, hSingle]
    rfl
  rw [hText]
  exact .told hUnit.tells hUnit.right

/- Several months are less than a year. -/
theorem noYears
    (hMonths : SeveralMonths elapsed) :
    Displays numericDates elapsed
      ((((elapsed / 86400000000 : Nat) : Int) / 365).repr ++
        " months ago") := by
  have hZero :
      ((elapsed / 86400000000 : Nat) : Int) / 365 = 0 := by
    simp only [SeveralMonths, TimeUnit.length] at hMonths
    omega
  rw [hZero]
  exact .wrong hMonths

end Displays

/- What is displayed of a time that has elapsed. -/
theorem timeAgo_displays
    (numericDates : Bool)
    (elapsed : Nat) :
    Displays numericDates elapsed
      (timeAgo numericDates ⟨elapsed⟩) := by
  have hDays :
      (Duration.mk elapsed).inDays =
        (elapsed / 86400000000 : Nat) :=
    tdiv_natCast elapsed 86400000000
  have hHours :
      (Duration.mk elapsed).inHours =
        (elapsed / 3600000000 : Nat) :=
    tdiv_natCast elapsed 3600000000
  have hMinutes :
      (Duration.mk elapsed).inMinutes =
        (elapsed / 60000000 : Nat) :=
    tdiv_natCast elapsed 60000000
  have hSeconds :
      (Duration.mk elapsed).inSeconds =
        (elapsed / 1000000 : Nat) :=
    tdiv_natCast elapsed 1000000
  rw [timeAgo, hDays, hHours, hMinutes, hSeconds]
  -- each branch names its unit; the bounds are left over
  refine
    .ite (fun hMany => .several .years ?_ ?_ hMany)
      fun hYears =>
    .ite (fun hOne => .single .years ?_ ?_) fun hYear =>
    .ite (fun hMany => .noYears ?_) fun hMonths =>
    .ite (fun hOne => .single .months ?_ ?_) fun hMonth =>
    .ite (fun hMany => .several .weeks ?_ ?_ hMany)
      fun hWeeks =>
    .ite (fun hOne => .single .weeks ?_ ?_) fun hWeek =>
    .ite (fun hMany => .several .days ?_ rfl hMany)
      fun hDays =>
    .ite (fun hOne => .single .days ?_ ?_) fun hDay =>
    .ite (fun hMany => .several .hours ?_ rfl hMany)
      fun hHours =>
    .ite (fun hOne => .single .hours ?_ ?_) fun hHour =>
    .ite (fun hMany => .several .minutes ?_ rfl hMany)
      fun hMinutes =>
    .ite (fun hOne => .single .minutes ?_ ?_) fun hMinute =>
    .ite (fun hMany => .several .seconds ?_ rfl (by omega))
      fun hSeconds => .now (by omega)
  all_goals
    simp only [IsUnit, SeveralMonths, TimeUnit.length]
    omega

/- The displayed text is right except for several months. -/
theorem isTold_iff
    (hDisplays : Displays numericDates elapsed text) :
    IsTold numericDates elapsed text ↔
      ¬ SeveralMonths elapsed := by
  cases hDisplays with
  | told hTells hRight =>
      refine iff_of_true ⟨?_, ?_⟩ hRight
      · intro unit count hOther
        rcases hTells.unique length_inj hOther with ⟨rfl, rfl⟩
        rfl
      · intro hNow
        exact absurd hTells.fits
          (not_le.mpr (hNow.trans_le (shortest _)))
  | wrong hMonths =>
      refine iff_of_false ?_ (not_not.mpr hMonths)
      intro hTold
      rcases hMonths.tells with ⟨count, hSeveral, hTells⟩
      have hNone : duration "0 months ago" = some 0 :=
        duration_text numericDates .months 0
      rw [hTold.unit .months count hTells, duration_text,
        Option.some.injEq] at hNone
      simp only [TimeUnit.length] at hNone
      omega
  | now hNow =>
      refine iff_of_true ⟨?_, fun _ => rfl⟩ ?_
      · intro unit count hTells
        exact absurd hTells.fits
          (not_le.mpr (hNow.trans_le (shortest _)))
      · rintro ⟨hLow, _⟩
        simp only [TimeUnit.length] at hLow
        omega

/- What is told of a longer time is no shorter. -/
theorem duration_le_iff
    {a b : Nat}
    {s t : String}
    (hLe : a ≤ b)
    (hFirst : Displays numericDates a s)
    (hSecond : Displays numericDates b t) :
    (∃ m n, duration s = some m ∧ duration t = some n ∧
        m ≤ n) ↔
      ¬ SeveralMonths b ∨ SeveralMonths a ∨ a < 3000000 := by
  have hSome : ∃ n, duration t = some n := by
    cases hSecond with
    | told => exact ⟨_, duration_text ..⟩
    | wrong => exact ⟨0, duration_text numericDates .months 0⟩
    | now => exact ⟨0, rfl⟩
  rcases hSome with ⟨n, hN⟩
  cases hFirst with
  | wrong hMonths =>
      refine iff_of_true ?_ (.inr (.inl hMonths))
      exact
        ⟨0, n, duration_text numericDates .months 0, hN,
          Nat.zero_le n⟩
  | now hNow =>
      exact iff_of_true ⟨0, n, rfl, hN, Nat.zero_le n⟩
        (.inr (.inr hNow))
  | @told unit count hTells hRight =>
      have hLong := (shortest unit).trans hTells.fits
      cases hSecond with
      | told hOther hRight' =>
          refine iff_of_true ?_ (.inl hRight')
          exact
            ⟨_, _, duration_text .., duration_text ..,
              hTells.mono hLe hOther⟩
      | wrong hMonths =>
          refine iff_of_false ?_ ?_
          · rintro ⟨m, k, hM, hK, hShort⟩
            have hPositive := hTells.least_le
            have hZero : duration "0 months ago" = some 0 :=
              duration_text numericDates .months 0
            rw [duration_text, Option.some.injEq] at hM
            rw [hZero, Option.some.injEq] at hK
            cases unit <;>
              simp only [TimeUnit.length, TimeUnit.least]
                at hPositive hM <;>
              omega
          · rintro (hNot | hBoth | hNow)
            · exact hNot hMonths
            · exact hRight hBoth
            · omega
      | now hNow => omega

end Tools

end NewsCentral

------------------------------------------------------------
-- Past Dates
------------------------------------------------------------

namespace NewsCentral

open Dart

namespace Tools

/- A text of a date, and a later instant. -/
structure Past (parse : String → Except Thrown Int) where
  dateString : String
  date : Int
  now : Int
  parsed : parse dateString = .ok date
  past : date ≤ now

namespace Past

variable {parse : String → Except Thrown Int}

/- In microseconds. -/
def elapsed (p : Past parse) : Nat :=
  (p.now - p.date).toNat

/- What is displayed for the text at the instant. -/
def displayed
    (p : Past parse)
    (numericDates : Bool) : Except Thrown String :=
  displayTimeAgoFromTimestamp parse p.now p.dateString
    numericDates

theorem displayed_eq
    (p : Past parse)
    (numericDates : Bool) :
    p.displayed numericDates =
      .ok (timeAgo numericDates ⟨p.elapsed⟩) := by
  have hElapsed : (p.elapsed : Int) = p.now - p.date :=
    Int.toNat_of_nonneg (sub_nonneg.mpr p.past)
  rw [displayed, displayTimeAgoFromTimestamp, p.parsed,
    hElapsed]
  rfl

end Past

variable {parse : String → Except Thrown Int}

/-
  The text tells the time that has elapsed, except between
  two months and a year.  It is never longer than the one
  for a longer time, except for one in this range.
-/
theorem displayTimeAgo_iff
    (numericDates : Bool)
    (a b : Past parse)
    (hLe : a.elapsed ≤ b.elapsed) :
    ((∃ text, a.displayed numericDates = .ok text ∧
          IsTold numericDates a.elapsed text) ↔
        ¬ SeveralMonths a.elapsed) ∧
      ((∃ s t m n,
          a.displayed numericDates = .ok s ∧
            b.displayed numericDates = .ok t ∧
            duration s = some m ∧ duration t = some n ∧
            m ≤ n) ↔
        ¬ SeveralMonths b.elapsed ∨
          SeveralMonths a.elapsed ∨ a.elapsed < 3000000) := by
  have hFirst := timeAgo_displays numericDates a.elapsed
  have hSecond := timeAgo_displays numericDates b.elapsed
  rw [← isTold_iff hFirst, ← duration_le_iff hLe hFirst hSecond,
    a.displayed_eq, b.displayed_eq]
  constructor
  · constructor
    · rintro ⟨text, hText, hTold⟩
      cases hText
      exact hTold
    · intro hTold
      exact ⟨_, rfl, hTold⟩
  · constructor
    · rintro ⟨s, t, m, n, hS, hT, hRest⟩
      cases hS
      cases hT
      exact ⟨m, n, hRest⟩
    · rintro ⟨m, n, hRest⟩
      exact ⟨_, _, m, n, rfl, rfl, hRest⟩

/- An instant after the epoch, in days. -/
def daysAfter
    (days : Nat) : Past fun _ => .ok 0 where
  dateString := "1970-01-01T00:00:00Z"
  date := 0
  now := days * 86400000000
  parsed := rfl
  past := by omega

/- Three days and three weeks are told as such. -/
theorem displayTimeAgo_days_weeks :
    (∃ text,
        (daysAfter 3).displayed true = .ok text ∧
          IsTold true (daysAfter 3).elapsed text) ∧
      ∃ s t m n,
        (daysAfter 3).displayed true = .ok s ∧
          (daysAfter 21).displayed true = .ok t ∧
          duration s = some m ∧ duration t = some n ∧
          m ≤ n := by
  have hBoth :=
    displayTimeAgo_iff true (daysAfter 3) (daysAfter 21)
      (by decide)
  have hFirst : ¬ SeveralMonths (daysAfter 3).elapsed := by
    rintro ⟨hLow, _⟩
    exact absurd hLow (by decide)
  have hSecond : ¬ SeveralMonths (daysAfter 21).elapsed := by
    rintro ⟨hLow, _⟩
    exact absurd hLow (by decide)
  exact ⟨hBoth.1.mpr hFirst, hBoth.2.mpr (.inl hSecond)⟩

/- Two months are displayed as none, which is too short. -/
theorem two_months_are_none :
    (daysAfter 59).displayed true = .ok "1 month ago" ∧
      (daysAfter 60).displayed true = .ok "0 months ago" ∧
      ¬ IsTold true (daysAfter 60).elapsed "0 months ago" ∧
      duration "1 month ago" =
        some TimeUnit.months.length ∧
      duration "0 months ago" = some 0 := by
  have hMonths : SeveralMonths (daysAfter 60).elapsed :=
    ⟨by decide, by decide⟩
  refine
    ⟨rfl, rfl, ?_, duration_text true .months 1,
      duration_text true .months 0⟩
  rw [isTold_iff (.wrong hMonths)]
  exact not_not.mpr hMonths

end Tools

end NewsCentral
