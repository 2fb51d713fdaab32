import NewsCentral.Dart.DateTime

/-
  The fields that a clock shows at a moment.

  A clock counts microseconds and shows them, moved by the
  offset of its time zone, in the Gregorian calendar.  A
  later reading of the clock shows later fields; the offset
  is not among them.

  Key definitions include:
    * `Dart.Calendar.yearStart` and `yearOf`
    * `Dart.Calendar.monthStart` and `monthOf`
    * `Dart.Moment`
    * `Dart.Moment.now`

  Key theorems include:
    * `Dart.Calendar.yearOf_spec`
    * `Dart.Calendar.monthOf_spec`
    * `Dart.Moment.fieldsBefore_iff`
    * `Dart.Moment.toText_lt_toText_iff`
-/

------------------------------------------------------------
-- Blocks Of Numbers
------------------------------------------------------------

namespace Dart

namespace Calendar

/-
  Numbers in consecutive blocks are ordered as their blocks,
  and within one block as their places in it.
-/
theorem block_lt_iff
    {start : Int → Int}
    (hStart : StrictMono start)
    {i j n m : Int}
    (hn : start i ≤ n ∧ n < start (i + 1))
    (hm : start j ≤ m ∧ m < start (j + 1)) :
    n < m ↔
      i < j ∨ i = j ∧ n - start i < m - start j := by
  rcases lt_trichotomy i j with hLess | rfl | hMore
  · have hNext : start (i + 1) ≤ start j :=
      hStart.monotone hLess
    exact iff_of_true (by omega) (.inl hLess)
  · simp
  · have hNext : start (j + 1) ≤ start i :=
      hStart.monotone hMore
    exact iff_of_false (by omega) (by omega)

/- A number is ordered by its quotient, then its rest. -/
theorem divMod_lt_iff
    {k n m : Nat}
    (hk : 0 < k) :
    n < m ↔
      n / k < m / k ∨ n / k = m / k ∧ n % k < m % k := by
  have hn := Nat.div_add_mod n k
  have hm := Nat.div_add_mod m k
  have hRest := Nat.mod_lt n hk
  have hRest' := Nat.mod_lt m hk
  rcases lt_trichotomy (n / k) (m / k) with
    hLess | hSame | hMore
  · have hNext := Nat.mul_le_mul_left k hLess
    rw [Nat.succ_eq_add_one, Nat.mul_add] at hNext
    exact iff_of_true (by omega) (.inl hLess)
  · rw [hSame] at hn
    simp only [hSame, lt_irrefl, false_or, true_and]
    omega
  · have hNext := Nat.mul_le_mul_left k hMore
    rw [Nat.succ_eq_add_one, Nat.mul_add] at hNext
    exact iff_of_false (by omega) (by omega)

end Calendar

end Dart

------------------------------------------------------------
-- Years And Months
------------------------------------------------------------

namespace Dart

namespace Calendar

/- The days from the first of January 1 to that of a year. -/
def yearStart (y : Int) : Int :=
  365 * (y - 1) + (y - 1) / 4 - (y - 1) / 100 + (y - 1) / 400

/- The year of a day that is counted so. -/
def yearOf (n : Int) : Int :=
  let y := 400 * n / 146097 + 1
  if n < yearStart y then
    y - 1
  else if yearStart (y + 1) ≤ n then
    y + 1
  else
    y

/- One in a leap year, else zero. -/
def leapDay (y : Int) : Int :=
  yearStart (y + 1) - yearStart y - 365

/- The days from the first of January to that of a month. -/
def monthStart (leap m : Int) : Int :=
  (367 * m - 362) / 12 - if m ≤ 2 then 0 else 2 - leap

/- The month of a day of the year. -/
def monthOf (leap n : Int) : Int :=
  (12 * (n + if n < 59 + leap then 0 else 2 - leap) + 373) /
    367

theorem yearStart_strictMono :
    StrictMono yearStart := by
  refine strictMono_int_of_lt_succ fun y => ?_
  unfold yearStart
  omega

theorem yearOf_spec
    (n : Int) :
    yearStart (yearOf n) ≤ n ∧
      n < yearStart (yearOf n + 1) := by
  unfold yearOf
  simp only
  split
  · unfold yearStart at *
    omega
  · split
    · unfold yearStart at *
      omega
    · unfold yearStart at *
      omega

theorem leapDay_bounds
    (y : Int) :
    0 ≤ leapDay y ∧ leapDay y ≤ 1 := by
  unfold leapDay yearStart
  omega

variable {leap : Int}

theorem monthStart_strictMono
    (hLeap : 0 ≤ leap ∧ leap ≤ 1) :
    StrictMono (monthStart leap) := by
  refine strictMono_int_of_lt_succ fun m => ?_
  unfold monthStart
  split <;> split <;> omega

theorem monthOf_spec
    {n : Int}
    (hLeap : 0 ≤ leap ∧ leap ≤ 1)
    (hn : 0 ≤ n ∧ n < 365 + leap) :
    (1 ≤ monthOf leap n ∧ monthOf leap n ≤ 12) ∧
      monthStart leap (monthOf leap n) ≤ n ∧
      n < monthStart leap (monthOf leap n + 1) ∧
      n - monthStart leap (monthOf leap n) < 31 := by
  unfold monthOf monthStart
  split <;> split <;> split <;> omega

end Calendar

end Dart

------------------------------------------------------------
-- Moments
------------------------------------------------------------

namespace Dart

open Calendar

/-
  A moment in microseconds since the epoch, within the range
  of `DateTime`, and the offset of the clock's time zone.
-/
structure Moment where
  instant : Rat
  offset : Int
  instant_bounds :
    -8640000000000000000 ≤ instant ∧
      instant ≤ 8640000000000000000
  offset_bounds :
    -86400000000 < offset ∧ offset < 86400000000

namespace Moment

/- What the clock counts, moved by the offset. -/
def reading (m : Moment) : Int :=
  ⌊m.instant⌋ + m.offset

/- The days since the first of January 1. -/
def days (m : Moment) : Int :=
  m.reading / 86400000000 + 719162

/- The microseconds since midnight. -/
def sinceMidnight (m : Moment) : Nat :=
  (m.reading % 86400000000).toNat

def year (m : Moment) : Int :=
  yearOf m.days

/- The days since the first of January of the year. -/
def dayOfYear (m : Moment) : Int :=
  m.days - yearStart m.year

def month (m : Moment) : Int :=
  monthOf (leapDay m.year) m.dayOfYear

/- The days since the first of the month. -/
def dayOfMonth (m : Moment) : Int :=
  m.dayOfYear - monthStart (leapDay m.year) m.month

theorem reading_bounds
    (m : Moment) :
    -8640000086400000000 < m.reading ∧
      m.reading < 8640000086400000000 := by
  have hOffset := m.offset_bounds
  have hLow : -8640000000000000000 ≤ ⌊m.instant⌋ := by
    rw [Int.le_floor]
    exact_mod_cast m.instant_bounds.1
  have hHigh : ⌊m.instant⌋ ≤ 8640000000000000000 := by
    have hFloor := Int.floor_le m.instant
    have hCast :
        ((⌊m.instant⌋ : Int) : Rat) ≤
          8640000000000000000 :=
      hFloor.trans m.instant_bounds.2
    exact_mod_cast hCast
  unfold reading
  omega

theorem year_bounds
    (m : Moment) :
    -271821 ≤ m.year ∧ m.year ≤ 275760 := by
  have hBounds := m.reading_bounds
  have hSpec := yearOf_spec m.days
  have hDays : m.days = m.reading / 86400000000 + 719162 :=
    rfl
  constructor
  · by_contra hLess
    have hMono :=
      yearStart_strictMono.monotone
        (show m.year + 1 ≤ -271821 by omega)
    have hStart : yearStart (-271821) = -99280947 := by
      decide
    unfold year at hMono
    omega
  · by_contra hMore
    have hMono :=
      yearStart_strictMono.monotone
        (show 275761 ≤ m.year by omega)
    have hStart : yearStart 275761 = 100719272 := by
      decide
    unfold year at hMono
    omega

theorem dayOfYear_bounds
    (m : Moment) :
    0 ≤ m.dayOfYear ∧
      m.dayOfYear < 365 + leapDay m.year := by
  have hSpec := yearOf_spec m.days
  unfold dayOfYear leapDay year
  omega

theorem month_spec
    (m : Moment) :
    (1 ≤ m.month ∧ m.month ≤ 12) ∧
      monthStart (leapDay m.year) m.month ≤ m.dayOfYear ∧
      m.dayOfYear <
        monthStart (leapDay m.year) (m.month + 1) ∧
      m.dayOfMonth < 31 :=
  monthOf_spec (leapDay_bounds m.year) m.dayOfYear_bounds

theorem sinceMidnight_lt
    (m : Moment) :
    m.sinceMidnight < 86400000000 := by
  unfold sinceMidnight
  omega

/- `DateTime.now()` in the time zone of the clock. -/
def now (m : Moment) : DateTime where
  year := m.year
  month := m.month.toNat
  day := (m.dayOfMonth + 1).toNat
  hour := m.sinceMidnight / 3600000000
  minute := m.sinceMidnight % 3600000000 / 60000000
  second := m.sinceMidnight % 60000000 / 1000000
  millisecond := m.sinceMidnight % 1000000 / 1000
  microsecond := m.sinceMidnight % 1000
  year_bounds := m.year_bounds
  month_le := by
    have hMonth := m.month_spec
    omega
  day_le := by
    have hMonth := m.month_spec
    omega
  hour_lt := by
    have hTime := m.sinceMidnight_lt
    omega
  minute_lt := by omega
  second_lt := by omega
  millisecond_lt := by omega
  microsecond_lt := by omega

/- Fields within a day are ordered as its microseconds. -/
theorem sinceMidnight_lt_iff
    {r s : Nat} :
    r < s ↔
      r / 3600000000 < s / 3600000000 ∨
        r / 3600000000 = s / 3600000000 ∧
          (r % 3600000000 / 60000000 <
              s % 3600000000 / 60000000 ∨
            r % 3600000000 / 60000000 =
                s % 3600000000 / 60000000 ∧
              (r % 60000000 / 1000000 <
                  s % 60000000 / 1000000 ∨
                r % 60000000 / 1000000 =
                    s % 60000000 / 1000000 ∧
                  (r % 1000000 / 1000 < s % 1000000 / 1000 ∨
                    r % 1000000 / 1000 =
                        s % 1000000 / 1000 ∧
                      r % 1000 < s % 1000))) := by
  have hMinute (n : Nat) :
      n % 3600000000 % 60000000 = n % 60000000 :=
    Nat.mod_mod_of_dvd n (by decide)
  have hSecond (n : Nat) :
      n % 60000000 % 1000000 = n % 1000000 :=
    Nat.mod_mod_of_dvd n (by decide)
  have hMillisecond (n : Nat) :
      n % 1000000 % 1000 = n % 1000 :=
    Nat.mod_mod_of_dvd n (by decide)
  rw [divMod_lt_iff (k := 3600000000) (by decide),
    divMod_lt_iff (n := r % 3600000000) (k := 60000000)
      (by decide),
    hMinute, hMinute,
    divMod_lt_iff (n := r % 60000000) (k := 1000000)
      (by decide),
    hSecond, hSecond,
    divMod_lt_iff (n := r % 1000000) (k := 1000)
      (by decide),
    hMillisecond, hMillisecond]

variable {m l : Moment}

/- A later reading is one of a later day or time of day. -/
theorem reading_lt_reading_iff :
    m.reading < l.reading ↔
      m.days < l.days ∨
        m.days = l.days ∧ m.sinceMidnight < l.sinceMidnight := by
  unfold days sinceMidnight
  omega

/- Within a year, days are ordered as their dates. -/
theorem days_lt_days_iff
    (hYear : m.year = l.year) :
    m.days < l.days ↔
      m.month < l.month ∨
        m.month = l.month ∧ m.dayOfMonth < l.dayOfMonth := by
  have hMonth := m.month_spec
  have hMonth' := l.month_spec
  have hBlock :=
    block_lt_iff
      (monthStart_strictMono (leapDay_bounds l.year))
      (i := m.month) (j := l.month)
      (n := m.dayOfYear) (m := l.dayOfYear)
      ⟨hYear ▸ hMonth.2.1, hYear ▸ hMonth.2.2.1⟩
      ⟨hMonth'.2.1, hMonth'.2.2.1⟩
  have hDays : m.days < l.days ↔ m.dayOfYear < l.dayOfYear := by
    unfold dayOfYear
    rw [hYear]
    omega
  rw [hDays, hBlock]
  unfold dayOfMonth
  rw [hYear]

theorem days_eq_days_iff
    (hYear : m.year = l.year) :
    m.days = l.days ↔
      m.month = l.month ∧ m.dayOfMonth = l.dayOfMonth := by
  have hLess := days_lt_days_iff hYear
  have hMore := days_lt_days_iff hYear.symm
  omega

/- Months and days as the fields show them. -/
theorem month_toNat_iff :
    (m.month.toNat < l.month.toNat ↔ m.month < l.month) ∧
      (m.month.toNat = l.month.toNat ↔ m.month = l.month) := by
  have hMonth := m.month_spec.1
  have hMonth' := l.month_spec.1
  omega

theorem dayOfMonth_toNat_iff :
    ((m.dayOfMonth + 1).toNat < (l.dayOfMonth + 1).toNat ↔
        m.dayOfMonth < l.dayOfMonth) ∧
      ((m.dayOfMonth + 1).toNat = (l.dayOfMonth + 1).toNat ↔
        m.dayOfMonth = l.dayOfMonth) := by
  have hDay : 0 ≤ m.dayOfMonth :=
    Int.sub_nonneg.mpr m.month_spec.2.1
  have hDay' : 0 ≤ l.dayOfMonth :=
    Int.sub_nonneg.mpr l.month_spec.2.1
  omega

/- The fields of two readings in the order of the calendar. -/
theorem fieldsBefore_now_iff :
    DateTime.FieldsBefore m.now l.now ↔
      m.month.toNat < l.month.toNat ∨
        m.month.toNat = l.month.toNat ∧
          ((m.dayOfMonth + 1).toNat <
              (l.dayOfMonth + 1).toNat ∨
            (m.dayOfMonth + 1).toNat =
                (l.dayOfMonth + 1).toNat ∧
              m.sinceMidnight < l.sinceMidnight) := by
  rw [sinceMidnight_lt_iff (r := m.sinceMidnight)
    (s := l.sinceMidnight)]
  rfl

/- Within a year, a later reading shows later fields. -/
theorem fieldsBefore_iff
    (hYear : m.year = l.year) :
    DateTime.FieldsBefore m.now l.now ↔
      m.reading < l.reading := by
  rw [fieldsBefore_now_iff, month_toNat_iff.1,
    month_toNat_iff.2, dayOfMonth_toNat_iff.1,
    dayOfMonth_toNat_iff.2, reading_lt_reading_iff,
    days_lt_days_iff hYear, days_eq_days_iff hYear]
  rw [or_assoc, and_assoc, ← and_or_left]

/-
  The texts of two readings are ordered as their years'
  texts, and within a year as the readings.
-/
theorem toText_lt_toText_iff :
    m.now.toText < l.now.toText ↔
      DateTime.fourDigits m.year < DateTime.fourDigits l.year ∨
        m.year = l.year ∧ m.reading < l.reading := by
  rw [DateTime.toText_lt_toText_iff]
  constructor
  · rintro (hYear | ⟨hYear, hFields⟩)
    · exact .inl hYear
    · exact .inr ⟨hYear, (fieldsBefore_iff hYear).mp hFields⟩
  · rintro (hYear | ⟨hYear, hReading⟩)
    · exact .inl hYear
    · exact .inr
        ⟨hYear, (fieldsBefore_iff hYear).mpr hReading⟩

/- A later reading is never one of an earlier year. -/
theorem year_le_year
    (hReading : m.reading ≤ l.reading) :
    m.year ≤ l.year := by
  have hSpec := yearOf_spec m.days
  have hSpec' := yearOf_spec l.days
  by_contra hMore
  have hMono :=
    yearStart_strictMono.monotone
      (show l.year + 1 ≤ m.year by omega)
  unfold year days at *
  omega

/-
  Through years of four digits, the texts are ordered as the
  readings.
-/
theorem toText_lt_toText_iff_reading_lt
    (hm : 0 ≤ m.year ∧ m.year ≤ 9999)
    (hl : 0 ≤ l.year ∧ l.year ≤ 9999) :
    m.now.toText < l.now.toText ↔ m.reading < l.reading := by
  rw [toText_lt_toText_iff,
    DateTime.fourDigits_lt_fourDigits_iff hm hl]
  constructor
  · rintro (hYear | ⟨_, hReading⟩)
    · by_contra hNot
      have hLe := year_le_year (m := l) (l := m) (by omega)
      omega
    · exact hReading
  · intro hReading
    have hLe := year_le_year (Int.le_of_lt hReading)
    omega

end Moment

end Dart
