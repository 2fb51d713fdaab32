import Mathlib

/-
  Texts of decimal digits and their order.

  Texts are compared character by character, a proper start
  of a text coming first.  Padded to one width, numbers and
  their texts are ordered alike; behind a separator smaller
  than all digits the texts of different width still decide
  the order of what they start.

  Key definitions include:
    * `Digits.digits`

  Key theorems include:
    * `Digits.append_lt_append_iff`
    * `Digits.append_sep_lt_append_sep_iff`
    * `Digits.digits_lt_digits_iff`
-/

------------------------------------------------------------
-- The Order Of Joined Texts
------------------------------------------------------------

namespace Digits

variable {α : Type} [LinearOrder α]
variable {xs ys us vs : List α} {sep : α}

/- Starts of one length decide first. -/
theorem append_lt_append_iff
    (hLength : xs.length = ys.length) :
    xs ++ us < ys ++ vs ↔
      xs < ys ∨ xs = ys ∧ us < vs := by
  induction xs generalizing ys with
  | nil =>
      have hNil : ys = [] := by
        simpa using hLength.symm
      subst hNil
      simp
  | cons x xs ih =>
      cases ys with
      | nil => simp at hLength
      | cons y ys =>
          have hRest : xs.length = ys.length := by
            simpa using hLength
          simp only [List.cons_append,
            List.cons_lt_cons_iff, ih hRest,
            List.cons.injEq]
          tauto

/-
  Starts that end in front of a separator decide first,
  since a start that is longer goes on with more than it.
-/
theorem append_sep_lt_append_sep_iff
    (hLeft : ∀ x ∈ xs, sep < x)
    (hRight : ∀ y ∈ ys, sep < y) :
    xs ++ sep :: us < ys ++ sep :: vs ↔
      xs < ys ∨ xs = ys ∧ us < vs := by
  induction xs generalizing ys with
  | nil =>
      cases ys with
      | nil => simp
      | cons y ys =>
          have hLess := hRight y (by simp)
          simp [List.cons_lt_cons_iff, hLess]
  | cons x xs ih =>
      cases ys with
      | nil =>
          have hLess : sep < x := hLeft x (by simp)
          have hNot : ¬ x < sep := not_lt_of_gt hLess
          have hNe : x ≠ sep := ne_of_gt hLess
          simp only [List.cons_append, List.nil_append,
            List.cons_lt_cons_iff, hNot, hNe,
            List.not_lt_nil, reduceCtorEq, false_and,
            or_self]
      | cons y ys =>
          have hRest :=
            @ih ys (fun a hMem => hLeft a (by simp [hMem]))
              (fun a hMem => hRight a (by simp [hMem]))
          simp only [List.cons_append,
            List.cons_lt_cons_iff, hRest, List.cons.injEq]
          tauto

end Digits

------------------------------------------------------------
-- Padded Numbers
------------------------------------------------------------

namespace Digits

/- The last `width` decimal digits of a number. -/
def digits : Nat → Nat → List Char
  | 0, _ => []
  | width + 1, n =>
      digits width (n / 10) ++ [Nat.digitChar (n % 10)]

variable {width n m : Nat}

@[simp] theorem length_digits :
    (digits width n).length = width := by
  induction width generalizing n with
  | zero => rfl
  | succ width ih => simp [digits, ih]

/- Digits are ordered as their numbers. -/
theorem digitChar_lt_digitChar_iff
    (hn : n < 10)
    (hm : m < 10) :
    Nat.digitChar n < Nat.digitChar m ↔ n < m := by
  have hOrder :
      Nat.digitChar n < Nat.digitChar m ↔
        (Nat.digitChar n).toNat < (Nat.digitChar m).toNat :=
    Iff.rfl
  rw [hOrder, Nat.toNat_digitChar_of_lt_ten hn,
    Nat.toNat_digitChar_of_lt_ten hm]
  omega

theorem digitChar_inj
    (hn : n < 10)
    (hm : m < 10) :
    Nat.digitChar n = Nat.digitChar m ↔ n = m := by
  constructor
  · intro hEq
    have hNat := congrArg Char.toNat hEq
    rw [Nat.toNat_digitChar_of_lt_ten hn,
      Nat.toNat_digitChar_of_lt_ten hm] at hNat
    omega
  · rintro rfl
    rfl

/- Numbers that fit have their own digits. -/
theorem digits_inj
    (hn : n < 10 ^ width)
    (hm : m < 10 ^ width) :
    digits width n = digits width m ↔ n = m := by
  induction width generalizing n m with
  | zero =>
      have hZero : n = m := by
        simp only [Nat.pow_zero] at hn hm
        omega
      simp [digits, hZero]
  | succ width ih =>
      rw [Nat.pow_succ] at hn hm
      simp only [digits]
      constructor
      · intro hEq
        rcases List.append_inj hEq (by simp) with
          ⟨hHigh, hLow⟩
        rw [ih (by omega) (by omega)] at hHigh
        rw [List.cons.injEq,
          digitChar_inj (by omega) (by omega)] at hLow
        omega
      · rintro rfl
        rfl

/- Numbers that fit are ordered as their digits. -/
theorem digits_lt_digits_iff
    (hn : n < 10 ^ width)
    (hm : m < 10 ^ width) :
    digits width n < digits width m ↔ n < m := by
  induction width generalizing n m with
  | zero =>
      simp only [Nat.pow_zero] at hn hm
      simp only [digits, List.lt_irrefl, false_iff]
      omega
  | succ width ih =>
      rw [Nat.pow_succ] at hn hm
      simp only [digits]
      rw [append_lt_append_iff (by simp),
        ih (by omega) (by omega),
        digits_inj (by omega) (by omega)]
      simp only [List.cons_lt_cons_iff, List.lt_irrefl,
        and_false, or_false]
      rw [digitChar_lt_digitChar_iff (by omega) (by omega)]
      omega

/- Digits come behind any smaller separator. -/
theorem lt_of_mem_digits
    {sep c : Char}
    (hSep : sep < '0')
    (hMem : c ∈ digits width n) :
    sep < c := by
  induction width generalizing n with
  | zero => simp [digits] at hMem
  | succ width ih =>
      rw [digits, List.mem_append, List.mem_singleton] at hMem
      rcases hMem with hHigh | rfl
      · exact ih hHigh
      · by_cases hZero : n % 10 = 0
        · rw [hZero]
          exact hSep
        · have hLess : '0' < Nat.digitChar (n % 10) :=
            (digitChar_lt_digitChar_iff (by omega)
              (by omega)).mpr (Nat.pos_of_ne_zero hZero)
          exact lt_trans hSep hLess

theorem isDigit_of_mem_digits
    {c : Char}
    (hMem : c ∈ digits width n) :
    c.isDigit = true := by
  induction width generalizing n with
  | zero => simp [digits] at hMem
  | succ width ih =>
      rw [digits, List.mem_append, List.mem_singleton] at hMem
      rcases hMem with hHigh | rfl
      · exact ih hHigh
      · rw [Nat.isDigit_digitChar]
        simpa using Nat.mod_lt n (by omega)

/- The number can be read off its digits. -/
theorem ofDigitChars_digits
    (hn : n < 10 ^ width) :
    Nat.ofDigitChars 10 (digits width n) 0 = n := by
  induction width generalizing n with
  | zero =>
      simp only [Nat.pow_zero] at hn
      simp only [digits, Nat.ofDigitChars_nil]
      omega
  | succ width ih =>
      rw [Nat.pow_succ] at hn
      rw [digits, Nat.ofDigitChars_append,
        ih (by omega),
        Nat.ofDigitChars_cons_digitChar_of_lt_ten
          (by omega),
        Nat.ofDigitChars_nil]
      omega

theorem length_toDigits
    (hLow : width = 0 ∨ 10 ^ width ≤ n)
    (hHigh : n < 10 ^ (width + 1)) :
    (Nat.toDigits 10 n).length = width + 1 := by
  have hLe :
      (Nat.toDigits 10 n).length ≤ width + 1 :=
    (Nat.length_toDigits_le_iff (by omega)
      (by omega)).mpr hHigh
  by_cases hZero : width = 0
  · have hSome := Nat.length_toDigits_pos (b := 10) (n := n)
    omega
  · have hMore : ¬ (Nat.toDigits 10 n).length ≤ width := by
      rw [Nat.length_toDigits_le_iff (by omega) (by omega)]
      omega
    omega

/- The shortest text of a number, padded, has its digits. -/
theorem replicate_append_toDigits
    {k : Nat}
    (hWidth : k + (Nat.toDigits 10 n).length = width) :
    List.replicate k '0' ++ Nat.toDigits 10 n =
      digits width n := by
  induction width generalizing n with
  | zero =>
      have hSome := Nat.length_toDigits_pos (b := 10) (n := n)
      omega
  | succ width ih =>
      by_cases hSmall : n < 10
      · have hZeros (j : Nat) :
            digits j 0 = List.replicate j '0' := by
          induction j with
          | zero => rfl
          | succ j ih =>
              rw [digits, List.replicate_succ', ih]
              rfl
        rw [Nat.toDigits_of_lt_base hSmall] at hWidth ⊢
        have hk : k = width := by simpa using hWidth
        have hHigh : n / 10 = 0 := by omega
        have hLow : n % 10 = n := by omega
        rw [digits, hHigh, hLow, hZeros, hk]
      · have hStep :=
          Nat.toDigits_of_base_le (b := 10) (by omega)
            (Nat.not_lt.mp hSmall)
        rw [hStep] at hWidth ⊢
        have hRest :
            k + (Nat.toDigits 10 (n / 10)).length =
              width := by
          simp only [List.length_append,
            List.length_singleton] at hWidth
          omega
        rw [← List.append_assoc, ih hRest]
        rfl

end Digits
