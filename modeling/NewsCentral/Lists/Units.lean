import Mathlib.Algebra.Order.Ring.Nat
import Mathlib.Order.Lattice

/-
  Amounts that are told in the largest unit that fits.

  A unit has a length, and fits if at least a number of it
  is in the amount.  The amount is told with the number of
  whole units in it.

  Key definitions include:
    * `Units.Tells`

  Key theorems include:
    * `Units.tells_div`
    * `Units.Tells.unique`
    * `Units.Tells.mono`
-/

------------------------------------------------------------
-- Units
------------------------------------------------------------

namespace Units

variable {ι : Type}

/- The largest unit that fits, and how many of it there are. -/
structure Tells
    (length least : ι → Nat)
    (amount : Nat)
    (unit : ι)
    (count : Nat) : Prop where
  fits : least unit * length unit ≤ amount
  largest :
    ∀ other, length unit < length other →
      amount < least other * length other
  whole : count * length unit ≤ amount
  rest : amount < (count + 1) * length unit

variable {length least : ι → Nat}

/- The number of whole units is a quotient. -/
theorem tells_div
    {amount : Nat}
    {unit : ι}
    (hPositive : 0 < length unit)
    (hFits : least unit * length unit ≤ amount)
    (hLargest :
      ∀ other, length unit < length other →
        amount < least other * length other) :
    Tells length least amount unit (amount / length unit) where
  fits := hFits
  largest := hLargest
  whole := Nat.div_mul_le_self amount (length unit)
  rest := by
    rw [Nat.mul_comm]
    exact Nat.lt_mul_div_succ amount hPositive

namespace Tells

variable {a b n m : Nat} {u v : ι}

/- As many units fit as are asked for. -/
theorem least_le
    (hTells : Tells length least a u n) :
    least u ≤ n := by
  have hLess := hTells.fits.trans_lt hTells.rest
  exact Nat.lt_succ_iff.mp (Nat.lt_of_mul_lt_mul_right hLess)

/- A larger unit that fits is the one that is told. -/
theorem length_le
    (hLe : a ≤ b)
    (hLeft : Tells length least a u n)
    (hRight : Tells length least b v m) :
    length u ≤ length v := by
  by_contra hLess
  have hLarge := hRight.largest u (by omega)
  have hFits := hLeft.fits
  omega

/- An amount is told in one way. -/
theorem unique
    (hLength : ∀ u v, length u = length v → u = v)
    (hLeft : Tells length least a u n)
    (hRight : Tells length least a v m) :
    u = v ∧ n = m := by
  have hSame : u = v :=
    hLength u v
      (Nat.le_antisymm
        (hLeft.length_le (Nat.le_refl a) hRight)
        (hRight.length_le (Nat.le_refl a) hLeft))
  subst hSame
  have hLe := hLeft.whole.trans_lt hRight.rest
  have hGe := hRight.whole.trans_lt hLeft.rest
  have hN := Nat.lt_of_mul_lt_mul_right hLe
  have hM := Nat.lt_of_mul_lt_mul_right hGe
  exact ⟨rfl, by omega⟩

/- What is told of a larger amount is no less. -/
theorem mono
    (hLe : a ≤ b)
    (hLeft : Tells length least a u n)
    (hRight : Tells length least b v m) :
    n * length u ≤ m * length v := by
  by_cases hSame : length u = length v
  · have hLess :=
      (hLeft.whole.trans hLe).trans_lt hRight.rest
    rw [hSame] at hLess ⊢
    have hCount := Nat.lt_of_mul_lt_mul_right hLess
    exact Nat.mul_le_mul_right _ (Nat.lt_succ_iff.mp hCount)
  · have hLarger := hLeft.length_le hLe hRight
    have hFew := hLeft.largest v (by omega)
    calc
      n * length u ≤ a := hLeft.whole
      _ ≤ least v * length v := hFew.le
      _ ≤ m * length v :=
        Nat.mul_le_mul_right _ hRight.least_le

end Tells

end Units
