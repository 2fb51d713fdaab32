import Mathlib

/-
  When sorting by a key restores the order of a list.

  Items of one key may come in any order.  A list without
  repetitions is the only sorted order of its items if and
  only if its keys strictly increase.

  Key definitions include:
    * `Sorted.ByKey`

  Key theorems include:
    * `Sorted.forall_eq_iff_pairwise_lt`
-/

------------------------------------------------------------
-- Sorted Orders
------------------------------------------------------------

namespace Sorted

variable {α κ : Type} [LE κ] [LT κ]

/- The items in an order in which their keys do not fall. -/
def ByKey
    (key : α → κ)
    (xs ys : List α) : Prop :=
  ys.Perm xs ∧ ys.Pairwise fun a b => key a ≤ key b

variable {key : α → κ} {xs ys : List α}

/- Without repetitions, two items come in one order only. -/
theorem not_pair_sublist_swap
    {a b : α}
    (hNodup : xs.Nodup)
    (hPair : [a, b].Sublist xs) :
    ¬ [b, a].Sublist xs := by
  induction xs with
  | nil => simp
  | cons x xs ih =>
      rw [List.nodup_cons] at hNodup
      intro hSwap
      rw [List.sublist_cons_iff] at hPair hSwap
      rcases hPair with hPair | ⟨rest, hEq, hPair⟩
      · rcases hSwap with hSwap | ⟨rest, hEq', hSwap⟩
        · exact ih hNodup.2 hPair hSwap
        · cases hEq'
          apply hNodup.1
          exact hPair.subset (by simp)
      · cases hEq
        rcases hSwap with hSwap | ⟨rest, hEq', hSwap⟩
        · apply hNodup.1
          exact hSwap.subset (by simp)
        · cases hEq'
          apply hNodup.1
          exact hPair.subset (by simp)

variable [Std.IsLinearOrder κ] [Std.LawfulOrderLT κ]

/- Strictly increasing keys leave no other order. -/
theorem ByKey.eq
    (hLess : xs.Pairwise fun a b => key a < key b)
    (hSorted : ByKey key xs ys) :
    ys = xs := by
  have hLe : xs.Pairwise fun a b => key a ≤ key b :=
    hLess.imp Std.le_of_lt
  have hNodup : (xs.map key).Nodup :=
    (List.pairwise_map.mpr hLess).imp Std.ne_of_lt
  refine List.Perm.eq_of_pairwise ?_ hSorted.2 hLe hSorted.1
  intro a b hMem hMem' hab hba
  exact List.inj_on_of_nodup_map hNodup
    (hSorted.1.subset hMem) hMem' (Std.le_antisymm hab hba)

/-
  Of two items with one key, sorting the reversed list puts
  the second first.
-/
theorem pairwise_lt_of_forall_eq
    (hNodup : xs.Nodup)
    (hOnly : ∀ ys, ByKey key xs ys → ys = xs) :
    xs.Pairwise fun a b => key a < key b := by
  classical
  let le : α → α → Bool := fun a b => decide (key a ≤ key b)
  have hTrans :
      ∀ a b c, le a b → le b c → le a c := by
    intro a b c hab hbc
    simp only [le, decide_eq_true_eq] at *
    exact Std.le_trans hab hbc
  have hTotal : ∀ a b, le a b || le b a := by
    intro a b
    simpa [le] using Std.le_total
  have hSort
      (ys : List α)
      (hPerm : ys.Perm xs) :
      ys.mergeSort le = xs := by
    apply hOnly
    refine ⟨(List.mergeSort_perm ys le).trans hPerm, ?_⟩
    simpa [le] using List.pairwise_mergeSort hTrans hTotal ys
  have hSorted : xs.Pairwise fun a b => key a ≤ key b := by
    have hPairs := List.pairwise_mergeSort hTrans hTotal xs
    rw [hSort xs (List.Perm.refl xs)] at hPairs
    simpa [le] using hPairs
  rw [List.pairwise_iff_forall_sublist]
  intro a b hPair
  refine Std.lt_of_le_of_ne (hSorted.forall_sublist hPair) ?_
  intro hSame
  have hBack : [b, a].Sublist xs.reverse := by
    rw [← List.reverse_sublist]
    simpa using hPair
  have hSwap :=
    List.pair_sublist_mergeSort hTrans hTotal
      (show le b a by simp [le, hSame, Std.le_refl]) hBack
  rw [hSort xs.reverse (List.reverse_perm xs)] at hSwap
  exact not_pair_sublist_swap hNodup hPair hSwap

theorem forall_eq_iff_pairwise_lt
    (hNodup : xs.Nodup) :
    (∀ ys, ByKey key xs ys → ys = xs) ↔
      xs.Pairwise fun a b => key a < key b := by
  constructor
  · exact pairwise_lt_of_forall_eq hNodup
  · intro hLess ys hSorted
    exact hSorted.eq hLess

end Sorted
