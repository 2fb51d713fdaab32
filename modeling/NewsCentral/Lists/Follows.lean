import Mathlib.Data.List.Basic

/-
  Lists whose items may follow each other.

  What may come next depends on the item before it, and
  there is none before the first.

  Key definitions include:
    * `Follows`

  Key theorems include:
    * `Follows.snoc`
-/

------------------------------------------------------------
-- What May Follow
------------------------------------------------------------

variable {α : Type} {may : Option α → α → Bool}
variable {xs : List α} {x : α}

/- Each item may follow the one before it. -/
def Follows
    (may : Option α → α → Bool)
    (xs : List α) : Prop :=
  ∀ earlier x later,
    xs = earlier ++ x :: later →
    may earlier.getLast? x = true

theorem Follows.nil :
    Follows may [] := by
  intro earlier x later hSplit
  simp at hSplit

/- An item that may follow is put behind the others. -/
theorem Follows.snoc
    (hFollows : Follows may xs)
    (hMay : may xs.getLast? x = true) :
    Follows may (xs ++ [x]) := by
  intro earlier y later hSplit
  rcases List.eq_nil_or_concat later with rfl | ⟨later, z, rfl⟩
  · rcases List.append_inj' hSplit rfl with ⟨rfl, hSame⟩
    cases hSame
    exact hMay
  · rw [List.concat_eq_append, ← List.cons_append,
      ← List.append_assoc] at hSplit
    rcases List.append_inj' hSplit rfl with ⟨hPrior, _⟩
    exact hFollows earlier y later hPrior
