import Mathlib.Data.List.Nodup

/-
  Lists whose items have keys.

  An item can be addressed by its key or by the position it
  has now.  With distinct keys both name the same item as
  long as the position still holds the key.

  Key definitions include:
    * `Keyed.update`
    * `Keyed.erase`

  Key theorems include:
    * `Keyed.forall_mem_set_iff`
    * `Keyed.update_eq_set`
    * `Keyed.erase_eq_eraseIdx`
    * `Keyed.map_key_update`
-/

------------------------------------------------------------
-- Items By Key And By Position
------------------------------------------------------------

namespace Keyed

variable {α κ : Type} [DecidableEq κ]

/- Change the items with the key. -/
def update
    (key : α → κ)
    (k : κ)
    (f : α → α)
    (xs : List α) : List α :=
  xs.map fun x => if key x = k then f x else x

/- Remove the items with the key. -/
def erase
    (key : α → κ)
    (k : κ)
    (xs : List α) : List α :=
  xs.filter fun x => key x ≠ k

variable {key : α → κ} {k : κ} {f : α → α} {xs : List α}

/- A key that is not there changes nothing. -/
theorem update_of_not_mem
    (hAway : k ∉ xs.map key) :
    update key k f xs = xs := by
  have hSame :
      ∀ x ∈ xs, (if key x = k then f x else x) = x := by
    intro x hMem
    rw [if_neg]
    rintro rfl
    exact hAway (List.mem_map_of_mem hMem)
  exact (List.map_congr_left hSame).trans (List.map_id' _)

theorem erase_of_not_mem
    (hAway : k ∉ xs.map key) :
    erase key k xs = xs := by
  refine List.filter_eq_self.mpr ?_
  intro x hMem
  have hNe : key x ≠ k := by
    rintro rfl
    exact hAway (List.mem_map_of_mem hMem)
  simpa using hNe

/- The items of a list of which one was replaced. -/
theorem forall_mem_set_iff
    {n : Nat}
    {x : α}
    {P : α → Prop}
    (hLt : n < xs.length) :
    (∀ y ∈ xs.set n x, P y) ↔
      P x ∧ ∀ y ∈ xs.eraseIdx n, P y := by
  constructor
  · intro hAll
    refine ⟨hAll x (List.mem_set hLt x), ?_⟩
    intro y hMem
    rcases List.mem_eraseIdx_iff_getElem?.mp hMem with
      ⟨m, hNe, hAt⟩
    refine hAll y (List.mem_of_getElem? (i := m) ?_)
    rw [List.getElem?_set_ne (Ne.symm hNe)]
    exact hAt
  · rintro ⟨hNew, hOld⟩ y hMem
    rcases List.getElem?_of_mem hMem with ⟨m, hAt⟩
    by_cases hSame : m = n
    · subst hSame
      rw [List.getElem?_set_self hLt] at hAt
      cases hAt
      exact hNew
    · rw [List.getElem?_set_ne (Ne.symm hSame)] at hAt
      exact hOld y
        (List.mem_eraseIdx_iff_getElem?.mpr ⟨m, hSame, hAt⟩)

/-
  With distinct keys, changing by key is changing at the
  position of the key.
-/
theorem update_eq_set
    {i : Nat}
    {x : α}
    (hNodup : (xs.map key).Nodup)
    (hAt : xs[i]? = some x) :
    update key (key x) f xs = xs.set i (f x) := by
  induction xs generalizing i with
  | nil => simp at hAt
  | cons y ys ih =>
      simp only [List.map_cons, List.nodup_cons] at hNodup
      rcases hNodup with ⟨hAway, hRest⟩
      cases i with
      | zero =>
          have hHere : y = x := by simpa using hAt
          rw [← hHere]
          have hTail := update_of_not_mem (f := f) hAway
          simp only [update, List.map_cons, if_true,
            List.set_cons_zero] at hTail ⊢
          rw [hTail]
      | succ i =>
          have hThere : ys[i]? = some x := by
            simpa using hAt
          have hNe : key y ≠ key x := by
            intro hEq
            rw [hEq] at hAway
            exact hAway
              (List.mem_map_of_mem
                (List.mem_of_getElem? hThere))
          have hTail := ih hRest hThere
          simp only [update, List.map_cons, hNe, if_false,
            List.set_cons_succ] at hTail ⊢
          rw [hTail]

/-
  With distinct keys, removing by key is removing at the
  position of the key.
-/
theorem erase_eq_eraseIdx
    {i : Nat}
    {x : α}
    (hNodup : (xs.map key).Nodup)
    (hAt : xs[i]? = some x) :
    erase key (key x) xs = xs.eraseIdx i := by
  induction xs generalizing i with
  | nil => simp at hAt
  | cons y ys ih =>
      simp only [List.map_cons, List.nodup_cons] at hNodup
      rcases hNodup with ⟨hAway, hRest⟩
      cases i with
      | zero =>
          have hHere : y = x := by simpa using hAt
          rw [← hHere]
          have hTail := erase_of_not_mem hAway
          unfold erase at hTail ⊢
          rw [List.filter_cons_of_neg (by simp), hTail]
          rfl
      | succ i =>
          have hThere : ys[i]? = some x := by
            simpa using hAt
          have hNe : key y ≠ key x := by
            intro hEq
            rw [hEq] at hAway
            exact hAway
              (List.mem_map_of_mem
                (List.mem_of_getElem? hThere))
          have hTail := ih hRest hThere
          unfold erase at hTail ⊢
          rw [List.filter_cons_of_pos (by simpa using hNe),
            hTail]
          rfl

/- A change that keeps keys keeps the list of keys. -/
theorem map_key_update
    (hKeep : ∀ x, key (f x) = key x) :
    (update key k f xs).map key = xs.map key := by
  unfold update
  rw [List.map_map]
  apply List.map_congr_left
  intro x _
  simp only [Function.comp]
  split
  · exact hKeep x
  · rfl

end Keyed
