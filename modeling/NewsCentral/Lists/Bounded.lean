import Mathlib.Data.List.Induction
import Mathlib.Data.List.Nodup
import NewsCentral.Lists.Recent

/-
  Bounded lists of recently used items with keys.

  Using an item removes the one with its key, drops the last
  one when the list is full, and puts the item in front.
  Over any uses this keeps the first keys of the uses in
  reverse, each with the item used last, up to the bound.

  Key definitions include:
    * `Bounded.push`
    * `Bounded.firsts`
    * `Bounded.recentKeys` and `Bounded.latest`

  Key theorems include:
    * `Bounded.foldl_push`
    * `Bounded.latest_of_mem_firsts`
-/

------------------------------------------------------------
-- Uses And The First Item Of Each Key
------------------------------------------------------------

namespace Bounded

variable {α κ : Type} [DecidableEq κ]

/- The items under other keys. -/
def others
    (key : α → κ)
    (k : κ)
    (xs : List α) : List α :=
  xs.filter fun x => key x ≠ k

/- Use an item in a list that holds `bound` items. -/
def push
    (key : α → κ)
    (bound : Nat)
    (x : α)
    (xs : List α) : List α :=
  let kept := others key (key x) xs
  x :: if kept.length = bound then kept.dropLast else kept

/- The first item of each key. -/
def firsts
    (key : α → κ) : List α → List α
  | [] => []
  | x :: xs => x :: others key (key x) (firsts key xs)

/- The keys of the uses, the last one first, each once. -/
def recentKeys
    (key : α → κ)
    (uses : List α) : List κ :=
  (uses.reverse.map key).eraseDups

/- The item with the key that was used last. -/
def latest
    (key : α → κ)
    (uses : List α)
    (k : κ) : Option α :=
  uses.reverse.find? fun x => key x = k

end Bounded

------------------------------------------------------------
-- Distinct Keys
------------------------------------------------------------

namespace Bounded

variable {α κ : Type} [DecidableEq κ]
variable {key : α → κ} {k : κ} {x : α} {xs : List α}

theorem map_others :
    (others key k xs).map key =
      (xs.map key).filter fun j => j ≠ k := by
  unfold others
  rw [List.filter_map]
  rfl

/- Without items of the key there are only others. -/
theorem others_of_not_mem
    (hAway : k ∉ xs.map key) :
    others key k xs = xs := by
  refine List.filter_eq_self.mpr ?_
  intro x hMem
  have hNe : key x ≠ k := by
    rintro rfl
    exact hAway (List.mem_map_of_mem hMem)
  simpa using hNe

/- With distinct keys all but one item are others. -/
theorem length_others_of_mem
    (hNodup : (xs.map key).Nodup)
    (hMem : k ∈ xs.map key) :
    (others key k xs).length + 1 = xs.length := by
  have hErase :
      (others key k xs).length =
        ((xs.map key).erase k).length := by
    rw [hNodup.erase_eq_filter, ← @List.length_map _ _ _ key,
      map_others]
    congr 1
    exact List.filter_congr fun j _ => by
      simp [bne, beq_eq_decide]
  have hPos := List.length_pos_of_mem hMem
  rw [List.length_map] at hPos
  rw [hErase, List.length_erase_of_mem hMem, List.length_map]
  omega

/- The first items have the keys without repeats. -/
theorem map_firsts :
    (firsts key xs).map key = recentKeys key xs.reverse := by
  unfold recentKeys
  rw [List.reverse_reverse]
  induction xs with
  | nil => rfl
  | cons x xs ih =>
      have hDifferent :
          (fun j : κ => !(j == key x)) =
            fun j => decide (j ≠ key x) := by
        funext j
        simp [beq_eq_decide]
      simp only [firsts, List.map_cons, map_others, ih,
        List.eraseDups_cons, Recent.eraseDups_filter,
        hDifferent]

theorem nodup_firsts :
    ((firsts key xs).map key).Nodup := by
  rw [map_firsts]
  exact Recent.nodup_eraseDups _

/- Each first item is the one found by its key. -/
theorem find?_of_mem_firsts
    {y : α}
    (hMem : y ∈ firsts key xs) :
    (xs.find? fun x => key x = key y) = some y := by
  induction xs with
  | nil => cases hMem
  | cons x xs ih =>
      rcases List.mem_cons.mp hMem with rfl | hOther
      · simp
      · rcases List.mem_filter.mp hOther with ⟨hFirst, hNe⟩
        have hKeys : key x ≠ key y := by
          intro hSame
          simp [hSame] at hNe
        rw [List.find?_cons_of_neg (by simpa using hKeys)]
        exact ih hFirst

/- So it is the one used last, seen from the other end. -/
theorem latest_of_mem_firsts
    {y : α}
    {uses : List α}
    (hMem : y ∈ firsts key uses.reverse) :
    latest key uses (key y) = some y :=
  find?_of_mem_firsts hMem

end Bounded

------------------------------------------------------------
-- Bounded Uses
------------------------------------------------------------

namespace Bounded

variable {α κ : Type} [DecidableEq κ]
variable {key : α → κ} {bound : Nat} {x : α} {xs : List α}

/- A use keeps the first items up to the bound. -/
theorem push_take
    (hBound : 0 < bound)
    (hNodup : (xs.map key).Nodup) :
    push key bound x (xs.take bound) =
      (x :: others key (key x) xs).take bound := by
  rcases Nat.exists_eq_add_one_of_ne_zero
      (Nat.pos_iff_ne_zero.mp hBound) with ⟨room, rfl⟩
  have hPrefix :
      others key (key x) (xs.take (room + 1)) <+:
        others key (key x) xs :=
    (List.take_prefix (room + 1) xs).filter _
  have hTake := List.prefix_iff_eq_take.mp hPrefix
  have hTaken : ((xs.take (room + 1)).map key).Nodup :=
    hNodup.sublist ((List.take_sublist _ _).map key)
  unfold push
  simp only [List.take_succ_cons]
  congr 1
  by_cases hMem : key x ∈ (xs.take (room + 1)).map key
  · have hLength := length_others_of_mem hTaken hMem
    have hShort := List.length_take_le (room + 1) xs
    rw [if_neg (by omega)]
    by_cases hFull : room + 1 ≤ xs.length
    · rw [List.length_take_of_le hFull] at hLength
      rw [hTake]
      congr 1
      omega
    · -- nothing is cut off
      rw [List.take_of_length_le (by omega)] at hLength ⊢
      rw [List.take_of_length_le (by omega)]
  · rw [others_of_not_mem hMem] at hTake ⊢
    by_cases hFull : (xs.take (room + 1)).length = room + 1
    · rw [if_pos hFull, List.dropLast_eq_take, hFull]
      rw [hFull] at hTake
      rw [hTake, List.take_take]
      simp
    · have hShort : xs.length < room + 1 := by
        rw [List.length_take] at hFull
        omega
      rw [if_neg hFull]
      rw [List.take_of_length_le (by omega)] at hMem ⊢
      rw [others_of_not_mem hMem,
        List.take_of_length_le (by omega)]

/-
  Over all uses the list is that of the first items of the
  uses in reverse, up to the bound.
-/
theorem foldl_push
    (hBound : 0 < bound)
    (uses : List α) :
    uses.foldl (fun xs x => push key bound x xs) [] =
      (firsts key uses.reverse).take bound := by
  induction uses using List.reverseRecOn with
  | nil => simp [firsts]
  | append_singleton uses x ih =>
      rw [List.foldl_append, ih]
      simp only [List.foldl_cons, List.foldl_nil]
      rw [push_take hBound nodup_firsts]
      simp only [List.reverse_append, List.reverse_cons,
        List.reverse_nil, List.nil_append,
        List.singleton_append, firsts]

end Bounded
