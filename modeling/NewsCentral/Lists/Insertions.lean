import Mathlib.Data.List.Induction
import Mathlib.Data.List.Nodup

/-
  Lists with keys that items are inserted in and erased from.

  An item is inserted at the end, unless there is one with
  its key already.  What is in the list after some changes
  can be told from the changes alone: the insertions that
  found their key missing and were not undone since.

  Key definitions include:
    * `Insertions.Change` and `Insertions.apply`
    * `Insertions.live`
    * `Insertions.standing`

  Key theorems include:
    * `Insertions.nodup_apply`
    * `Insertions.mem_keys_foldl_iff`
    * `Insertions.foldl_eq_standing`
-/

------------------------------------------------------------
-- Changes
------------------------------------------------------------

namespace Insertions

variable {α κ : Type} [DecidableEq κ]

inductive Change (α κ : Type) where
  | insert (x : α)
  | erase (k : κ)
deriving DecidableEq

def Change.erases (k : κ) : Change α κ → Bool
  | .insert _ => false
  | .erase j => j = k

/- Do one change. -/
def apply
    (key : α → κ)
    (xs : List α) : Change α κ → List α
  | .insert x =>
      if key x ∈ xs.map key then xs else xs ++ [x]
  | .erase k => xs.filter fun x => key x ≠ k

/- The key was inserted and not erased since. -/
def live
    (key : α → κ)
    (k : κ) : List (Change α κ) → Bool
  | [] => false
  | .insert x :: later =>
      (key x = k && !later.any (Change.erases k)) ||
        live key k later
  | .erase _ :: later => live key k later

/-
  The items of the insertions that found their key missing
  and were not erased since, in the order of the changes;
  `before` are the changes that came before.
-/
def standing
    (key : α → κ)
    (before : List (Change α κ)) :
    List (Change α κ) → List α
  | [] => []
  | .insert x :: later =>
      let rest := standing key (before ++ [.insert x]) later
      if live key (key x) before ||
          later.any (Change.erases (key x)) then
        rest
      else
        x :: rest
  | .erase k :: later =>
      standing key (before ++ [.erase k]) later

end Insertions

------------------------------------------------------------
-- One Change
------------------------------------------------------------

namespace Insertions

variable {α κ : Type} [DecidableEq κ]
variable {key : α → κ} {j k : κ} {x : α} {xs : List α}

/- An item whose key is there is not inserted. -/
theorem apply_insert_old
    (hOld : key x ∈ xs.map key) :
    apply key xs (.insert x) = xs :=
  if_pos hOld

theorem apply_insert_new
    (hNew : key x ∉ xs.map key) :
    apply key xs (.insert x) = xs ++ [x] :=
  if_neg hNew

theorem apply_erase :
    apply key xs (.erase j) =
      xs.filter fun x => key x ≠ j := rfl

theorem mem_keys_insert_iff :
    k ∈ (apply key xs (.insert x)).map key ↔
      k = key x ∨ k ∈ xs.map key := by
  by_cases hThere : key x ∈ xs.map key
  · rw [apply_insert_old hThere]
    constructor
    · exact .inr
    · rintro (rfl | hMem)
      · exact hThere
      · exact hMem
  · rw [apply_insert_new hThere]
    simp only [List.map_append, List.mem_append,
      List.map_cons, List.map_nil, List.mem_singleton]
    exact Or.comm

theorem mem_keys_erase_iff :
    k ∈ (apply key xs (.erase j)).map key ↔
      k ≠ j ∧ k ∈ xs.map key := by
  simp only [apply_erase, List.mem_map, List.mem_filter,
    decide_eq_true_eq]
  constructor
  · rintro ⟨x, ⟨hMem, hNe⟩, rfl⟩
    exact ⟨hNe, x, hMem, rfl⟩
  · rintro ⟨hNe, x, hMem, rfl⟩
    exact ⟨x, ⟨hMem, hNe⟩, rfl⟩

/- Changes keep the keys distinct. -/
theorem nodup_apply
    (hNodup : (xs.map key).Nodup)
    (change : Change α κ) :
    ((apply key xs change).map key).Nodup := by
  cases change with
  | insert x =>
      by_cases hThere : key x ∈ xs.map key
      · rw [apply_insert_old hThere]
        exact hNodup
      · rw [apply_insert_new hThere, List.map_append]
        exact hNodup.append (List.nodup_singleton _)
          (List.disjoint_singleton.mpr hThere)
  | erase j =>
      exact hNodup.sublist
        (List.filter_sublist.map key)

/- Distinct items can be inserted one by one. -/
theorem foldl_map_insert
    (hNodup : (xs.map key).Nodup) :
    (xs.map Change.insert).foldl (apply key) [] = xs := by
  induction xs using List.reverseRecOn with
  | nil => rfl
  | append_singleton xs x ih =>
      rw [List.map_append, List.nodup_append] at hNodup
      rcases hNodup with ⟨hOthers, _, hDisjoint⟩
      have hNew : key x ∉ xs.map key := fun hMem =>
        hDisjoint _ hMem _ (List.mem_singleton_self _) rfl
      rw [List.map_append, List.foldl_append, ih hOthers]
      exact apply_insert_new hNew

end Insertions

------------------------------------------------------------
-- All Changes
------------------------------------------------------------

namespace Insertions

variable {α κ : Type} [DecidableEq κ]
variable {key : α → κ} {j k : κ} {x : α}
variable {before changes : List (Change α κ)}

@[simp] theorem live_append_insert :
    live key k (changes ++ [.insert x]) =
      (decide (k = key x) || live key k changes) := by
  induction changes with
  | nil => simp [live, eq_comm]
  | cons change changes ih =>
      cases change with
      | insert y =>
          simp only [List.cons_append, live, ih,
            List.any_append, List.any_cons, List.any_nil,
            Change.erases, Bool.or_false]
          exact Bool.or_left_comm _ _ _
      | erase i => exact ih

@[simp] theorem live_append_erase :
    live key k (changes ++ [.erase j]) =
      (decide (k ≠ j) && live key k changes) := by
  induction changes with
  | nil => simp [live]
  | cons change changes ih =>
      cases change with
      | insert y =>
          simp only [List.cons_append, live, ih,
            List.any_append, List.any_cons, List.any_nil,
            Change.erases, Bool.or_false]
          by_cases hSame : j = k
          · simp [hSame]
          · simp [hSame, Ne.symm hSame]
      | erase i => exact ih

/- A further insertion stands if its key is missing. -/
theorem standing_append_insert :
    standing key before (changes ++ [.insert x]) =
      standing key before changes ++
        if live key (key x) (before ++ changes) then
          []
        else
          [x] := by
  induction changes generalizing before with
  | nil => simp [standing]
  | cons change changes ih =>
      have hSplit :
          before ++ [change] ++ changes =
            before ++ change :: changes := by simp
      cases change with
      | insert y =>
          simp only [List.cons_append, standing, ih,
            List.any_append, List.any_cons, List.any_nil,
            Change.erases, Bool.or_false, hSplit]
          split
          · rfl
          · rfl
      | erase i =>
          simp only [List.cons_append, standing, ih, hSplit]

/- A further erasure leaves what has other keys. -/
theorem standing_append_erase :
    standing key before (changes ++ [.erase j]) =
      (standing key before changes).filter fun x =>
        key x ≠ j := by
  induction changes generalizing before with
  | nil => rfl
  | cons change changes ih =>
      cases change with
      | insert y =>
          simp only [List.cons_append, standing, ih,
            List.any_append, List.any_cons, List.any_nil,
            Change.erases, Bool.or_false]
          by_cases hStands :
              (live key (key y) before ||
                changes.any (Change.erases (key y))) = true
          · rw [if_pos hStands, if_pos (by
              rw [← Bool.or_assoc, hStands, Bool.true_or])]
          · rw [if_neg hStands]
            rw [Bool.not_eq_true] at hStands
            rw [← Bool.or_assoc, hStands, Bool.false_or]
            by_cases hSame : j = key y
            · simp [hSame]
            · simp [hSame, Ne.symm hSame]
      | erase i =>
          simp only [List.cons_append, standing, ih]

/- A key is there if it is live. -/
theorem mem_keys_foldl_iff :
    k ∈ (changes.foldl (apply key) []).map key ↔
      live key k changes = true := by
  induction changes using List.reverseRecOn with
  | nil => simp [live]
  | append_singleton changes change ih =>
      rw [List.foldl_append]
      simp only [List.foldl_cons, List.foldl_nil]
      cases change with
      | insert x =>
          rw [mem_keys_insert_iff, ih, live_append_insert,
            Bool.or_eq_true, decide_eq_true_iff]
      | erase j =>
          rw [mem_keys_erase_iff, ih, live_append_erase,
            Bool.and_eq_true, decide_eq_true_iff]

/- The list is what stands of the changes. -/
theorem foldl_eq_standing :
    changes.foldl (apply key) [] =
      standing key [] changes := by
  induction changes using List.reverseRecOn with
  | nil => rfl
  | append_singleton changes change ih =>
      rw [List.foldl_append]
      simp only [List.foldl_cons, List.foldl_nil]
      cases change with
      | insert x =>
          rw [standing_append_insert, List.nil_append, ← ih]
          simp only [apply, mem_keys_foldl_iff]
          split
          · rw [List.append_nil]
          · rfl
      | erase j => rw [standing_append_erase, ← ih, apply_erase]

end Insertions
