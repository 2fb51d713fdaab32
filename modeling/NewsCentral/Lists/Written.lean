import Mathlib.Data.List.Basic

/-
  Maps that are written item by item, each item under a key
  of its own.

  A map is a list of entries with distinct keys.  What it
  holds under a key is the item that was written last.

  Key definitions include:
    * `Written.put` and `Written.putAll`
    * `Written.putEntries`
    * `Written.lastWith`

  Key theorems include:
    * `Written.lookup_putAll`
    * `Written.lookup_putEntries`
    * `Written.or_lastWith_eq_iff`
-/

------------------------------------------------------------
-- Writing A Map
------------------------------------------------------------

namespace Written

variable {α κ : Type} [DecidableEq κ]

/- `map[k] = x` -/
def put
    (map : List (κ × α))
    (k : κ)
    (x : α) : List (κ × α) :=
  (k, x) :: map.filter fun entry => entry.1 ≠ k

/- Write each item under its key. -/
def putAll
    (key : α → κ)
    (map : List (κ × α))
    (xs : List α) : List (κ × α) :=
  xs.foldl (fun map x => put map (key x) x) map

/- Write each entry under its key. -/
def putEntries
    (map entries : List (κ × α)) : List (κ × α) :=
  entries.foldl (fun map entry => put map entry.1 entry.2) map

/- The last item with a key. -/
def lastWith
    (key : α → κ)
    (k : κ)
    (xs : List α) : Option α :=
  (xs.filter fun x => key x = k).getLast?

variable {key : α → κ} {k : κ} {xs ys : List α}

@[simp] theorem lastWith_nil :
    lastWith key k [] = none := rfl

/- Items behind others come last. -/
theorem lastWith_append :
    lastWith key k (xs ++ ys) =
      (lastWith key k ys).or (lastWith key k xs) := by
  unfold lastWith
  rw [List.filter_append, List.getLast?_append]

theorem lastWith_eq_none_iff :
    lastWith key k xs = none ↔ ∀ x ∈ xs, key x ≠ k := by
  simp [lastWith]

theorem lastWith_singleton
    (x : α) :
    lastWith key k [x] =
      if k = key x then some x else none := by
  by_cases hKey : k = key x
  · simp [lastWith, hKey]
  · simp [lastWith, hKey, Ne.symm hKey]

/- Items written in front show only under other keys. -/
theorem or_lastWith_eq_iff :
    (∀ k, lastWith key k (xs ++ ys) = lastWith key k ys) ↔
      ∀ x ∈ xs, ∃ y ∈ ys, key y = key x := by
  constructor
  · intro hAll x hMem
    by_contra hNone
    have hOf := hAll (key x)
    have hBehind : lastWith key (key x) ys = none := by
      rw [lastWith_eq_none_iff]
      intro y hY hKey
      exact hNone ⟨y, hY, hKey⟩
    rw [lastWith_append, hBehind, Option.none_or,
      lastWith_eq_none_iff] at hOf
    exact hOf x hMem rfl
  · intro hCovered k
    rw [lastWith_append]
    cases hFront : lastWith key k xs with
    | none => rw [Option.or_none]
    | some x =>
        have hMem := List.mem_of_getLast? hFront
        rcases List.mem_filter.mp hMem with ⟨hX, hKey⟩
        rcases hCovered x hX with ⟨y, hY, hSame⟩
        cases hBehind : lastWith key k ys with
        | none =>
            refine absurd ?_
              (lastWith_eq_none_iff.mp hBehind y hY)
            exact hSame.trans (by simpa using hKey)
        | some z => rfl

end Written

------------------------------------------------------------
-- Reading A Map
------------------------------------------------------------

namespace Written

variable {α κ : Type} [DecidableEq κ] [BEq κ] [LawfulBEq κ]
variable {key : α → κ} {k : κ} {map : List (κ × α)}
variable {xs : List α}

theorem lookup_filter_ne
    {j : κ}
    (hOther : j ≠ k) :
    (map.filter fun entry => entry.1 ≠ k).lookup j =
      map.lookup j := by
  induction map with
  | nil => rfl
  | cons entry map ih =>
      rcases entry with ⟨i, x⟩
      by_cases hKey : i = k
      · rw [List.filter_cons_of_neg (by simp [hKey]), ih,
          List.lookup_cons, beq_false_of_ne (hKey ▸ hOther)]
      · rw [List.filter_cons_of_pos (by simp [hKey]),
          List.lookup_cons, List.lookup_cons, ih]

theorem lookup_put
    (j : κ)
    (x : α) :
    (put map k x).lookup j =
      if j = k then some x else map.lookup j := by
  unfold put
  rw [List.lookup_cons]
  by_cases hKey : j = k
  · rw [if_pos hKey, beq_iff_eq.mpr hKey]
  · rw [if_neg hKey, beq_false_of_ne hKey]
    exact lookup_filter_ne hKey

/- A map holds the items that were written last. -/
theorem lookup_putAll :
    (putAll key map xs).lookup k =
      (lastWith key k xs).or (map.lookup k) := by
  unfold putAll
  induction xs generalizing map with
  | nil => rfl
  | cons x xs ih =>
      rw [List.foldl_cons, ih, lookup_put,
        ← List.singleton_append, lastWith_append,
        lastWith_singleton, Option.or_assoc]
      by_cases hKey : k = key x
      · simp [hKey]
      · simp [hKey]

theorem lookup_putEntries
    {entries : List (κ × α)} :
    (putEntries map entries).lookup k =
      ((lastWith Prod.fst k entries).map Prod.snd).or
        (map.lookup k) := by
  unfold putEntries
  induction entries generalizing map with
  | nil => rfl
  | cons entry entries ih =>
      rw [List.foldl_cons, ih, lookup_put,
        ← List.singleton_append, lastWith_append,
        lastWith_singleton, Option.map_or, Option.or_assoc]
      by_cases hKey : k = entry.1
      · simp [hKey]
      · simp [hKey]

end Written

------------------------------------------------------------
-- Distinct Keys
------------------------------------------------------------

namespace Written

variable {α κ : Type} [DecidableEq κ]
variable {map entries : List (κ × α)}

theorem nodup_put
    (hMap : (map.map Prod.fst).Nodup)
    (k : κ)
    (x : α) :
    ((put map k x).map Prod.fst).Nodup := by
  unfold put
  rw [List.map_cons, List.nodup_cons]
  constructor
  · rw [List.mem_map]
    rintro ⟨entry, hMem, hKey⟩
    exact of_decide_eq_true (List.mem_filter.mp hMem).2 hKey
  · exact hMap.sublist (List.filter_sublist.map Prod.fst)

theorem nodup_putEntries
    (hMap : (map.map Prod.fst).Nodup) :
    ((putEntries map entries).map Prod.fst).Nodup := by
  unfold putEntries
  induction entries generalizing map with
  | nil => exact hMap
  | cons entry entries ih =>
      exact ih (nodup_put hMap entry.1 entry.2)

end Written
