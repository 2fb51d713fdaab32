import Mathlib.Data.List.Basic

/-
  Growable list objects with identity.

  A Dart list is an object: two variables may hold the same
  list, and a mutation through one is seen through the
  other.  A heap gives every list object a reference; lists
  are allocated, read and overwritten, never freed.

  Key definitions include:
    * `Dart.Heap`
    * `Dart.Heap.alloc`
    * `Dart.Heap.read`
    * `Dart.Heap.write`
    * `Dart.Heap.All`

  A heap is used through the four equations
    * `Dart.Heap.read_alloc_new`
    * `Dart.Heap.read_alloc_of_lt`
    * `Dart.Heap.read_write_same`
    * `Dart.Heap.read_write_of_ne`
  or, for an item alone, through
    * `Dart.Heap.mem_read_alloc`
    * `Dart.Heap.mem_read_write`
  or, for what holds of each list, through
    * `Dart.Heap.All.alloc`
    * `Dart.Heap.All.write`
-/

------------------------------------------------------------
-- Heaps Of List Objects
------------------------------------------------------------

namespace Dart

/- The identity of a list object. -/
abbrev Ref := Nat

/- The contents of all list objects, by reference. -/
structure Heap (α : Type) where
  cells : List (List α)

namespace Heap

variable {α : Type}

/- No list object yet. -/
def empty : Heap α where
  cells := []

/- The number of references handed out. -/
def size (h : Heap α) : Nat :=
  h.cells.length

/- A new list object with the given contents. -/
def alloc (h : Heap α) (xs : List α) : Heap α × Ref :=
  (⟨h.cells ++ [xs]⟩, h.size)

/- The contents of a list object. -/
def read (h : Heap α) (r : Ref) : List α :=
  (h.cells[r]?).getD []

/- Overwrite the contents of a list object. -/
def write (h : Heap α) (r : Ref) (xs : List α) : Heap α :=
  ⟨h.cells.set r xs⟩

end Heap

end Dart

------------------------------------------------------------
-- Reading After Writing
------------------------------------------------------------

namespace Dart

namespace Heap

variable {α : Type}

@[simp] theorem size_alloc
    (h : Heap α)
    (xs : List α) :
    (h.alloc xs).1.size = h.size + 1 := by
  simp [alloc, size]

@[simp] theorem alloc_ref
    (h : Heap α)
    (xs : List α) :
    (h.alloc xs).2 = h.size := rfl

@[simp] theorem size_write
    (h : Heap α)
    (r : Ref)
    (xs : List α) :
    (h.write r xs).size = h.size := by
  simp [write, size]

/- A new object holds what it was allocated with. -/
@[simp] theorem read_alloc_new
    (h : Heap α)
    (xs : List α) :
    (h.alloc xs).1.read h.size = xs := by
  simp [alloc, read, size]

/- Allocation leaves the existing objects alone. -/
theorem read_alloc_of_lt
    {h : Heap α}
    {r : Ref}
    (hLt : r < h.size)
    (xs : List α) :
    (h.alloc xs).1.read r = h.read r := by
  have hCell :
      (h.cells ++ [xs])[r]? = h.cells[r]? :=
    List.getElem?_append_left hLt
  simp [alloc, read, hCell]

/- A written object holds what was written. -/
theorem read_write_same
    {h : Heap α}
    {r : Ref}
    (hLt : r < h.size)
    (xs : List α) :
    (h.write r xs).read r = xs := by
  unfold size at hLt
  simp [write, read, hLt]

/- Writing one object leaves the others alone. -/
theorem read_write_of_ne
    {h : Heap α}
    {r q : Ref}
    (hNe : q ≠ r)
    (xs : List α) :
    (h.write r xs).read q = h.read q := by
  simp [write, read, List.getElem?_set_ne (Ne.symm hNe)]

/- An item after an allocation is new or was there before. -/
theorem mem_read_alloc
    {h : Heap α}
    {r : Ref}
    {xs : List α}
    {x : α}
    (hMem : x ∈ (h.alloc xs).1.read r) :
    x ∈ xs ∨ x ∈ h.read r := by
  by_cases hLt : r < h.size
  · rw [read_alloc_of_lt hLt] at hMem
    exact .inr hMem
  · by_cases hNew : r = h.size
    · rw [hNew, read_alloc_new] at hMem
      exact .inl hMem
    · have hNone : (h.cells ++ [xs])[r]? = none := by
        have hLe : h.cells.length ≤ r := Nat.not_lt.mp hLt
        have hPast : h.cells.length < r :=
          Nat.lt_of_le_of_ne hLe (Ne.symm hNew)
        rw [List.getElem?_eq_none_iff]
        simpa using Nat.succ_le_of_lt hPast
      simp [alloc, read, hNone] at hMem

/- An item after a write is written or was there before. -/
theorem mem_read_write
    {h : Heap α}
    {r q : Ref}
    {xs : List α}
    {x : α}
    (hMem : x ∈ (h.write r xs).read q) :
    x ∈ xs ∨ x ∈ h.read q := by
  by_cases hEq : q = r
  · by_cases hLt : r < h.size
    · rw [hEq, read_write_same hLt] at hMem
      exact .inl hMem
    · right
      have hLe : h.cells.length ≤ r := Nat.not_lt.mp hLt
      have hSame : h.cells.set r xs = h.cells :=
        List.set_eq_of_length_le hLe
      simpa [write, hSame] using hMem
  · rw [read_write_of_ne hEq] at hMem
    exact .inr hMem

end Heap

end Dart

------------------------------------------------------------
-- What Holds Of Each List
------------------------------------------------------------

namespace Dart

namespace Heap

variable {α : Type} {P : List α → Prop}
variable {h : Heap α} {r : Ref} {xs : List α}

/- Every list object has the property. -/
def All
    (P : List α → Prop)
    (h : Heap α) : Prop :=
  ∀ r, P (h.read r)

/- A heap of one empty list. -/
theorem All.single_nil
    (hNil : P []) :
    (⟨[[]]⟩ : Heap α).All P := by
  intro r
  cases r <;> exact hNil

theorem All.alloc
    (hAll : h.All P)
    (hNew : P xs) :
    (h.alloc xs).1.All P := by
  intro r
  rcases Nat.lt_trichotomy r h.size with hOld | hHere | hPast
  · rw [read_alloc_of_lt hOld]
    exact hAll r
  · rw [hHere, read_alloc_new]
    exact hNew
  · -- there is no such object, before or after
    have hNone : (h.alloc xs).1.read r = h.read r := by
      have hOld : h.cells[r]? = none :=
        List.getElem?_eq_none_iff.mpr (Nat.le_of_lt hPast)
      have hAfter : (h.cells ++ [xs])[r]? = none := by
        rw [List.getElem?_eq_none_iff, List.length_append]
        exact Nat.succ_le_of_lt hPast
      simp [Heap.alloc, read, hOld, hAfter]
    rw [hNone]
    exact hAll r

theorem All.write
    (hAll : h.All P)
    (hNew : P xs) :
    (h.write r xs).All P := by
  intro q
  by_cases hHere : q = r
  · by_cases hLt : r < h.size
    · rw [hHere, read_write_same hLt]
      exact hNew
    · have hSame : h.cells.set r xs = h.cells :=
        List.set_eq_of_length_le (Nat.not_lt.mp hLt)
      rw [Heap.write, hSame]
      exact hAll q
  · rw [read_write_of_ne hHere]
    exact hAll q

end Heap

end Dart
