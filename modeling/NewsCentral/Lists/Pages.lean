import Mathlib

/-
  Lists that come in pages.

  A source is cut into numbered pages, the first of which
  has number one.  What has been put together is compared
  with the pages `1` to `n`.

  Key definitions include:
    * `Pages.upTo`
    * `Pages.ofNumbers`
    * `Pages.EndsAtEmpty`
    * `Pages.Blank`
    * `Pages.slice`
    * `Pages.around`

  Key theorems include:
    * `Pages.ofNumbers_range'`
    * `Pages.endsAtEmpty_append_singleton_iff`
    * `Pages.upTo_eq_iff_blank`
    * `Pages.upTo_slice`
    * `Pages.flatten_map_slice`
    * `Pages.flatMap_range_positions`
    * `Pages.upTo_around`
-/

------------------------------------------------------------
-- The First Pages
------------------------------------------------------------

namespace Pages

variable {α : Type}

/- The items of the pages 1 to `n`. -/
def upTo
    (page : Nat → List α) : Nat → List α
  | 0 => []
  | n + 1 => upTo page n ++ page (n + 1)

@[simp] theorem upTo_zero
    (page : Nat → List α) :
    upTo page 0 = [] := rfl

@[simp] theorem upTo_one
    (page : Nat → List α) :
    upTo page 1 = page 1 := rfl

theorem upTo_succ
    (page : Nat → List α)
    (n : Nat) :
    upTo page (n + 1) = upTo page n ++ page (n + 1) := rfl

/- The items of the pages with some numbers. -/
def ofNumbers
    (page : Nat → List α)
    (numbers : List Nat) : List α :=
  numbers.flatMap page

@[simp] theorem ofNumbers_nil
    (page : Nat → List α) :
    ofNumbers page [] = [] := rfl

@[simp] theorem ofNumbers_append
    (page : Nat → List α)
    (ms ns : List Nat) :
    ofNumbers page (ms ++ ns) =
      ofNumbers page ms ++ ofNumbers page ns :=
  List.flatMap_append

@[simp] theorem ofNumbers_singleton
    (page : Nat → List α)
    (n : Nat) :
    ofNumbers page [n] = page n := by
  simp [ofNumbers]

/- The numbers up to the next one. -/
theorem range'_one_succ
    (n : Nat) :
    List.range' 1 (n + 1) = List.range' 1 n ++ [n + 1] := by
  rw [List.range'_1_concat, Nat.add_comm 1 n]

/- Consecutive numbers give the first pages. -/
theorem ofNumbers_range'
    (page : Nat → List α)
    (n : Nat) :
    ofNumbers page (List.range' 1 n) = upTo page n := by
  induction n with
  | zero => rfl
  | succ n ih =>
      rw [range'_one_succ, ofNumbers_append, ih,
        ofNumbers_singleton, upTo_succ]

/- The pages up to `l`, and those behind them. -/
theorem upTo_add
    (page : Nat → List α)
    (l d : Nat) :
    upTo page (l + d) =
      upTo page l ++
        ofNumbers page (List.range' (l + 1) d) := by
  induction d with
  | zero => simp
  | succ d ih =>
      rw [← Nat.add_assoc, upTo_succ, ih, List.range'_1_concat,
        ofNumbers_append, ofNumbers_singleton,
        List.append_assoc, Nat.add_right_comm l 1 d]

/- Numbers are consecutive if each is the next one. -/
theorem range'_one_append_iff
    {n m k : Nat} :
    List.range' 1 n ++ [m] = List.range' 1 k ↔
      m = n + 1 ∧ k = n + 1 := by
  constructor
  · intro hEq
    have hLength : k = n + 1 := by
      simpa using (congrArg List.length hEq).symm
    subst hLength
    rw [range'_one_succ, List.append_cancel_left_eq] at hEq
    exact ⟨List.singleton_inj.mp hEq, rfl⟩
  · rintro ⟨rfl, rfl⟩
    exact (range'_one_succ n).symm

/- What comes before in consecutive numbers is consecutive. -/
theorem exists_range'_of_prefix
    {ns : List Nat}
    {k : Nat}
    (hPrefix : ns <+: List.range' 1 k) :
    ∃ n, ns = List.range' 1 n := by
  rcases hPrefix with ⟨rest, hSplit⟩
  rcases List.range'_eq_append_iff.mp hSplit.symm with
    ⟨n, _, hFirst, _⟩
  exact ⟨n, hFirst⟩

end Pages

------------------------------------------------------------
-- The End Of The Pages
------------------------------------------------------------

namespace Pages

variable {α : Type} {page : Nat → List α}

/- What comes after an empty page adds nothing. -/
def EndsAtEmpty
    (page : Nat → List α) : List Nat → Prop
  | [] => True
  | n :: ns =>
      (page n = [] → ofNumbers page ns = []) ∧
        EndsAtEmpty page ns

/- A further page adds nothing behind an empty one. -/
theorem endsAtEmpty_append_singleton_iff
    {ns : List Nat}
    {m : Nat} :
    EndsAtEmpty page (ns ++ [m]) ↔
      EndsAtEmpty page ns ∧
        ([] ∈ ns.map page → page m = []) := by
  induction ns with
  | nil => simp [EndsAtEmpty]
  | cons n ns ih =>
      simp only [List.cons_append, EndsAtEmpty, ih,
        ofNumbers_append, ofNumbers_singleton,
        List.append_eq_nil_iff, List.map_cons,
        List.mem_cons]
      constructor
      · rintro ⟨hHead, hTail, hLast⟩
        refine ⟨⟨fun hEmpty => (hHead hEmpty).1, hTail⟩, ?_⟩
        rintro (hHere | hThere)
        · exact (hHead hHere.symm).2
        · exact hLast hThere
      · rintro ⟨⟨hHead, hTail⟩, hLast⟩
        refine ⟨?_, hTail, fun hThere => hLast (.inr hThere)⟩
        intro hEmpty
        exact ⟨hHead hEmpty, hLast (.inl hEmpty.symm)⟩

/- The pages that came first ended at an empty one too. -/
theorem EndsAtEmpty.of_append
    {ns ms : List Nat}
    (hEnds : EndsAtEmpty page (ns ++ ms)) :
    EndsAtEmpty page ns := by
  induction ns with
  | nil => trivial
  | cons n ns ih =>
      refine ⟨?_, ih hEnds.2⟩
      intro hEmpty
      have hAll : ofNumbers page (ns ++ ms) = [] :=
        hEnds.1 hEmpty
      rw [ofNumbers_append] at hAll
      exact (List.append_eq_nil_iff.mp hAll).1

end Pages

------------------------------------------------------------
-- Pages Without Items
------------------------------------------------------------

namespace Pages

variable {α : Type} {page : Nat → List α} {l m : Nat}

/- The pages behind the `l`th, up to the `m`th, are empty. -/
def Blank
    (page : Nat → List α)
    (l m : Nat) : Prop :=
  ofNumbers page (List.range' (l + 1) (m - l)) = []

instance
    (page : Nat → List α)
    (l m : Nat)
    [DecidableEq α] :
    Decidable (Blank page l m) := by
  unfold Blank
  infer_instance

/- Each of those pages is empty. -/
theorem Blank.page_eq_nil
    {n : Nat}
    (hBlank : Blank page l m)
    (hLow : l < n)
    (hHigh : n ≤ m) :
    page n = [] := by
  refine List.flatMap_eq_nil_iff.mp hBlank n ?_
  rw [List.mem_range'_1]
  omega

/- Only empty pages may be left out. -/
theorem upTo_eq_iff_blank
    (hLe : l ≤ m) :
    upTo page l = upTo page m ↔ Blank page l m := by
  have hSplit := upTo_add page l (m - l)
  rw [Nat.add_sub_cancel' hLe] at hSplit
  rw [hSplit, Blank]
  exact List.self_eq_append_right

/- Of two numbers, with posts on the page behind the one. -/
theorem upTo_eq_iff
    (hNext : page (m + 1) ≠ []) :
    upTo page l = upTo page m ↔ l ≤ m ∧ Blank page l m := by
  rcases Nat.lt_or_ge m l with hLt | hLe
  · have hOther : ¬ Blank page m l := fun hBlank =>
      hNext (hBlank.page_eq_nil (Nat.lt_succ_self m) hLt)
    rw [← upTo_eq_iff_blank hLt.le] at hOther
    constructor
    · intro hEq
      exact absurd hEq.symm hOther
    · rintro ⟨hLe, _⟩
      omega
  · rw [upTo_eq_iff_blank hLe]
    exact ⟨fun hBlank => ⟨hLe, hBlank⟩, And.right⟩

end Pages

------------------------------------------------------------
-- Pages Of One List
------------------------------------------------------------

namespace Pages

variable {α : Type}

/- The `n`th page of a list cut into pages of one size. -/
def slice
    (size : Nat)
    (xs : List α)
    (n : Nat) : List α :=
  (xs.drop (size * (n - 1))).take size

/- The first pages are the first items. -/
theorem upTo_slice
    (size : Nat)
    (xs : List α)
    (n : Nat) :
    upTo (slice size xs) n = xs.take (size * n) := by
  induction n with
  | zero => simp
  | succ n ih =>
      rw [upTo_succ, ih, slice, Nat.add_sub_cancel,
        Nat.mul_succ, List.take_add]

/- The first pages, numbered from zero. -/
theorem flatten_map_slice
    (size : Nat)
    (xs : List α)
    (n : Nat) :
    ((List.range n).map fun i =>
        slice size xs (i + 1)).flatten =
      xs.take (size * n) := by
  rw [← upTo_slice, ← ofNumbers_range', ofNumbers,
    List.flatMap_def, List.range'_eq_map_range,
    List.map_map]
  congr 2
  funext i
  simp only [Function.comp_apply, Nat.add_comm 1 i]

/- A loop over positions that stops at the end of the list. -/
theorem filterMap_takeWhile_range'
    (xs : List α)
    (start size : Nat) :
    (((List.range' start size).takeWhile fun i =>
        i < xs.length).filterMap fun i => xs[i]?) =
      (xs.drop start).take size := by
  induction size generalizing start with
  | zero => simp
  | succ size ih =>
      rw [List.range'_succ]
      by_cases hLt : start < xs.length
      · rw [List.takeWhile_cons_of_pos (by simpa using hLt),
          List.filterMap_cons_some
            (List.getElem?_eq_getElem hLt), ih,
          List.drop_eq_getElem_cons hLt, List.take_succ_cons]
      · rw [List.takeWhile_cons_of_neg (by simpa using hLt),
          List.drop_of_length_le (by omega)]
        simp

/- The positions of the pages are those of the list. -/
theorem flatMap_range_positions
    (size k : Nat)
    (f : Nat → α) :
    ((List.range k).flatMap fun i =>
        (List.range size).map fun j => f (i * size + j)) =
      (List.range (k * size)).map f := by
  induction k with
  | zero => simp
  | succ k ih =>
      rw [List.range_succ, List.flatMap_append, ih,
        List.flatMap_singleton, Nat.succ_mul, List.range_add,
        List.map_append, List.map_map]
      rfl

/- A page has items if the list reaches it. -/
theorem slice_succ_eq_nil_iff
    {size n : Nat}
    {xs : List α}
    (hSize : 0 < size) :
    slice size xs (n + 1) = [] ↔ xs.length ≤ size * n := by
  unfold slice
  rw [Nat.add_sub_cancel, List.take_eq_nil_iff,
    List.drop_eq_nil_iff]
  exact or_iff_right (by omega)

/- A later page does not repeat the first one. -/
theorem slice_one_eq_iff
    {size n : Nat}
    {xs : List α}
    (hSize : 0 < size)
    (hDistinct : xs.Nodup)
    (hLater : 1 < n) :
    slice size xs 1 = slice size xs n ↔ xs = [] := by
  constructor
  · intro hEq
    cases xs with
    | nil => rfl
    | cons x rest =>
        have hFirst : x ∈ slice size (x :: rest) 1 := by
          cases size with
          | zero => omega
          | succ size => simp [slice]
        have hPos : 0 < size * (n - 1) :=
          Nat.mul_pos hSize (by omega)
        rw [hEq, slice] at hFirst
        have hBehind := List.mem_of_mem_take hFirst
        cases hCount : size * (n - 1) with
        | zero => omega
        | succ count =>
            rw [hCount, List.drop_succ_cons] at hBehind
            exact absurd (List.mem_of_mem_drop hBehind)
              (List.nodup_cons.mp hDistinct).1
  · rintro rfl
    simp [slice]

end Pages

------------------------------------------------------------
-- Pages Over And Over
------------------------------------------------------------

namespace Pages

variable {α : Type} {page : Nat → List α} {n k m : Nat}

/- The pages 1 to `n`, over and over. -/
def around
    (page : Nat → List α)
    (n : Nat)
    (m : Nat) : List α :=
  page ((m - 1) % n + 1)

theorem upTo_around_succ :
    upTo (around page n) (k + 1) =
      upTo (around page n) k ++ page (k % n + 1) := by
  rw [upTo_succ, around, Nat.add_sub_cancel]

/- The first time around they are the pages themselves. -/
theorem upTo_around
    (hLe : k ≤ n) :
    upTo (around page n) k = upTo page k := by
  induction k with
  | zero => rfl
  | succ k ih =>
      rw [upTo_around_succ, ih (by omega), upTo_succ,
        Nat.mod_eq_of_lt (by omega)]

/- Fewer pages come first among more. -/
theorem upTo_prefix
    (hLe : k ≤ m) :
    upTo page k <+: upTo page m := by
  have hSplit := upTo_add page k (m - k)
  rw [Nat.add_sub_cancel' hLe] at hSplit
  exact ⟨_, hSplit.symm⟩

end Pages
