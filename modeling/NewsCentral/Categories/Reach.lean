import Mathlib.Data.List.Count
import Mathlib.Data.List.Perm.Basic
import NewsCentral.Categories.Program

/-
  The entries that open a category, in the three renderings
  of the kept ones: `lib/screens/categories/card.dart`,
  `lib/menu.dart` and
  `lib/widgets/blog/vertical/menu_layout.dart`.

  All three start from the roots and go one or two levels
  down.  A root with children opens nothing itself.

  Key definitions include:
    * `NewsCentral.CardCategories.entries`
    * `NewsCentral.MenuBar.showCategories`
    * `NewsCentral.MenuLayout.tabs`
    * `NewsCentral.ReachedOnce` and `AllRoots`
    * `NewsCentral.ReachedThroughParents` and `TwoLevels`

  Key theorems include:
    * `NewsCentral.count_secondLevel`
    * `NewsCentral.reached_iff`
-/

------------------------------------------------------------
-- Renderings
------------------------------------------------------------

namespace NewsCentral

open Dart

/- `categories.where((o) => o.parent == id)` -/
def getSubCategories
    (categories : List Category)
    (id : Option Int) : List Category :=
  categories.filter fun o => o.parent = id

/- `categories.where((item) => item.parent == 0)` -/
def roots (categories : List Category) : List Category :=
  getSubCategories categories (some 0)

/- What shows `name.toUpperCase()`, which null has not. -/
def titled (c : Category) : Except Thrown Category :=
  match c.name with
  | none => .error (.noSuchMethod "toUpperCase")
  | some _ => .ok c

namespace CardCategories

def hasChildren
    (categories : List Category)
    (id : Option Int) : Bool :=
  !(getSubCategories categories id).isEmpty

/-
  What a tap on a `CategoryCardItem` opens.  Without its
  name the card cannot be built.
-/
def cardItem
    (categories : List Category)
    (item : Category) : List Category :=
  if hasChildren categories item.id then
    []
  else if item.name.isNone then
    []
  else
    [item]

/- Every `SubItem` opens its category. -/
def entries (categories : List Category) : List Category :=
  (roots categories).flatMap fun item =>
    cardItem categories item ++
      (getSubCategories categories item.id).flatMap
        fun category =>
          category :: getSubCategories categories category.id

end CardCategories

namespace MenuBar

def getChildren
    (categories : List Category)
    (category : Category) : List Category :=
  let children := getSubCategories categories category.id
  (if children.isEmpty then [category] else []) ++ children

def showCategories
    (categories : List Category) :
    Except Thrown (List Category) := do
  let list ← (roots categories).mapM titled
  return list.flatMap (getChildren categories)

end MenuBar

namespace MenuLayout

def getAllCategory
    (categories : List Category) : List Category :=
  (roots categories).flatMap fun category =>
    let children := getSubCategories categories category.id
    if children.isEmpty then [category] else children

/- The tabs; each shows the name in capitals. -/
def tabs
    (categories : List Category) :
    Except Thrown (List Category) :=
  (getAllCategory categories).mapM titled

end MenuLayout

end NewsCentral

------------------------------------------------------------
-- The Property And Its Condition
------------------------------------------------------------

namespace NewsCentral

open Dart WordPress

variable (kept : List Category)

/- A category is an entry as often as it is in the list. -/
def Once
    (entries : List Category)
    (c : Category) : Prop :=
  entries.count c = kept.count c

/- A root whose children are shown. -/
def HasShownChildren (c : Category) : Prop :=
  c.parent = some 0 ∧ getSubCategories kept c.id ≠ []

/-
  Every kept category can be opened in each rendering, once;
  among the tabs a parent may be left to its children.
-/
def ReachedOnce : Prop :=
  ∃ list tabs,
    MenuBar.showCategories kept = .ok list ∧
      MenuLayout.tabs kept = .ok tabs ∧
      ∀ c ∈ kept,
        Once kept (CardCategories.entries kept) c ∧
          Once kept list c ∧
          (Once kept tabs c ∨
            (HasShownChildren kept c ∧ c ∉ tabs))

/- A parent is left to its children, all others show once. -/
def OnceOrChildren
    (entries : List Category)
    (c : Category) : Prop :=
  (HasShownChildren kept c → c ∉ entries) ∧
    (¬ HasShownChildren kept c → Once kept entries c)

/- The same when parents are left out in each rendering. -/
def ReachedThroughParents : Prop :=
  ∃ list tabs,
    MenuBar.showCategories kept = .ok list ∧
      MenuLayout.tabs kept = .ok tabs ∧
      ∀ c ∈ kept,
        OnceOrChildren kept (CardCategories.entries kept) c ∧
          OnceOrChildren kept list c ∧
          OnceOrChildren kept tabs c

/- A kept item has a name, and an id other than the roots. -/
def Regular (item : Json) : Prop :=
  item.intAt "id" ≠ .ok (some 0) ∧
    item.text "name" ≠ .ok none

/- Every kept item is a root. -/
def AllRoots (response : Json) : Prop :=
  ∀ item ∈ keptItems response,
    Regular item ∧ item.intAt "parent" = .ok (some 0)

/-
  Every kept item is a root, or the child of one: a single
  kept item has the id of its parent, and is a root.
-/
def TwoLevels (response : Json) : Prop :=
  ∀ item ∈ keptItems response,
    Regular item ∧
      (item.intAt "parent" = .ok (some 0) ∨
        ∃ p,
          (keptItems response).filter
              (fun o => o.intAt "id" = item.intAt "parent") =
            [p] ∧
          p.intAt "parent" = .ok (some 0))

end NewsCentral

------------------------------------------------------------
-- Counting Entries
------------------------------------------------------------

namespace NewsCentral

open Dart

variable {kept : List Category} {c : Category}

theorem mem_getSubCategories
    {id : Option Int} :
    c ∈ getSubCategories kept id ↔
      c ∈ kept ∧ c.parent = id := by
  simp [getSubCategories]

theorem mem_roots :
    c ∈ roots kept ↔ c ∈ kept ∧ c.parent = some 0 :=
  mem_getSubCategories

theorem count_getSubCategories
    (id : Option Int) :
    (getSubCategories kept id).count c =
      if c.parent = id then kept.count c else 0 := by
  unfold getSubCategories
  by_cases hParent : c.parent = id
  · rw [if_pos hParent, List.count_filter (by simpa)]
  · rw [if_neg hParent, List.count_eq_zero]
    simp [hParent]

/- The children of the roots. -/
def secondLevel (kept : List Category) : List Category :=
  (roots kept).flatMap fun item =>
    getSubCategories kept item.id

/- The roots that have no children. -/
def leaves (kept : List Category) : List Category :=
  (roots kept).filter fun item =>
    (getSubCategories kept item.id).isEmpty

/- The entries of the drawer, and the tabs. -/
def shown (kept : List Category) : List Category :=
  (roots kept).flatMap (MenuBar.getChildren kept)

/- A child of roots shows once for each of them. -/
theorem count_secondLevel :
    (secondLevel kept).count c =
      (roots kept).countP (fun r => c.parent = r.id) *
        kept.count c := by
  unfold secondLevel
  rw [List.count_flatMap]
  induction roots kept with
  | nil => simp
  | cons r rest ih =>
      rw [List.map_cons, List.sum_cons, ih, List.countP_cons,
        Function.comp_apply, count_getSubCategories]
      by_cases hParent : c.parent = r.id
      · simp only [hParent, if_true, decide_true]
        rw [Nat.add_mul, Nat.one_mul, Nat.add_comm]
      · simp [hParent]

theorem filter_eq_flatMap
    {α : Type}
    (p : α → Bool)
    (xs : List α) :
    (xs.flatMap fun x => if p x then [x] else []) =
      xs.filter p := by
  induction xs with
  | nil => rfl
  | cons x xs ih =>
      rw [List.flatMap_cons, ih, List.filter_cons]
      cases p x <;> rfl

/- The drawer lists the leaves and the second level. -/
theorem shown_perm :
    (shown kept).Perm (leaves kept ++ secondLevel kept) := by
  unfold shown leaves secondLevel
  rw [← filter_eq_flatMap]
  exact (List.flatMap_append_perm _ _ _).symm

/- The tabs are the entries of the drawer. -/
theorem getAllCategory_eq :
    MenuLayout.getAllCategory kept = shown kept := by
  unfold MenuLayout.getAllCategory shown
  congr 1
  funext r
  unfold MenuBar.getChildren
  cases getSubCategories kept r.id <;> rfl

theorem cardItem_eq
    (item : Category) :
    CardCategories.cardItem kept item =
      if item.name.isSome &&
          (getSubCategories kept item.id).isEmpty then
        [item]
      else
        [] := by
  unfold CardCategories.cardItem CardCategories.hasChildren
  cases (getSubCategories kept item.id).isEmpty <;>
    cases item.name <;> rfl

/- Entries with their own sub-entries, level by level. -/
theorem flatMap_cons_perm
    {α : Type}
    (below : α → List α)
    (xs : List α) :
    (xs.flatMap fun x => x :: below x).Perm
      (xs ++ xs.flatMap below) := by
  have hSplit :=
    List.flatMap_append_perm xs (fun x => [x]) below
  rw [List.flatMap_singleton'] at hSplit
  exact hSplit.symm

/- The cards add what is below the second level. -/
theorem entries_perm :
    (CardCategories.entries kept).Perm
      ((leaves kept).filter (·.name.isSome) ++
        (secondLevel kept ++
          (secondLevel kept).flatMap fun category =>
            getSubCategories kept category.id)) := by
  unfold CardCategories.entries leaves
  refine (List.flatMap_append_perm _ _ _).symm.trans ?_
  refine List.Perm.append ?_ ?_
  · rw [funext cardItem_eq, filter_eq_flatMap,
      List.filter_filter]
  · refine (List.Perm.flatMap_left _ fun item _ =>
      flatMap_cons_perm _ _).trans ?_
    refine (List.flatMap_append_perm _ _ _).symm.trans ?_
    unfold secondLevel
    rw [List.flatMap_assoc]

/- How often the renderings show a category. -/
theorem count_shown :
    (shown kept).count c =
      (leaves kept).count c + (secondLevel kept).count c := by
  rw [shown_perm.count_eq, List.count_append]

theorem count_entries :
    (CardCategories.entries kept).count c =
      ((leaves kept).filter (·.name.isSome)).count c +
        ((secondLevel kept).count c +
          ((secondLevel kept).flatMap fun category =>
            getSubCategories kept category.id).count c) := by
  rw [entries_perm.count_eq, List.count_append,
    List.count_append]

end NewsCentral

------------------------------------------------------------
-- Where A Category Shows
------------------------------------------------------------

namespace NewsCentral

open Dart

variable {kept : List Category} {c : Category}

theorem mapM_titled_iff
    {xs ys : List Category} :
    xs.mapM titled = .ok ys ↔
      ys = xs ∧ ∀ x ∈ xs, x.name ≠ none := by
  constructor
  · intro hLoop
    have hEach := forall₂_of_mapM hLoop
    clear hLoop
    induction hEach with
    | nil => simp
    | @cons x y _ _ hHead _ ih =>
        unfold titled at hHead
        cases hName : x.name with
        | none => simp [hName] at hHead
        | some name =>
            simp only [hName, Except.ok.injEq] at hHead
            rw [List.forall_mem_cons, hName, hHead, ih.1]
            exact ⟨rfl, by simp, ih.2⟩
  · rintro ⟨rfl, hNames⟩
    apply mapM_of_forall₂
    rw [List.forall₂_same]
    intro x hx
    unfold titled
    cases hName : x.name with
    | none => exact absurd hName (hNames x hx)
    | some name => rfl

theorem showCategories_iff
    {list : List Category} :
    MenuBar.showCategories kept = .ok list ↔
      list = shown kept ∧ ∀ r ∈ roots kept, r.name ≠ none := by
  unfold MenuBar.showCategories
  rw [bind_eq_ok_iff]
  constructor
  · rintro ⟨titles, hLoop, hRest⟩
    rcases mapM_titled_iff.mp hLoop with ⟨rfl, hNames⟩
    cases hRest
    exact ⟨rfl, hNames⟩
  · rintro ⟨rfl, hNames⟩
    exact ⟨_, mapM_titled_iff.mpr ⟨rfl, hNames⟩, rfl⟩

theorem tabs_iff
    {tabs : List Category} :
    MenuLayout.tabs kept = .ok tabs ↔
      tabs = shown kept ∧ ∀ c ∈ shown kept, c.name ≠ none := by
  unfold MenuLayout.tabs
  rw [getAllCategory_eq]
  exact mapM_titled_iff

theorem count_leaves
    (hRoot : c.parent = some 0)
    (hLeaf : getSubCategories kept c.id = []) :
    (leaves kept).count c = kept.count c := by
  unfold leaves
  rw [List.count_filter (by simp [hLeaf]), roots,
    count_getSubCategories, if_pos hRoot]

theorem count_leaves_of_nonroot
    (hOther : c.parent ≠ some 0) :
    (leaves kept).count c = 0 := by
  rw [List.count_eq_zero]
  intro hMem
  exact hOther (mem_roots.mp (List.mem_filter.mp hMem).1).2

theorem count_leaves_of_children
    (hChildren : getSubCategories kept c.id ≠ []) :
    (leaves kept).count c = 0 := by
  rw [List.count_eq_zero]
  intro hMem
  exact hChildren (by simpa using (List.mem_filter.mp hMem).2)

/- A leaf with a name has a card that opens it. -/
theorem count_cards
    (hName : c.name ≠ none) :
    ((leaves kept).filter (·.name.isSome)).count c =
      (leaves kept).count c :=
  List.count_filter (Option.isSome_iff_ne_none.mpr hName)

theorem mem_secondLevel :
    c ∈ secondLevel kept ↔
      ∃ r ∈ roots kept, c ∈ kept ∧ c.parent = r.id := by
  simp only [secondLevel, List.mem_flatMap,
    mem_getSubCategories]

/- The child of a root shows at least once. -/
theorem count_le_secondLevel
    {r : Category}
    (hRoot : r ∈ roots kept)
    (hParent : c.parent = r.id) :
    kept.count c ≤ (secondLevel kept).count c := by
  rw [count_secondLevel]
  apply Nat.le_mul_of_pos_left
  rw [List.countP_pos_iff]
  exact ⟨r, hRoot, by simpa using hParent⟩

/- What is shown below the second level. -/
theorem count_below_pos_iff :
    0 < ((secondLevel kept).flatMap fun category =>
        getSubCategories kept category.id).count c ↔
      ∃ d ∈ secondLevel kept, c ∈ kept ∧ c.parent = d.id := by
  rw [List.count_pos_iff]
  simp only [List.mem_flatMap, mem_getSubCategories]

/- A root with id 0 would show below its own entry. -/
theorem count_lt_entries
    {z : Category}
    (hRoot : z ∈ roots kept)
    (hZero : z.id = some 0) :
    kept.count z < (CardCategories.entries kept).count z := by
  rcases mem_roots.mp hRoot with ⟨hMem, hParent⟩
  have hOwn : z.parent = z.id := hParent.trans hZero.symm
  have hSecond := count_le_secondLevel hRoot hOwn
  have hBelow := count_below_pos_iff.mpr
    ⟨z, mem_secondLevel.mpr ⟨z, hRoot, hMem, hOwn⟩, hMem,
      hOwn⟩
  rw [count_entries]
  omega

end NewsCentral

------------------------------------------------------------
-- The Kept List
------------------------------------------------------------

namespace NewsCentral

open Dart

variable {kept : List Category} {c : Category}

/- A category with a name, and an id other than the roots. -/
def Category.Regular (c : Category) : Prop :=
  c.id ≠ some 0 ∧ c.name ≠ none

/- Only kept categories are shown. -/
theorem mem_of_mem_shown
    (hShown : c ∈ shown kept) :
    c ∈ kept := by
  rw [shown_perm.mem_iff, List.mem_append]
    at hShown
  rcases hShown with hLeaf | hSecond
  · exact (mem_roots.mp (List.mem_filter.mp hLeaf).1).1
  · rcases mem_secondLevel.mp hSecond with ⟨_, _, hMem, _⟩
    exact hMem

/- No root is the child of a root, unless one has id 0. -/
theorem count_secondLevel_of_root
    (hIds : ∀ r ∈ roots kept, r.id ≠ some 0)
    (hRoot : c.parent = some 0) :
    (secondLevel kept).count c = 0 := by
  rw [List.count_eq_zero, mem_secondLevel]
  rintro ⟨r, hMem, _, hParent⟩
  exact hIds r hMem (hParent.symm.trans hRoot)

/- Roots without children are what all renderings show. -/
theorem onlyRoots_of_reachedOnce
    (hReached : ReachedOnce kept) :
    ∀ c ∈ kept, c.Regular ∧ c.parent = some 0 := by
  rcases hReached with ⟨list, tabs, hList, _, hEach⟩
  rcases showCategories_iff.mp hList with ⟨rfl, hNames⟩
  have hIds : ∀ r ∈ roots kept, r.id ≠ some 0 := by
    intro r hRoot hZero
    have hCards := (hEach r (mem_roots.mp hRoot).1).1
    exact absurd hCards (count_lt_entries hRoot hZero).ne'
  have hLeaves :
      ∀ r ∈ roots kept, getSubCategories kept r.id = [] := by
    intro r hRoot
    by_contra hChildren
    rcases mem_roots.mp hRoot with ⟨hMem, hParent⟩
    have hOnce := (hEach r hMem).2.1
    unfold Once at hOnce
    rw [count_shown, count_leaves_of_children hChildren,
      count_secondLevel_of_root hIds hParent] at hOnce
    exact absurd (List.count_pos_iff.mpr hMem) (by omega)
  intro c hMem
  have hRoot : c.parent = some 0 := by
    by_contra hOther
    have hOnce := (hEach c hMem).2.1
    unfold Once at hOnce
    rw [count_shown, count_leaves_of_nonroot hOther,
      Nat.zero_add] at hOnce
    have hPos : c ∈ secondLevel kept := by
      rw [← List.count_pos_iff, hOnce, List.count_pos_iff]
      exact hMem
    rcases mem_secondLevel.mp hPos with ⟨r, hR, _, hParent⟩
    have hChild := mem_getSubCategories.mpr ⟨hMem, hParent⟩
    rw [hLeaves r hR] at hChild
    exact absurd hChild List.not_mem_nil
  have hMemRoot := mem_roots.mpr ⟨hMem, hRoot⟩
  exact ⟨⟨hIds c hMemRoot, hNames c hMemRoot⟩, hRoot⟩

theorem reachedOnce_of_onlyRoots
    (hRoots : ∀ c ∈ kept, c.Regular ∧ c.parent = some 0) :
    ReachedOnce kept := by
  have hIds : ∀ r ∈ roots kept, r.id ≠ some 0 := by
    intro r hRoot
    exact (hRoots r (mem_roots.mp hRoot).1).1.1
  have hLeaf :
      ∀ c ∈ kept, getSubCategories kept c.id = [] := by
    intro c hMem
    rw [List.eq_nil_iff_forall_not_mem]
    intro d hChild
    rcases mem_getSubCategories.mp hChild with ⟨hD, hParent⟩
    exact (hRoots c hMem).1.1
      (hParent.symm.trans (hRoots d hD).2)
  have hSecond : secondLevel kept = [] := by
    rw [List.eq_nil_iff_forall_not_mem]
    intro d hMem
    rcases mem_secondLevel.mp hMem with ⟨r, hR, hD, hParent⟩
    exact hIds r hR (hParent.symm.trans (hRoots d hD).2)
  have hShown : ∀ c ∈ kept, Once kept (shown kept) c := by
    intro c hMem
    unfold Once
    rw [count_shown, hSecond, List.count_nil, Nat.add_zero,
      count_leaves (hRoots c hMem).2 (hLeaf c hMem)]
  refine ⟨shown kept, shown kept, ?_, ?_, ?_⟩
  · refine showCategories_iff.mpr ⟨rfl, ?_⟩
    intro r hRoot
    exact (hRoots r (mem_roots.mp hRoot).1).1.2
  · refine tabs_iff.mpr ⟨rfl, ?_⟩
    intro c hMem
    exact (hRoots c (mem_of_mem_shown hMem)).1.2
  · intro c hMem
    refine ⟨?_, hShown c hMem, .inl (hShown c hMem)⟩
    unfold Once
    rw [count_entries, hSecond, List.flatMap_nil,
      List.count_nil, Nat.add_zero,
      count_cards (hRoots c hMem).1.2,
      count_leaves (hRoots c hMem).2 (hLeaf c hMem)]

/- The single kept category with the id of a parent. -/
def RootParent
    (kept : List Category)
    (c : Category) : Prop :=
  ∃ p, kept.filter (fun o => o.id = c.parent) = [p] ∧
    p.parent = some 0

/-
  A category that the second level shows once has one
  parent among the roots, and one in all if no other
  category takes the id of that.
-/
theorem rootParent_of_count
    (hMem : c ∈ kept)
    (hSecond : (secondLevel kept).count c = kept.count c)
    (hOthers :
      ∀ d ∈ kept, d.parent ≠ some 0 → d.id ≠ c.parent) :
    RootParent kept c := by
  have hPos := List.count_pos_iff.mpr hMem
  rw [count_secondLevel] at hSecond
  have hOne :
      (roots kept).countP (fun r => c.parent = r.id) = 1 :=
    Nat.eq_of_mul_eq_mul_right hPos
      (hSecond.trans (Nat.one_mul _).symm)
  have hFilter :
      kept.filter (fun o => o.id = c.parent) =
        (roots kept).filter (fun r => c.parent = r.id) := by
    unfold roots getSubCategories
    rw [List.filter_filter]
    apply List.filter_congr
    intro d hD
    by_cases hRoot : d.parent = some 0
    · simp [hRoot, eq_comm]
    · simp [hRoot, hOthers d hD hRoot]
  rw [List.countP_eq_length_filter, ← hFilter,
    List.length_eq_one_iff] at hOne
  rcases hOne with ⟨p, hP⟩
  have hIn : p ∈ (roots kept).filter
      (fun r => c.parent = r.id) := by
    rw [← hFilter, hP]
    exact List.mem_singleton_self p
  exact ⟨p, hP, (mem_roots.mp (List.mem_filter.mp hIn).1).2⟩

/- Roots and their children are what the renderings show. -/
abbrev InTwoLevels (kept : List Category) : Prop :=
  ∀ c ∈ kept, c.Regular ∧
    (c.parent = some 0 ∨ RootParent kept c)

theorem twoLevels_of_reached
    (hReached : ReachedThroughParents kept) :
    InTwoLevels kept := by
  rcases hReached with ⟨list, tabs, hList, hTabs, hEach⟩
  rcases showCategories_iff.mp hList with ⟨rfl, hNames⟩
  rcases tabs_iff.mp hTabs with ⟨rfl, hShownNames⟩
  have hIds : ∀ r ∈ roots kept, r.id ≠ some 0 := by
    intro r hRoot hZero
    rcases mem_roots.mp hRoot with ⟨hMem, hParent⟩
    have hOwn : r.parent = r.id := hParent.trans hZero.symm
    have hChildren : getSubCategories kept r.id ≠ [] :=
      List.ne_nil_of_mem
        (mem_getSubCategories.mpr ⟨hMem, hOwn⟩)
    apply (hEach r hMem).1.1 ⟨hParent, hChildren⟩
    rw [← List.count_pos_iff]
    exact Nat.zero_lt_of_lt (count_lt_entries hRoot hZero)
  have hSecond :
      ∀ c ∈ kept, c.parent ≠ some 0 →
        (secondLevel kept).count c = kept.count c := by
    intro c hMem hOther
    have hOnce := (hEach c hMem).2.2.2 (fun h => hOther h.1)
    unfold Once at hOnce
    rwa [count_shown, count_leaves_of_nonroot hOther,
      Nat.zero_add] at hOnce
  have hBelow :
      ∀ c ∈ kept, c.parent ≠ some 0 →
        ∀ d ∈ secondLevel kept, c.parent ≠ d.id := by
    intro c hMem hOther d hD hParent
    have hOnce := (hEach c hMem).1.2 (fun h => hOther h.1)
    have hPos := count_below_pos_iff.mpr
      ⟨d, hD, hMem, hParent⟩
    unfold Once at hOnce
    rw [count_entries, hSecond c hMem hOther] at hOnce
    omega
  have hMemSecond :
      ∀ c ∈ kept, c.parent ≠ some 0 →
        c ∈ secondLevel kept := by
    intro c hMem hOther
    rw [← List.count_pos_iff, hSecond c hMem hOther,
      List.count_pos_iff]
    exact hMem
  intro c hMem
  by_cases hRoot : c.parent = some 0
  · have hMemRoot := mem_roots.mpr ⟨hMem, hRoot⟩
    exact ⟨⟨hIds c hMemRoot, hNames c hMemRoot⟩, .inl hRoot⟩
  · have hIn := hMemSecond c hMem hRoot
    refine ⟨⟨?_, ?_⟩, .inr ?_⟩
    · intro hZero
      rcases mem_secondLevel.mp hIn with ⟨r, hR, _, hParent⟩
      rcases mem_roots.mp hR with ⟨hRMem, hRParent⟩
      have hChildren : getSubCategories kept r.id ≠ [] :=
        List.ne_nil_of_mem
          (mem_getSubCategories.mpr ⟨hMem, hParent⟩)
      apply (hEach r hRMem).1.1 ⟨hRParent, hChildren⟩
      have hPos := count_below_pos_iff.mpr
        ⟨c, hIn, hRMem, hRParent.trans hZero.symm⟩
      rw [← List.count_pos_iff, count_entries]
      omega
    · apply hShownNames c
      rw [shown_perm.mem_iff]
      exact List.mem_append_right _ hIn
    · apply rootParent_of_count hMem (hSecond c hMem hRoot)
      intro d hD hOther hId
      exact hBelow c hMem hRoot d (hMemSecond d hD hOther)
        hId.symm

/- Nothing is below the second level. -/
theorem below_of_twoLevels
    (hLevels : InTwoLevels kept) :
    ((secondLevel kept).flatMap fun category =>
      getSubCategories kept category.id) = [] := by
  rw [List.eq_nil_iff_forall_not_mem]
  intro c hMem
  rw [← List.count_pos_iff, count_below_pos_iff] at hMem
  rcases hMem with ⟨d, hD, hC, hParent⟩
  rcases mem_secondLevel.mp hD with ⟨r, hR, hDMem, hUp⟩
  rcases (hLevels c hC).2 with hRoot | ⟨p, hP, hPRoot⟩
  · exact (hLevels d hDMem).1.1 (hParent.symm.trans hRoot)
  · have hIn : d ∈ [p] := by
      rw [← hP]
      simp [hDMem, hParent]
    rw [List.mem_singleton.mp hIn, hPRoot] at hUp
    exact (hLevels r (mem_roots.mp hR).1).1.1 hUp.symm

/- A category with one parent, a root, has one root above it. -/
theorem countP_roots_of_rootParent
    (hParent : RootParent kept c) :
    (roots kept).countP (fun r => c.parent = r.id) = 1 := by
  rcases hParent with ⟨p, hP, hPRoot⟩
  have hRoots :
      (roots kept).filter (fun r => c.parent = r.id) =
        [p].filter (fun r => r.parent = some 0) := by
    unfold roots getSubCategories
    rw [← hP, List.filter_filter, List.filter_filter]
    apply List.filter_congr
    intro d _
    rw [Bool.and_comm]
    simp [eq_comm]
  rw [List.countP_eq_length_filter, hRoots]
  simp [hPRoot]

theorem count_secondLevel_of_twoLevels
    (hLevels : InTwoLevels kept)
    (hMem : c ∈ kept)
    (hOther : c.parent ≠ some 0) :
    (secondLevel kept).count c = kept.count c := by
  rcases (hLevels c hMem).2 with hRoot | hParent
  · exact absurd hRoot hOther
  · rw [count_secondLevel, countP_roots_of_rootParent hParent,
      Nat.one_mul]

/- What is shown are the leaves and the second level. -/
theorem onceOrChildren_shown
    (hLevels : InTwoLevels kept)
    (hMem : c ∈ kept) :
    OnceOrChildren kept (shown kept) c := by
  have hIds : ∀ r ∈ roots kept, r.id ≠ some 0 :=
    fun r hRoot => (hLevels r (mem_roots.mp hRoot).1).1.1
  unfold OnceOrChildren Once
  rw [← List.count_eq_zero, count_shown]
  by_cases hRoot : c.parent = some 0
  · rw [count_secondLevel_of_root hIds hRoot, Nat.add_zero]
    constructor
    · rintro ⟨_, hChildren⟩
      exact count_leaves_of_children hChildren
    · intro hNone
      apply count_leaves hRoot
      by_contra hChildren
      exact hNone ⟨hRoot, hChildren⟩
  · rw [count_leaves_of_nonroot hRoot, Nat.zero_add]
    constructor
    · rintro ⟨hOther, _⟩
      exact absurd hOther hRoot
    · intro _
      exact count_secondLevel_of_twoLevels hLevels hMem hRoot

/- The cards show a category as often as the lists do. -/
theorem onceOrChildren_entries
    (hLevels : InTwoLevels kept)
    (hMem : c ∈ kept) :
    OnceOrChildren kept (CardCategories.entries kept) c := by
  have hSame :
      (CardCategories.entries kept).count c =
        (shown kept).count c := by
    rw [count_entries, below_of_twoLevels hLevels,
      List.count_nil, Nat.add_zero,
      count_cards (hLevels c hMem).1.2, count_shown]
  have hOnce := onceOrChildren_shown hLevels hMem
  unfold OnceOrChildren Once at hOnce ⊢
  rw [← List.count_eq_zero] at hOnce ⊢
  rw [hSame]
  exact hOnce

theorem reached_of_twoLevels
    (hLevels : InTwoLevels kept) :
    ReachedThroughParents kept := by
  refine ⟨shown kept, shown kept, ?_, ?_, ?_⟩
  · refine showCategories_iff.mpr ⟨rfl, ?_⟩
    intro r hRoot
    exact (hLevels r (mem_roots.mp hRoot).1).1.2
  · refine tabs_iff.mpr ⟨rfl, ?_⟩
    intro c hMem
    exact (hLevels c (mem_of_mem_shown hMem)).1.2
  · intro c hMem
    have hShown := onceOrChildren_shown hLevels hMem
    exact ⟨onceOrChildren_entries hLevels hMem, hShown, hShown⟩

end NewsCentral

------------------------------------------------------------
-- The Answer Of The Server
------------------------------------------------------------

namespace NewsCentral

open Dart WordPress

variable {response : Json} {kept : List Category}

/- The category that is decoded from an item. -/
def Category.ofItem (item : Json) : Category :=
  match Category.fromJson item with
  | .ok c => c
  | .error _ => {}

theorem isKept_of_mem
    {item : Json}
    (hMem : item ∈ keptItems response) :
    isKept item = .ok true := by
  cases response with
  | arr items => simpa using (List.mem_filter.mp hMem).2
  | _ => exact absurd hMem List.not_mem_nil

/- The kept list is made of the kept items. -/
theorem kept_eq_map
    (hKept : decodeCategories response = .ok kept) :
    kept = (keptItems response).map Category.ofItem ∧
      ∀ item ∈ keptItems response,
        Category.fromJson item = .ok (.ofItem item) := by
  have hEach := forall₂_of_decodeCategories hKept
  clear hKept
  generalize keptItems response = items at hEach
  induction hEach with
  | nil => simp
  | @cons item c _ _ hHead _ ih =>
      have hItem : Category.ofItem item = c := by
        simp only [Category.ofItem, hHead]
      rw [List.forall_mem_cons, List.map_cons, hItem]
      exact ⟨congrArg _ ih.1, hHead, ih.2⟩

/- What the members of a kept item become. -/
theorem members_ofItem
    (hKept : decodeCategories response = .ok kept)
    {item : Json}
    (hMem : item ∈ keptItems response) :
    item.intAt "id" = .ok (Category.ofItem item).id ∧
      item.text "name" = .ok (Category.ofItem item).name ∧
      item.intAt "parent" =
        .ok (Category.ofItem item).parent :=
  members_of_isKept (isKept_of_mem hMem)
    ((kept_eq_map hKept).2 item hMem)

theorem regular_iff
    (hKept : decodeCategories response = .ok kept)
    {item : Json}
    (hMem : item ∈ keptItems response) :
    Regular item ↔ (Category.ofItem item).Regular := by
  rcases members_ofItem hKept hMem with ⟨hId, hName, _⟩
  unfold Regular Category.Regular
  rw [hId, hName]
  simp

theorem allRoots_iff
    (hKept : decodeCategories response = .ok kept) :
    AllRoots response ↔
      ∀ c ∈ kept, c.Regular ∧ c.parent = some 0 := by
  rw [(kept_eq_map hKept).1, List.forall_mem_map]
  apply forall₂_congr
  intro item hMem
  rw [regular_iff hKept hMem,
    (members_ofItem hKept hMem).2.2]
  simp

/- The parent of a kept item is the one of its category. -/
theorem rootParent_iff
    (hKept : decodeCategories response = .ok kept)
    {item : Json}
    (hMem : item ∈ keptItems response) :
    (∃ p,
      (keptItems response).filter
          (fun o => o.intAt "id" = item.intAt "parent") =
        [p] ∧
      p.intAt "parent" = .ok (some 0)) ↔
      RootParent kept (Category.ofItem item) := by
  have hFilter :
      kept.filter
          (fun o => o.id = (Category.ofItem item).parent) =
        ((keptItems response).filter
          fun o => o.intAt "id" = item.intAt "parent").map
            Category.ofItem := by
    rw [(kept_eq_map hKept).1, List.filter_map]
    congr 1
    apply List.filter_congr
    intro o hO
    rw [(members_ofItem hKept hO).1,
      (members_ofItem hKept hMem).2.2]
    simp
  unfold RootParent
  rw [hFilter]
  simp only [List.map_eq_singleton_iff]
  constructor
  · rintro ⟨p, hP, hRoot⟩
    have hIn := List.mem_of_mem_filter
      (hP ▸ List.mem_singleton_self p)
    rw [(members_ofItem hKept hIn).2.2] at hRoot
    exact ⟨_, ⟨p, hP, rfl⟩, by simpa using hRoot⟩
  · rintro ⟨_, ⟨p, hP, rfl⟩, hRoot⟩
    have hIn := List.mem_of_mem_filter
      (hP ▸ List.mem_singleton_self p)
    refine ⟨p, hP, ?_⟩
    rw [(members_ofItem hKept hIn).2.2, hRoot]

theorem twoLevels_iff
    (hKept : decodeCategories response = .ok kept) :
    TwoLevels response ↔
      ∀ c ∈ kept, c.Regular ∧
        (c.parent = some 0 ∨ RootParent kept c) := by
  unfold TwoLevels
  rw [(kept_eq_map hKept).1, List.forall_mem_map,
    ← (kept_eq_map hKept).1]
  apply forall₂_congr
  intro item hMem
  rw [regular_iff hKept hMem, rootParent_iff hKept hMem,
    (members_ofItem hKept hMem).2.2]
  simp

/-
  All kept categories can be opened in each rendering, once,
  exactly if all are roots; and once apart from the parents
  left to their children exactly if all are roots or
  children of one.
-/
theorem reached_iff
    (hKept : decodeCategories response = .ok kept) :
    (ReachedOnce kept ↔ AllRoots response) ∧
      (ReachedThroughParents kept ↔ TwoLevels response) := by
  rw [allRoots_iff hKept, twoLevels_iff hKept]
  exact
    ⟨⟨onlyRoots_of_reachedOnce, reachedOnce_of_onlyRoots⟩,
      ⟨twoLevels_of_reached, reached_of_twoLevels⟩⟩

/- An item of an answer. -/
def exampleItem
    (id : Int)
    (name : String)
    (count parent : Int) : Json :=
  .obj
    [ ("id", .int id),
      ("slug", .str name),
      ("name", .str name),
      ("count", .int count),
      ("parent", .int parent) ]

/- Two roots, and one that is not kept. -/
theorem reached_twoRoots :
    (ReachedOnce
        [ Category.ofItem (exampleItem 5 "news" 10 0),
          Category.ofItem (exampleItem 6 "sport" 3 0) ] ↔
      AllRoots
        (.arr
          [ exampleItem 5 "news" 10 0,
            exampleItem 6 "sport" 3 0,
            exampleItem 1 "uncategorized" 8 0 ])) ∧
    (ReachedThroughParents
        [ Category.ofItem (exampleItem 5 "news" 10 0),
          Category.ofItem (exampleItem 6 "sport" 3 0) ] ↔
      TwoLevels
        (.arr
          [ exampleItem 5 "news" 10 0,
            exampleItem 6 "sport" 3 0,
            exampleItem 1 "uncategorized" 8 0 ])) :=
  reached_iff (by decide +kernel)

/- A category whose parent has no posts is never shown. -/
theorem orphan_is_lost :
    ∃ kept,
      decodeCategories
          (.arr
            [ exampleItem 5 "news" 0 0,
              exampleItem 6 "sport" 3 5 ]) = .ok kept ∧
        kept = [Category.ofItem (exampleItem 6 "sport" 3 5)] ∧
        CardCategories.entries kept = [] ∧
        MenuBar.showCategories kept = .ok [] ∧
        MenuLayout.tabs kept = .ok [] ∧
        ¬ ReachedOnce kept ∧
        ¬ ReachedThroughParents kept := by
  refine ⟨_, by decide +kernel, rfl, by decide +kernel,
    by decide +kernel, by decide +kernel, ?_, ?_⟩
  · intro hReached
    have hRoot := (onlyRoots_of_reachedOnce hReached _
      (List.mem_singleton_self _)).2
    revert hRoot
    decide +kernel
  · intro hReached
    rcases (twoLevels_of_reached hReached _
      (List.mem_singleton_self _)).2 with hRoot | ⟨p, hP, _⟩
    · revert hRoot
      decide +kernel
    · have hLength :=
        (congrArg List.length hP).trans List.length_singleton
      revert hLength
      decide +kernel

end NewsCentral
