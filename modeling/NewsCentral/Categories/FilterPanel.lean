import NewsCentral.Categories.Latest

/-
  The filters of the posts page, a tree of rows over the
  model of the categories: `lib/widgets/backdrop_menu.dart`
  and `lib/widgets/tree_view.dart`.

  The panel shows the roots, and the children of those that
  were unfolded, as of its last frame; loads of the model
  may be answered at any moment.  What Apply can pass to the
  page is exactly the childless roots and the children of
  roots that have a name.

  Key definitions include:
    * `NewsCentral.FilterPanel` and `FilterScreen`
    * `NewsCentral.FilterPanel.rows`
    * `NewsCentral.FilterScreen.program`
    * `NewsCentral.FilterPanel.selectable`

  Key theorems include:
    * `NewsCentral.FilterScreen.Sound.call`
    * `NewsCentral.FilterScreen.applied_selectable`
-/

------------------------------------------------------------
-- The Panel
------------------------------------------------------------

namespace NewsCentral

open Dart EventLoop

/-
  The panel: the list its last frame showed, none while it
  shows no filters, the positions of the unfolded roots, and
  the category picked.
-/
structure FilterPanel where
  built : Option (List Category) := none
  unfolded : List Nat := []
  categoryId : Option Int := some (-1)

namespace FilterPanel

/- A row: a root with its position, or a child of one. -/
inductive Row where
  | root (position : Nat) (item : Category) (hasChild : Bool)
  | sub (item : Category)

def hasChildren
    (categories : List Category)
    (id : Option Int) : Bool :=
  !(getSubCategories categories id).isEmpty

/- A root, and its children while it is unfolded. -/
def rowsOf
    (categories : List Category)
    (unfolded : List Nat)
    (entry : Category × Nat) : List Row :=
  .root entry.2 entry.1
      (hasChildren categories entry.1.id) ::
    if unfolded.contains entry.2 then
      (getSubCategories categories entry.1.id).map .sub
    else
      []

/- The rows of the tree, from top to bottom. -/
def rows
    (categories : List Category)
    (unfolded : List Nat) : List Row :=
  (roots categories).zipIdx.flatMap
    (rowsOf categories unfolded)

/- `ParentState.expand` -/
def expand
    (position : Nat)
    (p : FilterPanel) : FilterPanel :=
  { p with
    unfolded :=
      if p.unfolded.contains position then
        p.unfolded.filter (· != position)
      else
        position :: p.unfolded }

def select
    (id : Option Int)
    (p : FilterPanel) : FilterPanel :=
  { p with categoryId := id }

/-
  A tap on a row.  An item with children has no `onTap` and
  one without a name cannot be built, so that the tap goes
  to the `Parent` around it, which unfolds; a child has
  nothing to unfold.
-/
def tapped
    (row : Row)
    (p : FilterPanel) : FilterPanel :=
  match row with
  | .root position item hasChild =>
      if hasChild || item.name.isNone then
        p.expand position
      else
        p.select item.id
  | .sub item =>
      if item.name.isNone then p else p.select item.id

/- The list a frame shows the filters of. -/
def shownBy (model : CategoryModel) : Option (List Category) :=
  match BackdropMenu.build model, model.categories with
  | .filters _, some categories => some categories
  | _, _ => none

/-
  A frame.  A row keeps its state by its position; without
  filters the whole tree is gone.
-/
def framed
    (model : CategoryModel)
    (p : FilterPanel) : FilterPanel :=
  match shownBy model with
  | none => { p with built := none, unfolded := [] }
  | some categories =>
      { p with
        built := some categories
        unfolded :=
          p.unfolded.filter
            (· < (roots categories).length) }

/- The rows that pick a category. -/
def selectable
    (categories : List Category) : List Category :=
  (MenuLayout.getAllCategory categories).filter
    fun item => item.name.isSome

end FilterPanel

/-
  The panel over the model.  The last field is a history:
  the categories that `onFilter` was called with.
-/
structure FilterScreen where
  model : CategoryModel := {}
  panel : FilterPanel := {}
  applied : List (Option Int) := []

namespace FilterScreen

/-
  Anything may load categories, and opening the page does.
  A tap goes to the row at its position, Apply to the page.
-/
inductive Op where
  | getCategories (lang : Option String)
  | openPage
  | frame
  | tap (n : Nat)
  | apply
deriving DecidableEq

/- Issue a load of the model. -/
def load
    (lang : Option String)
    (s : FilterScreen) :
    Option (FilterScreen × List CategoryModel.Point) :=
  (CategoryModel.call (.getCategories lang) s.model).map
    fun r => ({ s with model := r.1 }, r.2)

def call
    (op : Op)
    (s : FilterScreen) :
    Option (FilterScreen × List CategoryModel.Point) :=
  match op with
  | .getCategories lang => load lang s
  | .openPage =>
      -- `afterFirstLayout` comes after the first frame
      load none
        { s with panel := ({} : FilterPanel).framed s.model }
  | .frame =>
      some ({ s with panel := s.panel.framed s.model }, [])
  | .tap n =>
      match s.panel.built with
      | none => none
      | some categories =>
          (FilterPanel.rows categories s.panel.unfolded)[n]?.map
            fun row =>
              ({ s with panel := s.panel.tapped row }, [])
  | .apply =>
      if s.panel.built.isSome then
        some
          ({ s with
              applied := s.applied ++ [s.panel.categoryId] },
            [])
      else
        none

def resume
    (point : CategoryModel.Point)
    (answer : Except Thrown Json)
    (s : FilterScreen) :
    FilterScreen × List CategoryModel.Point :=
  let turn := CategoryModel.resume point answer s.model
  ({ s with model := turn.1 }, turn.2)

/- Panel and model on the event loop. -/
def program :
    Program FilterScreen Op CategoryModel.Point
      (Except Thrown Json) where
  call := call
  resume := resume
  queued := fun _ => false

/- Before the first load and the first page. -/
def created : Pool FilterScreen CategoryModel.Point :=
  ⟨{}, []⟩

end FilterScreen

end NewsCentral

------------------------------------------------------------
-- Rows
------------------------------------------------------------

namespace NewsCentral

namespace FilterPanel

variable {categories : List Category}
variable {unfolded : List Nat}

/- A row of a root knows whether the root has children. -/
theorem mem_rows_root
    {position : Nat}
    {item : Category}
    {hasChild : Bool}
    (hMem : .root position item hasChild ∈
      rows categories unfolded) :
    item ∈ roots categories ∧
      hasChild = hasChildren categories item.id := by
  rcases List.mem_flatMap.mp hMem with ⟨entry, hRoot, hRow⟩
  rcases List.mem_cons.mp hRow with hEq | hSub
  · cases hEq
    exact ⟨List.fst_mem_of_mem_zipIdx hRoot, rfl⟩
  · split at hSub
    · simp at hSub
    · cases hSub

/- A row of a child is below a root. -/
theorem mem_rows_sub
    {item : Category}
    (hMem : .sub item ∈ rows categories unfolded) :
    ∃ root ∈ roots categories,
      item ∈ getSubCategories categories root.id := by
  rcases List.mem_flatMap.mp hMem with ⟨entry, hRoot, hRow⟩
  rcases List.mem_cons.mp hRow with hEq | hSub
  · cases hEq
  · split at hSub
    · rcases List.mem_map.mp hSub with ⟨child, hChild, hEq⟩
      cases hEq
      exact ⟨entry.1, List.fst_mem_of_mem_zipIdx hRoot,
        hChild⟩
    · cases hSub

/- What can be picked, said by the roots. -/
theorem mem_selectable_iff
    {item : Category} :
    item ∈ selectable categories ↔
      item.name.isSome = true ∧
        ∃ root ∈ roots categories,
          (hasChildren categories root.id = false ∧
              item = root) ∨
            item ∈ getSubCategories categories root.id := by
  rw [selectable, List.mem_filter, and_comm]
  refine and_congr Iff.rfl ?_
  rw [MenuLayout.getAllCategory, List.mem_flatMap]
  refine exists_congr fun root => and_congr Iff.rfl ?_
  simp only [hasChildren, Bool.not_eq_false']
  cases hChildren : getSubCategories categories root.id with
  | nil => simp
  | cons child rest => simp

/- A tap picks nothing else. -/
theorem tapped_categoryId
    {row : Row}
    (hRow : row ∈ rows categories unfolded)
    (p : FilterPanel) :
    (p.tapped row).categoryId = p.categoryId ∨
      ∃ item ∈ selectable categories,
        (p.tapped row).categoryId = item.id := by
  cases row with
  | root position item hasChild =>
      rcases mem_rows_root hRow with ⟨hRoot, hSame⟩
      simp only [tapped]
      split
      · exact .inl rfl
      · rename_i hLeaf
        rw [Bool.or_eq_true, not_or] at hLeaf
        refine .inr ⟨item, mem_selectable_iff.mpr ⟨?_, item,
          hRoot, .inl ⟨?_, rfl⟩⟩, rfl⟩
        · simpa [Option.isSome_iff_ne_none] using hLeaf.2
        · simpa [hSame] using hLeaf.1
  | sub item =>
      simp only [tapped]
      split
      · exact .inl rfl
      · rename_i hNamed
        rcases mem_rows_sub hRow with ⟨root, hRoot, hChild⟩
        refine .inr ⟨item, mem_selectable_iff.mpr ⟨?_, root,
          hRoot, .inr hChild⟩, rfl⟩
        simpa [Option.isSome_iff_ne_none] using hNamed

/- Every root has a row, folded or not. -/
theorem exists_position
    {root : Category}
    (hRoot : root ∈ roots categories) :
    ∃ position, ∀ unfolded,
      .root position root (hasChildren categories root.id) ∈
          rows categories unfolded ∧
        (unfolded.contains position = true →
          ∀ item ∈ getSubCategories categories root.id,
            .sub item ∈ rows categories unfolded) := by
  rcases List.mem_iff_getElem?.mp hRoot with ⟨n, hAt⟩
  have hEntry : (root, n) ∈ (roots categories).zipIdx :=
    List.mem_zipIdx_iff_getElem?.mpr hAt
  refine ⟨n, fun unfolded => ⟨?_, ?_⟩⟩
  · exact List.mem_flatMap.mpr
      ⟨(root, n), hEntry, List.mem_cons_self⟩
  · intro hUnfolded item hChild
    refine List.mem_flatMap.mpr ⟨(root, n), hEntry, ?_⟩
    rw [rowsOf, if_pos hUnfolded]
    exact List.mem_cons_of_mem _
      (List.mem_map.mpr ⟨item, hChild, rfl⟩)

end FilterPanel

end NewsCentral

------------------------------------------------------------
-- What Is Applied
------------------------------------------------------------

namespace NewsCentral

open Dart EventLoop

namespace FilterScreen

/-
  Nothing was picked yet, or a row that picks a category of
  an answered list.
-/
def Offered
    (answered : List Load)
    (id : Option Int) : Prop :=
  id = some (-1) ∨
    ∃ categories,
      .ok categories ∈ answered ∧
        ∃ item ∈ FilterPanel.selectable categories,
          id = item.id

/- All lists about were answered, all picks offered. -/
structure Sound (s : FilterScreen) : Prop where
  loaded :
    ∀ categories ∈ s.model.categories,
      .ok categories ∈ s.model.answered
  built :
    ∀ categories ∈ s.panel.built,
      .ok categories ∈ s.model.answered
  picked : Offered s.model.answered s.panel.categoryId
  applied : ∀ id ∈ s.applied, Offered s.model.answered id

theorem Offered.grow
    {answered : List Load}
    {id : Option Int}
    (hOffered : Offered answered id)
    (load : Load) :
    Offered (answered ++ [load]) id := by
  rcases hOffered with hNone | ⟨list, hMem, hItem⟩
  · exact .inl hNone
  · exact .inr ⟨list, List.mem_append_left _ hMem, hItem⟩

/- A frame shows the list of the model, or nothing. -/
theorem framed_built
    (model : CategoryModel)
    (p : FilterPanel) :
    ∀ categories ∈ (p.framed model).built,
      categories ∈ model.categories := by
  intro categories hMem
  unfold FilterPanel.framed at hMem
  cases hShown : FilterPanel.shownBy model with
  | none =>
      rw [hShown] at hMem
      cases hMem
  | some shown =>
      rw [hShown] at hMem
      cases hMem
      unfold FilterPanel.shownBy at hShown
      split at hShown
      · rename_i hCategories
        cases hShown
        exact hCategories
      · cases hShown

@[simp] theorem framed_categoryId
    (model : CategoryModel)
    (p : FilterPanel) :
    (p.framed model).categoryId = p.categoryId := by
  unfold FilterPanel.framed
  split <;> rfl

/- Whatever is tapped. -/
theorem Sound.call
    {op : Op}
    {s t : FilterScreen}
    {next : List CategoryModel.Point}
    (hSound : Sound s)
    (hCall : FilterScreen.call op s = some (t, next)) :
    Sound t := by
  cases op with
  | getCategories lang =>
      cases hCall
      exact ⟨hSound.loaded, hSound.built, hSound.picked,
        hSound.applied⟩
  | openPage =>
      cases hCall
      refine ⟨hSound.loaded, ?_, ?_, hSound.applied⟩
      · intro categories hMem
        exact hSound.loaded categories
          (framed_built s.model {} categories hMem)
      · exact .inl (framed_categoryId s.model {})
  | frame =>
      cases hCall
      refine ⟨hSound.loaded, ?_, ?_, hSound.applied⟩
      · intro categories hMem
        exact hSound.loaded categories
          (framed_built s.model s.panel categories hMem)
      · simpa using hSound.picked
  | tap n =>
      simp only [FilterScreen.call] at hCall
      split at hCall
      · cases hCall
      · rename_i categories hBuilt
        rcases Option.map_eq_some_iff.mp hCall with
          ⟨row, hRow, hTurn⟩
        cases hTurn
        have hAnswered := hSound.built categories hBuilt
        have hSame :
            (s.panel.tapped row).built = s.panel.built := by
          unfold FilterPanel.tapped
          repeat' split
          all_goals rfl
        refine ⟨hSound.loaded, ?_, ?_, hSound.applied⟩
        · rw [hSame]
          exact hSound.built
        · rcases FilterPanel.tapped_categoryId
            (List.mem_of_getElem? hRow) s.panel with
            hKept | ⟨item, hItem, hPicked⟩
          · rw [hKept]
            exact hSound.picked
          · exact .inr
              ⟨categories, hAnswered, item, hItem, hPicked⟩
  | apply =>
      rcases Option.ite_none_right_eq_some.mp hCall with
        ⟨_, hTurn⟩
      cases hTurn
      refine ⟨hSound.loaded, hSound.built, hSound.picked, ?_⟩
      intro id hMem
      rcases List.mem_append.mp hMem with hOld | hNew
      · exact hSound.applied id hOld
      · rw [List.mem_singleton.mp hNew]
        exact hSound.picked

/- An answer is noted, and shown if it is a list. -/
theorem resume_model
    (point : CategoryModel.Point)
    (answer : Except Thrown Json)
    (s : FilterScreen) :
    ∃ load : Load,
      (resume point answer s).1.model.answered =
          s.model.answered ++ [load] ∧
        ∀ categories ∈
            (resume point answer s).1.model.categories,
          load = .ok categories ∨
            categories ∈ s.model.categories := by
  refine ⟨answer >>= WordPress.decodeCategories, ?_, ?_⟩
  · cases hLoad : answer >>= WordPress.decodeCategories <;>
      simp [resume, CategoryModel.resume, hLoad,
        CategoryModel.got, CategoryModel.record]
  · intro categories hMem
    cases hLoad : answer >>= WordPress.decodeCategories with
    | ok list =>
        left
        simpa [resume, CategoryModel.resume, hLoad,
          CategoryModel.got, CategoryModel.record] using hMem
    | error e =>
        right
        simpa [resume, CategoryModel.resume, hLoad,
          CategoryModel.got, CategoryModel.record] using hMem

/- Whatever is answered. -/
theorem Sound.resume
    {s : FilterScreen}
    (hSound : Sound s)
    (point : CategoryModel.Point)
    (answer : Except Thrown Json) :
    Sound (FilterScreen.resume point answer s).1 := by
  rcases resume_model point answer s with
    ⟨load, hAnswered, hCategories⟩
  refine ⟨?_, ?_, ?_, ?_⟩ <;> rw [hAnswered]
  · intro categories hMem
    rcases hCategories categories hMem with hHere | hBefore
    · rw [hHere]
      simp
    · exact List.mem_append_left _
        (hSound.loaded categories hBefore)
  · intro categories hMem
    exact List.mem_append_left _
      (hSound.built categories hMem)
  · exact hSound.picked.grow load
  · intro id hMem
    exact (hSound.applied id hMem).grow load

/- A row that is shown can be tapped. -/
theorem exists_tap
    {s : FilterScreen}
    {categories : List Category}
    {row : FilterPanel.Row}
    (hBuilt : s.panel.built = some categories)
    (hRow :
      row ∈ FilterPanel.rows categories s.panel.unfolded) :
    ∃ n,
      call (.tap n) s =
        some ({ s with panel := s.panel.tapped row }, []) := by
  rcases List.mem_iff_getElem?.mp hRow with ⟨n, hAt⟩
  exact ⟨n, by simp [call, hBuilt, hAt]⟩

/- A turn of the loop that issues nothing. -/
theorem run_call
    {s t : FilterScreen}
    {pending : List CategoryModel.Point}
    {op : Op}
    (hCall : call op s = some (t, [])) :
    program.system.Run System.anyStep ⟨s, pending⟩
      [.call op] ⟨t, pending⟩ :=
  System.Run.single trivial
    (Program.step_call_iff.mpr
      ⟨t, [], hCall, by rw [List.append_nil]⟩)

/- A tap on a row or on Apply. -/
def IsTap (f : Event Op (Except Thrown Json)) : Prop :=
  (∃ n, f = .call (.tap n)) ∨ f = .call .apply

/- Picked and applied in two taps. -/
theorem run_pick
    {s : FilterScreen}
    {pending : List CategoryModel.Point}
    {categories : List Category}
    {row : FilterPanel.Row}
    {item : Category}
    (hBuilt : s.panel.built = some categories)
    (hRow :
      row ∈ FilterPanel.rows categories s.panel.unfolded)
    (hPicks : s.panel.tapped row = s.panel.select item.id) :
    ∃ n t,
      program.system.Run System.anyStep ⟨s, pending⟩
          [.call (.tap n), .call .apply] ⟨t, pending⟩ ∧
        t.applied = s.applied ++ [item.id] := by
  rcases exists_tap hBuilt hRow with ⟨n, hTap⟩
  rw [hPicks] at hTap
  have hApply :
      call .apply { s with panel := s.panel.select item.id } =
        some
          ({ s with
              panel := s.panel.select item.id
              applied := s.applied ++ [item.id] }, []) := by
    simp [call, FilterPanel.select, hBuilt]
  exact ⟨n, _, (run_call hTap).trans (run_call hApply), rfl⟩

/- Every selectable category can be applied from the rows. -/
theorem exists_applied
    {s : FilterScreen}
    (pending : List CategoryModel.Point)
    {categories : List Category}
    {item : Category}
    (hBuilt : s.panel.built = some categories)
    (hItem : item ∈ FilterPanel.selectable categories) :
    ∃ es t,
      program.system.Run System.anyStep ⟨s, pending⟩ es
          ⟨t, pending⟩ ∧
        (∀ f ∈ es, IsTap f) ∧
        es.length ≤ 3 ∧
        t.applied = s.applied ++ [item.id] := by
  rcases FilterPanel.mem_selectable_iff.mp hItem with
    ⟨hNamed, root, hRoot, hCase⟩
  have hHasName : item.name.isNone = false := by
    simpa using hNamed
  rcases FilterPanel.exists_position hRoot with
    ⟨position, hRows⟩
  rcases hCase with ⟨hLeaf, rfl⟩ | hChild
  · have hPicks :
        s.panel.tapped
            (.root position item
              (FilterPanel.hasChildren categories item.id)) =
          s.panel.select item.id := by
      simp [FilterPanel.tapped, hLeaf, hHasName]
    rcases run_pick hBuilt (hRows s.panel.unfolded).1
      hPicks with ⟨n, t, hRun, hApplied⟩
    exact ⟨_, t, hRun, by simp [IsTap], by simp, hApplied⟩
  have hPicks (p : FilterPanel) :
      p.tapped (.sub item) = p.select item.id := by
    simp [FilterPanel.tapped, hHasName]
  by_cases hOpen : s.panel.unfolded.contains position = true
  · rcases run_pick hBuilt
      ((hRows s.panel.unfolded).2 hOpen item hChild)
      (hPicks s.panel) with ⟨n, t, hRun, hApplied⟩
    exact ⟨_, t, hRun, by simp [IsTap], by simp, hApplied⟩
  · -- the root is unfolded first
    have hParent :
        FilterPanel.hasChildren categories root.id = true := by
      simp [FilterPanel.hasChildren,
        List.ne_nil_of_mem hChild]
    have hUnfolds :
        s.panel.tapped
            (.root position root
              (FilterPanel.hasChildren categories root.id)) =
          { s.panel with
            unfolded := position :: s.panel.unfolded } := by
      simp only [FilterPanel.tapped, hParent, Bool.true_or,
        if_true, FilterPanel.expand, if_neg hOpen]
    rcases exists_tap hBuilt (hRows s.panel.unfolded).1 with
      ⟨m, hTap⟩
    rw [hUnfolds] at hTap
    rcases run_pick
      (s :=
        { s with
          panel :=
            { s.panel with
              unfolded := position :: s.panel.unfolded } })
      hBuilt
      ((hRows (position :: s.panel.unfolded)).2
        (by simp) item hChild)
      (hPicks _) with ⟨n, t, hRun, hApplied⟩
    exact ⟨_, t, (run_call hTap).trans hRun,
      by simp [IsTap], by simp, hApplied⟩

/-
  In every run, with the loads answered at any moment, the
  page was only told to filter by what the panel offered,
  and each category offered now can be applied in at most
  three taps.
-/
theorem applied_selectable
    {es : List (Event Op (Except Thrown Json))}
    {p : Pool FilterScreen CategoryModel.Point}
    (hRun : program.system.Run System.anyStep created es p) :
    (∀ id ∈ p.shared.applied,
        Offered p.shared.model.answered id) ∧
      ∀ categories ∈ p.shared.panel.built,
        ∀ item ∈ FilterPanel.selectable categories,
          ∃ fs q,
            program.system.Run System.anyStep p fs q ∧
              (∀ f ∈ fs, IsTap f) ∧
              fs.length ≤ 3 ∧
              q.shared.applied =
                p.shared.applied ++ [item.id] := by
  have hSound : Sound p.shared := by
    refine Program.run_invariant
      (I := fun _ s _ => Sound s)
      (Program.run_when_true hRun) ?_ ?_ ?_
    · exact ⟨by simp [created], by simp [created], .inl rfl,
        by simp [created]⟩
    · intro _ s _ op t next hSound _ hCall
      exact hSound.call hCall
    · intro _ s _ point _ answer hSound _ _
      exact hSound.resume point answer
  refine ⟨hSound.applied, ?_⟩
  intro categories hBuilt item hItem
  rcases exists_applied p.pending hBuilt hItem with
    ⟨fs, t, hRun, hTaps, hShort, hApplied⟩
  exact ⟨fs, ⟨t, p.pending⟩, hRun, hTaps, hShort, hApplied⟩

/- A country below the world, which has another one. -/
def worldAnswer : Except Thrown Json :=
  .ok
    (.arr
      [ exampleItem 6 "world" 3 0,
        exampleItem 7 "ghana" 2 6,
        exampleItem 8 "sport" 1 0 ])

/- The world is unfolded, and Ghana applied. -/
theorem applied_ghana :
    ∃ p,
      program.system.Run System.anyStep created
          [ .call .openPage, .resume 0 worldAnswer,
            .call .frame, .call (.tap 0), .call (.tap 1),
            .call .apply ] p ∧
        p.shared.applied = [some 7] ∧
        Offered p.shared.model.answered (some 7) := by
  have hRun :
      ∃ p,
        program.system.Run System.anyStep created
            [ .call .openPage, .resume 0 worldAnswer,
              .call .frame, .call (.tap 0), .call (.tap 1),
              .call .apply ] p ∧
          p.shared.applied = [some 7] :=
    ⟨_, System.run_of_exec rfl, by decide +kernel⟩
  rcases hRun with ⟨p, hRun, hApplied⟩
  refine ⟨p, hRun, hApplied, ?_⟩
  exact (applied_selectable hRun).1 (some 7)
    (by rw [hApplied]; simp)

end FilterScreen

end NewsCentral
