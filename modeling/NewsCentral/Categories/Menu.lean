import NewsCentral.Categories.Latest
import NewsCentral.Dart.Members

/-
  The menus of `lib/screens/categories/`: the side menu and
  the sub categories, as `CategoriesScreen` shows them.

  A menu keeps the index of its selected category over all
  its builds, while the list it indexes is made anew from
  the model each time.

  Key definitions include:
    * `NewsCentral.CategoriesScreen` and its `system`
    * `NewsCentral.CategoriesScreen.filtered`
    * `NewsCentral.CategoriesScreen.Selected`
    * `NewsCentral.CategoriesScreen.Covers`

  Key theorems include:
    * `NewsCentral.Menu.exists_requested_iff`
    * `NewsCentral.CategoriesScreen.selected_step_iff`
    * `NewsCentral.CategoriesScreen.selected_iff`
-/

------------------------------------------------------------
-- Menus
------------------------------------------------------------

namespace NewsCentral

open Dart EventLoop

/-
  `SideMenuCategories` or `SubCategories` with its state;
  both have the same list, the same index and the same
  handlers.
-/
structure Menu where
  categories : List Category
  selectedIndex : Nat := 0
deriving DecidableEq

namespace Menu

/- `onTap` of an entry. -/
def onTap (index : Nat) (menu : Menu) : Menu :=
  { menu with selectedIndex := index }

/- The category whose posts a build requests. -/
def requested (menu : Menu) : Except Thrown (Option Int) := do
  return (← elementAt menu.categories menu.selectedIndex).id

/- The index is in the list, or the build throws. -/
theorem exists_requested_iff
    (menu : Menu) :
    (∃ id, menu.requested = .ok id) ↔
      menu.selectedIndex < menu.categories.length :=
  exists_bind_pure_iff.trans exists_elementAt_iff

end Menu

/-
  The screen with the model; `menu` is the menu it showed
  when it was built last, if it showed one.
-/
structure CategoriesScreen where
  model : CategoryModel := {}
  menu : Option Menu := none

namespace CategoriesScreen

/-
  The categories of the configured ids, in the order of the
  configuration, or all of them.
-/
def filtered
    (ids : Option (List Json))
    (categories : List Category) : List Category :=
  match ids with
  | none => categories
  | some ids =>
      ids.filterMap fun cat =>
        categories.find? fun element =>
          .str (Json.ofInt? element.id).toText = cat

/- The list a build passes to its menu, if it shows one. -/
def listed
    (ids : Option (List Json))
    (model : CategoryModel) : Option (List Category) :=
  if model.isLoading then
    none
  else
    model.categories.map (filtered ids)

/- The index that a build finds selected. -/
def selectedIndex (s : CategoriesScreen) : Nat :=
  match s.menu with
  | none => 0
  | some menu => menu.selectedIndex

/- The model is answered, the screen built, an entry tapped. -/
inductive Step where
  | got (load : Load)
  | build
  | onTap (index : Nat)

/- A menu keeps its state while the screen shows one. -/
def step
    (ids : Option (List Json))
    (s : CategoriesScreen) :
    Step → Option CategoriesScreen
  | .got load => some { s with model := s.model.got load }
  | .build =>
      some
        { s with
          menu :=
            (listed ids s.model).map fun categories =>
              ⟨categories, s.selectedIndex⟩ }
  | .onTap index =>
      match s.menu with
      | none => none
      | some menu =>
          if index < menu.categories.length then
            some { s with menu := some (menu.onTap index) }
          else
            none

/- The screen with some configured ids. -/
def system
    (ids : Option (List Json)) :
    System CategoriesScreen Step where
  step := step ids

/- The menu on the screen has its selected category. -/
def Selected (s : CategoriesScreen) : Prop :=
  ∀ menu ∈ s.menu,
    menu.selectedIndex < menu.categories.length

/-
  When the screen is built, the categories that are left of
  the model's list reach behind the index tapped last.
-/
def Covers
    (ids : Option (List Json))
    (s : CategoriesScreen) : Step → Prop
  | .build =>
      ∀ categories ∈ listed ids s.model,
        s.selectedIndex < categories.length
  | _ => True

instance
    (ids : Option (List Json))
    (s : CategoriesScreen)
    (e : Step) :
    Decidable (Covers ids s e) := by
  cases e <;> unfold Covers <;> infer_instance

end CategoriesScreen

end NewsCentral

------------------------------------------------------------
-- When The Selected Category Is There
------------------------------------------------------------

namespace NewsCentral

open Dart EventLoop

namespace CategoriesScreen

variable {ids : Option (List Json)}
variable {s t : CategoriesScreen} {e : Step}

/- Only a build can lose the selected category. -/
theorem selected_step_iff
    (hSelected : Selected s)
    (hNext : step ids s e = some t) :
    Selected t ↔ Covers ids s e := by
  cases e with
  | got load =>
      cases hNext
      exact iff_of_true hSelected trivial
  | build =>
      cases hNext
      simp only [Selected, Covers, Option.mem_def,
        Option.map_eq_some_iff]
      constructor
      · intro hAll categories hListed
        exact hAll _ ⟨categories, hListed, rfl⟩
      · rintro hAll _ ⟨categories, hListed, rfl⟩
        exact hAll categories hListed
  | onTap index =>
      refine iff_of_true ?_ trivial
      simp only [step] at hNext
      split at hNext
      · cases hNext
      next menu hMenu =>
        split at hNext
        next hLt =>
          cases hNext
          intro other hOther
          cases hOther
          exact hLt
        next => cases hNext

/-
  In every run from a fresh screen all builds find their
  category exactly if each covers the index tapped last.
-/
theorem selected_iff
    {steps : List Step}
    (hRun : (system ids).Run System.anyStep {} steps t) :
    (system ids).Always (fun _ u => Selected u) {} steps ↔
      (system ids).Run (Covers ids) {} steps t := by
  refine System.always_iff_run (I := Selected) ?_ ?_ ?_ ?_
    hRun
  · intro menu hNone
    cases hNone
  · intro u e v hSelected hOk hNext
    exact (selected_step_iff hSelected hNext).mpr hOk
  · intro u hSelected
    exact hSelected
  · intro u e v hSelected hBroken hNext hKept
    exact hBroken ((selected_step_iff hSelected hNext).mp hKept)

/- Two of three categories are configured, then all come. -/
theorem selected_second_of_two :
    (system (some [.str "2", .str "1"])).Always
      (fun _ u => Selected u) {}
      [ .got (.ok
          [{ id := some 1 }, { id := some 2 },
            { id := some 3 }]),
        .build, .onTap 1,
        .got (.ok [{ id := some 2 }, { id := some 1 }]),
        .build ] := by
  have hRun :
      (system (some [.str "2", .str "1"])).Run
        (Covers (some [.str "2", .str "1"])) {}
        [ .got (.ok
            [{ id := some 1 }, { id := some 2 },
              { id := some 3 }]),
          .build, .onTap 1,
          .got (.ok [{ id := some 2 }, { id := some 1 }]),
          .build ] _ :=
    System.run_iff_exec.mpr ⟨by decide, rfl⟩
  exact (selected_iff hRun.any).mpr hRun

/-
  The second of two categories is tapped, then a list with
  the first alone comes.
-/
theorem selected_is_gone :
    ∃ s menu,
      (system none).Run System.anyStep {}
          [ .got (.ok [{ id := some 1 }, { id := some 2 }]),
            .build, .onTap 1, .got (.ok [{ id := some 1 }]),
            .build ] s ∧
        s.menu = some menu ∧
        menu.requested =
          .error (.error "RangeError" "1") ∧
        ¬ Selected s := by
  refine ⟨_, _, System.run_of_exec rfl, rfl, rfl, ?_⟩
  intro hSelected
  exact absurd (hSelected _ rfl) (by decide)

end CategoriesScreen

end NewsCentral
