import NewsCentral.EventLoop.System
import NewsCentral.Models.Decoded

/-
  The tabs of the main screen: `lib/tabbar.dart`.

  A screen makes its tab controller and its pages once, from
  the configuration of that moment; the bar below them
  follows the current one.  The index is kept by a delegate
  that all screens share.  `changeTab` looks names up in a
  map that nothing writes.

  Key definitions include:
    * `NewsCentral.MainTabs.tabView`
    * `NewsCentral.MainTabs` and its `system`
    * `NewsCentral.MainTabs.OnTarget`
    * `NewsCentral.MainTabs.Fits`

  Key theorems include:
    * `NewsCentral.MainTabs.exists_tabView_iff`
    * `NewsCentral.MainTabs.onTarget_step_iff`
    * `NewsCentral.MainTabs.onTarget_iff`
-/

------------------------------------------------------------
-- The Pages Of The Tabs
------------------------------------------------------------

namespace NewsCentral

open Dart

/- The widget of a tab, with what it gets of its entry. -/
inductive TabPage where
  | categories (layout : Option String) (ids images : Json)
  | search
  | profile
  | live
  | blog (config : Json)
  | wishlist
  | page (title url : Option String)
  | html (data : Option String)
  | static (data : Json)
  | post (pageId : Option Int) (pageTitle : Option String)
  | home
deriving DecidableEq

namespace MainTabs

def tabView (data : Json) : Except Thrown TabPage := do
  match ← data.index "layout" with
  | .str "category" =>
      let layout ← data.text "categoryLayout"
      let categories ← (← data.index "categories").asList
      let images ← (← data.index "images").asList
      return .categories layout categories images
  | .str "search" => return .search
  | .str "profile" => return .profile
  | .str "live" => return .live
  | .str "blog" => return .blog data
  | .str "wishlist" => return .wishlist
  | .str "page" =>
      let title ← data.text "title"
      let url ← data.text "url"
      return .page title url
  | .str "html" => return .html (← data.text "data")
  | .str "static" => return .static (← data.mapAt "data")
  | .str "postScreen" =>
      let pageId ← data.intAt "pageId"
      let pageTitle ← data.text "pageTitle"
      return .post pageId pageTitle
  | _ => return .home

/- `Map.from(data)` -/
def mapFrom : Json → Except Thrown Json
  | .obj fields => .ok (.obj fields)
  | .null => .error (.noSuchMethod "forEach")
  | _ => .error (.typeError "Map")

/- The loop that adds to `_tabView`; an error ends it. -/
def addTabs
    (views : List TabPage) : List Json → List TabPage
  | [] => views
  | tab :: tabs =>
      match mapFrom tab >>= tabView with
      | .error _ => views
      | .ok view => addTabs (views ++ [view]) tabs

end MainTabs

end NewsCentral

------------------------------------------------------------
-- Screens And The Shared Index
------------------------------------------------------------

namespace NewsCentral

open Dart EventLoop

/- The members of Flutter's controller that count here. -/
structure TabController where
  length : Nat
  index : Nat := 0
deriving DecidableEq

/- Nothing happens with less than two tabs. -/
def TabController.animateTo
    (c : TabController)
    (i : Nat) : TabController :=
  if i = c.index ∨ c.length < 2 then c else { c with index := i }

structure MainTabsState where
  tabController : TabController
  tabView : List TabPage
  saveIndexTab : List (String × Nat) := []
  mounted : Bool := true
deriving DecidableEq

namespace MainTabsState

def animateTo
    (s : MainTabsState)
    (i : Nat) : MainTabsState :=
  { s with tabController := s.tabController.animateTo i }

/- There is a bar to tap on. -/
def hasTabBar (s : MainTabsState) : Bool :=
  s.mounted && !s.tabView.isEmpty

/- `saveIndexTab[nameTab] ?? 0` -/
def savedIndex
    (s : MainTabsState)
    (nameTab : String) : Nat :=
  (s.saveIndexTab.lookup nameTab).getD 0

def changeTab
    (s : MainTabsState)
    (nameTab : String) : MainTabsState :=
  s.animateTo (s.savedIndex nameTab)

end MainTabsState

/-
  The index of the delegate, the tabs of the current
  configuration and all screens that were made.  The calls
  of `animateTo` in `loadTabBar` are remembered, each with
  the number of tabs at that time.
-/
structure MainTabs where
  index : Option Nat := none
  tabBar : List Json := []
  screens : List MainTabsState := []
  animated : List (Nat × Nat) := []
deriving DecidableEq

namespace MainTabs

/-
  What is done after the first layout of a new screen; its
  controller has no listener yet when it is animated.
-/
def loadTabBar (s : MainTabs) : MainTabs :=
  let tabController : TabController := ⟨s.tabBar.length, 0⟩
  let tabView := addTabs [] s.tabBar
  match s.index with
  | some i =>
      let moved := tabController.animateTo i
      { s with
        screens := s.screens ++ [⟨moved, tabView, [], true⟩]
        animated := s.animated ++ [(i, s.tabBar.length)] }
  | none =>
      { s with
        index := some 0
        screens :=
          s.screens ++ [⟨tabController, tabView, [], true⟩] }

/- A controller that moves tells its listener. -/
def animate
    (s : MainTabs)
    (j i : Nat)
    (screen : MainTabsState) : MainTabs :=
  let moved := screen.animateTo i
  { s with
    index :=
      if moved.tabController = screen.tabController then
        s.index
      else
        some moved.tabController.index
    screens := s.screens.set j moved }

/-
  A configuration is loaded; a screen is made or disposed
  of; one of its tabs is tapped; the closures of the
  delegate are called; an animation ends, maybe that of a
  screen that is gone.
-/
inductive Op where
  | reloaded (tabBar : List Json)
  | created
  | disposed (j : Nat)
  | onTap (j i : Nat)
  | changeTab (j : Nat) (nameTab : String)
  | tabAnimateTo (j i : Nat)
  | settled (j : Nat)

/- What is done on one of the screens. -/
def onScreen
    (s : MainTabs)
    (j : Nat)
    (act : MainTabsState → Option MainTabs) :
    Option MainTabs :=
  s.screens[j]?.bind act

/- The bar has a tab for each one that is configured. -/
def step (s : MainTabs) : Op → Option MainTabs
  | .reloaded tabBar =>
      if tabBar = [] then none else some { s with tabBar }
  | .created =>
      if s.tabBar = [] then none else some s.loadTabBar
  | .disposed j =>
      s.onScreen j fun screen =>
        if screen.mounted then
          some
            { s with
              screens :=
                s.screens.set j { screen with mounted := false } }
        else
          none
  | .onTap j i =>
      s.onScreen j fun screen =>
        if screen.hasTabBar && i < s.tabBar.length then
          some (s.animate j i screen)
        else
          none
  | .changeTab j nameTab =>
      s.onScreen j fun screen =>
        some (s.animate j (screen.savedIndex nameTab) screen)
  | .tabAnimateTo j i =>
      s.onScreen j fun screen => some (s.animate j i screen)
  | .settled j =>
      s.onScreen j fun screen =>
        some { s with index := some screen.tabController.index }

def system : System MainTabs Op where
  step := step

end MainTabs

end NewsCentral

------------------------------------------------------------
-- The Property And Its Condition
------------------------------------------------------------

namespace NewsCentral

open Dart EventLoop

namespace MainTabs

def isNullableList : Json → Bool
  | .null => true
  | .arr _ => true
  | _ => false

def isNullableMap : Json → Bool
  | .null => true
  | .obj _ => true
  | _ => false

/- The members that a layout takes, and what they may be. -/
def taken : Json → List (String × (Json → Bool))
  | .str "category" =>
      [ ("categoryLayout", Json.isNullableText),
        ("categories", isNullableList),
        ("images", isNullableList) ]
  | .str "page" =>
      [ ("title", Json.isNullableText),
        ("url", Json.isNullableText) ]
  | .str "html" => [("data", Json.isNullableText)]
  | .str "static" => [("data", isNullableMap)]
  | .str "postScreen" =>
      [ ("pageId", BlogNews.isNullableInt),
        ("pageTitle", Json.isNullableText) ]
  | _ => []

/- A map, with members of the types its layout asks for. -/
def Buildable (tab : Json) : Prop :=
  tab.isMap = true ∧
    ∀ member ∈ taken (tab.member "layout"),
      member.2 (tab.member member.1) = true

instance
    (tab : Json) :
    Decidable (Buildable tab) := by
  unfold Buildable
  infer_instance

variable (nameOf : Json → Option String)

/- There is a tab of that name at the index. -/
def NamedAt
    (tabBar : List Json)
    (i : Nat)
    (nameTab : String) : Prop :=
  ∃ tab ∈ tabBar[i]?, nameOf tab = some nameTab

/-
  `loadTabBar` animated to tabs that were there; each screen
  has a page for each tab, and asked for the name of a tab,
  it goes to a tab of that name.
-/
structure OnTarget (s : MainTabs) : Prop where
  animated : ∀ call ∈ s.animated, call.1 < call.2
  children :
    ∀ screen ∈ s.screens,
      screen.mounted = true →
        screen.tabView.length = s.tabBar.length
  named :
    ∀ screen ∈ s.screens,
      screen.mounted = true →
        ∀ tab ∈ s.tabBar,
          ∀ nameTab ∈ nameOf tab,
            NamedAt nameOf s.tabBar
              (screen.changeTab nameTab).tabController.index
              nameTab

/- All tabs that have a name have that of the first tab. -/
def FirstNamed (tabBar : List Json) : Prop :=
  ∀ tab ∈ tabBar,
    ∀ nameTab ∈ nameOf tab, NamedAt nameOf tabBar 0 nameTab

/-
  A screen is made when the shared index, if there is one,
  stands for a tab, all tabs can be built and have one name.
  While there is a screen, a configuration is loaded only if
  it has as many tabs as before, of one name.
-/
def Fits (s : MainTabs) : Op → Prop
  | .reloaded tabBar =>
      (∃ screen ∈ s.screens, screen.mounted = true) →
        tabBar.length = s.tabBar.length ∧
          FirstNamed nameOf tabBar
  | .created =>
      (∀ i ∈ s.index, i < s.tabBar.length) ∧
        (∀ tab ∈ s.tabBar, Buildable tab) ∧
        FirstNamed nameOf s.tabBar
  | _ => True

instance
    (tabBar : List Json) :
    Decidable (FirstNamed nameOf tabBar) := by
  unfold FirstNamed NamedAt
  infer_instance

instance
    (s : MainTabs)
    (op : Op) :
    Decidable (Fits nameOf s op) := by
  cases op <;> unfold Fits <;> infer_instance

end MainTabs

end NewsCentral

------------------------------------------------------------
-- Building The Pages
------------------------------------------------------------

namespace NewsCentral

open Dart EventLoop

namespace MainTabs

/- A downcast ends well on null and on what is asked for. -/
theorem exists_asInt_iff
    (j : Json) :
    (∃ n, j.asInt = .ok n) ↔
      BlogNews.isNullableInt j = true := by
  cases j <;> simp [Json.asInt, BlogNews.isNullableInt]

theorem exists_asList_iff
    (j : Json) :
    (∃ k, j.asList = .ok k) ↔ isNullableList j = true := by
  cases j <;> simp [Json.asList, isNullableList]

theorem exists_asMap_iff
    (j : Json) :
    (∃ k, j.asMap = .ok k) ↔ isNullableMap j = true := by
  cases j <;> simp [Json.asMap, isNullableMap]

/- A page is built exactly of a map with members as asked. -/
theorem exists_tabView_iff
    (tab : Json) :
    (∃ view, (mapFrom tab >>= tabView) = .ok view) ↔
      Buildable tab := by
  cases tab with
  | obj fields =>
      simp only [mapFrom, ok_bind_eq, tabView, Json.index_obj,
        Json.text_obj, Json.mapAt_obj, Json.intAt_obj,
        Buildable, Json.isMap, Json.member, true_and]
      generalize Json.field fields "layout" = layout
      split <;>
        simp [exists_bind_iff, Json.exists_asString_iff,
          exists_asInt_iff, exists_asList_iff,
          exists_asMap_iff, taken, pure, Except.pure]
  | _ => simp [mapFrom, Buildable, Json.isMap, bind, Except.bind]

/- All tabs get a page exactly if all can be built. -/
theorem length_addTabs_eq_iff
    (views : List TabPage)
    (tabs : List Json) :
    (addTabs views tabs).length =
        views.length + tabs.length ↔
      ∀ tab ∈ tabs, Buildable tab := by
  induction tabs generalizing views with
  | nil => simp [addTabs]
  | cons tab tabs ih =>
      rw [List.forall_mem_cons, ← exists_tabView_iff tab]
      unfold addTabs
      cases hView : mapFrom tab >>= tabView with
      | error e => simp
      | ok view =>
          have hRest := ih (views ++ [view])
          rw [List.length_append, List.length_singleton,
            Nat.add_assoc, Nat.add_comm 1] at hRest
          simp only [List.length_cons]
          rw [hRest]
          simp

end MainTabs

end NewsCentral

------------------------------------------------------------
-- What Is Asked For By Name
------------------------------------------------------------

namespace NewsCentral

open Dart EventLoop

/-
  No name was ever saved, and a controller of a single tab
  has never moved.
-/
structure MainTabsState.Kept (s : MainTabsState) : Prop where
  saved : s.saveIndexTab = []
  single :
    s.tabController.length < 2 → s.tabController.index = 0

namespace MainTabsState

variable {s : MainTabsState}

theorem Kept.animateTo
    (hKept : Kept s)
    (i : Nat) :
    Kept (s.animateTo i) := by
  refine ⟨hKept.saved, ?_⟩
  unfold MainTabsState.animateTo TabController.animateTo
  split
  next => exact hKept.single
  next hMoved =>
    intro hFew
    exact absurd (.inr hFew) hMoved

/- Whatever the name is, it is the first tab. -/
theorem Kept.index_changeTab
    (hKept : Kept s)
    (nameTab : String) :
    (s.changeTab nameTab).tabController.index = 0 := by
  unfold changeTab savedIndex
  rw [hKept.saved]
  unfold MainTabsState.animateTo TabController.animateTo
  split
  next hStays =>
    rcases hStays with hThere | hFew
    · exact hThere.symm
    · exact hKept.single hFew
  next => rfl

end MainTabsState

namespace MainTabs

variable {nameOf : Json → Option String}
variable {s t : MainTabs}

/- What holds in every run. -/
def Invariant (s : MainTabs) : Prop :=
  ∀ screen ∈ s.screens, screen.Kept

/- For a kept screen, the tabs need one name. -/
theorem onTarget_iff_of_invariant
    (hInv : Invariant s) :
    OnTarget nameOf s ↔
      (∀ call ∈ s.animated, call.1 < call.2) ∧
        ∀ screen ∈ s.screens,
          screen.mounted = true →
            screen.tabView.length = s.tabBar.length ∧
              FirstNamed nameOf s.tabBar := by
  constructor
  · rintro ⟨hAnimated, hChildren, hNamed⟩
    refine ⟨hAnimated, ?_⟩
    intro screen hMem hMounted
    refine ⟨hChildren screen hMem hMounted, ?_⟩
    intro tab hTab nameTab hName
    have hAt := hNamed screen hMem hMounted tab hTab nameTab
      hName
    rwa [(hInv screen hMem).index_changeTab] at hAt
  · rintro ⟨hAnimated, hScreens⟩
    refine ⟨hAnimated, ?_, ?_⟩
    · intro screen hMem hMounted
      exact (hScreens screen hMem hMounted).1
    · intro screen hMem hMounted tab hTab nameTab hName
      rw [(hInv screen hMem).index_changeTab]
      exact (hScreens screen hMem hMounted).2 tab hTab nameTab
        hName

end MainTabs

end NewsCentral

------------------------------------------------------------
-- What A Step Does
------------------------------------------------------------

namespace NewsCentral

open Dart EventLoop

namespace MainTabs

variable {s t : MainTabs} {op : Op}

/- What is done on one screen keeps everything but indices. -/
structure Follows (s t : MainTabs) : Prop where
  tabBar : t.tabBar = s.tabBar
  animated : t.animated = s.animated
  screens :
    ∀ screen ∈ t.screens,
      ∃ old ∈ s.screens,
        (old.Kept → screen.Kept) ∧
          (screen.mounted = true → old.mounted = true) ∧
          screen.tabView = old.tabView

/- One screen is replaced by what it has become. -/
theorem follows_set
    {j : Nat}
    {screen moved : MainTabsState}
    (index : Option Nat)
    (hAt : s.screens[j]? = some screen)
    (hKept : screen.Kept → moved.Kept)
    (hMounted : moved.mounted = true → screen.mounted = true)
    (hView : moved.tabView = screen.tabView) :
    Follows s
      { s with
        index := index
        screens := s.screens.set j moved } := by
  refine ⟨rfl, rfl, ?_⟩
  intro other hMem
  rcases List.mem_or_eq_of_mem_set hMem with hOld | rfl
  · exact ⟨other, hOld, id, id, rfl⟩
  · exact ⟨screen, List.mem_of_getElem? hAt, hKept, hMounted,
      hView⟩

theorem follows_animate
    {j : Nat}
    {screen : MainTabsState}
    (hAt : s.screens[j]? = some screen)
    (i : Nat) :
    Follows s (s.animate j i screen) :=
  follows_set _ hAt (fun hKept => hKept.animateTo i) id rfl

/- Either of the two large steps, or one on a screen. -/
theorem step_cases
    (nameOf : Json → Option String)
    (hNext : step s op = some t) :
    (∃ tabBar, op = .reloaded tabBar ∧ t = { s with tabBar }) ∨
      (op = .created ∧ t = s.loadTabBar) ∨
      (Follows s t ∧ Fits nameOf s op) := by
  cases op with
  | reloaded tabBar =>
      simp only [step] at hNext
      split at hNext
      · cases hNext
      · cases hNext
        exact .inl ⟨tabBar, rfl, rfl⟩
  | created =>
      simp only [step] at hNext
      split at hNext
      · cases hNext
      · cases hNext
        exact .inr (.inl ⟨rfl, rfl⟩)
  | disposed j =>
      rcases Option.bind_eq_some_iff.mp hNext with
        ⟨screen, hAt, hAct⟩
      split at hAct
      · cases hAct
        exact .inr (.inr
          ⟨follows_set _ hAt
            (fun hKept => ⟨hKept.saved, hKept.single⟩)
            nofun rfl, trivial⟩)
      · cases hAct
  | onTap j i =>
      rcases Option.bind_eq_some_iff.mp hNext with
        ⟨screen, hAt, hAct⟩
      split at hAct
      · cases hAct
        exact .inr (.inr ⟨follows_animate hAt i, trivial⟩)
      · cases hAct
  | changeTab j nameTab =>
      rcases Option.bind_eq_some_iff.mp hNext with
        ⟨screen, hAt, hAct⟩
      cases hAct
      exact .inr (.inr ⟨follows_animate hAt _, trivial⟩)
  | tabAnimateTo j i =>
      rcases Option.bind_eq_some_iff.mp hNext with
        ⟨screen, hAt, hAct⟩
      cases hAct
      exact .inr (.inr ⟨follows_animate hAt i, trivial⟩)
  | settled j =>
      rcases Option.bind_eq_some_iff.mp hNext with
        ⟨screen, hAt, hAct⟩
      cases hAct
      refine .inr (.inr ⟨⟨rfl, rfl, ?_⟩, trivial⟩)
      intro other hMem
      exact ⟨other, hMem, id, id, rfl⟩

/- A new screen is kept, and its pages are those of now. -/
theorem loadTabBar_eq
    (s : MainTabs) :
    ∃ index screen,
      screen.Kept ∧
        screen.mounted = true ∧
        screen.tabView = addTabs [] s.tabBar ∧
        s.loadTabBar =
          { s with
            index := index
            screens := s.screens ++ [screen]
            animated :=
              s.animated ++
                s.index.toList.map fun i =>
                  (i, s.tabBar.length) } := by
  have hFresh :
      MainTabsState.Kept
        ⟨⟨s.tabBar.length, 0⟩, addTabs [] s.tabBar, [], true⟩ :=
    ⟨rfl, fun _ => rfl⟩
  unfold loadTabBar
  cases hIndex : s.index with
  | none =>
      refine ⟨some 0, _, hFresh, rfl, rfl, ?_⟩
      simp
  | some i =>
      refine ⟨some i, _, hFresh.animateTo i, rfl, rfl, ?_⟩
      simp [MainTabsState.animateTo]

theorem Invariant.loadTabBar
    (hInv : Invariant s) :
    Invariant s.loadTabBar := by
  rcases loadTabBar_eq s with ⟨_, screen, hKept, _, _, hEq⟩
  rw [hEq]
  intro other hMem
  rcases List.mem_append.mp hMem with hOld | hNew
  · exact hInv other hOld
  · rwa [List.mem_singleton.mp hNew]

theorem Invariant.step
    (hInv : Invariant s)
    (hNext : step s op = some t) :
    Invariant t := by
  rcases step_cases (fun _ => none) hNext with
    ⟨tabBar, _, rfl⟩ | ⟨_, rfl⟩ | ⟨hFollows, _⟩
  · exact hInv
  · exact hInv.loadTabBar
  · intro screen hMem
    rcases hFollows.screens screen hMem with
      ⟨old, hOld, hKept, _⟩
    exact hKept (hInv old hOld)

end MainTabs

end NewsCentral

------------------------------------------------------------
-- When Navigation Stays On Target
------------------------------------------------------------

namespace NewsCentral

open Dart EventLoop

namespace MainTabs

variable {nameOf : Json → Option String}
variable {s t : MainTabs} {op : Op}

theorem Follows.onTarget
    (hInv : Invariant s)
    (hInv' : Invariant t)
    (hFollows : Follows s t)
    (hTarget : OnTarget nameOf s) :
    OnTarget nameOf t := by
  rw [onTarget_iff_of_invariant hInv] at hTarget
  rw [onTarget_iff_of_invariant hInv', hFollows.tabBar,
    hFollows.animated]
  refine ⟨hTarget.1, ?_⟩
  intro screen hMem hMounted
  rcases hFollows.screens screen hMem with
    ⟨old, hOld, _, hWas, hView⟩
  rw [hView]
  exact hTarget.2 old hOld (hWas hMounted)

/- Screens that were on target want a like configuration. -/
theorem onTarget_reloaded_iff
    (hInv : Invariant s)
    (hTarget : OnTarget nameOf s)
    (tabBar : List Json) :
    OnTarget nameOf { s with tabBar } ↔
      Fits nameOf s (.reloaded tabBar) := by
  have hInv' : Invariant { s with tabBar } := hInv
  rw [onTarget_iff_of_invariant hInv]
    at hTarget
  rw [onTarget_iff_of_invariant hInv']
  unfold Fits
  constructor
  · rintro ⟨_, hScreens⟩ ⟨screen, hMem, hMounted⟩
    have hNow := hScreens screen hMem hMounted
    have hWas := (hTarget.2 screen hMem hMounted).1
    exact ⟨hNow.1.symm.trans hWas, hNow.2⟩
  · intro hFits
    refine ⟨hTarget.1, ?_⟩
    intro screen hMem hMounted
    have hLike := hFits ⟨screen, hMem, hMounted⟩
    have hWas := (hTarget.2 screen hMem hMounted).1
    exact ⟨hWas.trans hLike.1.symm, hLike.2⟩

/- A new screen wants what it is made from to fit. -/
theorem onTarget_loadTabBar_iff
    (hInv : Invariant s)
    (hTarget : OnTarget nameOf s) :
    OnTarget nameOf s.loadTabBar ↔
      Fits nameOf s .created := by
  have hInv' : Invariant s.loadTabBar := hInv.loadTabBar
  rcases loadTabBar_eq s with
    ⟨index, screen, hKept, hMounted, hView, hEq⟩
  rw [onTarget_iff_of_invariant hInv]
    at hTarget
  rw [onTarget_iff_of_invariant hInv', hEq]
  have hPages := length_addTabs_eq_iff [] s.tabBar
  rw [List.length_nil, Nat.zero_add] at hPages
  simp only [Fits, List.forall_mem_append, List.forall_mem_map,
    Option.mem_toList, List.forall_mem_singleton, hView,
    hPages]
  constructor
  · rintro ⟨⟨_, hCall⟩, _, hNew⟩
    exact ⟨hCall, hNew hMounted⟩
  · rintro ⟨hCall, hNew⟩
    exact ⟨⟨hTarget.1, hCall⟩, hTarget.2, fun _ => hNew⟩

/- A step keeps on target exactly if it fits. -/
theorem onTarget_step_iff
    (hInv : Invariant s)
    (hTarget : OnTarget nameOf s)
    (hNext : step s op = some t) :
    OnTarget nameOf t ↔ Fits nameOf s op := by
  have hInv' := hInv.step hNext
  rcases step_cases nameOf hNext with
    ⟨tabBar, rfl, rfl⟩ | ⟨rfl, rfl⟩ | ⟨hFollows, hFits⟩
  · exact onTarget_reloaded_iff hInv hTarget tabBar
  · exact onTarget_loadTabBar_iff hInv hTarget
  · exact iff_of_true
      (hFollows.onTarget hInv hInv' hTarget) hFits

/-
  A run from the start of the app stays on target throughout
  exactly if all its steps fit.
-/
theorem onTarget_iff
    {ops : List Op}
    (hRun : system.Run System.anyStep {} ops t) :
    system.Always (fun _ u => OnTarget nameOf u) {} ops ↔
      system.Run (Fits nameOf) {} ops t := by
  refine System.always_iff_run
    (I := fun u => Invariant u ∧ OnTarget nameOf u)
    ?_ ?_ ?_ ?_ hRun
  · refine ⟨?_, ?_, ?_, ?_⟩
    · intro screen hNone
      cases hNone
    · intro call hNone
      cases hNone
    · intro screen hNone
      cases hNone
    · intro screen hNone
      cases hNone
  · intro u op v hGood hOk hNext
    exact ⟨hGood.1.step hNext,
      (onTarget_step_iff hGood.1 hGood.2 hNext).mpr hOk⟩
  · intro u hGood
    exact hGood.2
  · intro u op v hGood hBroken hNext hKept
    exact hBroken
      ((onTarget_step_iff hGood.1 hGood.2 hNext).mp hKept)

/- The name of a tab is its layout. -/
def layoutOf (tab : Json) : Option String :=
  (tab.member "layout").text?

/- An entry with a layout. -/
def entry (layout : String) : Json :=
  .obj [("layout", .str layout), ("icon", .str "home")]

/- Two tabs of one name, and two screens. -/
theorem onTarget_alike :
    system.Always (fun _ u => OnTarget layoutOf u) {}
      [ .reloaded [entry "blog", entry "blog"], .created,
        .onTap 0 1, .settled 0, .created,
        .changeTab 1 "blog" ] := by
  have hRun :
      system.Run (Fits layoutOf) {}
        [ .reloaded [entry "blog", entry "blog"], .created,
          .onTap 0 1, .settled 0, .created,
          .changeTab 1 "blog" ] _ :=
    System.run_iff_exec.mpr ⟨by decide, rfl⟩
  exact (onTarget_iff hRun.any).mpr hRun

/- The tabs of the configuration that is shipped. -/
def shipped : List Json :=
  [ entry "home", entry "wishlist", entry "search",
    entry "profile" ]

/-
  With the shipped tabs "search" is not reached.  And when
  the last of four tabs was selected, a new screen for two
  tabs is animated to the fourth.
-/
theorem onTarget_fails :
    (∃ s,
      system.Run System.anyStep {}
          [.reloaded shipped, .created] s ∧
        ¬ OnTarget layoutOf s) ∧
      ∃ s,
        system.Run System.anyStep {}
            [ .reloaded shipped, .created, .onTap 0 3,
              .disposed 0, .reloaded (shipped.take 2),
              .created ] s ∧
          (3, 2) ∈ s.animated := by
  refine
    ⟨⟨_, System.run_of_exec rfl, ?_⟩, _,
      System.run_of_exec rfl, by decide⟩
  intro hTarget
  have hNamed :=
    hTarget.named _ (List.mem_singleton.mpr rfl) rfl
      (entry "search") (by decide) "search" rfl
  rcases hNamed with ⟨tab, hFirst, hName⟩
  cases hFirst
  exact absurd hName (by decide)

end MainTabs

end NewsCentral
