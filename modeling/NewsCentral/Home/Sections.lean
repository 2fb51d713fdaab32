import NewsCentral.EventLoop.Program
import NewsCentral.Services.WordPress

/-
  The horizontal sections of the home layout, under
  `lib/widgets/blog`.

  Each section that lists posts asks for them once, a turn
  after it was mounted, with the config and the locale it
  then finds; a run-once future keeps the answer.  A rebuild
  gives the mounted widgets their new configs in place.

  Key definitions include:
    * `NewsCentral.HomeLayout`
    * `NewsCentral.HomeLayout.jsonWidget`
    * `NewsCentral.HomeLayout.program`
    * `NewsCentral.HomeLayout.FollowsConfig`
    * `NewsCentral.HomeLayout.UpdateKeeps`
    * `NewsCentral.HomeLayout.AnswerFits`

  Key theorems include:
    * `NewsCentral.HomeLayout.followsConfig_iff`
-/

------------------------------------------------------------
-- Widgets
------------------------------------------------------------

namespace NewsCentral

open Dart EventLoop

/- The widgets of a section. -/
inductive SectionKind where
  | logo
  | headerText
  | bannerAnimated
  | bannerSliderItems
  | bannerGroupItems
  | largeCardHorizontalListItems
  | horizontalSliderList
  | sliderItem
  | blogListLayout
deriving DecidableEq

/- The widgets whose state fetches the posts of a config. -/
def SectionKind.fetches : SectionKind → Bool
  | .largeCardHorizontalListItems => true
  | .horizontalSliderList => true
  | .sliderItem => true
  | .blogListLayout => true
  | _ => false

/- Those among them that list the posts. -/
def SectionKind.lists (kind : SectionKind) : Bool :=
  kind.fetches && kind ≠ .sliderItem

/-
  The run-once future: not created, awaited, or completed
  with the config and the locale it was created with.
-/
inductive Snapshot where
  | none
  | waiting
  | done
      (config : Json)
      (lang : String)
      (result : Except Thrown (List BlogNews))

/- A mounted section; `config` is that of its widget. -/
structure HomeSection where
  kind : SectionKind
  key : Json
  config : Json
  snapshot : Snapshot := .none

/- The locale of `AppModel` and the mounted sections. -/
structure HomeLayout where
  locale : String
  sections : List HomeSection

namespace HomeLayout

/- The widget a section is built as. -/
def kindOf
    (config : Json)
    (layout : Json) : Except Thrown SectionKind := do
  if layout = .str "logo" then
    return .logo
  else if layout = .str "header_text" then
    return .headerText
  else if layout = .str "bannerAnimated" then
    return .bannerAnimated
  else if layout = .str "bannerImage" then
    if (← config.index "isSlider") = .bool true then
      return .bannerSliderItems
    else
      return .bannerGroupItems
  else if layout = .str "largeCardHorizontalListItems" then
    return .largeCardHorizontalListItems
  else if layout = .str "sliderList" then
    return .horizontalSliderList
  else if layout = .str "sliderItem" then
    return .sliderItem
  else
    return .blogListLayout

/- A section as it is mounted. -/
def jsonWidget
    (config : Json) : Except Thrown HomeSection := do
  let kind ← kindOf config (← config.index "layout")
  let key ← config.index "key"
  return { kind := kind, key := key, config := config }

/- What decides whether a widget is updated in place. -/
def identity (sec : HomeSection) : SectionKind × Json :=
  (sec.kind, sec.key)

------------------------------------------------------------
-- Operations
------------------------------------------------------------

/-
  `changeLanguage` sets the locale; the configuration that
  it loads rebuilds the layout.
-/
inductive Op where
  | setLocale (locale : String)
  | rebuild (horizonLayout : List Json)

/- The delayed turn of a section, and its request. -/
inductive Point where
  | delayed (i : Nat)
  | fetchBlogLayout (i : Nat) (config : Json) (lang : String)

/- A section with the config of a new widget. -/
def update
    (sec widget : HomeSection) : HomeSection :=
  { sec with config := widget.config }

/-
  A rebuild that keeps the order of the sections and their
  keys updates them; others are not considered, and a config
  that is no map is not built.
-/
def call
    (op : Op)
    (s : HomeLayout) : Option (HomeLayout × List Point) :=
  match op with
  | .setLocale locale => some ({ s with locale := locale }, [])
  | .rebuild horizonLayout =>
      match horizonLayout.mapM jsonWidget with
      | .error _ => none
      | .ok widgets =>
          if widgets.map identity = s.sections.map identity then
            some
              ({ s with
                sections :=
                  s.sections.zipWith update widgets }, [])
          else
            none

/- A section's future changes. -/
def setSnapshot
    (i : Nat)
    (snapshot : Snapshot)
    (s : HomeLayout) : HomeLayout :=
  { s with
    sections :=
      s.sections.modify i fun sec =>
        { sec with snapshot := snapshot } }

def resume
    (unescape : String → String)
    (point : Point)
    (http : Http)
    (s : HomeLayout) : HomeLayout × List Point :=
  match point with
  | .delayed i =>
      match s.sections[i]? with
      | none => (s, [])
      | some sec =>
          (s.setSnapshot i .waiting,
            [.fetchBlogLayout i sec.config s.locale])
  | .fetchBlogLayout i config lang =>
      (s.setSnapshot i
        (.done config lang
          (newsService.fetchBlogLayout http unescape config
            lang)), [])

/- The layout on the event loop. -/
def program
    (unescape : String → String) :
    Program HomeLayout Op Point Http where
  call := call
  resume := resume unescape
  queued := fun _ => false

/- Each section that fetches has a delayed turn. -/
def delays (widgets : List HomeSection) : List Point :=
  (widgets.zipIdx.filter fun entry =>
    entry.1.kind.fetches).map fun entry => .delayed entry.2

/- The layout is mounted. -/
def mounted
    (locale : String)
    (widgets : List HomeSection) : Pool HomeLayout Point :=
  ⟨{ locale := locale, sections := widgets },
    delays widgets⟩

end HomeLayout

end NewsCentral

------------------------------------------------------------
-- Following The Configuration
------------------------------------------------------------

namespace NewsCentral

open Dart EventLoop

namespace HomeLayout

/- The request that a config and a locale call for. -/
def query
    (config : Json)
    (lang : String) : Option (String × Json) :=
  (do
    let endPoint ← WordPress.layoutEndPoint config lang
    let category ← config.index "category"
    return (endPoint, category)).toOption

/- The section of a point. -/
def Point.section_ : Point → Nat
  | .delayed i => i
  | .fetchBlogLayout i _ _ => i

/- A section's request is pending. -/
def Awaits (pending : List Point) (i : Nat) : Prop :=
  i ∈ pending.map Point.section_

instance (pending : List Point) (i : Nat) :
    Decidable (Awaits pending i) := by
  unfold Awaits
  infer_instance

/- The posts of the config and of the locale are shown. -/
def Shows
    (locale : String)
    (sec : HomeSection) : Prop :=
  ∃ config lang posts,
    sec.snapshot = .done config lang (.ok posts) ∧
      query config lang = query sec.config locale

/-
  Each section that lists posts shows those of its config
  and the locale, unless its request is pending.
-/
def FollowsConfig
    (s : HomeLayout)
    (pending : List Point) : Prop :=
  ∀ i sec,
    s.sections[i]? = some sec →
    sec.kind.lists = true →
    ¬ Awaits pending i →
    Shows s.locale sec

/-
  An update leaves the request as it is that each section
  calls for whose own is not pending.
-/
def UpdateKeeps
    (s : HomeLayout)
    (pending : List Point) : Op → Prop
  | .setLocale locale =>
      ∀ entry ∈ s.sections.zipIdx,
        entry.1.kind.lists = true →
        ¬ Awaits pending entry.2 →
        query entry.1.config locale =
          query entry.1.config s.locale
  | .rebuild horizonLayout =>
      ∀ entry ∈ (s.sections.zip horizonLayout).zipIdx,
        entry.1.1.kind.lists = true →
        ¬ Awaits pending entry.2 →
        query entry.1.2 s.locale =
          query entry.1.1.config s.locale

/-
  A request is answered with posts, and is still the one
  that its section calls for.
-/
def AnswerFits
    (unescape : String → String)
    (s : HomeLayout)
    (_ : List Point)
    (point : Point)
    (http : Http) : Prop :=
  match point with
  | .delayed _ => True
  | .fetchBlogLayout i config lang =>
      ∀ sec ∈ s.sections[i]?,
        sec.kind.lists = true →
        query config lang = query sec.config s.locale ∧
          (newsService.fetchBlogLayout http unescape config
            lang).toOption.isSome = true

instance
    (s : HomeLayout)
    (pending : List Point)
    (op : Op) :
    Decidable (UpdateKeeps s pending op) := by
  cases op <;> unfold UpdateKeeps <;> infer_instance

instance
    (unescape : String → String)
    (s : HomeLayout)
    (rest : List Point)
    (point : Point)
    (http : Http) :
    Decidable (AnswerFits unescape s rest point http) := by
  cases point <;> unfold AnswerFits <;> infer_instance

/-
  Each section awaits one answer, or shows its posts and
  awaits none.
-/
structure FollowsInvariant
    (s : HomeLayout)
    (pending : List Point) : Prop where
  once : (pending.map Point.section_).Nodup
  shows : FollowsConfig s pending

variable {unescape : String → String}
variable {s : HomeLayout} {pending : List Point}
variable {earlier later next : List Point} {k : Point}

/- Each section stays with its own future. -/
theorem getElem?_setSnapshot
    {i j : Nat}
    {snapshot : Snapshot} :
    (s.setSnapshot i snapshot).sections[j]? =
      if i = j then
        s.sections[j]?.map fun sec =>
          { sec with snapshot := snapshot }
      else
        s.sections[j]? := by
  simp only [setSnapshot, List.getElem?_modify]
  by_cases hEq : i = j
  · simp [hEq]
  · simp [hEq]

/- A widget has the config it was built from. -/
theorem config_of_jsonWidget
    {config : Json}
    {widget : HomeSection}
    (hWidget : jsonWidget config = .ok widget) :
    widget.config = config := by
  simp only [jsonWidget, bind, Except.bind] at hWidget
  repeat' split at hWidget
  all_goals cases hWidget
  rfl

theorem config_of_mapM
    {horizonLayout : List Json}
    {widgets : List HomeSection}
    (hBuilt : horizonLayout.mapM jsonWidget = .ok widgets) :
    widgets.map HomeSection.config = horizonLayout := by
  have hEach := forall₂_of_mapM hBuilt
  clear hBuilt
  induction hEach with
  | nil => rfl
  | cons hWidget _ ih =>
      rw [List.map_cons, config_of_jsonWidget hWidget, ih]

------------------------------------------------------------
-- Updates
------------------------------------------------------------

/- What a change of the locale keeps, by position. -/
theorem updateKeeps_setLocale_iff
    {locale : String} :
    UpdateKeeps s pending (.setLocale locale) ↔
      ∀ i sec,
        s.sections[i]? = some sec →
        sec.kind.lists = true →
        ¬ Awaits pending i →
        query sec.config locale =
          query sec.config s.locale := by
  unfold UpdateKeeps
  constructor
  · intro hKeeps i sec hAt
    exact hKeeps (sec, i)
      (List.mk_mem_zipIdx_iff_getElem?.mpr hAt)
  · rintro hKeeps ⟨sec, i⟩ hMem
    exact hKeeps i sec
      (List.mk_mem_zipIdx_iff_getElem?.mp hMem)

/- What a rebuild keeps, by position. -/
theorem updateKeeps_rebuild_iff
    {horizonLayout : List Json} :
    UpdateKeeps s pending (.rebuild horizonLayout) ↔
      ∀ i sec config,
        s.sections[i]? = some sec →
        horizonLayout[i]? = some config →
        sec.kind.lists = true →
        ¬ Awaits pending i →
        query config s.locale =
          query sec.config s.locale := by
  unfold UpdateKeeps
  constructor
  · intro hKeeps i sec config hSec hConfig
    refine hKeeps ((sec, config), i) ?_
    rw [List.mk_mem_zipIdx_iff_getElem?]
    exact List.getElem?_zip_eq_some.mpr ⟨hSec, hConfig⟩
  · rintro hKeeps ⟨⟨sec, config⟩, i⟩ hMem
    rw [List.mk_mem_zipIdx_iff_getElem?] at hMem
    have hBoth := List.getElem?_zip_eq_some.mp hMem
    exact hKeeps i sec config hBoth.1 hBoth.2

/- The posts shown stay right exactly if the request does. -/
theorem Shows.iff_query
    {locale locale' : String}
    {sec sec' : HomeSection}
    (hShows : Shows locale sec)
    (hSame : sec'.snapshot = sec.snapshot) :
    Shows locale' sec' ↔
      query sec'.config locale' =
        query sec.config locale := by
  rcases hShows with ⟨config, lang, posts, hDone, hQuery⟩
  constructor
  · rintro ⟨config', lang', posts', hDone', hQuery'⟩
    rw [hSame, hDone] at hDone'
    cases hDone'
    rw [← hQuery', hQuery]
  · intro hEq
    exact ⟨config, lang, posts, hSame.trans hDone,
      hQuery.trans hEq.symm⟩

/- A change of the locale: exactly what it may change. -/
theorem followsConfig_setLocale_iff
    {locale : String}
    (hFollows : FollowsConfig s pending) :
    FollowsConfig { s with locale := locale } pending ↔
      UpdateKeeps s pending (.setLocale locale) := by
  rw [updateKeeps_setLocale_iff]
  constructor
  · intro hAfter i sec hAt hLists hFree
    exact
      ((hFollows i sec hAt hLists hFree).iff_query rfl).mp
        (hAfter i sec hAt hLists hFree)
  · intro hKeeps i sec hAt hLists hFree
    exact
      ((hFollows i sec hAt hLists hFree).iff_query rfl).mpr
        (hKeeps i sec hAt hLists hFree)

/- A rebuild: exactly what it may change. -/
theorem followsConfig_rebuild_iff
    {horizonLayout : List Json}
    {widgets : List HomeSection}
    (hFollows : FollowsConfig s pending)
    (hBuilt :
      horizonLayout.mapM jsonWidget = .ok widgets) :
    FollowsConfig
        { s with
          sections := s.sections.zipWith update widgets }
        pending ↔
      UpdateKeeps s pending (.rebuild horizonLayout) := by
  have hConfigs := config_of_mapM hBuilt
  have hIff :
      ∀ i sec (widget : HomeSection),
        s.sections[i]? = some sec →
        sec.kind.lists = true →
        ¬ Awaits pending i →
        (Shows s.locale (update sec widget) ↔
          query widget.config s.locale =
            query sec.config s.locale) := by
    intro i sec widget hAt hLists hFree
    exact (hFollows i sec hAt hLists hFree).iff_query rfl
  rw [updateKeeps_rebuild_iff]
  constructor
  · intro hAfter i sec config hAt hConfig hLists hFree
    rw [← hConfigs, List.getElem?_map,
      Option.map_eq_some_iff] at hConfig
    rcases hConfig with ⟨widget, hWidget, rfl⟩
    have hUpdated :
        (s.sections.zipWith update widgets)[i]? =
          some (update sec widget) :=
      List.getElem?_zipWith_eq_some.mpr
        ⟨sec, widget, hAt, hWidget, rfl⟩
    exact (hIff i sec widget hAt hLists hFree).mp
      (hAfter i _ hUpdated hLists hFree)
  · intro hKeeps i sec' hAt' hLists hFree
    rcases List.getElem?_zipWith_eq_some.mp hAt' with
      ⟨sec, widget, hAt, hWidget, rfl⟩
    have hConfig :
        horizonLayout[i]? = some widget.config := by
      rw [← hConfigs, List.getElem?_map, hWidget]
      rfl
    exact (hIff i sec widget hAt hLists hFree).mpr
      (hKeeps i sec widget.config hAt hConfig hLists hFree)

/- An update: exactly what it may change. -/
theorem followsConfig_call_iff
    {op : Op}
    {s' : HomeLayout}
    (hFollows : FollowsConfig s pending)
    (hCall : call op s = some (s', next)) :
    FollowsConfig s' (pending ++ next) ↔
      UpdateKeeps s pending op := by
  cases op with
  | setLocale locale =>
      cases hCall
      rw [List.append_nil]
      exact followsConfig_setLocale_iff hFollows
  | rebuild horizonLayout =>
      simp only [call] at hCall
      split at hCall
      · cases hCall
      · rename_i widgets hBuilt
        split at hCall
        · cases hCall
          rw [List.append_nil]
          exact followsConfig_rebuild_iff hFollows hBuilt
        · cases hCall

------------------------------------------------------------
-- Answers
------------------------------------------------------------

/- A pool awaits what its points await. -/
theorem awaits_split_iff
    {i : Nat} :
    Awaits (earlier ++ k :: later) i ↔
      i = k.section_ ∨ Awaits (earlier ++ later) i := by
  simp only [Awaits, List.map_append, List.map_cons,
    List.mem_append, List.mem_cons]
  tauto

/- No section awaits twice. -/
theorem FollowsInvariant.not_awaits
    (hInv : FollowsInvariant s (earlier ++ k :: later)) :
    ¬ Awaits (earlier ++ later) k.section_ := by
  have hPerm :
      ((earlier ++ k :: later).map Point.section_).Perm
        (k.section_ ::
          (earlier ++ later).map Point.section_) := by
    rw [← List.map_cons]
    exact List.Perm.map Point.section_ List.perm_middle
  exact (List.nodup_cons.mp (hPerm.nodup hInv.once)).1

/- What a point leaves is awaited by its section. -/
theorem nodup_resume
    {http : Http}
    (hOnce : ((earlier ++ k :: later).map Point.section_).Nodup) :
    ((earlier ++ later ++
        (resume unescape k http s).2).map
      Point.section_).Nodup := by
  have hRest :
      ((earlier ++ later).map Point.section_).Nodup := by
    refine hOnce.sublist (List.Sublist.map _ ?_)
    exact List.Sublist.append_left
      (List.sublist_cons_self k later) earlier
  cases k with
  | delayed i =>
      simp only [resume]
      cases hAt : s.sections[i]? with
      | none => simpa using hRest
      | some sec =>
          have hPerm :
              ((earlier ++ later ++
                  [Point.fetchBlogLayout i sec.config
                    s.locale]).map Point.section_).Perm
                ((earlier ++ Point.delayed i :: later).map
                  Point.section_) := by
            simp only [List.map_append, List.map_cons,
              List.map_nil, Point.section_,
              List.append_assoc]
            exact List.Perm.append_left _
              (List.perm_append_singleton i _)
          exact hPerm.symm.nodup hOnce
  | fetchBlogLayout i config lang =>
      simpa [resume] using hRest

/- Which answer shows the right posts. -/
theorem shows_done_iff
    {locale lang : String}
    {config : Json}
    {sec : HomeSection}
    {result : Except Thrown (List BlogNews)} :
    Shows locale
        { sec with snapshot := .done config lang result } ↔
      query config lang = query sec.config locale ∧
        result.toOption.isSome = true := by
  constructor
  · rintro ⟨config', lang', posts, hDone, hQuery⟩
    simp only [Snapshot.done.injEq] at hDone
    rcases hDone with ⟨rfl, rfl, rfl⟩
    exact ⟨hQuery, rfl⟩
  · rintro ⟨hQuery, hSome⟩
    cases result with
    | error e => cases hSome
    | ok posts => exact ⟨config, lang, posts, rfl, hQuery⟩

/- An answer: exactly which one a section may be given. -/
theorem followsConfig_resume_iff
    {http : Http}
    (hInv : FollowsInvariant s (earlier ++ k :: later)) :
    FollowsConfig (resume unescape k http s).1
        (earlier ++ later ++
          (resume unescape k http s).2) ↔
      AnswerFits unescape s (earlier ++ later) k http := by
  -- the other sections stay as they are
  have hOther :
      ∀ j sec,
        s.sections[j]? = some sec →
        sec.kind.lists = true →
        j ≠ k.section_ →
        ¬ Awaits (earlier ++ later) j →
        Shows s.locale sec := by
    intro j sec hAt hLists hNe hFree
    refine hInv.shows j sec hAt hLists ?_
    rw [awaits_split_iff]
    rintro (hEq | hAwaits)
    · exact hNe hEq
    · exact hFree hAwaits
  cases k with
  | delayed i =>
      refine iff_of_true ?_ trivial
      simp only [resume]
      cases hSection : s.sections[i]? with
      | none =>
          intro j sec hAt hLists hFree
          rw [List.append_nil] at hFree
          refine hOther j sec hAt hLists ?_ hFree
          rintro rfl
          simp [hSection] at hAt
      | some _ =>
          intro j sec hAt hLists hFree
          simp only [Awaits, List.map_append, List.mem_append,
            List.map_cons, List.map_nil, List.mem_singleton,
            Point.section_, not_or] at hFree
          have hNe : i ≠ j := fun hEq => hFree.2 hEq.symm
          rw [getElem?_setSnapshot, if_neg hNe] at hAt
          refine hOther j sec hAt hLists hNe.symm ?_
          simp only [Awaits, List.map_append,
            List.mem_append, not_or]
          exact hFree.1
  | fetchBlogLayout i config lang =>
      have hFree := hInv.not_awaits
      simp only [resume, List.append_nil]
      constructor
      · intro hAfter sec hAt hLists
        refine shows_done_iff.mp (hAfter i _ ?_ hLists hFree)
        rw [getElem?_setSnapshot, if_pos rfl, hAt]
        rfl
      · intro hFits j sec' hAt hLists hFreeAt
        rw [getElem?_setSnapshot] at hAt
        by_cases hEq : i = j
        · subst hEq
          rw [if_pos rfl, Option.map_eq_some_iff] at hAt
          rcases hAt with ⟨sec, hSection, rfl⟩
          exact shows_done_iff.mpr
            (hFits sec hSection hLists)
        · rw [if_neg hEq] at hAt
          exact hOther j sec' hAt hLists (Ne.symm hEq)
            hFreeAt

------------------------------------------------------------
-- Every Run
------------------------------------------------------------

/- A mounted layout awaits all of its sections once. -/
theorem FollowsInvariant.mounted
    (locale : String)
    (widgets : List HomeSection) :
    FollowsInvariant (mounted locale widgets).shared
      (mounted locale widgets).pending where
  once := by
    have hIndices :
        (delays widgets).map Point.section_ =
          (widgets.zipIdx.filter fun entry =>
            entry.1.kind.fetches).map Prod.snd := by
      simp only [delays, List.map_map]
      rfl
    have hSublist :
        ((delays widgets).map Point.section_).Sublist
          (List.range' 0 widgets.length) := by
      rw [hIndices, ← List.zipIdx_map_snd]
      exact List.Sublist.map _ List.filter_sublist
    exact hSublist.nodup List.nodup_range'
  shows := by
    intro i sec hAt hLists hFree
    refine absurd ?_ hFree
    have hFetches : sec.kind.fetches = true := by
      unfold SectionKind.lists at hLists
      exact (Bool.and_eq_true_iff.mp hLists).1
    refine List.mem_map.mpr ⟨.delayed i, ?_, rfl⟩
    refine List.mem_map.mpr ⟨(sec, i), ?_, rfl⟩
    exact List.mem_filter.mpr
      ⟨List.mk_mem_zipIdx_iff_getElem?.mpr hAt, hFetches⟩

/- The awaited sections are those awaited before. -/
theorem FollowsInvariant.call
    {op : Op}
    {s' : HomeLayout}
    (hInv : FollowsInvariant s pending)
    (hKeeps : UpdateKeeps s pending op)
    (hCall : call op s = some (s', next)) :
    FollowsInvariant s' (pending ++ next) where
  once := by
    have hNone : next = [] := by
      cases op with
      | setLocale locale =>
          cases hCall
          rfl
      | rebuild horizonLayout =>
          simp only [HomeLayout.call] at hCall
          repeat' split at hCall
          all_goals cases hCall
          rfl
    rw [hNone, List.append_nil]
    exact hInv.once
  shows := (followsConfig_call_iff hInv.shows hCall).mpr hKeeps

/-
  In every run of a mounted layout, each section that lists
  posts shows those of its current config and locale
  whenever its request is not pending, exactly if updates
  that come later than a section's answer leave its request
  as it is, and those that come earlier than that.
-/
theorem followsConfig_iff
    {locale : String}
    {widgets : List HomeSection}
    {es : List (Event Op Http)}
    {p : Pool HomeLayout Point}
    (hRun :
      (program unescape).system.Run System.anyStep
        (mounted locale widgets) es p) :
    (program unescape).system.Always
        (fun _ u => FollowsConfig u.shared u.pending)
        (mounted locale widgets) es ↔
      (program unescape).system.Run
        (Program.when UpdateKeeps (AnswerFits unescape))
        (mounted locale widgets) es p := by
  refine Program.always_iff_run
    (I := FollowsInvariant) (G := FollowsConfig)
    (FollowsInvariant.mounted locale widgets)
    ?_ ?_ ?_ ?_ ?_ hRun
  · intro s pending op s' next hInv hKeeps hCall
    exact hInv.call hKeeps hCall
  · intro s earlier k later http hInv hFits
    exact
      ⟨nodup_resume hInv.once,
        (followsConfig_resume_iff hInv).mpr hFits⟩
  · intro s pending hInv
    exact hInv.shows
  · intro s pending op s' next hInv hBroken hCall hGood
    exact hBroken
      ((followsConfig_call_iff hInv.shows hCall).mp hGood)
  · intro s earlier k later http hInv hBroken hGood
    exact hBroken ((followsConfig_resume_iff hInv).mp hGood)

/- The entry of a list of the posts of a category. -/
def categorySection (category : Int) : Json :=
  .obj [("layout", .str "list"), ("category", .int category)]

/- The end point of the category's Arabic posts. -/
def arabicPosts : String :=
  "posts?_embed&per_page=10&lang=ar&categories=1"

/- A server with one post in Arabic and one in English. -/
def bilingualServer : Http := fun request =>
  let id :=
    if request = newsService.getRequest arabicPosts then 2
    else 1
  .ok
    ⟨200,
      some (.arr
        [.obj
          [("categories", .arr [.int 1]),
            ("id", .int id)]])⟩

/- A layout with one section, in the default language. -/
def oneSection : Pool HomeLayout Point :=
  mounted "en"
    [{ kind := .blogListLayout
       key := .null
       config := categorySection 1 }]

/-
  A rebuild with another category while the request is yet
  to be made is followed.
-/
theorem followsConfig_early_rebuild :
    ∃ p,
      (program id).system.Run System.anyStep oneSection
        [.call (.rebuild [categorySection 2]),
          .resume 0 bilingualServer,
          .resume 0 bilingualServer] p ∧
      p.Quiescent ∧
      (program id).system.Always
        (fun _ u => FollowsConfig u.shared u.pending)
        oneSection
        [.call (.rebuild [categorySection 2]),
          .resume 0 bilingualServer,
          .resume 0 bilingualServer] := by
  have hRun :
      ∃ p,
        (program id).system.Run
          (Program.when UpdateKeeps (AnswerFits id))
          oneSection
          [.call (.rebuild [categorySection 2]),
            .resume 0 bilingualServer,
            .resume 0 bilingualServer] p ∧
        p.Quiescent :=
    ⟨_, System.run_iff_exec.mpr ⟨by decide, rfl⟩, rfl⟩
  rcases hRun with ⟨p, hRun, hRest⟩
  exact ⟨p, hRun.any, hRest,
    (followsConfig_iff hRun.any).mpr hRun⟩

/-
  The language changes after the posts were fetched: at rest
  the section still shows the English post, where the
  current locale calls for the Arabic one.
-/
theorem section_keeps_old_language :
    ∃ p,
      (program id).system.Run System.anyStep oneSection
        [.resume 0 bilingualServer,
          .resume 0 bilingualServer,
          .call (.setLocale "ar"),
          .call (.rebuild [categorySection 1])] p ∧
      p.Quiescent ∧
      p.shared.locale = "ar" ∧
      p.shared.sections.map HomeSection.snapshot =
        [.done (categorySection 1) "en"
          (.ok [{ categoryId := some 1, id := some 1 }])] ∧
      newsService.fetchBlogLayout bilingualServer id
          (categorySection 1) "ar" =
        .ok [{ categoryId := some 1, id := some 2 }] ∧
      ¬ FollowsConfig p.shared p.pending := by
  refine
    ⟨_, System.run_of_exec rfl, rfl, rfl, rfl, rfl, ?_⟩
  intro hFollows
  rcases hFollows 0 _ rfl rfl (by decide) with
    ⟨config, lang, posts, hDone, hQuery⟩
  cases hDone
  exact absurd hQuery (by decide)

end HomeLayout

end NewsCentral
