import NewsCentral.EventLoop.System
import NewsCentral.Lists.Pages
import NewsCentral.Services.WordPress

/-
  The list of search results: `lib/screens/search/blog_list.dart`.

  The widget counts pages, but the request that it makes
  names none, so each answer is the first page.  A rebuild
  shows the list of the model again, whatever was loaded
  since.

  Key definitions include:
    * `NewsCentral.SearchServer`
    * `NewsCentral.SearchBlogList`
    * `NewsCentral.SearchBlogList.system`
    * `NewsCentral.SearchBlogList.ShowsResults`
    * `NewsCentral.SearchBlogList.InStep`

  Key theorems include:
    * `NewsCentral.SearchBlogList.showsResults_step_iff`
    * `NewsCentral.SearchBlogList.showsResults_iff`
    * `NewsCentral.SearchBlogList.inStep_onLoading_iff`
-/

------------------------------------------------------------
-- The Server
------------------------------------------------------------

namespace NewsCentral

open Dart EventLoop

/-
  A server with distinct results for each text, which come
  in pages of one size: a request that names no page is
  answered with the first.
-/
structure SearchServer where
  http : Http
  unescape : String → String
  results : String → List BlogNews
  perPage : Nat
  perPage_pos : 0 < perPage
  distinct : ∀ name, (results name).Nodup
  firstPage :
    ∀ name,
      newsService.searchBlog http unescape name =
        .ok (Pages.slice perPage (results name) 1)

namespace SearchServer

/- A page of the results for a text. -/
def page
    (server : SearchServer)
    (name : String) : Nat → List BlogNews :=
  Pages.slice server.perPage (server.results name)

end SearchServer

------------------------------------------------------------
-- The List
------------------------------------------------------------

/-
  `_BlogListState` with the fields of its widget.  As
  histories it has the text whose results the widget was
  given, and the loads since the last refresh or search.
-/
structure SearchBlogList where
  name : String
  widgetBlogs : List BlogNews
  blogs : List BlogNews
  page : Nat := 1
  searched : String
  loads : Nat := 0

namespace SearchBlogList

/- `initState`, with the results for a text. -/
def initState
    (name : String)
    (blogs : List BlogNews) : SearchBlogList where
  name := name
  widgetBlogs := blogs
  blogs := blogs
  searched := name

/- A list that is not the widget's own gives way to it. -/
def didUpdateWidget
    (name : String)
    (widgetBlogs : List BlogNews)
    (s : SearchBlogList) : SearchBlogList :=
  { s with
    name := name
    widgetBlogs := widgetBlogs
    blogs := widgetBlogs }

/- `_loadProduct` -/
def loadProduct
    (server : SearchServer)
    (delivery : Delivery)
    (s : SearchBlogList) : SearchBlogList :=
  match delivery.deliver
    (newsService.searchBlog server.http server.unescape
      s.name) with
  | .error _ => s
  | .ok newBlogs => { s with blogs := s.blogs ++ newBlogs }

/- `_onRefresh`, until its load is over. -/
def onRefresh
    (server : SearchServer)
    (delivery : Delivery)
    (s : SearchBlogList) : SearchBlogList :=
  loadProduct server delivery
    { s with page := 1, blogs := [], loads := 0 }

/- `_onLoading`, until its load is over. -/
def onLoading
    (server : SearchServer)
    (delivery : Delivery)
    (s : SearchBlogList) : SearchBlogList :=
  loadProduct server delivery
    { s with page := s.page + 1, loads := s.loads + 1 }

/-
  What happens to the list: the screen is rebuilt, with the
  same text or while another one is typed, or a search has
  ended, during which the list was not on the screen.
-/
inductive Op where
  | onRefresh (delivery : Delivery)
  | onLoading (delivery : Delivery)
  | rebuild
  | type (name : String)
  | search (name : String)
deriving DecidableEq

/- A search without results shows no list. -/
def step
    (server : SearchServer)
    (s : SearchBlogList) : Op → Option SearchBlogList
  | .onRefresh delivery => some (s.onRefresh server delivery)
  | .onLoading delivery => some (s.onLoading server delivery)
  | .rebuild => some (s.didUpdateWidget s.name s.widgetBlogs)
  | .type name => some (s.didUpdateWidget name s.widgetBlogs)
  | .search name =>
      match newsService.searchBlog server.http
        server.unescape name with
      | .ok (blog :: rest) =>
          some (initState name (blog :: rest))
      | _ => none

/- The list as a system of completed events. -/
def system
    (server : SearchServer) : System SearchBlogList Op where
  step := step server

end SearchBlogList

end NewsCentral

------------------------------------------------------------
-- The Property And Its Condition
------------------------------------------------------------

namespace NewsCentral

open Dart EventLoop

namespace SearchBlogList

variable (server : SearchServer)

/-
  The list is made of the first pages of the results, as
  many as were loaded, and each post appears once.
-/
def ShowsResults (s : SearchBlogList) : Prop :=
  s.blogs =
      Pages.upTo (server.page s.searched) (s.loads + 1) ∧
    s.blogs.Nodup

/- What a request for a text adds to the list. -/
def added
    (name : String) : Delivery → List BlogNews
  | .arrives => server.page name 1
  | .fails => []

/-
  A refresh is given the first page of the results, a load
  the next one; the list is rebuilt only while the pages
  loaded since the search are empty.
-/
def InStep (s : SearchBlogList) : Op → Prop
  | .onRefresh delivery =>
      added server s.name delivery = server.page s.searched 1
  | .onLoading delivery =>
      added server s.name delivery =
        server.page s.searched (s.loads + 2)
  | .rebuild =>
      Pages.Blank (server.page s.searched) 1 (s.loads + 1)
  | .type _ =>
      Pages.Blank (server.page s.searched) 1 (s.loads + 1)
  | .search _ => True

instance
    (s : SearchBlogList)
    (op : Op) :
    Decidable (InStep server s op) := by
  cases op <;> unfold InStep <;> infer_instance

/- With this the widget's list is the first page. -/
def Searched (s : SearchBlogList) : Prop :=
  s.widgetBlogs = server.page s.searched 1

end SearchBlogList

end NewsCentral

------------------------------------------------------------
-- Steps
------------------------------------------------------------

namespace NewsCentral

open Dart EventLoop

namespace SearchBlogList

variable {server : SearchServer} {s t : SearchBlogList}

/- A load that is over has added to the list. -/
theorem loadProduct_eq
    (delivery : Delivery)
    (s : SearchBlogList) :
    loadProduct server delivery s =
      { s with
        blogs := s.blogs ++ added server s.name delivery } := by
  unfold loadProduct
  rw [server.firstPage]
  cases delivery with
  | arrives => rfl
  | fails => simp [Delivery.deliver, added]

/- The first pages have no post twice. -/
theorem nodup_upTo
    (name : String)
    (n : Nat) :
    (Pages.upTo (server.page name) n).Nodup := by
  rw [SearchServer.page, Pages.upTo_slice]
  exact (server.distinct name).sublist (List.take_sublist _ _)

theorem showsResults_iff_upTo :
    ShowsResults server s ↔
      s.blogs =
        Pages.upTo (server.page s.searched)
          (s.loads + 1) := by
  unfold ShowsResults
  refine and_iff_left_of_imp ?_
  intro hBlogs
  rw [hBlogs]
  exact nodup_upTo _ _

/- The list of the widget, shown again. -/
theorem showsResults_didUpdateWidget_iff
    {name : String}
    (hSearched : Searched server s) :
    ShowsResults server
        (s.didUpdateWidget name s.widgetBlogs) ↔
      Pages.Blank (server.page s.searched) 1
        (s.loads + 1) := by
  rw [showsResults_iff_upTo,
    ← Pages.upTo_eq_iff_blank (Nat.le_add_left 1 _),
    Pages.upTo_one, ← hSearched]
  rfl

/- A search gives its own text's first page. -/
theorem eq_initState_of_search
    {name : String}
    (hNext : (system server).step s (.search name) = some t) :
    t = initState name (server.page name 1) := by
  simp only [system, step, server.firstPage] at hNext
  rw [SearchServer.page]
  cases hFirst :
      Pages.slice server.perPage (server.results name) 1 with
  | nil => simp [hFirst] at hNext
  | cons blog rest =>
      simp only [hFirst, Option.some.injEq] at hNext
      exact hNext.symm

/- Of each event, exactly when the results stay shown. -/
theorem showsResults_step_iff
    {op : Op}
    (hSearched : Searched server s)
    (hShows : ShowsResults server s)
    (hNext : (system server).step s op = some t) :
    ShowsResults server t ↔ InStep server s op := by
  rw [showsResults_iff_upTo] at hShows
  cases op with
  | onRefresh delivery =>
      cases hNext
      rw [showsResults_iff_upTo, onRefresh, loadProduct_eq]
      simp only [List.nil_append, Nat.zero_add,
        Pages.upTo_one]
      rfl
  | onLoading delivery =>
      cases hNext
      rw [showsResults_iff_upTo, onLoading, loadProduct_eq]
      simp only [hShows, Pages.upTo_succ _ (s.loads + 1),
        List.append_cancel_left_eq]
      rfl
  | rebuild =>
      cases hNext
      exact showsResults_didUpdateWidget_iff hSearched
  | type name =>
      cases hNext
      exact showsResults_didUpdateWidget_iff hSearched
  | search name =>
      rw [eq_initState_of_search hNext]
      refine iff_of_true ?_ trivial
      rw [showsResults_iff_upTo]
      rfl

/- Only a search gives the widget a list. -/
theorem Searched.step
    {op : Op}
    (hSearched : Searched server s)
    (hNext : (system server).step s op = some t) :
    Searched server t := by
  cases op with
  | onRefresh delivery =>
      cases hNext
      rw [onRefresh, loadProduct_eq]
      exact hSearched
  | onLoading delivery =>
      cases hNext
      rw [onLoading, loadProduct_eq]
      exact hSearched
  | rebuild =>
      cases hNext
      exact hSearched
  | type name =>
      cases hNext
      exact hSearched
  | search name =>
      rw [eq_initState_of_search hNext]
      rfl

/-
  While the text is the one searched for, a load is given
  the next page exactly if there are no results.
-/
theorem inStep_onLoading_iff
    (hName : s.name = s.searched) :
    InStep server s (.onLoading .arrives) ↔
      server.results s.searched = [] := by
  simp only [InStep, added, hName]
  exact Pages.slice_one_eq_iff server.perPage_pos
    (server.distinct _) (by omega)

end SearchBlogList

end NewsCentral

------------------------------------------------------------
-- Every Sequence Of Events
------------------------------------------------------------

namespace NewsCentral

open Dart EventLoop

namespace SearchBlogList

variable {server : SearchServer}

/- The list as a search for a text mounts it. -/
def mounted
    (server : SearchServer)
    (name : String) : SearchBlogList :=
  initState name (server.page name 1)

/-
  For every server and every text, in every sequence of
  events, the list shows the pages that were loaded exactly
  if all events are in step.
-/
theorem showsResults_iff
    {name : String}
    {es : List Op}
    {s : SearchBlogList}
    (hRun :
      (system server).Run System.anyStep
        (mounted server name) es s) :
    (system server).Always
        (fun _ t => ShowsResults server t)
        (mounted server name) es ↔
      (system server).Run (InStep server)
        (mounted server name) es s := by
  refine System.always_iff_run
    (I := fun t => Searched server t ∧ ShowsResults server t)
    ⟨rfl, showsResults_iff_upTo.mpr rfl⟩ ?_ ?_ ?_ hRun
  · rintro t op u ⟨hSearched, hShows⟩ hIn hNext
    exact
      ⟨hSearched.step hNext,
        (showsResults_step_iff hSearched hShows hNext).mpr
          hIn⟩
  · rintro t ⟨_, hShows⟩
    exact hShows
  · rintro t op u ⟨hSearched, hShows⟩ hBroken hNext hGood
    exact hBroken
      ((showsResults_step_iff hSearched hShows hNext).mp
        hGood)

/- The posts that the server below finds for any text. -/
def foundBlog (id : Int) : BlogNews where
  categoryId := some 1
  id := some id

/- A server with two results, each on its own page. -/
def twoResults : SearchServer where
  http := fun _ =>
    .ok
      ⟨200,
        some (.arr
          [.obj
            [("categories", .arr [.int 1]),
              ("id", .int 1)]])⟩
  unescape := id
  results := fun _ => [foundBlog 1, foundBlog 2]
  perPage := 1
  perPage_pos := by decide
  distinct := fun _ => by decide
  firstPage := fun _ => rfl

/- A refresh, a rebuild and a new search, without a load. -/
def withoutLoads : List Op :=
  [.onRefresh .arrives, .rebuild, .search "b"]

theorem showsResults_withoutLoads :
    ∃ s,
      (system twoResults).Run System.anyStep
        (mounted twoResults "a") withoutLoads s ∧
      s.blogs = [foundBlog 1] ∧
      (system twoResults).Always
        (fun _ t => ShowsResults twoResults t)
        (mounted twoResults "a") withoutLoads := by
  have hRun :
      ∃ s,
        (system twoResults).Run (InStep twoResults)
          (mounted twoResults "a") withoutLoads s ∧
        s.blogs = [foundBlog 1] :=
    ⟨_, System.run_iff_exec.mpr ⟨by decide, rfl⟩, rfl⟩
  rcases hRun with ⟨s, hRun, hBlogs⟩
  exact ⟨s, hRun.any, hBlogs,
    (showsResults_iff hRun.any).mpr hRun⟩

/- More is loaded, and the first page comes again. -/
theorem first_result_again :
    ∃ s,
      (system twoResults).Run System.anyStep
        (mounted twoResults "a") [.onLoading .arrives] s ∧
      s.blogs = [foundBlog 1, foundBlog 1] ∧
      Pages.upTo (twoResults.page "a") 2 =
        [foundBlog 1, foundBlog 2] ∧
      ¬ ShowsResults twoResults s := by
  refine ⟨_, System.run_of_exec rfl, rfl, rfl, ?_⟩
  intro hShows
  exact absurd hShows.2 (by decide)

end SearchBlogList

end NewsCentral
