import NewsCentral.EventLoop.System
import NewsCentral.Lists.Pages
import NewsCentral.Services.WordPress

/-
  The list of posts of `lib/widgets/blog/blog_list_view.dart`.

  A refresh sets the counter back and asks for the first
  page, but does not show what it is given.  A load moves
  the counter before it asks, and appends what it is given.

  Key definitions include:
    * `NewsCentral.BlogListView`
    * `NewsCentral.BlogListView.getBlogs`
    * `NewsCentral.BlogListView.onRefresh` and `onLoading`
    * `NewsCentral.BlogListView.KeepsPrefix`
    * `NewsCentral.BlogListView.InStep`

  Key theorems include:
    * `NewsCentral.BlogListView.keepsPrefix_step_iff`
    * `NewsCentral.BlogListView.keepsPrefix_iff`
-/

------------------------------------------------------------
-- The Handlers
------------------------------------------------------------

namespace NewsCentral

open Dart EventLoop

/- `BlogNews.getBlogs`, with the address of a site. -/
def BlogNews.getBlogs
    (http : Http)
    (url : Json)
    (page : Nat) : Except Thrown Json := do
  let response ←
    http
      { method := .get
        url :=
          url.toText ++ "/wp-json/wp/v2/posts?_embed&page=" ++
            toString page }
  response.jsonDecode

/-
  `_BlogListState`.  As histories it has the last page whose
  posts are in the list, none while that shows placeholders,
  and whether the last event was given posts.
-/
structure BlogListView where
  page : Nat := 1
  isEnd : Bool := false
  blogList : List BlogNews
  listed : Option Nat
  received : Bool := false

/-
  Where the posts come from: the server, the configuration
  with its address, and the category, if the list has one.
-/
structure BlogSource where
  http : Http
  unescape : String → String
  appConfig : Json
  cateId : Option Int

namespace BlogListView

/- `_getBlogs` -/
def getBlogs
    (source : BlogSource)
    (page : Nat) : Except Thrown (List BlogNews) := do
  match source.cateId with
  | none =>
      let server ← source.appConfig.index "server"
      WordPress.decodeBlogs source.unescape
        (← BlogNews.getBlogs source.http server page)
  | some cateId =>
      newsService.fetchBlogsByCategory source.http
        source.unescape (some cateId) page "en"

def emptyList : List BlogNews :=
  [ BlogNews.empty 1, BlogNews.empty 2, BlogNews.empty 3,
    BlogNews.empty 4, BlogNews.empty 5, BlogNews.empty 6 ]

/- `initState` -/
def initState
    (blogs : Option (List BlogNews)) : BlogListView :=
  match blogs with
  | none => { blogList := emptyList, listed := none }
  | some [] => { blogList := emptyList, listed := none }
  | some (blog :: rest) =>
      { blogList := blog :: rest, listed := some 1 }

/- A pull to refresh; the posts are not kept. -/
def onRefresh
    (source : BlogSource)
    (delivery : Delivery)
    (s : BlogListView) : BlogListView :=
  let s := { s with page := 1, isEnd := false }
  match delivery.deliver (getBlogs source s.page) with
  | .error _ => { s with received := false }
  | .ok blogs => { s with received := !blogs.isEmpty }

/- The posts of a page are appended. -/
def gotBlogs
    (newBlogs : List BlogNews)
    (s : BlogListView) : BlogListView :=
  { s with
    isEnd := s.isEnd || newBlogs.isEmpty
    blogList := s.blogList ++ newBlogs
    listed :=
      if newBlogs.isEmpty then
        s.listed
      else
        s.listed.map fun _ => s.page
    received := !newBlogs.isEmpty }

/- More posts are loaded. -/
def onLoading
    (source : BlogSource)
    (delivery : Delivery)
    (s : BlogListView) : BlogListView :=
  if s.isEnd then
    { s with received := false }
  else
    let s := { s with page := s.page + 1 }
    match delivery.deliver (getBlogs source s.page) with
    | .error _ => { s with received := false }
    | .ok newBlogs => s.gotBlogs newBlogs

/- An event that has completed, well or not. -/
inductive Op where
  | onRefresh (delivery : Delivery)
  | onLoading (delivery : Delivery)
deriving DecidableEq

/- The list as a system of completed events. -/
def system
    (source : BlogSource) : System BlogListView Op where
  step s
    | .onRefresh delivery =>
        some (s.onRefresh source delivery)
    | .onLoading delivery =>
        some (s.onLoading source delivery)

end BlogListView

end NewsCentral

------------------------------------------------------------
-- The Property And Its Condition
------------------------------------------------------------

namespace NewsCentral

open Dart EventLoop

namespace BlogListView

variable (source : BlogSource)

/- A page of the source, empty if it cannot be had. -/
def sourcePage (n : Nat) : List BlogNews :=
  (getBlogs source n).toOption.getD []

/- Null, empty, or the first page of the source. -/
def FromSource (blogs : Option (List BlogNews)) : Prop :=
  blogs = none ∨ blogs = some [] ∨
    blogs = some (sourcePage source 1)

/-
  After an event with posts the list has no placeholder and
  is made of the pages up to the counter.
-/
def KeepsPrefix (s : BlogListView) : Prop :=
  s.received = true →
    (∀ id, BlogNews.empty id ∉ s.blogList) ∧
      s.blogList = Pages.upTo (sourcePage source) s.page

/- What is asked of the posts that are given, if any are. -/
def Given
    (condition : Prop) :
    Except Thrown (List BlogNews) → Prop
  | .error _ => True
  | .ok blogs => blogs = [] ∨ condition

/-
  Posts for a refresh come only while nothing is listed
  behind the first page; posts for a load come only while
  all posts up to the counter, and no others, are listed.
  To a list with placeholders none come.
-/
def InStep (s : BlogListView) : Op → Prop
  | .onRefresh delivery =>
      Given
        (∃ l ∈ s.listed, Pages.Blank (sourcePage source) 1 l)
        (delivery.deliver (getBlogs source 1))
  | .onLoading delivery =>
      s.isEnd = true ∨
        Given
          (∃ l ∈ s.listed,
            l ≤ s.page ∧
              Pages.Blank (sourcePage source) l s.page)
          (delivery.deliver (getBlogs source (s.page + 1)))

instance
    (condition : Prop)
    [Decidable condition]
    (result : Except Thrown (List BlogNews)) :
    Decidable (Given condition result) :=
  match result with
  | .error _ => isTrue trivial
  | .ok blogs =>
      inferInstanceAs (Decidable (blogs = [] ∨ condition))

instance
    (s : BlogListView)
    (op : Op) :
    Decidable (InStep source s op) := by
  cases op <;> unfold InStep <;> infer_instance

/-
  While every event is in step, the list is made of the
  pages up to the one listed last, or of placeholders.
-/
def Listed (s : BlogListView) : Prop :=
  match s.listed with
  | none => s.blogList = emptyList
  | some l =>
      1 ≤ l ∧ s.blogList = Pages.upTo (sourcePage source) l

end BlogListView

end NewsCentral

------------------------------------------------------------
-- Steps
------------------------------------------------------------

namespace NewsCentral

open Dart EventLoop

namespace BlogListView

variable {source : BlogSource} {s : BlogListView}

/- What the source gives is decoded, so no placeholder. -/
theorem not_mem_getBlogs
    {n : Nat}
    {blogs : List BlogNews}
    (hBlogs : getBlogs source n = .ok blogs)
    (id : Int) :
    BlogNews.empty id ∉ blogs := by
  have hDecoded :
      ∃ response,
        WordPress.decodeBlogs source.unescape response =
          .ok blogs := by
    simp only [getBlogs, WordPress.fetchBlogsByCategory, bind,
      Except.bind] at hBlogs
    repeat' split at hBlogs
    all_goals first
      | cases hBlogs
      | exact ⟨_, hBlogs⟩
  rcases hDecoded with ⟨response, hDecoded⟩
  intro hMem
  rcases WordPress.exists_fromJson_of_decodeBlogs hDecoded _
      hMem with ⟨parsedJson, hEq⟩
  exact BlogNews.fromJson_ne_empty _ _ _ hEq.symm

theorem not_mem_upTo
    (n : Nat)
    (id : Int) :
    BlogNews.empty id ∉
      Pages.upTo (sourcePage source) n := by
  induction n with
  | zero => simp
  | succ n ih =>
      rw [Pages.upTo_succ, List.mem_append, not_or]
      refine ⟨ih, ?_⟩
      unfold sourcePage
      cases hPage : getBlogs source (n + 1) with
      | error e => simp [Except.toOption]
      | ok blogs => exact not_mem_getBlogs hPage id

/- The placeholders are no posts of the source. -/
theorem empty_mem_emptyList :
    BlogNews.empty 1 ∈ emptyList := by
  simp [emptyList]

/- Posts that are given are the page asked for. -/
theorem sourcePage_of_deliver
    {delivery : Delivery}
    {n : Nat}
    {blogs : List BlogNews}
    (hGiven :
      delivery.deliver (getBlogs source n) = .ok blogs) :
    sourcePage source n = blogs := by
  cases delivery with
  | fails => cases hGiven
  | arrives =>
      have hBlogs : getBlogs source n = .ok blogs := hGiven
      rw [sourcePage, hBlogs]
      rfl

/- What a refresh with posts asks of the list. -/
theorem refreshed_iff
    (hListed : Listed source s) :
    ((∀ id, BlogNews.empty id ∉ s.blogList) ∧
        s.blogList = Pages.upTo (sourcePage source) 1) ↔
      ∃ l ∈ s.listed,
        Pages.Blank (sourcePage source) 1 l := by
  unfold Listed at hListed
  cases hLast : s.listed with
  | none =>
      rw [hLast] at hListed
      refine iff_of_false ?_ (by simp)
      rintro ⟨hNone, _⟩
      exact hNone 1 (hListed ▸ empty_mem_emptyList)
  | some l =>
      rw [hLast] at hListed
      rcases hListed with ⟨hOne, hList⟩
      have hBlank :
          Pages.upTo (sourcePage source) l =
              Pages.upTo (sourcePage source) 1 ↔
            Pages.Blank (sourcePage source) 1 l := by
        rw [← Pages.upTo_eq_iff_blank hOne]
        exact eq_comm
      simp only [Option.mem_some_iff, exists_eq_left', hList,
        hBlank]
      exact and_iff_right fun id => not_mem_upTo l id

/- What a load with posts asks of the list. -/
theorem loaded_iff
    {blogs : List BlogNews}
    (hListed : Listed source s)
    (hPage : sourcePage source (s.page + 1) = blogs)
    (hPosts : blogs ≠ []) :
    ((∀ id, BlogNews.empty id ∉ s.blogList ++ blogs) ∧
        s.blogList ++ blogs =
          Pages.upTo (sourcePage source) (s.page + 1)) ↔
      ∃ l ∈ s.listed,
        l ≤ s.page ∧
          Pages.Blank (sourcePage source) l s.page := by
  unfold Listed at hListed
  cases hLast : s.listed with
  | none =>
      rw [hLast] at hListed
      refine iff_of_false ?_ (by simp)
      rintro ⟨hNone, _⟩
      refine hNone 1 (List.mem_append_left _ ?_)
      exact hListed ▸ empty_mem_emptyList
  | some l =>
      rw [hLast] at hListed
      rw [hListed.2, Pages.upTo_succ, hPage,
        List.append_cancel_right_eq,
        Pages.upTo_eq_iff (by rw [hPage]; exact hPosts)]
      simp only [Option.mem_some_iff, exists_eq_left']
      refine and_iff_right_of_imp ?_
      rintro ⟨hLe, hBlank⟩ id
      rw [(Pages.upTo_eq_iff_blank hLe).mpr hBlank, ← hPage,
        ← Pages.upTo_succ]
      exact not_mem_upTo _ id

/- Of each event, exactly when the property survives it. -/
theorem keepsPrefix_step_iff
    {op : Op}
    {t : BlogListView}
    (hListed : Listed source s)
    (hNext : (system source).step s op = some t) :
    KeepsPrefix source t ↔ InStep source s op := by
  cases op with
  | onRefresh delivery =>
      cases hNext
      simp only [InStep, onRefresh]
      cases delivery.deliver (getBlogs source 1) with
      | error e => simp [KeepsPrefix, Given]
      | ok blogs =>
          cases blogs with
          | nil => simp [KeepsPrefix, Given]
          | cons blog rest =>
              simp only [KeepsPrefix, Given,
                List.isEmpty_cons, Bool.not_false,
                forall_const, List.cons_ne_nil, false_or]
              exact refreshed_iff hListed
  | onLoading delivery =>
      cases hNext
      simp only [InStep, onLoading]
      cases hEnd : s.isEnd with
      | true => simp [KeepsPrefix]
      | false =>
          simp only [Bool.false_eq_true, if_false, false_or]
          cases hGiven :
              delivery.deliver
                (getBlogs source (s.page + 1)) with
          | error e => simp [KeepsPrefix, Given]
          | ok blogs =>
              have hPage := sourcePage_of_deliver hGiven
              cases blogs with
              | nil => simp [KeepsPrefix, Given, gotBlogs]
              | cons blog rest =>
                  simp only [KeepsPrefix, Given, gotBlogs,
                    List.isEmpty_cons, Bool.not_false,
                    forall_const, List.cons_ne_nil,
                    false_or]
                  exact loaded_iff hListed hPage (by simp)

/- An event in step keeps the list made of pages. -/
theorem Listed.step
    {op : Op}
    {t : BlogListView}
    (hListed : Listed source s)
    (hNext : (system source).step s op = some t)
    (hIn : InStep source s op) :
    Listed source t := by
  have hKeeps :=
    (keepsPrefix_step_iff hListed hNext).mpr hIn
  cases op with
  | onRefresh delivery =>
      cases hNext
      unfold onRefresh
      simp only
      cases delivery.deliver (getBlogs source 1) <;>
        exact hListed
  | onLoading delivery =>
      cases hNext
      simp only [onLoading] at hKeeps ⊢
      simp only [InStep] at hIn
      cases hEnd : s.isEnd with
      | true => exact hListed
      | false =>
          simp only [hEnd, Bool.false_eq_true, if_false,
            false_or] at hKeeps hIn ⊢
          cases hGiven :
              delivery.deliver
                (getBlogs source (s.page + 1)) with
          | error e => exact hListed
          | ok blogs =>
              cases blogs with
              | nil =>
                  simp only [gotBlogs, List.append_nil]
                  exact hListed
              | cons blog rest =>
                  simp only [hGiven] at hKeeps hIn
                  have hLast := hIn.resolve_left (by simp)
                  rcases hLast with ⟨l, hMem, _⟩
                  simp only [Option.mem_def] at hMem
                  simp only [gotBlogs, Listed, hMem,
                    List.isEmpty_cons, Bool.false_eq_true,
                    if_false, Option.map_some]
                  exact ⟨Nat.le_add_left 1 _, (hKeeps rfl).2⟩

end BlogListView

end NewsCentral

------------------------------------------------------------
-- Every Sequence Of Events
------------------------------------------------------------

namespace NewsCentral

open Dart EventLoop

namespace BlogListView

variable {source : BlogSource}

theorem Listed.initState
    {blogs : Option (List BlogNews)}
    (hBlogs : FromSource source blogs) :
    Listed source (initState blogs) := by
  rcases hBlogs with rfl | rfl | rfl
  · rfl
  · rfl
  · cases hFirst : sourcePage source 1 with
    | nil => rfl
    | cons blog rest =>
        refine ⟨Nat.le_refl 1, ?_⟩
        rw [Pages.upTo_one, hFirst]
        rfl

/-
  Over every source, from every blogs argument, in every
  sequence of events the list keeps its prefix after each
  event with posts exactly if all events are in step.
-/
theorem keepsPrefix_iff
    {blogs : Option (List BlogNews)}
    {es : List Op}
    {s : BlogListView}
    (hBlogs : FromSource source blogs)
    (hRun :
      (system source).Run System.anyStep (initState blogs) es
        s) :
    (system source).Always (fun _ t => KeepsPrefix source t)
        (initState blogs) es ↔
      (system source).Run (InStep source) (initState blogs)
        es s := by
  refine System.always_iff_run
    (I := fun t => Listed source t ∧ KeepsPrefix source t)
    ⟨Listed.initState hBlogs, ?_⟩ ?_ ?_ ?_ hRun
  · intro hReceived
    have hNone : (initState blogs).received = false := by
      unfold initState
      split <;> rfl
    rw [hNone] at hReceived
    cases hReceived
  · rintro t op u ⟨hListed, _⟩ hIn hNext
    exact
      ⟨hListed.step hNext hIn,
        (keepsPrefix_step_iff hListed hNext).mpr hIn⟩
  · rintro t ⟨_, hKeeps⟩
    exact hKeeps
  · rintro t op u ⟨hListed, _⟩ hBroken hNext hGood
    exact hBroken
      ((keepsPrefix_step_iff hListed hNext).mp hGood)

/- A server of three pages with one post each. -/
def threePages : BlogSource where
  http := fun request =>
    let post (id : Int) : Json :=
      .arr
        [.obj
          [("categories", .arr [.int 1]), ("id", .int id)]]
    let asked (page : Nat) : Request :=
      newsService.getRequest
        (WordPress.categoryEndPoint (some 1) page "en")
    .ok
      ⟨200,
        some
          (if request = asked 1 then post 1
          else if request = asked 2 then post 2
          else if request = asked 3 then post 3
          else .arr [])⟩
  unescape := id
  appConfig := .null
  cateId := some 1

/- A refresh before more is loaded, and then all pages. -/
def refreshThenLoad : List Op :=
  [ .onRefresh .arrives, .onLoading .arrives,
    .onLoading .arrives, .onLoading .arrives ]

theorem keepsPrefix_refreshThenLoad :
    ∃ s,
      (system threePages).Run System.anyStep
        (initState (some (sourcePage threePages 1)))
        refreshThenLoad s ∧
      s.blogList.map (·.id) = [some 1, some 2, some 3] ∧
      (system threePages).Always
        (fun _ t => KeepsPrefix threePages t)
        (initState (some (sourcePage threePages 1)))
        refreshThenLoad := by
  have hRun :
      ∃ s,
        (system threePages).Run (InStep threePages)
          (initState (some (sourcePage threePages 1)))
          refreshThenLoad s ∧
        s.blogList.map (·.id) = [some 1, some 2, some 3] :=
    ⟨_, System.run_iff_exec.mpr ⟨by decide, rfl⟩, rfl⟩
  rcases hRun with ⟨s, hRun, hBlogs⟩
  exact ⟨s, hRun.any, hBlogs,
    (keepsPrefix_iff (.inr (.inr rfl)) hRun.any).mpr hRun⟩

/-
  A list without posts is refreshed, as it is at the start:
  the placeholders stay.
-/
theorem placeholders_stay :
    ∃ s,
      (system threePages).Run System.anyStep (initState none)
        [.onRefresh .arrives] s ∧
      s.received = true ∧
      s.blogList = emptyList ∧
      ¬ KeepsPrefix threePages s := by
  refine ⟨_, System.run_of_exec rfl, rfl, rfl, ?_⟩
  intro hKeeps
  exact (hKeeps rfl).1 1 empty_mem_emptyList

end BlogListView

end NewsCentral
