import NewsCentral.EventLoop.Program
import NewsCentral.Lists.Pages
import NewsCentral.Services.WordPress

/-
  The vertical feed of the home layout:
  `lib/widgets/blog/vertical/vertical_layout.dart`.

  Each visibility change moves the page and writes it into
  the config before it is looked at whether more may be
  loaded, and asks without waiting for earlier answers.  An
  answer adds its posts wherever the feed then is.

  Key definitions include:
    * `NewsCentral.VerticalView`
    * `NewsCentral.VerticalView.loadProduct`
    * `NewsCentral.VerticalView.program`
    * `NewsCentral.VerticalView.Gapless`
    * `NewsCentral.VerticalView.ArrivesInOrder`

  Key theorems include:
    * `NewsCentral.VerticalView.Fed.resume`
    * `NewsCentral.VerticalView.gapless_iff`
-/

------------------------------------------------------------
-- The Feed
------------------------------------------------------------

namespace NewsCentral

open Dart EventLoop

/-
  `_VerticalViewLayoutState` with the config of its widget.
  The numbers of the pages that have arrived are a history.
-/
structure VerticalView where
  config : Json
  blogs : List BlogNews := []
  page : Nat := 0
  canLoad : Bool := true
  received : List Nat := []

namespace VerticalView

/- The detector tells of a change of the visibility. -/
inductive Op where
  | visibilityChanged
deriving DecidableEq

/- A request, with the number of its page. -/
structure Point where
  number : Nat
  config : Json
deriving DecidableEq

/- `_loadProduct`, up to its request. -/
def loadProduct
    (s : VerticalView) : VerticalView × List Point :=
  let s := { s with page := s.page + 1 }
  match s.config.setIndex "page" (.int s.page) with
  | .error _ => (s, [])
  | .ok config =>
      let s := { s with config := config }
      if s.canLoad then
        (s, [⟨s.page, config⟩])
      else
        (s, [])

/- `_loadProduct` with the posts of a page. -/
def gotBlogs
    (number : Nat)
    (newBlogs : List BlogNews)
    (s : VerticalView) : VerticalView :=
  { s with
    canLoad := s.canLoad && !newBlogs.isEmpty
    blogs := s.blogs ++ newBlogs
    received := s.received ++ [number] }

/- What the service gives for a config. -/
def fetched
    (http : Http)
    (unescape : String → String)
    (config : Json) : Except Thrown (List BlogNews) :=
  newsService.fetchBlogLayout http unescape config "en"

def resume
    (http : Http)
    (unescape : String → String)
    (point : Point)
    (delivery : Delivery)
    (s : VerticalView) : VerticalView × List Point :=
  match delivery with
  | .fails => (s, [])
  | .arrives =>
      match fetched http unescape point.config with
      | .error _ => (s, [])
      | .ok newBlogs => (s.gotBlogs point.number newBlogs, [])

/- The feed on the event loop, in front of one server. -/
def program
    (http : Http)
    (unescape : String → String) :
    Program VerticalView Op Point Delivery where
  call := fun _ s => some s.loadProduct
  resume := resume http unescape
  queued := fun _ => false

/- `initState` -/
def mounted (config : Json) : Pool VerticalView Point :=
  ⟨(loadProduct { config := config }).1,
    (loadProduct { config := config }).2⟩

end VerticalView

end NewsCentral

------------------------------------------------------------
-- The Property And Its Condition
------------------------------------------------------------

namespace NewsCentral

open Dart EventLoop

namespace VerticalView

variable (http : Http) (unescape : String → String)
variable (config : Json)

/- A page of the section, empty if it cannot be had. -/
def sectionPage (n : Nat) : List BlogNews :=
  ((config.setIndex "page" (.int n)).bind
    (fetched http unescape)).toOption.getD []

/-
  The pages that have arrived are the first ones, each once
  and in order, and the feed is made of them.
-/
def Gapless (s : VerticalView) : Prop :=
  ∃ n,
    s.received = List.range' 1 n ∧
      s.blogs = Pages.upTo (sectionPage http unescape config) n

/-
  Whenever no request is in flight the feed is gapless, and
  at all times nothing comes after an empty page.
-/
def KeepsOrder (p : Pool VerticalView Point) : Prop :=
  (p.Quiescent → Gapless http unescape config p.shared) ∧
    Pages.EndsAtEmpty (sectionPage http unescape config)
      p.shared.received

/-
  A page arrives after all the pages before it, and behind
  an empty page only an empty one.
-/
def ArrivesInOrder
    (s : VerticalView)
    (_ : List Point)
    (point : Point) :
    Delivery → Prop
  | .fails => True
  | .arrives =>
      match fetched http unescape point.config with
      | .error _ => True
      | .ok newBlogs =>
          point.number = s.received.length + 1 ∧
            (s.canLoad = true ∨ newBlogs = [])

/- The detector is not restricted. -/
def anyChange
    (_ : VerticalView)
    (_ : List Point)
    (_ : Op) : Prop := True

instance
    (s : VerticalView)
    (rest : List Point)
    (op : Op) :
    Decidable (anyChange s rest op) :=
  isTrue trivial

instance
    (s : VerticalView)
    (rest : List Point)
    (point : Point)
    (delivery : Delivery) :
    Decidable
      (ArrivesInOrder http unescape s rest point
        delivery) := by
  cases delivery with
  | fails => exact isTrue trivial
  | arrives =>
      unfold ArrivesInOrder
      cases fetched http unescape point.config <;>
        infer_instance

/-
  In every run: the requests are for pages of the section,
  the feed is made of what has arrived, and loading has
  ended exactly if an empty page was among that.
-/
structure Fed
    (s : VerticalView)
    (pending : List Point) : Prop where
  sameSection :
    ∀ v, s.config.setIndex "page" v =
      config.setIndex "page" v
  asked :
    ∀ point ∈ pending,
      config.setIndex "page" (.int point.number) =
        .ok point.config
  blogs :
    s.blogs =
      Pages.ofNumbers (sectionPage http unescape config)
        s.received
  ended :
    s.canLoad = false ↔
      [] ∈ s.received.map (sectionPage http unescape config)

end VerticalView

end NewsCentral

------------------------------------------------------------
-- Every Step
------------------------------------------------------------

namespace NewsCentral

open Dart EventLoop

namespace VerticalView

variable {http : Http} {unescape : String → String}
variable {config : Json}
variable {s : VerticalView} {pending : List Point}
variable {earlier later : List Point} {point : Point}

/- A request for a page gives the page, where it succeeds. -/
theorem sectionPage_of_fetched
    {newBlogs : List BlogNews}
    (hAsked :
      config.setIndex "page" (.int point.number) =
        .ok point.config)
    (hFetched :
      fetched http unescape point.config = .ok newBlogs) :
    sectionPage http unescape config point.number =
      newBlogs := by
  simp only [sectionPage, hAsked, Except.bind, hFetched]
  rfl

/- A load asks for the page after the last one asked for. -/
theorem Fed.loadProduct
    (hFed : Fed http unescape config s pending) :
    Fed http unescape config s.loadProduct.1
      (pending ++ s.loadProduct.2) := by
  unfold VerticalView.loadProduct
  cases hPage :
      s.config.setIndex "page" (.int ↑(s.page + 1)) with
  | error e =>
      simp only [hPage, List.append_nil]
      exact
        ⟨hFed.sameSection, hFed.asked, hFed.blogs,
          hFed.ended⟩
  | ok next =>
      have hSame :
          ∀ v, next.setIndex "page" v =
            config.setIndex "page" v := by
        intro v
        rw [Json.setIndex_setIndex hPage,
          hFed.sameSection v]
      have hAsked :
          config.setIndex "page" (.int ↑(s.page + 1)) =
            .ok next := by
        rw [← hFed.sameSection]
        exact hPage
      simp only [hPage]
      split
      · refine ⟨hSame, ?_, hFed.blogs, hFed.ended⟩
        intro asked hMem
        rcases List.mem_append.mp hMem with hOld | hNew
        · exact hFed.asked asked hOld
        · rw [List.mem_singleton.mp hNew]
          exact hAsked
      · rw [List.append_nil]
        exact ⟨hSame, hFed.asked, hFed.blogs, hFed.ended⟩

/- A request is over. -/
theorem Fed.drop
    (hFed : Fed http unescape config s
      (earlier ++ point :: later)) :
    Fed http unescape config s (earlier ++ later) :=
  ⟨hFed.sameSection,
    fun asked hMem => hFed.asked asked (mem_of_mem_rest hMem),
    hFed.blogs, hFed.ended⟩

/- An answer adds its page. -/
theorem Fed.gotBlogs
    {newBlogs : List BlogNews}
    {number : Nat}
    (hFed : Fed http unescape config s pending)
    (hPage :
      sectionPage http unescape config number = newBlogs) :
    Fed http unescape config (s.gotBlogs number newBlogs)
      pending where
  sameSection := hFed.sameSection
  asked := hFed.asked
  blogs := by
    simp only [VerticalView.gotBlogs, Pages.ofNumbers_append,
      Pages.ofNumbers_singleton, hFed.blogs, hPage]
  ended := by
    simp only [VerticalView.gotBlogs, List.map_append,
      List.mem_append, List.map_cons, List.map_nil,
      List.mem_singleton, hPage, ← hFed.ended]
    cases newBlogs with
    | nil => simp
    | cons blog rest => simp

/- An answer, or a failure, keeps what every run keeps. -/
theorem Fed.resume
    {delivery : Delivery}
    (hFed : Fed http unescape config s
      (earlier ++ point :: later)) :
    Fed http unescape config
      (resume http unescape point delivery s).1
      (earlier ++ later ++
        (resume http unescape point delivery s).2) := by
  cases delivery with
  | fails =>
      simp only [VerticalView.resume, List.append_nil]
      exact hFed.drop
  | arrives =>
      simp only [VerticalView.resume]
      cases hFetched : fetched http unescape point.config with
      | error e =>
          simp only [List.append_nil]
          exact hFed.drop
      | ok newBlogs =>
          simp only [List.append_nil]
          exact hFed.drop.gotBlogs
            (sectionPage_of_fetched
              (hFed.asked point (by simp)) hFetched)

/- The pages have arrived in order, up to an empty one. -/
def InOrder
    (http : Http)
    (unescape : String → String)
    (config : Json)
    (s : VerticalView) : Prop :=
  (∃ n, s.received = List.range' 1 n) ∧
    Pages.EndsAtEmpty (sectionPage http unescape config)
      s.received

/- Of a page that arrives, exactly when it is in order. -/
theorem inOrder_gotBlogs_iff
    {newBlogs : List BlogNews}
    {number : Nat}
    (hFed : Fed http unescape config s pending)
    (hPage :
      sectionPage http unescape config number = newBlogs)
    (hOrder : InOrder http unescape config s) :
    InOrder http unescape config
        (s.gotBlogs number newBlogs) ↔
      number = s.received.length + 1 ∧
        (s.canLoad = true ∨ newBlogs = []) := by
  rcases hOrder with ⟨⟨n, hReceived⟩, hEnds⟩
  have hLength : s.received.length = n := by
    simp [hReceived]
  have hLast :
      ([] ∈
            s.received.map
              (sectionPage http unescape config) →
          newBlogs = []) ↔
        s.canLoad = true ∨ newBlogs = [] := by
    rw [← hFed.ended]
    cases s.canLoad <;> simp
  simp only [InOrder, VerticalView.gotBlogs,
    Pages.endsAtEmpty_append_singleton_iff, hPage, hLast,
    hLength, hEnds, true_and]
  refine and_congr_left fun _ => ?_
  constructor
  · rintro ⟨m, hMore⟩
    rw [hReceived, Pages.range'_one_append_iff] at hMore
    exact hMore.1
  · intro hNumber
    refine ⟨n + 1, ?_⟩
    rw [hReceived, Pages.range'_one_append_iff]
    exact ⟨hNumber, rfl⟩

/- Of an answer, exactly when it is in order. -/
theorem inOrder_resume_iff
    {delivery : Delivery}
    (hFed : Fed http unescape config s
      (earlier ++ point :: later))
    (hOrder : InOrder http unescape config s) :
    InOrder http unescape config
        (resume http unescape point delivery s).1 ↔
      ArrivesInOrder http unescape s (earlier ++ later) point
        delivery := by
  cases delivery with
  | fails => exact iff_of_true hOrder trivial
  | arrives =>
      simp only [resume, ArrivesInOrder]
      cases hFetched : fetched http unescape point.config with
      | error e => exact iff_of_true hOrder trivial
      | ok newBlogs =>
          exact inOrder_gotBlogs_iff hFed
            (sectionPage_of_fetched
              (hFed.asked point (by simp)) hFetched) hOrder

end VerticalView

end NewsCentral

------------------------------------------------------------
-- Every Run
------------------------------------------------------------

namespace NewsCentral

open Dart EventLoop

namespace VerticalView

variable {http : Http} {unescape : String → String}
variable {config : Json}
variable {es : List (Event Op Delivery)}
variable {p q : Pool VerticalView Point}

/- A load that starts adds nothing yet. -/
theorem loadProduct_received
    (s : VerticalView) :
    s.loadProduct.1.received = s.received := by
  simp only [loadProduct]
  repeat' split
  all_goals rfl

/- The detector starts a load. -/
theorem loadProduct_of_call
    {op : Op}
    {s s' : VerticalView}
    {next : List Point}
    (hCall :
      (program http unescape).call op s = some (s', next)) :
    s' = s.loadProduct.1 ∧ next = s.loadProduct.2 := by
  have hLoad : s.loadProduct = (s', next) :=
    Option.some.inj hCall
  rw [hLoad]
  exact ⟨rfl, rfl⟩

theorem fed_of_run
    (hRun :
      (program http unescape).system.Run System.anyStep
        (mounted config) es p) :
    Fed http unescape config p.shared p.pending := by
  have hEmpty :
      Fed http unescape config { config := config } [] :=
    ⟨fun _ => rfl, by simp, rfl, by simp⟩
  refine Program.run_invariant
    (I := fun _ s pending =>
      Fed http unescape config s pending)
    (Program.run_when_true hRun) hEmpty.loadProduct ?_ ?_
  · intro _ s pending op s' next hFed _ hCall
    rcases loadProduct_of_call hCall with ⟨rfl, rfl⟩
    exact hFed.loadProduct
  · intro _ s earlier point later delivery hFed _ _
    exact hFed.resume

/- What has arrived stays. -/
theorem received_prefix_of_run
    (hRun :
      (program http unescape).system.Run System.anyStep p es
        q) :
    p.shared.received <+: q.shared.received := by
  refine Program.run_invariant
    (I := fun _ s _ => p.shared.received <+: s.received)
    (Program.run_when_true hRun) (List.prefix_refl _) ?_ ?_
  · intro _ s _ _ s' _ hPrefix _ hCall
    rcases loadProduct_of_call hCall with ⟨rfl, rfl⟩
    rw [loadProduct_received]
    exact hPrefix
  · intro _ s _ point _ delivery hPrefix _ _
    refine hPrefix.trans ?_
    simp only [program, resume]
    repeat' split
    all_goals first
      | exact List.prefix_refl _
      | exact List.prefix_append _ _

/- Order at the end of a run was order all along. -/
theorem InOrder.of_run
    (hOrder : InOrder http unescape config q.shared)
    (hRun :
      (program http unescape).system.Run System.anyStep p es
        q) :
    InOrder http unescape config p.shared := by
  have hPrefix := received_prefix_of_run hRun
  rcases hOrder with ⟨⟨n, hReceived⟩, hEnds⟩
  constructor
  · rw [hReceived] at hPrefix
    exact Pages.exists_range'_of_prefix hPrefix
  · rcases hPrefix with ⟨rest, hSplit⟩
    rw [← hSplit] at hEnds
    exact hEnds.of_append

/- All along, order is exactly that answers are in order. -/
theorem inOrder_iff
    (hRun :
      (program http unescape).system.Run System.anyStep
        (mounted config) es p) :
    (program http unescape).system.Always
        (fun _ u => InOrder http unescape config u.shared)
        (mounted config) es ↔
      (program http unescape).system.Run
        (Program.when anyChange
          (ArrivesInOrder http unescape))
        (mounted config) es p := by
  refine Program.always_iff_run
    (I := fun s pending =>
      Fed http unescape config s pending ∧
        InOrder http unescape config s)
    (G := fun s _ => InOrder http unescape config s)
    ⟨fed_of_run .nil, ?_⟩ ?_ ?_ ?_ ?_ ?_ hRun
  · have hNone :
        (mounted config).shared.received = [] :=
      loadProduct_received _
    rw [InOrder, hNone]
    exact ⟨⟨0, rfl⟩, trivial⟩
  · rintro s pending op s' next ⟨hFed, hOrder⟩ _ hCall
    rcases loadProduct_of_call hCall with ⟨rfl, rfl⟩
    refine ⟨hFed.loadProduct, ?_⟩
    rw [InOrder, loadProduct_received]
    exact hOrder
  · rintro s earlier point later delivery ⟨hFed, hOrder⟩ hNext
    exact
      ⟨hFed.resume,
        (inOrder_resume_iff hFed hOrder).mpr hNext⟩
  · rintro s pending ⟨_, hOrder⟩
    exact hOrder
  · intro s pending op s' next _ hBroken
    exact absurd trivial hBroken
  · rintro s earlier point later delivery
      ⟨hFed, hOrder⟩ hBroken hAfter
    exact hBroken ((inOrder_resume_iff hFed hOrder).mp hAfter)

/-
  In front of every server, in every run of the feed to a
  moment with no request in flight, the feed keeps its order
  exactly if the pages arrive in order, and nothing but
  empty pages behind an empty one.
-/
theorem gapless_iff
    (hRun :
      (program http unescape).system.Run System.anyStep
        (mounted config) es p)
    (hRest : p.Quiescent) :
    (program http unescape).system.Always
        (fun _ u => KeepsOrder http unescape config u)
        (mounted config) es ↔
      (program http unescape).system.Run
        (Program.when anyChange
          (ArrivesInOrder http unescape))
        (mounted config) es p := by
  rw [← inOrder_iff hRun]
  constructor
  · intro hKeeps es₁ es₂ u hSplit hVisit
    subst hSplit
    rcases hRun.exists_of_append with ⟨v, hFirst, hSecond⟩
    cases hVisit.deterministic hFirst
    have hLast := hKeeps _ [] p (by simp) hRun
    rcases hLast.1 hRest with ⟨n, hReceived, _⟩
    exact InOrder.of_run ⟨⟨n, hReceived⟩, hLast.2⟩ hSecond
  · intro hOrder es₁ es₂ u hSplit hVisit
    have hHere := hOrder es₁ es₂ u hSplit hVisit
    refine ⟨fun _ => ?_, hHere.2⟩
    rcases hHere.1 with ⟨n, hReceived⟩
    refine ⟨n, hReceived, ?_⟩
    rw [(fed_of_run hVisit).blogs, hReceived,
      Pages.ofNumbers_range']

/- A server of two pages with one post each. -/
def twoPageServer : Http := fun request =>
  let post (id : Int) : Json :=
    .arr
      [.obj
        [("categories", .arr [.int 1]), ("id", .int id)]]
  .ok
    ⟨200,
      some
        (if request = newsService.getRequest
            "posts?_embed&per_page=10&lang=en&page=1" then
          post 1
        else if request = newsService.getRequest
            "posts?_embed&per_page=10&lang=en&page=2" then
          post 2
        else
          .arr [])⟩

/- Three loads, each after the answer before. -/
def threeLoads : List (Event Op Delivery) :=
  [ .resume 0 .arrives, .call .visibilityChanged,
    .resume 0 .arrives, .call .visibilityChanged,
    .resume 0 .arrives ]

theorem gapless_threeLoads :
    ∃ p,
      (program twoPageServer id).system.Run System.anyStep
        (mounted (.obj [])) threeLoads p ∧
      p.shared.blogs.map (·.id) = [some 1, some 2] ∧
      (program twoPageServer id).system.Always
        (fun _ u => KeepsOrder twoPageServer id (.obj []) u)
        (mounted (.obj [])) threeLoads := by
  have hRun :
      ∃ p,
        (program twoPageServer id).system.Run
          (Program.when anyChange
            (ArrivesInOrder twoPageServer id))
          (mounted (.obj [])) threeLoads p ∧
        p.Quiescent ∧
        p.shared.blogs.map (·.id) = [some 1, some 2] :=
    ⟨_, System.run_iff_exec.mpr ⟨by decide, rfl⟩, rfl, rfl⟩
  rcases hRun with ⟨p, hRun, hRest, hBlogs⟩
  exact ⟨p, hRun.any, hBlogs,
    (gapless_iff hRun.any hRest).mpr hRun⟩

/-
  The detector calls twice before an answer arrives, and the
  second page arrives first.
-/
theorem second_page_first :
    ∃ p,
      (program twoPageServer id).system.Run System.anyStep
        (mounted (.obj []))
        [.call .visibilityChanged, .resume 1 .arrives,
          .resume 0 .arrives] p ∧
      p.Quiescent ∧
      p.shared.blogs.map (·.id) = [some 2, some 1] ∧
      ¬ KeepsOrder twoPageServer id (.obj []) p := by
  refine ⟨_, System.run_of_exec rfl, rfl, rfl, ?_⟩
  intro hKeeps
  rcases hKeeps.1 rfl with ⟨n, hReceived, _⟩
  have hLength := congrArg List.length hReceived
  simp only [List.length_range'] at hLength
  subst hLength
  exact absurd hReceived (by decide)

end VerticalView

end NewsCentral
