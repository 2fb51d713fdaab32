import NewsCentral.Lists.Pages
import NewsCentral.Posts.Program

/-
  When the posts page shows a gapless sequence of pages.

  The list, the counter of the list widget and the category
  are updated by different parties.  They stay linked while
  each answer is the page at which the counter stands, and
  no request fails that has moved the counter.

  Key definitions include:
    * `NewsCentral.Posts.Gapless`
    * `NewsCentral.Posts.cachedFirst` and `inStep`
    * `NewsCentral.Posts.GaplessInvariant`

  Key theorems include:
    * `NewsCentral.Posts.GaplessInvariant.call`
    * `NewsCentral.Posts.GaplessInvariant.resume`
    * `NewsCentral.Posts.gapless_of_run`
-/

------------------------------------------------------------
-- Pages
------------------------------------------------------------

namespace NewsCentral

open Dart EventLoop

namespace Posts

/-
  The list is that of the first pages of the category, and
  loading more asks for the page after them.
-/
def Gapless
    (pages : Option Int → Nat → List BlogNews)
    (s : Posts) : Prop :=
  ∃ k,
    s.blog.blogList.getD [] =
        Pages.upTo (pages s.newCategoryId) k ∧
      ∀ t next, call .onLoading s = some (t, next) →
        next = [⟨s.newCategoryId, k + 1⟩]

/- The server answers with its pages, when it does. -/
def Served
    (unescape : String → String)
    (lang : String)
    (pages : Option Int → Nat → List BlogNews)
    (fetch : Fetch)
    (http : Http) : Prop :=
  match fetched unescape lang fetch http with
  | .error _ => True
  | .ok blogs => blogs = pages fetch.categoryId fetch.page

/- Cached posts are the first page of their category. -/
def cachedFirst
    (pages : Option Int → Nat → List BlogNews)
    (_ : Posts)
    (_ : List Fetch)
    (op : Op) : Prop :=
  ∀ shown ∈ op.cached, shown.2 = pages shown.1 1

/-
  An answered page is of the selected category, the counter
  stands at it, and it is the first or the next one.  A
  failure finds the counter at the last page of the list, or
  an empty list, unless another answer is still to come.
-/
def inStep
    (unescape : String → String)
    (lang : String)
    (pages : Option Int → Nat → List BlogNews)
    (s : Posts)
    (rest : List Fetch)
    (fetch : Fetch)
    (http : Http) : Prop :=
  Served unescape lang pages fetch http ∧
    match fetched unescape lang fetch http with
    | .error _ =>
        rest ≠ [] ∨ s.listed = s.page ∨ s.listed = 0
    | .ok _ =>
        fetch.categoryId = s.newCategoryId ∧
          fetch.page = s.page ∧
          (fetch.page = 1 ∨ fetch.page = s.listed + 1)

instance
    (unescape : String → String)
    (lang : String)
    (pages : Option Int → Nat → List BlogNews)
    (fetch : Fetch)
    (http : Http) :
    Decidable (Served unescape lang pages fetch http) := by
  unfold Served
  split <;> infer_instance

instance
    (pages : Option Int → Nat → List BlogNews)
    (s : Posts)
    (pending : List Fetch)
    (op : Op) :
    Decidable (cachedFirst pages s pending op) := by
  unfold cachedFirst
  infer_instance

instance
    (unescape : String → String)
    (lang : String)
    (pages : Option Int → Nat → List BlogNews)
    (s : Posts)
    (rest : List Fetch)
    (fetch : Fetch)
    (http : Http) :
    Decidable
      (inStep unescape lang pages s rest fetch http) := by
  unfold inStep
  split <;> infer_instance

end Posts

end NewsCentral

------------------------------------------------------------
-- The Invariant
------------------------------------------------------------

namespace NewsCentral

open Dart EventLoop

namespace Posts

/-
  The list is that of the first `listed` pages of the
  selected category, and unless a request is under way the
  counter stands at the last of them.
-/
structure GaplessInvariant
    (pages : Option Int → Nat → List BlogNews)
    (s : Posts)
    (pending : List Fetch) : Prop where
  pages :
    s.blog.blogList.getD [] =
      Pages.upTo (pages s.newCategoryId) s.listed
  exists_list : s.listed ≠ 0 → s.blog.blogList ≠ none
  counter : pending = [] → s.listed = s.page ∨ s.listed = 0

variable {pages : Option Int → Nat → List BlogNews}
variable {s : Posts} {pending : List Fetch}

/- A new request keeps the list and unties the counter. -/
theorem GaplessInvariant.request
    {fetch : Fetch}
    {t : Posts}
    (hInv : GaplessInvariant pages s pending)
    (hRequest : Requesting s t) :
    GaplessInvariant pages (getBlogsList fetch t).1
      (pending ++ (getBlogsList fetch t).2) := by
  rcases hRequest.list with
    ⟨hEmpty, hZero⟩ | ⟨hList, hListed, hCategory⟩
  · constructor
    · change t.blog.blogList.getD [] =
        Pages.upTo (pages t.newCategoryId) t.listed
      rw [hEmpty, hZero]
      rfl
    · exact fun hListed => absurd hZero hListed
    · simp [getBlogsList]
  · constructor
    · change t.blog.blogList.getD [] =
        Pages.upTo (pages t.newCategoryId) t.listed
      rw [hList, hListed, hCategory]
      exact hInv.pages
    · change t.listed ≠ 0 → t.blog.blogList ≠ none
      rw [hList, hListed]
      exact hInv.exists_list
    · simp [getBlogsList]

/- Every admitted event keeps the invariant. -/
theorem GaplessInvariant.call
    {op : Op}
    {t : Posts}
    {next : List Fetch}
    (hInv : GaplessInvariant pages s pending)
    (hOk : cachedFirst pages s pending op)
    (hCall : Posts.call op s = some (t, next)) :
    GaplessInvariant pages t (pending ++ next) := by
  rcases call_cases hCall with hSame | hCached | hFetch
  · cases hSame
    rw [List.append_nil]
    exact hInv
  · rcases hCached with
      ⟨categoryId, categoryName, blogs, hShown, hTurn⟩
    cases hTurn
    rw [List.append_nil]
    constructor
    · exact hOk (categoryId, blogs) hShown
    · intro _ hNone
      cases hNone
    · intro _
      exact .inl rfl
  · rcases hFetch with ⟨fetch, u, hTurn, hRequest⟩
    cases hTurn
    exact hInv.request hRequest

/- The first page replaces the list. -/
theorem blogList_gotBlogs_first
    (blogs : List BlogNews)
    (m : BlogNewsModel) :
    (m.gotBlogs 1 blogs).blogList = some blogs := by
  simp [BlogNewsModel.gotBlogs]

/- A later page is appended. -/
theorem blogList_gotBlogs_next
    {k : Nat}
    {old : List BlogNews}
    {m : BlogNewsModel}
    (hLater : k ≠ 0)
    (hList : m.blogList = some old)
    (blogs : List BlogNews) :
    (m.gotBlogs (k + 1) blogs).blogList =
      some (old ++ blogs) := by
  unfold BlogNewsModel.gotBlogs
  by_cases hEmpty : blogs = [] <;>
    simp [hEmpty, hLater, hList]

/- An answer in step lists one page more, or the first. -/
theorem GaplessInvariant.accept
    {rest : List Fetch}
    {fetch : Fetch}
    {blogs : List BlogNews}
    (hInv : GaplessInvariant pages s pending)
    (hServed : blogs = pages fetch.categoryId fetch.page)
    (hCategory : fetch.categoryId = s.newCategoryId)
    (hPage : fetch.page = s.page)
    (hNext :
      fetch.page = 1 ∨ fetch.page = s.listed + 1) :
    GaplessInvariant pages (s.accept fetch blogs) rest := by
  have hList :
      (s.accept fetch blogs).blog.blogList =
        some (Pages.upTo (pages s.newCategoryId) fetch.page) := by
    rw [hCategory] at hServed
    change (s.blog.gotBlogs fetch.page blogs).blogList = _
    by_cases hFirst : fetch.page = 1
    · rw [hFirst, blogList_gotBlogs_first, hServed, hFirst,
        Pages.upTo_one]
    · have hLater : fetch.page = s.listed + 1 :=
        hNext.resolve_left hFirst
      have hListed : s.listed ≠ 0 := by omega
      rcases Option.ne_none_iff_exists'.mp
          (hInv.exists_list hListed) with ⟨old, hOld⟩
      have hPages := hInv.pages
      rw [hOld, Option.getD_some] at hPages
      rw [hLater, blogList_gotBlogs_next hListed hOld,
        hServed, hLater, Pages.upTo_succ, hPages]
  constructor
  · rw [hList]
    rfl
  · intro _ hNone
    rw [hList] at hNone
    cases hNone
  · intro _
    exact .inl hPage

/- Every answer in step keeps the invariant. -/
theorem GaplessInvariant.resume
    {unescape : String → String}
    {lang : String}
    {rest : List Fetch}
    {fetch : Fetch}
    {http : Http}
    (hInv : GaplessInvariant pages s pending)
    (hOk : inStep unescape lang pages s rest fetch http) :
    GaplessInvariant pages
      (Posts.resume unescape lang fetch http s).1
      (rest ++
        (Posts.resume unescape lang fetch http s).2) := by
  rcases hOk with ⟨hServed, hStep⟩
  unfold Posts.resume
  unfold Served at hServed
  cases hAnswer : fetched unescape lang fetch http with
  | error thrown =>
      rw [hAnswer] at hStep
      rw [List.append_nil]
      constructor
      · exact hInv.pages
      · exact hInv.exists_list
      · intro hNone
        exact hStep.resolve_left (fun hSome => hSome hNone)
  | ok blogs =>
      rw [hAnswer] at hServed hStep
      rcases hStep with ⟨hCategory, hPage, hNext⟩
      exact hInv.accept hServed hCategory hPage hNext

/- With no request under way, the invariant has no gaps. -/
theorem GaplessInvariant.gapless
    (hInv : GaplessInvariant pages s []) :
    Gapless pages s := by
  refine ⟨s.listed, hInv.pages, ?_⟩
  intro t next hCall
  rcases Option.ite_none_right_eq_some.mp hCall with
    ⟨hCan, hTurn⟩
  cases hTurn
  have hListed : s.listed ≠ 0 := by
    intro hZero
    have hEmpty := hInv.pages
    rw [hZero, Pages.upTo_zero] at hEmpty
    simp [canLoad, canRefresh, hEmpty] at hCan
  rw [(hInv.counter rfl).resolve_right hListed]

/-
  With no request under way after a run whose answers all
  came in step, the list has no gaps.
-/
theorem gapless_of_run
    {unescape : String → String}
    {lang : String}
    {pages : Option Int → Nat → List BlogNews}
    {es : List (Event Op Http)}
    {p : Pool Posts Fetch}
    (hRun :
      (program unescape lang).system.Run
        (Program.when (cachedFirst pages)
          (inStep unescape lang pages))
        launched es p)
    (hQuiescent : p.Quiescent) :
    Gapless pages p.shared := by
  have hInv :
      GaplessInvariant pages p.shared p.pending := by
    refine Program.run_invariant
      (I := fun _ s pending =>
        GaplessInvariant pages s pending)
      hRun ?_ ?_ ?_
    · exact ⟨rfl, fun hListed => absurd rfl hListed,
        fun _ => .inr rfl⟩
    · intro _ s pending op t next hInv hOk hCall
      exact hInv.call hOk hCall
    · intro _ s earlier fetch later http hInv hOk _
      exact hInv.resume hOk
  have hNone : p.pending = [] := hQuiescent
  rw [hNone] at hInv
  exact hInv.gapless

/- A server with three pages of one post each. -/
def threePages (_ : Option Int) (page : Nat) : List BlogNews :=
  if page ≤ 3 then
    [{ id := some page, categoryId := some 5 }]
  else
    []

/- No answer. -/
def offline : Http := fun _ =>
  .error (.error "SocketException" "")

/- Two pages are loaded, and then the list is refreshed. -/
theorem gapless_in_turn :
    ∃ p : Pool Posts Fetch,
      (program id "en").system.Run
        (Program.when (cachedFirst threePages)
          (inStep id "en" threePages))
        launched
        [ .call (tapCategory 5), .resume 0 (postOf 5 1),
          .call .onLoading, .resume 0 (postOf 5 2),
          .call .onRefresh, .resume 0 (postOf 5 1) ]
        p ∧
      Gapless threePages p.shared := by
  have hRun :
      (program id "en").system.Run
        (Program.when (cachedFirst threePages)
          (inStep id "en" threePages))
        launched
        [ .call (tapCategory 5), .resume 0 (postOf 5 1),
          .call .onLoading, .resume 0 (postOf 5 2),
          .call .onRefresh, .resume 0 (postOf 5 1) ] _ :=
    System.run_iff_exec.mpr ⟨by decide, rfl⟩
  exact ⟨_, hRun, gapless_of_run hRun rfl⟩

/-
  Loading the second page fails, and the third is the next
  to be asked for.
-/
theorem failed_load_skips_page :
    ∃ p : Pool Posts Fetch,
      (program id "en").system.Run
        (Program.when (fun _ _ _ => True)
          fun _ _ => Served id "en" threePages)
        launched
        [ .call (tapCategory 5), .resume 0 (postOf 5 1),
          .call .onLoading, .resume 0 offline ]
        p ∧
      p.Quiescent ∧
      p.shared.blog.blogList = some (threePages none 1) ∧
      ((call .onLoading p.shared).map Prod.snd =
        some [⟨some 5, 3⟩]) ∧
      ¬ Gapless threePages p.shared := by
  have hReached :
      ∃ p : Pool Posts Fetch,
        (program id "en").system.Run
          (Program.when (fun _ _ _ => True)
            fun _ _ => Served id "en" threePages)
          launched
          [ .call (tapCategory 5), .resume 0 (postOf 5 1),
            .call .onLoading, .resume 0 offline ]
          p ∧
        p.Quiescent ∧
        p.shared.newCategoryId = some 5 ∧
        p.shared.blog.blogList = some (threePages none 1) ∧
        ((call .onLoading p.shared).map Prod.snd =
          some [⟨some 5, 3⟩]) :=
    ⟨_, System.run_iff_exec.mpr ⟨by decide, rfl⟩,
      rfl, rfl, rfl, rfl⟩
  rcases hReached with
    ⟨p, hRun, hQuiescent, hCategory, hList, hNext⟩
  refine ⟨p, hRun, hQuiescent, hList, hNext, ?_⟩
  rintro ⟨k, hPages, hLoad⟩
  rcases Option.map_eq_some_iff.mp hNext with
    ⟨⟨t, next⟩, hCall, hFetch⟩
  have hAsked : next = [⟨some 5, 3⟩] := hFetch
  have hPage : k = 2 := by
    have hSame := hLoad t next hCall
    rw [hAsked] at hSame
    simp only [List.cons.injEq, Fetch.mk.injEq] at hSame
    omega
  rw [hCategory, hList, hPage] at hPages
  exact absurd hPages (by decide)

end Posts

end NewsCentral
