import NewsCentral.Posts.Program

/-
  When the posts page shows the selected category.

  The model has one list and one flag for all requests, and
  takes in every answer as it comes.  So an answer to an
  earlier selection is shown under the later one, and any
  answer ends the fetching of all.

  Key definitions include:
    * `NewsCentral.Posts.OnlySelected`
    * `NewsCentral.Posts.Awaited`
    * `NewsCentral.Posts.noneAwaited` and `answersSelected`
    * `NewsCentral.Posts.SelectionInvariant`

  Key theorems include:
    * `NewsCentral.Posts.SelectionInvariant.call`
    * `NewsCentral.Posts.SelectionInvariant.resume`
    * `NewsCentral.Posts.selected_of_run`
-/

------------------------------------------------------------
-- Answers And Selections
------------------------------------------------------------

namespace NewsCentral

open Dart EventLoop

namespace Posts

/-
  Every post of the list was answered for the selected
  category.
-/
def OnlySelected (s : Posts) : Prop :=
  ∀ blog ∈ s.blog.blogList.getD [],
    (s.newCategoryId, blog) ∈ s.answered

/- Some request is for the given category. -/
def Awaited
    (categoryId : Option Int)
    (pending : List Fetch) : Prop :=
  ∃ fetch ∈ pending, fetch.categoryId = categoryId

instance
    (s : Posts) :
    Decidable (OnlySelected s) := by
  unfold OnlySelected
  infer_instance

instance
    (categoryId : Option Int)
    (pending : List Fetch) :
    Decidable (Awaited categoryId pending) := by
  unfold Awaited
  infer_instance

/-
  With nothing under way the list is that of the selected
  category and the model at rest; while a request for the
  selected category is under way the model is fetching.
-/
structure ShowsSelected (p : Pool Posts Fetch) : Prop where
  list : p.Quiescent → OnlySelected p.shared
  idle : p.Quiescent → p.shared.blog.isFetching = false
  fetching :
    Awaited p.shared.newCategoryId p.pending →
      p.shared.blog.isFetching = true

/-
  Cached posts are shown while no request for their category
  is under way.
-/
def noneAwaited
    (_ : Posts)
    (pending : List Fetch)
    (op : Op) : Prop :=
  ∀ shown ∈ op.cached, ¬ Awaited shown.1 pending

/-
  An answer comes while no other request for the selected
  category is under way, and is for that category unless it
  brings no posts.
-/
def answersSelected
    (unescape : String → String)
    (lang : String)
    (s : Posts)
    (rest : List Fetch)
    (fetch : Fetch)
    (http : Http) : Prop :=
  ¬ Awaited s.newCategoryId rest ∧
    ∀ blogs ∈ (fetched unescape lang fetch http).toOption,
      blogs = [] ∨ fetch.categoryId = s.newCategoryId

instance
    (s : Posts)
    (pending : List Fetch)
    (op : Op) :
    Decidable (noneAwaited s pending op) := by
  unfold noneAwaited
  infer_instance

instance
    (unescape : String → String)
    (lang : String)
    (s : Posts)
    (rest : List Fetch)
    (fetch : Fetch)
    (http : Http) :
    Decidable
      (answersSelected unescape lang s rest fetch http) := by
  unfold answersSelected
  infer_instance

end Posts

end NewsCentral

------------------------------------------------------------
-- What The Model Does With An Answer
------------------------------------------------------------

namespace NewsCentral

namespace BlogNewsModel

/- Whatever is answered, the fetching is over. -/
@[simp] theorem isFetching_gotBlogs
    (page : Nat)
    (blogs : List BlogNews)
    (m : BlogNewsModel) :
    (m.gotBlogs page blogs).isFetching = false := by
  unfold gotBlogs
  simp only
  split
  · rfl
  · split <;> rfl

/- The list holds answered posts and what it held before. -/
theorem mem_gotBlogs
    {page : Nat}
    {blogs : List BlogNews}
    {m : BlogNewsModel}
    {blog : BlogNews}
    (hMem : blog ∈ (m.gotBlogs page blogs).blogList.getD []) :
    blog ∈ blogs ∨ blog ∈ m.blogList.getD [] := by
  have hEnded :
      (if blogs = [] then { m with isEnd := some true }
        else m).blogList = m.blogList := by
    split <;> rfl
  unfold gotBlogs at hMem
  simp only [hEnded] at hMem
  split at hMem
  next => exact .inl hMem
  next =>
    split at hMem
    next hNone =>
      right
      rw [← hEnded]
      exact hMem
    next old hOld =>
      rcases List.mem_append.mp hMem with hBefore | hNew
      · right
        rw [hOld]
        exact hBefore
      · exact .inl hNew

end BlogNewsModel

end NewsCentral

------------------------------------------------------------
-- The Invariant
------------------------------------------------------------

namespace NewsCentral

open Dart EventLoop

namespace Posts

/- The parts of `ShowsSelected`, the list at all times. -/
structure SelectionInvariant
    (s : Posts)
    (pending : List Fetch) : Prop where
  list : OnlySelected s
  idle : pending = [] → s.blog.isFetching = false
  fetching :
    Awaited s.newCategoryId pending →
      s.blog.isFetching = true

variable {s : Posts} {pending : List Fetch}

/- A request starts the fetching. -/
theorem SelectionInvariant.request
    {fetch : Fetch}
    {t : Posts}
    (hInv : SelectionInvariant s pending)
    (hRequest : Requesting s t) :
    SelectionInvariant (getBlogsList fetch t).1
      (pending ++ (getBlogsList fetch t).2) := by
  constructor
  · change OnlySelected t
    unfold OnlySelected
    rcases hRequest.list with
      ⟨hEmpty, _⟩ | ⟨hList, _, hCategory⟩
    · rw [hEmpty]
      intro blog hMem
      exact absurd hMem List.not_mem_nil
    · rw [hList, hCategory, hRequest.answered]
      exact hInv.list
  · simp [getBlogsList]
  · exact fun _ => rfl

/- Every admitted event keeps the invariant. -/
theorem SelectionInvariant.call
    {op : Op}
    {t : Posts}
    {next : List Fetch}
    (hInv : SelectionInvariant s pending)
    (hOk : noneAwaited s pending op)
    (hCall : Posts.call op s = some (t, next)) :
    SelectionInvariant t (pending ++ next) := by
  rcases call_cases hCall with hSame | hCached | hFetch
  · cases hSame
    rw [List.append_nil]
    exact hInv
  · rcases hCached with
      ⟨categoryId, categoryName, blogs, hShown, hTurn⟩
    cases hTurn
    rw [List.append_nil]
    constructor
    · intro blog hMem
      exact List.mem_append_left _
        (List.mem_map.mpr ⟨blog, hMem, rfl⟩)
    · exact fun _ => rfl
    · exact fun hAwaited =>
        absurd hAwaited (hOk (categoryId, blogs) hShown)
  · rcases hFetch with ⟨fetch, u, hTurn, hRequest⟩
    cases hTurn
    exact hInv.request hRequest

/- An answer to the selection adds posts of it. -/
theorem OnlySelected.accept
    {fetch : Fetch}
    {blogs : List BlogNews}
    (hList : OnlySelected s)
    (hAnswer :
      blogs = [] ∨ fetch.categoryId = s.newCategoryId) :
    OnlySelected (s.accept fetch blogs) := by
  intro blog hMem
  rcases BlogNewsModel.mem_gotBlogs hMem with hNew | hOld
  · apply List.mem_append_left
    rcases hAnswer with hEmpty | hSelected
    · rw [hEmpty] at hNew
      exact absurd hNew List.not_mem_nil
    · exact List.mem_map.mpr ⟨blog, hNew,
        by rw [hSelected]; rfl⟩
  · exact List.mem_append_right _ (hList blog hOld)

/- Every admitted answer keeps the invariant. -/
theorem SelectionInvariant.resume
    {unescape : String → String}
    {lang : String}
    {rest : List Fetch}
    {fetch : Fetch}
    {http : Http}
    (hInv : SelectionInvariant s pending)
    (hOk : answersSelected unescape lang s rest fetch http) :
    SelectionInvariant
      (Posts.resume unescape lang fetch http s).1
      (rest ++
        (Posts.resume unescape lang fetch http s).2) := by
  rcases hOk with ⟨hNone, hAnswer⟩
  unfold Posts.resume
  cases hFetched : fetched unescape lang fetch http with
  | error thrown =>
      rw [List.append_nil]
      constructor
      · exact hInv.list
      · exact fun _ => rfl
      · exact fun hAwaited => absurd hAwaited hNone
  | ok blogs =>
      rw [List.append_nil]
      constructor
      · exact hInv.list.accept
          (hAnswer blogs (by simp [hFetched, Except.toOption]))
      · exact fun _ => BlogNewsModel.isFetching_gotBlogs _ _ _
      · exact fun hAwaited => absurd hAwaited hNone

/-
  After every run whose answers meet the selection, the page
  shows the selected category.
-/
theorem selected_of_run
    {unescape : String → String}
    {lang : String}
    {es : List (Event Op Http)}
    {p : Pool Posts Fetch}
    (hRun :
      (program unescape lang).system.Run
        (Program.when noneAwaited
          (answersSelected unescape lang))
        launched es p) :
    ShowsSelected p := by
  have hInv : SelectionInvariant p.shared p.pending := by
    refine Program.run_invariant
      (I := fun _ s pending => SelectionInvariant s pending)
      hRun ?_ ?_ ?_
    · constructor
      · intro blog hMem
        exact absurd hMem List.not_mem_nil
      · exact fun _ => rfl
      · rintro ⟨fetch, hMem, _⟩
        exact absurd hMem List.not_mem_nil
    · intro _ s pending op t next hInv hOk hCall
      exact hInv.call hOk hCall
    · intro _ s earlier fetch later http hInv hOk _
      exact hInv.resume hOk
  exact ⟨fun _ => hInv.list, hInv.idle, hInv.fetching⟩

/- A category is shown before the next one is selected. -/
theorem selected_in_turn :
    ∃ p : Pool Posts Fetch,
      (program id "en").system.Run
        (Program.when noneAwaited (answersSelected id "en"))
        launched
        [ .call (tapCategory 5), .resume 0 (postOf 5 1),
          .call (.onFilter (some 6)),
          .resume 0 (postOf 6 2) ]
        p ∧
      ShowsSelected p := by
  have hRun :
      (program id "en").system.Run
        (Program.when noneAwaited (answersSelected id "en"))
        launched
        [ .call (tapCategory 5), .resume 0 (postOf 5 1),
          .call (.onFilter (some 6)),
          .resume 0 (postOf 6 2) ] _ :=
    System.run_iff_exec.mpr ⟨by decide, rfl⟩
  exact ⟨_, hRun, selected_of_run hRun⟩

/-
  The answer for the category left behind comes last, and
  its post is shown under the category selected.
-/
theorem late_answer_shown :
    ∃ p : Pool Posts Fetch,
      (program id "en").system.Run System.anyStep
        launched
        [ .call (tapCategory 5),
          .call (.onFilter (some 6)),
          .resume 1 (postOf 6 2), .resume 0 (postOf 5 1) ]
        p ∧
      p.Quiescent ∧
      p.shared.newCategoryId = some 6 ∧
      p.shared.blog.blogList =
        some [{ id := some 1, categoryId := some 5 }] ∧
      ¬ ShowsSelected p := by
  refine ⟨_, System.run_of_exec rfl, rfl, rfl, rfl, ?_⟩
  intro hShows
  exact absurd (hShows.list rfl) (by decide)

end Posts

end NewsCentral
