import NewsCentral.Search.Program

/-
  When the search shows the query issued last.

  Overlapping searches write one list, one flag and one
  error text, which no later success clears.  The screen
  shows the last query throughout a run exactly if searches
  do not overlap when they are answered and none succeeds
  after one failed.

  Key definitions include:
    * `NewsCentral.SearchModel.ShowsLatest`
    * `NewsCentral.SearchModel.alone`
    * `NewsCentral.SearchModel.LatestInvariant`

  Key theorems include:
    * `NewsCentral.SearchModel.LatestInvariant.resume`
    * `NewsCentral.SearchModel.not_showsLatest_of_not_alone`
    * `NewsCentral.SearchModel.showsLatest_iff`
-/

------------------------------------------------------------
-- The Latest Query
------------------------------------------------------------

namespace NewsCentral

open Dart EventLoop

namespace SearchModel

/- Some search waits for its answer. -/
def Searching (pending : List Point) : Prop :=
  ∃ k ∈ pending, k.isSearch = true

instance
    (pending : List Point) :
    Decidable (Searching pending) := by
  unfold Searching
  infer_instance

/-
  The posts are those found by the search issued last, and
  there is an error text exactly if that search failed.
-/
def AnswerShown (s : SearchModel) : Prop :=
  match s.latest with
  | none => s.issued = 0
  | some (.ok blogs) =>
      s.blogs = blogs ∧ s.errMsg.getD "" = ""
  | some (.error _) => s.errMsg.getD "" ≠ ""

instance
    (s : SearchModel) :
    Decidable (AnswerShown s) := by
  unfold AnswerShown
  split <;> infer_instance

/- The flag tells of searches; at rest the answer is shown. -/
structure ShowsLatest
    (s : SearchModel)
    (pending : List Point) : Prop where
  loading : s.loading = true ↔ Searching pending
  answer : ¬ Searching pending → AnswerShown s

/-
  A search is answered while no other one waits, and finds
  no old error if it succeeds.
-/
def alone
    (unescape : String → String)
    (s : SearchModel)
    (rest : List Point)
    (k : Point)
    (reply : Reply) : Prop :=
  match k with
  | .searchBlog name _ =>
      ¬ Searching rest ∧
        match found unescape name reply with
        | .ok _ => s.errMsg.getD "" = ""
        | .error _ => True
  | _ => True

instance
    (unescape : String → String)
    (s : SearchModel)
    (rest : List Point)
    (k : Point)
    (reply : Reply) :
    Decidable (alone unescape s rest k reply) := by
  unfold alone
  split
  · split <;> infer_instance
  · infer_instance

/-
  At rest, the screen of a successful search shows what it
  found.
-/
theorem renderSearchLayout_of_showsLatest
    {s : SearchModel}
    {pending : List Point}
    {searchText : String}
    {blogs : List BlogNews}
    (hShows : ShowsLatest s pending)
    (hRest : ¬ Searching pending)
    (hFound : s.latest = some (.ok blogs))
    (hText : searchText ≠ "") :
    s.renderSearchLayout searchText =
      if blogs = [] then .noProduct else .found blogs := by
  have hAnswer := hShows.answer hRest
  rw [AnswerShown, hFound] at hAnswer
  rcases hAnswer with ⟨rfl, hNoError⟩
  have hLoading : s.loading = false := by
    rw [← Bool.not_eq_true, hShows.loading]
    exact hRest
  simp [renderSearchLayout, hText, hLoading, hNoError]

end SearchModel

end NewsCentral

------------------------------------------------------------
-- The Invariant
------------------------------------------------------------

namespace NewsCentral

open Dart EventLoop

namespace SearchModel

/- While searches wait, the one issued last is among them. -/
structure LatestInvariant
    (s : SearchModel)
    (pending : List Point) : Prop
    extends ShowsLatest s pending where
  newest :
    Searching pending →
      ∃ name, .searchBlog name s.issued ∈ pending

variable {s : SearchModel} {earlier later : List Point}
variable {k : Point}

theorem searching_append
    (ks js : List Point) :
    Searching (ks ++ js) ↔ Searching ks ∨ Searching js := by
  simp [Searching, or_and_right, exists_or]

/- A search that resumes was waiting. -/
theorem searching_split
    (hSearch : k.isSearch = true) :
    Searching (earlier ++ k :: later) :=
  ⟨k, by simp, hSearch⟩

/- Any other point tells nothing of the searches. -/
theorem searching_rest
    (hOther : k.isSearch = false) :
    Searching (earlier ++ k :: later) ↔
      Searching (earlier ++ later) := by
  constructor
  · rintro ⟨j, hMem, hSearch⟩
    rw [List.mem_append, List.mem_cons] at hMem
    rcases hMem with hLeft | rfl | hRight
    · exact ⟨j, List.mem_append_left _ hLeft, hSearch⟩
    · rw [hOther] at hSearch
      cases hSearch
    · exact ⟨j, List.mem_append_right _ hRight, hSearch⟩
  · rintro ⟨j, hMem, hSearch⟩
    exact ⟨j, mem_of_mem_rest hMem, hSearch⟩

/- Without other searches, the one answered is the last. -/
theorem LatestInvariant.number_eq
    {name : String}
    {number : Nat}
    (hInv :
      LatestInvariant s
        (earlier ++ .searchBlog name number :: later))
    (hAlone : ¬ Searching (earlier ++ later)) :
    number = s.issued := by
  rcases hInv.newest (searching_split rfl) with
    ⟨other, hMem⟩
  rw [List.mem_append, List.mem_cons] at hMem
  rcases hMem with hLeft | hHere | hRight
  · exact absurd
      ⟨_, List.mem_append_left _ hLeft, rfl⟩ hAlone
  · cases hHere
    rfl
  · exact absurd
      ⟨_, List.mem_append_right _ hRight, rfl⟩ hAlone

/- Every call keeps the invariant. -/
theorem LatestInvariant.call
    {pending next : List Point}
    {op : Op}
    {t : SearchModel}
    (hInv : LatestInvariant s pending)
    (hCall : SearchModel.call op s = some (t, next)) :
    LatestInvariant t (pending ++ next) := by
  cases op with
  | searchBlogs name =>
      cases hCall
      have hNow :
          Searching
            (pending ++ [.searchBlog name (s.issued + 1)]) :=
        ⟨.searchBlog name (s.issued + 1), by simp, rfl⟩
      constructor
      · exact ⟨iff_of_true rfl hNow,
          fun hRest => absurd hNow hRest⟩
      · exact fun _ => ⟨name, by simp⟩
  | clearKeywords =>
      cases hCall
      have hSame :
          Searching
              (pending ++ [.savePrefs s.heap.size]) ↔
            Searching pending := by
        simp [Searching, Point.isSearch]
      constructor
      · constructor
        · exact hInv.loading.trans hSame.symm
        · intro hRest
          exact hInv.answer fun hNow =>
            hRest (hSame.mpr hNow)
      · intro hNow
        rcases hInv.newest (hSame.mp hNow) with ⟨name, hMem⟩
        exact ⟨name, List.mem_append_left _ hMem⟩

/- A turn that leaves what is shown and who searches. -/
theorem LatestInvariant.keep
    {t : SearchModel}
    {next : List Point}
    (hInv : LatestInvariant s (earlier ++ k :: later))
    (hOther : k.isSearch = false)
    (hNext : ¬ Searching next)
    (hLoading : t.loading = s.loading)
    (hIssued : t.issued = s.issued)
    (hAnswer : AnswerShown s → AnswerShown t) :
    LatestInvariant t (earlier ++ later ++ next) := by
  have hSame :
      Searching (earlier ++ later ++ next) ↔
        Searching (earlier ++ k :: later) := by
    rw [searching_append, searching_rest hOther]
    exact or_iff_left hNext
  constructor
  · constructor
    · rw [hLoading, hSame]
      exact hInv.loading
    · intro hRest
      exact hAnswer (hInv.answer fun hNow =>
        hRest (hSame.mpr hNow))
  · intro hNow
    rcases hInv.newest (hSame.mp hNow) with ⟨name, hMem⟩
    rw [hIssued]
    refine ⟨name, List.mem_append_left _ ?_⟩
    rw [List.mem_append, List.mem_cons] at hMem
    rcases hMem with hLeft | hHere | hRight
    · exact List.mem_append_left _ hLeft
    · rw [← hHere] at hOther
      cases hOther
    · exact List.mem_append_right _ hRight

/- What an answered search leaves of the model. -/
theorem gotBlogs_shown
    (name : String)
    (blogs : List BlogNews)
    (s : SearchModel) :
    (s.gotBlogs name blogs).1.loading = false ∧
      (s.gotBlogs name blogs).1.blogs = blogs ∧
      (s.gotBlogs name blogs).1.errMsg = s.errMsg ∧
      (s.gotBlogs name blogs).1.latest = s.latest ∧
      ¬ Searching (s.gotBlogs name blogs).2 := by
  unfold gotBlogs
  simp only
  split <;>
    simp [insertKeyword, Searching, Point.isSearch]

/- The answer to the last search is recorded. -/
theorem record_issued
    (answer : Except Thrown (List BlogNews))
    (s : SearchModel) :
    s.record s.issued answer =
      { s with latest := some answer } := by
  simp [record]

/- Any answer ends the loading and starts no search. -/
theorem resume_searchBlog
    (unescape : String → String)
    (name : String)
    (number : Nat)
    (reply : Reply)
    (s : SearchModel) :
    (SearchModel.resume unescape (.searchBlog name number)
        reply s).1.loading = false ∧
      ¬ Searching
        (SearchModel.resume unescape
          (.searchBlog name number) reply s).2 := by
  unfold SearchModel.resume
  simp only
  split
  next => simp [failed, Searching]
  next blogs _ =>
    rcases gotBlogs_shown name blogs
        (s.record number (found unescape name reply)) with
      ⟨hLoading, _, _, _, hNext⟩
    exact ⟨hLoading, hNext⟩

/-
  A search that was issued last: after its answer the error
  text is the old one if it succeeded.
-/
theorem answerShown_resume
    {unescape : String → String}
    {name : String}
    {reply : Reply} :
    AnswerShown
        (SearchModel.resume unescape
          (.searchBlog name s.issued) reply s).1 ↔
      match found unescape name reply with
      | .ok _ => s.errMsg.getD "" = ""
      | .error _ => True := by
  unfold SearchModel.resume
  simp only [record_issued]
  cases hFound : found unescape name reply with
  | error thrown =>
      simp [AnswerShown, failed, Thrown.toText_ne_empty]
  | ok blogs =>
      rcases gotBlogs_shown name blogs
          { s with latest := some (.ok blogs) } with
        ⟨_, hBlogs, hError, hLatest, _⟩
      simp only [AnswerShown]
      rw [hLatest, hBlogs, hError]
      simp

/- Every admitted turn keeps the invariant. -/
theorem LatestInvariant.resume
    {unescape : String → String}
    {reply : Reply}
    (hInv : LatestInvariant s (earlier ++ k :: later))
    (hOk : alone unescape s (earlier ++ later) k reply) :
    LatestInvariant
      (SearchModel.resume unescape k reply s).1
      (earlier ++ later ++
        (SearchModel.resume unescape k reply s).2) := by
  cases k with
  | searchBlog name number =>
      rcases hOk with ⟨hAlone, hClean⟩
      rcases resume_searchBlog unescape name number reply s
        with ⟨hLoading, hNext⟩
      have hRest :
          ¬ Searching
            (earlier ++ later ++
              (SearchModel.resume unescape
                (.searchBlog name number) reply s).2) := by
        rw [searching_append, not_or]
        exact ⟨hAlone, hNext⟩
      constructor
      · constructor
        · exact iff_of_false (by simp [hLoading]) hRest
        · intro _
          rw [hInv.number_eq hAlone]
          exact answerShown_resume.mpr hClean
      · exact fun hNow => absurd hNow hRest
  | savePrefs keywords =>
      simp only [SearchModel.resume]
      split
      next =>
        exact hInv.keep rfl (by simp [Searching]) rfl rfl id
      next =>
        exact hInv.keep rfl
          (by simp [Searching, Point.isSearch]) rfl rfl id
  | saved =>
      simp only [SearchModel.resume]
      exact hInv.keep rfl (by simp [Searching]) rfl rfl id
  | getPrefs =>
      simp only [SearchModel.resume]
      split
      next =>
        exact hInv.keep rfl (by simp [Searching]) rfl rfl id
      next =>
        unfold gotKeywords
        split <;>
          exact hInv.keep rfl (by simp [Searching])
            rfl rfl id

/- A turn that is not admitted shows something else. -/
theorem not_showsLatest_of_not_alone
    {unescape : String → String}
    {reply : Reply}
    (hInv : LatestInvariant s (earlier ++ k :: later))
    (hBroken :
      ¬ alone unescape s (earlier ++ later) k reply) :
    ¬ ShowsLatest
      (SearchModel.resume unescape k reply s).1
      (earlier ++ later ++
        (SearchModel.resume unescape k reply s).2) := by
  intro hShows
  cases k with
  | searchBlog name number =>
      rcases resume_searchBlog unescape name number reply s
        with ⟨hLoading, hNext⟩
      by_cases hAlone : Searching (earlier ++ later)
      · -- the flag is off although a search still waits
        have hNow := hShows.loading.mpr
          ((searching_append _ _).mpr (.inl hAlone))
        rw [hLoading] at hNow
        cases hNow
      · -- the error text of an earlier search is still there
        have hRest :
            ¬ Searching
              (earlier ++ later ++
                (SearchModel.resume unescape
                  (.searchBlog name number) reply s).2) := by
          rw [searching_append, not_or]
          exact ⟨hAlone, hNext⟩
        have hShown := hShows.answer hRest
        rw [hInv.number_eq hAlone] at hShown
        exact hBroken
          ⟨hAlone, answerShown_resume.mp hShown⟩
  | _ => exact hBroken trivial

/-
  From any stored keywords, a run shows the latest query at
  every moment exactly if each search is answered alone and
  none succeeds after a failure.
-/
theorem showsLatest_iff
    {unescape : String → String}
    {recentSearches : Option (List String)}
    {es : List (Event Op Reply)}
    {p : Pool SearchModel Point}
    (hRun :
      (program unescape).system.Run System.anyStep
        (launched recentSearches) es p) :
    (program unescape).system.Always
        (fun _ q => ShowsLatest q.shared q.pending)
        (launched recentSearches) es ↔
      (program unescape).system.Run
        (Program.when (fun _ _ _ => True) (alone unescape))
        (launched recentSearches) es p := by
  refine Program.always_iff_run
    (I := LatestInvariant) ?_ ?_ ?_ ?_ ?_ ?_ hRun
  · have hNone :
        ¬ Searching (launched recentSearches).pending := by
      simp [launched, Searching, Point.isSearch]
    constructor
    · exact ⟨iff_of_false (by simp [launched]) hNone,
        fun _ => rfl⟩
    · exact fun hNow => absurd hNow hNone
  · intro s pending op t next hInv _ hCall
    exact hInv.call hCall
  · intro s earlier k later reply hInv hOk
    exact hInv.resume hOk
  · intro s pending hInv
    exact hInv.toShowsLatest
  · intro s pending op t next _ hBroken
    exact absurd trivial hBroken
  · intro s earlier k later reply hInv hBroken
    exact not_showsLatest_of_not_alone hInv hBroken

/- A network that finds one post, and one that fails. -/
def online (id : Int) : Reply where
  http := fun _ => .ok
    { statusCode := 200
      decoded := some (.arr
        [ .obj
            [ ("categories", .arr [.int 5]),
              ("id", .int id) ] ]) }

def offline : Reply := {}

/- Two searches one after the other. -/
theorem showsLatest_in_turn :
    (program id).system.Always
      (fun _ q => ShowsLatest q.shared q.pending)
      (launched none)
      [ .call (.searchBlogs "cup"), .resume 1 (online 1),
        .call (.searchBlogs "rain"), .resume 2 (online 2) ] := by
  have hRun :
      (program id).system.Run
        (Program.when (fun _ _ _ => True) (alone id))
        (launched none)
        [ .call (.searchBlogs "cup"), .resume 1 (online 1),
          .call (.searchBlogs "rain"),
          .resume 2 (online 2) ] _ :=
    System.run_iff_exec.mpr ⟨by decide, rfl⟩
  exact (showsLatest_iff hRun.any).mpr hRun

/-
  After a search that failed, the posts of the next one are
  found and the old error is shown.
-/
theorem failure_hides_next_search :
    ∃ p : Pool SearchModel Point,
      (program id).system.Run System.anyStep
        (launched none)
        [ .call (.searchBlogs "cup"), .resume 1 offline,
          .call (.searchBlogs "rain"), .resume 1 (online 2) ]
        p ∧
      p.shared.blogs =
        [{ id := some 2, categoryId := some 5 }] ∧
      p.shared.renderSearchLayout "rain" =
        .error "SocketException: " ∧
      ¬ ShowsLatest p.shared p.pending := by
  refine ⟨_, System.run_of_exec rfl, rfl, rfl, ?_⟩
  intro hShows
  exact absurd (hShows.answer (by decide)) (by decide)

end SearchModel

end NewsCentral
