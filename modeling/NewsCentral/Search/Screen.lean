import NewsCentral.Search.Latest

/-
  The search screen of `lib/screens/search/search.dart` over
  the search model.

  A change of the text field starts a timer, and the one
  before it is cancelled; the timer takes the text over and
  searches for it.  A tap on a recent keyword and a tap on
  Cancel change the text as well, and leave the timer.

  The screen is about to show what the text field holds
  throughout a run exactly if no such tap overtakes a timer
  with another text.  If moreover searches are answered
  alone, the screen at rest shows the answer to the search
  for the text in its field.

  Key definitions include:
    * `NewsCentral.SearchScreen` and its `program`
    * `NewsCentral.SearchScreen.Settles`
    * `NewsCentral.SearchScreen.overtakesNone`
    * `NewsCentral.SearchScreen.answers`
    * `NewsCentral.SearchScreen.AnswerInvariant`

  Key theorems include:
    * `NewsCentral.SearchScreen.settles_call_iff`
    * `NewsCentral.SearchScreen.settles_iff`
    * `NewsCentral.SearchScreen.AnswerInvariant.resume`
    * `NewsCentral.SearchScreen.rendered_of_rest`
-/

------------------------------------------------------------
-- The Screen
------------------------------------------------------------

namespace NewsCentral

open Dart EventLoop

/-
  The state of the screen; `text` is that of the field, and
  `timer` the text of a timer that has not elapsed.  The
  last field is a history: the text searched for last.
-/
structure SearchScreen where
  model : SearchModel
  searchText : Option String := none
  text : String := ""
  timer : Option String := none
  asked : Option String := none

namespace SearchScreen

/- What is done on the screen, and the timer. -/
inductive Op where
  | onChanged (text : String)
  | elapsed
  | tapKeyword (index : Nat)
  | cancel
  | clearKeywords

/- `searchText` is null or empty. -/
def isEmpty (s : SearchScreen) : Bool :=
  s.searchText.getD "" = ""

/- The keywords that `RecentSearches` lists. -/
def keywords (s : SearchScreen) : List String :=
  (s.model.heap.read s.model.keywords).take 5

/- `_renderSearchLayout` -/
def render (s : SearchScreen) : SearchModel.Layout :=
  s.model.renderSearchLayout (s.searchText.getD "")

/- Search for a text, which becomes the one of the screen. -/
def search
    (name : String)
    (s : SearchScreen) :
    Option (SearchScreen × List SearchModel.Point) :=
  (SearchModel.call (.searchBlogs name) s.model).map
    fun r =>
      ({ s with
          model := r.1
          searchText := some name
          asked := some name },
        r.2)

/-
  Start an operation.  The keywords are shown while there is
  no search text, and Cancel has a width while there is one.
-/
def call :
    Op → SearchScreen →
      Option (SearchScreen × List SearchModel.Point)
  | .onChanged text, s =>
      some ({ s with text := text, timer := some text }, [])
  | .elapsed, s =>
      match s.timer with
      | none => none
      | some text => { s with timer := none }.search text
  | .tapKeyword index, s =>
      if s.isEmpty then
        match s.keywords[index]? with
        | none => none
        | some name => { s with text := name }.search name
      else
        none
  | .cancel, s =>
      if s.isEmpty then
        none
      else
        some
          ({ s with searchText := some "", text := "" }, [])
  | .clearKeywords, s =>
      if s.isEmpty ∧ s.keywords ≠ [] then
        (SearchModel.call .clearKeywords s.model).map
          fun r => ({ s with model := r.1 }, r.2)
      else
        none

/- The screen as a program of the event loop. -/
def program
    (unescape : String → String) :
    Program SearchScreen Op SearchModel.Point
      SearchModel.Reply where
  call := call
  resume k reply s :=
    let r := SearchModel.resume unescape k reply s.model
    ({ s with model := r.1 }, r.2)
  queued := fun _ => false

/- The screen is opened, with keywords stored before. -/
def opened
    (recentSearches : Option (List String)) :
    Pool SearchScreen SearchModel.Point where
  shared :=
    { model := (SearchModel.launched recentSearches).shared }
  pending := (SearchModel.launched recentSearches).pending

end SearchScreen

end NewsCentral

------------------------------------------------------------
-- The Text The Screen Settles On
------------------------------------------------------------

namespace NewsCentral

open Dart EventLoop

namespace SearchScreen

variable {s t : SearchScreen}
variable {next : List SearchModel.Point} {op : Op}

/- The text of the screen once the timer has elapsed. -/
def settled (s : SearchScreen) : String :=
  s.timer.getD (s.searchText.getD "")

/- It is the one that the field holds. -/
def Settles (s : SearchScreen) : Prop :=
  s.settled = s.text

instance (s : SearchScreen) : Decidable s.Settles := by
  unfold Settles
  infer_instance

/-
  A tap that changes the text meets no timer, or one that
  has the same text.
-/
def overtakesNone (s : SearchScreen) : Op → Prop
  | .tapKeyword index =>
      ∀ text ∈ s.timer, s.keywords[index]? = some text
  | .cancel => ∀ text ∈ s.timer, text = ""
  | .onChanged _ => True
  | .elapsed => True
  | .clearKeywords => True

instance
    (s : SearchScreen)
    (op : Op) :
    Decidable (s.overtakesNone op) :=
  match op with
  | .tapKeyword index =>
      inferInstanceAs
        (Decidable
          (∀ text ∈ s.timer,
            s.keywords[index]? = some text))
  | .cancel =>
      inferInstanceAs
        (Decidable (∀ text ∈ s.timer, text = ""))
  | .onChanged _ => isTrue trivial
  | .elapsed => isTrue trivial
  | .clearKeywords => isTrue trivial

/- What a search leaves of the screen. -/
theorem search_eq_some
    {name : String}
    (hSearch : s.search name = some (t, next)) :
    t.searchText = some name ∧ t.text = s.text ∧
      t.timer = s.timer ∧ t.asked = some name ∧
      SearchModel.call (.searchBlogs name) s.model =
        some (t.model, next) := by
  unfold search at hSearch
  rcases Option.map_eq_some_iff.mp hSearch with
    ⟨r, hCall, hEq⟩
  cases hEq
  exact ⟨rfl, rfl, rfl, rfl, hCall⟩

/-
  Any operation of a screen that settles leaves one that
  does exactly if it overtakes no timer.
-/
theorem settles_call_iff
    (hSettles : s.Settles)
    (hCall : call op s = some (t, next)) :
    t.Settles ↔ s.overtakesNone op := by
  unfold Settles settled at *
  cases op with
  | onChanged text =>
      cases hCall
      exact iff_of_true rfl trivial
  | elapsed =>
      simp only [call] at hCall
      cases hTimer : s.timer with
      | none => simp [hTimer] at hCall
      | some text =>
          rw [hTimer] at hCall hSettles
          rcases search_eq_some hCall with
            ⟨hText, hField, hOff, _, _⟩
          rw [hText, hField, hOff]
          exact iff_of_true hSettles trivial
  | tapKeyword index =>
      simp only [call] at hCall
      split at hCall
      next =>
        cases hName : s.keywords[index]? with
        | none => simp [hName] at hCall
        | some name =>
            rw [hName] at hCall
            rcases search_eq_some hCall with
              ⟨hText, hField, hTimer, _, _⟩
            rw [hText, hField, hTimer]
            simp only [overtakesNone, hName]
            cases s.timer with
            | none => simp
            | some text => simp [eq_comm]
      next => cases hCall
  | cancel =>
      simp only [call] at hCall
      split at hCall
      next => cases hCall
      next =>
        cases hCall
        simp only [overtakesNone]
        cases s.timer with
        | none => simp
        | some text => simp
  | clearKeywords =>
      simp only [call] at hCall
      split at hCall
      next =>
        cases hCall
        exact iff_of_true hSettles trivial
      next => cases hCall

/- "cup" is searched for, and "rain" typed and cancelled. -/
def cancelledTyping :
    List (Event Op SearchModel.Reply) :=
  [ .call (.onChanged "cup"), .call .elapsed,
    .call (.onChanged "rain"), .call .cancel,
    .call .elapsed ]

end SearchScreen

end NewsCentral

------------------------------------------------------------
-- The Answer That Is Shown
------------------------------------------------------------

namespace NewsCentral

open Dart EventLoop

namespace SearchModel

variable {pending next earlier later : List Point}
variable {k : Point}

/- No turn issues a search. -/
theorem issued_resume
    (unescape : String → String)
    (k : Point)
    (reply : Reply)
    (m : SearchModel) :
    (resume unescape k reply m).1.issued = m.issued ∧
      ¬ Searching (resume unescape k reply m).2 := by
  cases k with
  | searchBlog name number =>
      refine ⟨?_, (resume_searchBlog unescape name number
        reply m).2⟩
      simp only [resume]
      split
      next =>
        simp only [failed, record]
        split <;> rfl
      next =>
        simp only [gotBlogs, record]
        split <;> split <;> rfl
  | savePrefs keywords =>
      simp only [resume]
      split <;> simp [Searching, Point.isSearch]
  | saved => simp [resume, Searching]
  | getPrefs =>
      simp only [resume]
      split
      next => simp [Searching]
      next =>
        unfold gotKeywords
        split <;> simp [Searching]

/- A search that waits after a turn waited before it. -/
theorem mem_of_not_searching
    {name : String}
    {number : Nat}
    (hNext : ¬ Searching next)
    (hMem :
      .searchBlog name number ∈ earlier ++ later ++ next) :
    .searchBlog name number ∈ earlier ++ k :: later := by
  rcases List.mem_append.mp hMem with hRest | hNew
  · exact mem_of_mem_rest hRest
  · exact absurd ⟨_, hNew, rfl⟩ hNext

end SearchModel

namespace SearchScreen

/- The text of a search, and what it was answered. -/
abbrev Answer :=
  String × Except Thrown (List BlogNews)

/- What is seen of the answer to a search. -/
def answered
    (unescape : String → String)
    (_ : SearchScreen)
    (k : SearchModel.Point)
    (reply : SearchModel.Reply) : List Answer :=
  match k with
  | .searchBlog name _ =>
      [(name, SearchModel.found unescape name reply)]
  | .savePrefs _ => []
  | .saved => []
  | .getPrefs => []

/- The answers of a run, in the order in which they come. -/
def answers
    (unescape : String → String)
    (recentSearches : Option (List String))
    (es : List (Event Op SearchModel.Reply)) :
    List Answer :=
  (program unescape).system.trace
    (Program.sight (fun _ _ => []) (answered unescape))
    (opened recentSearches) es

/- What is to be shown of an answer. -/
def layoutOf :
    Except Thrown (List BlogNews) → SearchModel.Layout
  | .error thrown => .error thrown.toText
  | .ok [] => .noProduct
  | .ok (blog :: blogs) => .found (blog :: blogs)

/-
  The search issued last is for the text of the screen, and
  no other one that waits has its number.
-/
structure Asks
    (s : SearchScreen)
    (pending : List SearchModel.Point) : Prop where
  asked :
    ∀ name, s.searchText = some name → name ≠ "" →
      s.asked = some name
  unasked : s.model.issued = 0 → s.asked = none
  numbered :
    ∀ name number, .searchBlog name number ∈ pending →
      number ≤ s.model.issued
  named :
    ∀ name, .searchBlog name s.model.issued ∈ pending →
      s.asked = some name

/-
  The model keeps its invariant, the screen settles, and the
  answer to the search issued last, if there is one, is the
  last that has come.
-/
structure AnswerInvariant
    (seen : List Answer)
    (s : SearchScreen)
    (pending : List SearchModel.Point) : Prop where
  latest : SearchModel.LatestInvariant s.model pending
  settles : s.Settles
  asks : s.Asks pending
  heard :
    ∀ answer, s.model.latest = some answer →
      ∃ name, s.asked = some name ∧
        seen.getLast? = some (name, answer)
  failed :
    ∀ thrown, s.model.latest = some (.error thrown) →
      s.model.errMsg = some thrown.toText

variable {unescape : String → String}
variable {seen : List Answer} {s t : SearchScreen}
variable {pending next : List SearchModel.Point}
variable {earlier later : List SearchModel.Point}
variable {k : SearchModel.Point} {reply : SearchModel.Reply}
variable {op : Op}

/- Any other turn leaves what was answered. -/
theorem latest_resume_other
    (hOther : k.isSearch = false)
    (m : SearchModel) :
    (SearchModel.resume unescape k reply m).1.latest =
        m.latest ∧
      (SearchModel.resume unescape k reply m).1.errMsg =
        m.errMsg := by
  cases k with
  | searchBlog name number => cases hOther
  | savePrefs keywords =>
      simp only [SearchModel.resume]
      split <;> exact ⟨rfl, rfl⟩
  | saved => exact ⟨rfl, rfl⟩
  | getPrefs =>
      simp only [SearchModel.resume]
      split
      next => exact ⟨rfl, rfl⟩
      next =>
        unfold SearchModel.gotKeywords
        split <;> exact ⟨rfl, rfl⟩

/- The answer to the search issued last is recorded. -/
theorem latest_resume_last
    (name : String)
    (m : SearchModel) :
    let r :=
      SearchModel.resume unescape
        (.searchBlog name m.issued) reply m
    let answer := SearchModel.found unescape name reply
    r.1.latest = some answer ∧
      ∀ thrown, answer = .error thrown →
        r.1.errMsg = some thrown.toText := by
  simp only [SearchModel.resume, SearchModel.record_issued]
  cases SearchModel.found unescape name reply with
  | error thrown =>
      refine ⟨rfl, fun other hSame => ?_⟩
      cases hSame
      rfl
  | ok blogs =>
      rcases SearchModel.gotBlogs_shown name blogs
          { m with latest := some (.ok blogs) } with
        ⟨_, _, _, hLatest, _⟩
      refine ⟨hLatest, fun thrown hSame => ?_⟩
      cases hSame

/- No search is issued, and perhaps one is answered. -/
theorem Asks.keep
    {rest : List SearchModel.Point}
    (hAsks : s.Asks pending)
    (hText :
      t.searchText = s.searchText ∨ t.searchText = some "")
    (hAsked : t.asked = s.asked)
    (hIssued : t.model.issued = s.model.issued)
    (hRest :
      ∀ name number, .searchBlog name number ∈ rest →
        .searchBlog name number ∈ pending) :
    t.Asks rest where
  asked name hName hFull := by
    rw [hAsked]
    rcases hText with hSame | hNone
    · exact hAsks.asked name (hSame ▸ hName) hFull
    · rw [hNone] at hName
      cases hName
      exact absurd rfl hFull
  unasked hZero := by
    rw [hAsked]
    exact hAsks.unasked (hIssued ▸ hZero)
  numbered name number hMem := by
    rw [hIssued]
    exact hAsks.numbered name number (hRest name number hMem)
  named name hMem := by
    rw [hIssued] at hMem
    rw [hAsked]
    exact hAsks.named name (hRest name _ hMem)

/- A turn that leaves the answers. -/
theorem AnswerInvariant.keep
    {rest : List SearchModel.Point}
    (hInv : AnswerInvariant seen s pending)
    (hLatest : SearchModel.LatestInvariant t.model rest)
    (hSettles : t.Settles)
    (hAsks : t.Asks rest)
    (hAsked : t.asked = s.asked)
    (hAnswer : t.model.latest = s.model.latest)
    (hError : t.model.errMsg = s.model.errMsg) :
    AnswerInvariant seen t rest where
  latest := hLatest
  settles := hSettles
  asks := hAsks
  heard answer hHeard := by
    rw [hAsked]
    exact hInv.heard answer (hAnswer ▸ hHeard)
  failed thrown hFailed := by
    rw [hError]
    exact hInv.failed thrown (hAnswer ▸ hFailed)

/- The search issued last is answered. -/
theorem AnswerInvariant.answer
    {rest : List SearchModel.Point}
    {name : String}
    {answer : Except Thrown (List BlogNews)}
    (hInv : AnswerInvariant seen s pending)
    (hMem : .searchBlog name s.model.issued ∈ pending)
    (hLatest : SearchModel.LatestInvariant t.model rest)
    (hSettles : t.Settles)
    (hAsks : t.Asks rest)
    (hAsked : t.asked = s.asked)
    (hAnswer : t.model.latest = some answer)
    (hError :
      ∀ thrown, answer = .error thrown →
        t.model.errMsg = some thrown.toText) :
    AnswerInvariant (seen ++ [(name, answer)]) t rest where
  latest := hLatest
  settles := hSettles
  asks := hAsks
  heard other hHeard := by
    rw [hAnswer] at hHeard
    cases hHeard
    rw [hAsked]
    exact ⟨name, hInv.asks.named name hMem, by simp⟩
  failed thrown hFailed := by
    rw [hAnswer, Option.some.injEq] at hFailed
    exact hError thrown hFailed

/- A search is issued for the text of the screen. -/
theorem AnswerInvariant.search
    {name : String}
    (hInv : AnswerInvariant seen s pending)
    (hText : t.searchText = some name)
    (hAsked : t.asked = some name)
    (hSettles : t.Settles)
    (hCall :
      SearchModel.call (.searchBlogs name) s.model =
        some (t.model, next)) :
    AnswerInvariant seen t (pending ++ next) := by
  have hLatest := hInv.latest.call hCall
  simp only [SearchModel.call, Option.some.injEq,
    Prod.mk.injEq] at hCall
  rcases hCall with ⟨hModel, rfl⟩
  have hIssued : t.model.issued = s.model.issued + 1 := by
    rw [← hModel]
  have hUnheard : t.model.latest = none := by
    rw [← hModel]
  have hNumber :
      ∀ other number,
        .searchBlog other number ∈
            pending ++
              [.searchBlog name (s.model.issued + 1)] →
          number ≤ s.model.issued ∨
            other = name ∧ number = s.model.issued + 1 := by
    intro other number hMem
    rw [List.mem_append, List.mem_singleton] at hMem
    rcases hMem with hOld | hNew
    · exact .inl (hInv.asks.numbered other number hOld)
    · cases hNew
      exact .inr ⟨rfl, rfl⟩
  have hAsks : t.Asks
      (pending ++
        [.searchBlog name (s.model.issued + 1)]) :=
    { asked := fun other hOther _ => by
        rw [hAsked, ← hText, hOther]
      unasked := fun hZero => by omega
      numbered := fun other number hMem => by
        rcases hNumber other number hMem with
          hOld | ⟨_, hNew⟩ <;> omega
      named := fun other hMem => by
        rcases hNumber other _ hMem with hOld | ⟨rfl, _⟩
        · omega
        · exact hAsked }
  exact
    { latest := hLatest
      settles := hSettles
      asks := hAsks
      heard := fun answer hHeard => by
        rw [hUnheard] at hHeard
        cases hHeard
      failed := fun thrown hFailed => by
        rw [hUnheard] at hFailed
        cases hFailed }

/- Every call that overtakes no timer keeps the invariant. -/
theorem AnswerInvariant.call
    (hInv : AnswerInvariant seen s pending)
    (hOk : s.overtakesNone op)
    (hCall : SearchScreen.call op s = some (t, next)) :
    AnswerInvariant seen t (pending ++ next) := by
  have hSettles : t.Settles :=
    (settles_call_iff hInv.settles hCall).mpr hOk
  cases op with
  | onChanged text =>
      cases hCall
      rw [List.append_nil]
      exact hInv.keep hInv.latest hSettles
        (hInv.asks.keep (.inl rfl) rfl rfl
          fun name number hMem => hMem)
        rfl rfl rfl
  | elapsed =>
      simp only [SearchScreen.call] at hCall
      split at hCall
      next => cases hCall
      next =>
        rcases search_eq_some hCall with
          ⟨hText, _, _, hAsked, hModel⟩
        exact hInv.search hText hAsked hSettles hModel
  | tapKeyword index =>
      simp only [SearchScreen.call] at hCall
      split at hCall
      next =>
        split at hCall
        next => cases hCall
        next =>
          rcases search_eq_some hCall with
            ⟨hText, _, _, hAsked, hModel⟩
          exact hInv.search hText hAsked hSettles hModel
      next => cases hCall
  | cancel =>
      simp only [SearchScreen.call] at hCall
      split at hCall
      next => cases hCall
      next =>
        cases hCall
        rw [List.append_nil]
        exact hInv.keep hInv.latest hSettles
          (hInv.asks.keep (.inr rfl) rfl rfl
            fun name number hMem => hMem)
          rfl rfl rfl
  | clearKeywords =>
      simp only [SearchScreen.call] at hCall
      split at hCall
      next =>
        rcases Option.map_eq_some_iff.mp hCall with
          ⟨r, hClear, hEq⟩
        have hLatest := hInv.latest.call hClear
        cases hClear
        cases hEq
        refine hInv.keep hLatest hSettles ?_ rfl rfl rfl
        refine hInv.asks.keep (.inl rfl) rfl rfl ?_
        intro name number hMem
        simpa using hMem
      next => cases hCall

/- Every turn that answers a search alone keeps it, too. -/
theorem AnswerInvariant.resume
    (hInv : AnswerInvariant seen s (earlier ++ k :: later))
    (hOk :
      SearchModel.alone unescape s.model (earlier ++ later) k
        reply) :
    AnswerInvariant (seen ++ answered unescape s k reply)
      ((program unescape).resume k reply s).1
      (earlier ++ later ++
        ((program unescape).resume k reply s).2) := by
  have hLatest := hInv.latest.resume hOk
  rcases SearchModel.issued_resume unescape k reply s.model
    with ⟨hIssued, hNext⟩
  by_cases hSearch : k.isSearch = true
  · cases k with
    | searchBlog name number =>
        have hLast : number = s.model.issued :=
          hInv.latest.number_eq hOk.1
        rw [hLast] at hInv hLatest hIssued hNext ⊢
        rcases @latest_resume_last unescape reply name
            s.model with
          ⟨hAnswer, hError⟩
        refine hInv.answer (by simp) hLatest hInv.settles
          ?_ rfl hAnswer hError
        refine hInv.asks.keep (.inl rfl) rfl hIssued ?_
        intro other number hMem
        exact SearchModel.mem_of_not_searching hNext hMem
    | savePrefs keywords => cases hSearch
    | saved => cases hSearch
    | getPrefs => cases hSearch
  · rw [Bool.not_eq_true] at hSearch
    rcases @latest_resume_other unescape k reply hSearch
        s.model with
      ⟨hAnswer, hError⟩
    have hSilent : answered unescape s k reply = [] := by
      cases k with
      | searchBlog name number => cases hSearch
      | savePrefs keywords => rfl
      | saved => rfl
      | getPrefs => rfl
    rw [hSilent, List.append_nil]
    refine hInv.keep hLatest hInv.settles ?_ rfl hAnswer
      hError
    refine hInv.asks.keep (.inl rfl) rfl hIssued ?_
    intro name number hMem
    exact SearchModel.mem_of_not_searching hNext hMem

/- What is rendered at rest of the answer that is recorded. -/
theorem render_of_latest
    {answer : Except Thrown (List BlogNews)}
    (hInv : AnswerInvariant seen s pending)
    (hRest : ¬ SearchModel.Searching pending)
    (hLatest : s.model.latest = some answer)
    (hText : s.searchText.getD "" ≠ "") :
    s.render = layoutOf answer := by
  have hShows := hInv.latest.toShowsLatest
  cases answer with
  | ok blogs =>
      rw [render,
        SearchModel.renderSearchLayout_of_showsLatest hShows
          hRest hLatest hText]
      cases blogs <;> simp [layoutOf]
  | error thrown =>
      have hLoading : s.model.loading = false := by
        rw [← Bool.not_eq_true, hShows.loading]
        exact hRest
      have hError := hInv.failed thrown hLatest
      simp [render, SearchModel.renderSearchLayout, hText,
        hLoading, hError, layoutOf, Thrown.toText_ne_empty]

/- Nothing has been asked for on a screen just opened. -/
theorem AnswerInvariant.opened
    (recentSearches : Option (List String)) :
    AnswerInvariant []
      (SearchScreen.opened recentSearches).shared
      (SearchScreen.opened recentSearches).pending := by
  have hNone :
      ¬ SearchModel.Searching
        (SearchScreen.opened recentSearches).pending := by
    simp [SearchScreen.opened, SearchModel.launched,
      SearchModel.Searching, SearchModel.Point.isSearch]
  exact
    { latest :=
        { loading := iff_of_false
            (by simp [SearchScreen.opened,
              SearchModel.launched]) hNone
          answer := fun _ => rfl
          newest := fun hNow => absurd hNow hNone }
      settles := rfl
      asks :=
        { asked := fun name hName _ => by cases hName
          unasked := fun _ => rfl
          numbered := fun name number hMem => by
            exact absurd ⟨_, hMem, rfl⟩ hNone
          named := fun name hMem => by
            exact absurd ⟨_, hMem, rfl⟩ hNone }
      heard := fun answer hHeard => by cases hHeard
      failed := fun thrown hFailed => by cases hFailed }

/- The invariant of a run in which nothing is overtaken. -/
theorem answerInvariant_of_run
    {unescape : String → String}
    {recentSearches : Option (List String)}
    {es : List (Event Op SearchModel.Reply)}
    {p : Pool SearchScreen SearchModel.Point}
    (hRun :
      (program unescape).system.Run
        (Program.when (fun s _ op => s.overtakesNone op)
          fun s rest k reply =>
            SearchModel.alone unescape s.model rest k reply)
        (opened recentSearches) es p) :
    AnswerInvariant (answers unescape recentSearches es)
      p.shared p.pending := by
  refine Program.trace_invariant
    (I := AnswerInvariant) hRun (.opened recentSearches) ?_ ?_
  · intro seen s pending op t next hInv hOk hCall
    rw [List.append_nil]
    exact hInv.call hOk hCall
  · intro seen s earlier k later reply hInv hOk
    exact hInv.resume hOk

/-
  Let no tap overtake a timer with another text, and let
  each search be answered alone and find no old error if it
  succeeds.  Once no timer runs and no search waits, the
  screen shows the recent searches if its field is empty,
  and otherwise the last answer that has come, which is the
  one to a search for the text in the field.
-/
theorem rendered_of_rest
    {unescape : String → String}
    {recentSearches : Option (List String)}
    {es : List (Event Op SearchModel.Reply)}
    {p : Pool SearchScreen SearchModel.Point}
    (hRun :
      (program unescape).system.Run
        (Program.when (fun s _ op => s.overtakesNone op)
          fun s rest k reply =>
            SearchModel.alone unescape s.model rest k reply)
        (opened recentSearches) es p)
    (hTimer : p.shared.timer = none)
    (hRest : ¬ SearchModel.Searching p.pending) :
    (p.shared.text = "" ∧
        p.shared.render = .recentSearches) ∨
      ∃ answer,
        (answers unescape recentSearches es).getLast? =
            some (p.shared.text, answer) ∧
          p.shared.render = layoutOf answer := by
  have hInv := answerInvariant_of_run hRun
  have hText : p.shared.searchText.getD "" = p.shared.text := by
    have hSettles := hInv.settles
    rwa [Settles, settled, hTimer] at hSettles
  by_cases hEmpty : p.shared.text = ""
  · left
    refine ⟨hEmpty, ?_⟩
    simp [render, hText, hEmpty,
      SearchModel.renderSearchLayout]
  · right
    have hSearched :
        p.shared.searchText = some p.shared.text := by
      cases hSome : p.shared.searchText with
      | none =>
          rw [hSome] at hText
          exact absurd hText.symm hEmpty
      | some text =>
          rw [hSome] at hText
          exact congrArg some hText
    have hAsked := hInv.asks.asked _ hSearched hEmpty
    cases hLatest : p.shared.model.latest with
    | none =>
        have hShown :=
          hInv.latest.toShowsLatest.answer hRest
        rw [SearchModel.AnswerShown, hLatest] at hShown
        rw [hInv.asks.unasked hShown] at hAsked
        cases hAsked
    | some answer =>
        rcases hInv.heard answer hLatest with
          ⟨name, hName, hLast⟩
        rw [hAsked, Option.some.injEq] at hName
        subst hName
        refine ⟨answer, hLast, ?_⟩
        exact render_of_latest hInv hRest hLatest
          (by rwa [hText])

/- "cup" is typed, found and shown. -/
theorem rendered_of_typing :
    ∃ p,
      (program id).system.Run
        (Program.when (fun s _ op => s.overtakesNone op)
          fun s rest k reply =>
            SearchModel.alone id s.model rest k reply)
        (opened none)
        [ .call (.onChanged "cup"), .call .elapsed,
          .resume 1 (SearchModel.online 1) ] p ∧
      ((p.shared.text = "" ∧
          p.shared.render = .recentSearches) ∨
        ∃ answer,
          (answers id none
            [ .call (.onChanged "cup"), .call .elapsed,
              .resume 1 (SearchModel.online 1) ]).getLast? =
              some (p.shared.text, answer) ∧
            p.shared.render = layoutOf answer) := by
  have hRun :
      ∃ p,
        (program id).system.Run
          (Program.when (fun s _ op => s.overtakesNone op)
            fun s rest k reply =>
              SearchModel.alone id s.model rest k reply)
          (opened none)
          [ .call (.onChanged "cup"), .call .elapsed,
            .resume 1 (SearchModel.online 1) ] p ∧
        p.shared.timer = none ∧
        ¬ SearchModel.Searching p.pending :=
    ⟨_, System.run_iff_exec.mpr ⟨by decide, rfl⟩, rfl,
      by decide⟩
  rcases hRun with ⟨p, hRun, hTimer, hRest⟩
  exact ⟨p, hRun, rendered_of_rest hRun hTimer hRest⟩

end SearchScreen

end NewsCentral
