import NewsCentral.Search.Screen

/-
  The search page of `lib/widgets/blog/search`: the delegate
  `CustomSearch` and the page that shows it.

  Each build that shows results for some text searches for
  it and hands the answer to a stream builder, which keeps
  the data of the stream before until the new one comes.
  An answer to an earlier stream is dropped, so however the
  answers arrive the page at rest shows the one to the text
  in its field; if that search failed, it goes on loading.

  Key definitions include:
    * `NewsCentral.CustomSearch` and its `program`
    * `NewsCentral.CustomSearch.view`
    * `NewsCentral.CustomSearch.answers`
    * `NewsCentral.CustomSearch.PageInvariant`

  Key theorems include:
    * `NewsCentral.CustomSearch.PageInvariant.build`
    * `NewsCentral.CustomSearch.PageInvariant.resume`
    * `NewsCentral.CustomSearch.view_of_rest`
-/

------------------------------------------------------------
-- The Page
------------------------------------------------------------

namespace NewsCentral

open Dart EventLoop

/- `_SearchBody` -/
inductive SearchBody where
  | suggestions
  | results
deriving DecidableEq

/-
  A mounted stream builder: the search whose answer its
  stream brings, and the data of its snapshot.
-/
structure StreamBuilder where
  number : Nat
  data : Option (List BlogNews) := none

/- The builder takes the data of its own stream. -/
def StreamBuilder.receive
    (number : Nat)
    (data : Option (List BlogNews))
    (b : StreamBuilder) : StreamBuilder :=
  if b.number = number then { b with data := data } else b

/-
  The delegate, the search model, and the stream builder
  below the results.  There is no body once the page is
  closed.
-/
structure CustomSearch where
  model : SearchModel
  query : String := ""
  body : Option SearchBody := some .suggestions
  builder : Option StreamBuilder := none

namespace CustomSearch

/- What happens on the page. -/
inductive Op where
  | onChanged (text : String)
  | onSubmitted
  | focused
  | clear
  | tapKeyword (index : Nat)
  | clearKeywords
  | rebuild
  | close

/- What the page shows. -/
inductive View where
  | closed
  | suggestions
  | searchInput
  | loading
  | noProduct
  | found (blogs : List BlogNews)

/- What the stream builder makes of its data. -/
def View.ofData : Option (List BlogNews) → View
  | none => .loading
  | some [] => .noProduct
  | some (blog :: blogs) => .found (blog :: blogs)

def view (s : CustomSearch) : View :=
  match s.body with
  | none => .closed
  | some .suggestions => .suggestions
  | some .results =>
      if s.query = "" then
        .searchInput
      else
        .ofData (s.builder.bind StreamBuilder.data)

/-
  `buildResults`: search for the text, and give the stream
  to the builder.  No other body has a stream builder.
-/
def build
    (s : CustomSearch) :
    Option (CustomSearch × List SearchModel.Point) :=
  if s.body = some .results ∧ s.query ≠ "" then
    (SearchModel.call (.searchBlogs s.query) s.model).map
      fun r =>
        ({ s with
            model := r.1
            builder :=
              some
                { number := r.1.issued
                  data :=
                    s.builder.bind StreamBuilder.data } },
          r.2)
  else
    some ({ s with builder := none }, [])

/- `_currentBody = value`, which rebuilds on a change only. -/
def setBody
    (body : SearchBody)
    (s : CustomSearch) :
    Option (CustomSearch × List SearchModel.Point) :=
  if s.body = some body then
    some (s, [])
  else
    { s with body := some body }.build

/- The keywords that `RecentSearches` lists. -/
def keywords (s : CustomSearch) : List String :=
  (s.model.heap.read s.model.keywords).take 5

/-
  Start an operation on a page that is open.  The keywords
  are shown as suggestions, and the button that clears is
  shown while there is a text.
-/
def call
    (op : Op)
    (s : CustomSearch) :
    Option (CustomSearch × List SearchModel.Point) :=
  if s.body = none then
    none
  else
    match op with
    | .onChanged text =>
        { s with query := text, body := some .results }.build
    | .onSubmitted => s.setBody .results
    | .focused => s.setBody .suggestions
    | .clear =>
        if s.query = "" then
          none
        else
          { s with
            query := ""
            body := some .suggestions }.build
    | .tapKeyword index =>
        if s.body = some .suggestions then
          match s.keywords[index]? with
          | none => none
          | some text =>
              { s with
                query := text
                body := some .results }.build
        else
          none
    | .clearKeywords =>
        if s.body = some .suggestions ∧ s.keywords ≠ [] then
          (SearchModel.call .clearKeywords s.model).map
            fun r => ({ s with model := r.1 }, r.2)
        else
          none
    | .rebuild => s.build
    | .close =>
        some ({ s with body := none, builder := none }, [])

/- What a stream brings: nothing if the search failed. -/
def dataOf :
    Except Thrown (List BlogNews) → Option (List BlogNews)
  | .error _ => none
  | .ok blogs => some blogs

/- Resume an operation of the search model. -/
def resume
    (unescape : String → String)
    (k : SearchModel.Point)
    (reply : SearchModel.Reply)
    (s : CustomSearch) :
    CustomSearch × List SearchModel.Point :=
  let r := SearchModel.resume unescape k reply s.model
  let builder :=
    match k with
    | .searchBlog name number =>
        s.builder.map
          (StreamBuilder.receive number
            (dataOf
              (SearchModel.found unescape name reply)))
    | .savePrefs _ => s.builder
    | .saved => s.builder
    | .getPrefs => s.builder
  ({ s with model := r.1, builder := builder }, r.2)

/- The page as a program of the event loop. -/
def program
    (unescape : String → String) :
    Program CustomSearch Op SearchModel.Point
      SearchModel.Reply where
  call := call
  resume := resume unescape
  queued := fun _ => false

/- `showSearch`, over a search model in use. -/
def opened
    (p : Pool SearchModel SearchModel.Point) :
    Pool CustomSearch SearchModel.Point where
  shared := { model := p.shared }
  pending := p.pending

end CustomSearch

end NewsCentral

------------------------------------------------------------
-- Numbered Searches
------------------------------------------------------------

namespace NewsCentral

open Dart EventLoop

namespace SearchModel

variable {m : SearchModel} {t : SearchModel}
variable {pending next earlier later : List Point}

/- No search waits that was not issued. -/
def Numbered (m : SearchModel) (pending : List Point) : Prop :=
  ∀ name number, .searchBlog name number ∈ pending →
    number ≤ m.issued

/- A new search has a number of its own. -/
theorem numbered_call_cases
    {name : String}
    (hNumbered : m.Numbered pending)
    (hCall : call (.searchBlogs name) m = some (t, next)) :
    t.issued = m.issued + 1 ∧
      next = [.searchBlog name t.issued] ∧
      ∀ other number,
        .searchBlog other number ∈ pending ++ next →
          number < t.issued ∨
            other = name ∧ number = t.issued := by
  simp only [call, Option.some.injEq, Prod.mk.injEq] at hCall
  rcases hCall with ⟨rfl, rfl⟩
  refine ⟨rfl, rfl, fun other number hMem => ?_⟩
  rw [List.mem_append, List.mem_singleton] at hMem
  rcases hMem with hOld | hNew
  · exact .inl
      (Nat.lt_succ_of_le (hNumbered other number hOld))
  · cases hNew
    exact .inr ⟨rfl, rfl⟩

theorem Numbered.call
    {op : Op}
    (hNumbered : m.Numbered pending)
    (hCall : SearchModel.call op m = some (t, next)) :
    t.Numbered (pending ++ next) := by
  cases op with
  | searchBlogs name =>
      rcases numbered_call_cases hNumbered hCall with
        ⟨_, _, hCases⟩
      intro other number hMem
      rcases hCases other number hMem with hOld | ⟨_, hNew⟩
      · exact Nat.le_of_lt hOld
      · exact Nat.le_of_eq hNew
  | clearKeywords =>
      cases hCall
      intro name number hMem
      exact hNumbered name number (by simpa using hMem)

theorem Numbered.resume
    {unescape : String → String}
    {k : Point}
    {reply : Reply}
    (hNumbered : m.Numbered (earlier ++ k :: later)) :
    (SearchModel.resume unescape k reply m).1.Numbered
      (earlier ++ later ++
        (SearchModel.resume unescape k reply m).2) := by
  rcases issued_resume unescape k reply m with
    ⟨hIssued, hNext⟩
  intro name number hMem
  rw [hIssued]
  exact hNumbered name number
    (mem_of_not_searching hNext hMem)

/- So it is after any use of the search model. -/
theorem numbered_of_run
    {unescape : String → String}
    {recentSearches : Option (List String)}
    {es : List (Event Op Reply)}
    {p : Pool SearchModel Point}
    (hRun :
      (program unescape).system.Run System.anyStep
        (launched recentSearches) es p) :
    p.shared.Numbered p.pending := by
  refine Program.run_invariant
    (I := fun _ m pending => Numbered m pending)
    (Program.run_when_true hRun) ?_ ?_ ?_
  · intro name number hMem
    simp [launched] at hMem
  · intro _ s pending op s' next hI _ hCall
    exact hI.call hCall
  · intro _ s earlier k later reply hI _ _
    exact hI.resume

end SearchModel

end NewsCentral

------------------------------------------------------------
-- The Newest Answer
------------------------------------------------------------

namespace NewsCentral

open Dart EventLoop

namespace CustomSearch

/- A search: its number, its text, and what it found. -/
abbrev Answer :=
  Nat × String × Except Thrown (List BlogNews)

/- What is seen of the answer to a search. -/
def answered
    (unescape : String → String)
    (_ : CustomSearch)
    (k : SearchModel.Point)
    (reply : SearchModel.Reply) : List Answer :=
  match k with
  | .searchBlog name number =>
      [(number, name,
        SearchModel.found unescape name reply)]
  | .savePrefs _ => []
  | .saved => []
  | .getPrefs => []

/- The answers that come while the page is used. -/
def answers
    (unescape : String → String)
    (p : Pool SearchModel SearchModel.Point)
    (es : List (Event Op SearchModel.Reply)) :
    List Answer :=
  (program unescape).system.trace
    (Program.sight (fun _ _ => []) (answered unescape))
    (opened p) es

/-
  The builder awaits the search issued last, which is for
  the text of the field, or has its answer.
-/
structure Streams
    (seen : List Answer)
    (s : CustomSearch)
    (pending : List SearchModel.Point)
    (b : StreamBuilder) : Prop where
  body : s.body = some .results
  query : s.query ≠ ""
  newest : b.number = s.model.issued
  named :
    ∀ name, .searchBlog name s.model.issued ∈ pending →
      name = s.query
  brings :
    .searchBlog s.query s.model.issued ∈ pending ∨
      ∃ answer,
        (s.model.issued, s.query, answer) ∈ seen ∧
          b.data = dataOf answer

/- The results of a text are shown through such a builder. -/
structure PageInvariant
    (seen : List Answer)
    (s : CustomSearch)
    (pending : List SearchModel.Point) : Prop where
  numbered : s.model.Numbered pending
  streams : ∀ b ∈ s.builder, s.Streams seen pending b
  mounted :
    s.body = some .results → s.query ≠ "" →
      s.builder.isSome = true

variable {unescape : String → String}
variable {seen more : List Answer} {s t : CustomSearch}
variable {pending next : List SearchModel.Point}
variable {earlier later : List SearchModel.Point}
variable {k : SearchModel.Point} {reply : SearchModel.Reply}
variable {op : Op} {b : StreamBuilder}

/- A build brings the invariant about. -/
theorem PageInvariant.build
    (hNumbered : s.model.Numbered pending)
    (hBuild : s.build = some (t, next)) :
    PageInvariant seen t (pending ++ next) := by
  unfold CustomSearch.build at hBuild
  split at hBuild
  next hResults =>
    rcases Option.map_eq_some_iff.mp hBuild with
      ⟨r, hCall, hEq⟩
    cases hEq
    rcases SearchModel.numbered_call_cases hNumbered hCall
      with ⟨_, hNext, hCases⟩
    refine ⟨hNumbered.call hCall, ?_, fun _ _ => rfl⟩
    intro b hBuilder
    cases hBuilder
    exact
      { body := hResults.1
        query := hResults.2
        newest := rfl
        named := fun name hMem => by
          rcases hCases name _ hMem with hLess | ⟨hName, _⟩
          · exact absurd hLess (Nat.lt_irrefl _)
          · exact hName
        brings := .inl (by simp [hNext]) }
  next hOther =>
    cases hBuild
    rw [List.append_nil]
    refine ⟨hNumbered, fun b hNone => ?_, ?_⟩
    · cases hNone
    · intro hBody hQuery
      exact absurd ⟨hBody, hQuery⟩ hOther

/- Nothing is issued, and the builder stays as it is. -/
theorem PageInvariant.keep
    {rest : List SearchModel.Point}
    (hInv : PageInvariant seen s pending)
    (hNumbered : t.model.Numbered rest)
    (hIssued : t.model.issued = s.model.issued)
    (hBody : t.body = s.body)
    (hQuery : t.query = s.query)
    (hBuilder : t.builder = s.builder)
    (hSame :
      ∀ name,
        .searchBlog name s.model.issued ∈ rest ↔
          .searchBlog name s.model.issued ∈ pending) :
    PageInvariant (seen ++ more) t rest := by
  refine ⟨hNumbered, fun b hMem => ?_, ?_⟩
  · have hStreams := hInv.streams b (hBuilder ▸ hMem)
    exact
      { body := hBody.trans hStreams.body
        query := hQuery ▸ hStreams.query
        newest := hIssued ▸ hStreams.newest
        named := fun name hWaits => by
          rw [hIssued] at hWaits
          rw [hQuery]
          exact hStreams.named name ((hSame name).mp hWaits)
        brings := by
          rw [hIssued, hQuery, hSame]
          rcases hStreams.brings with
            hWaits | ⟨answer, hSeen, hData⟩
          · exact .inl hWaits
          · exact .inr
              ⟨answer, List.mem_append_left _ hSeen, hData⟩ }
  · rw [hBody, hQuery, hBuilder]
    exact hInv.mounted

theorem PageInvariant.setBody
    {body : SearchBody}
    (hInv : PageInvariant seen s pending)
    (hSet : s.setBody body = some (t, next)) :
    PageInvariant seen t (pending ++ next) := by
  unfold CustomSearch.setBody at hSet
  split at hSet
  next =>
    cases hSet
    rw [List.append_nil]
    exact hInv
  next =>
    refine .build ?_ hSet
    exact hInv.numbered

/- Every operation of an open page keeps the invariant. -/
theorem PageInvariant.call
    (hInv : PageInvariant seen s pending)
    (hCall : CustomSearch.call op s = some (t, next)) :
    PageInvariant seen t (pending ++ next) := by
  unfold CustomSearch.call at hCall
  split at hCall
  next => cases hCall
  next =>
    cases op with
    | onChanged text =>
        refine .build ?_ hCall
        exact hInv.numbered
    | onSubmitted => exact hInv.setBody hCall
    | focused => exact hInv.setBody hCall
    | rebuild => exact .build hInv.numbered hCall
    | clear =>
        simp only at hCall
        split at hCall
        next => cases hCall
        next =>
          refine .build ?_ hCall
          exact hInv.numbered
    | tapKeyword index =>
        simp only at hCall
        split at hCall
        next =>
          split at hCall
          next => cases hCall
          next =>
            refine .build ?_ hCall
            exact hInv.numbered
        next => cases hCall
    | clearKeywords =>
        simp only at hCall
        split at hCall
        next =>
          rcases Option.map_eq_some_iff.mp hCall with
            ⟨r, hClear, hEq⟩
          have hNumbered := hInv.numbered.call hClear
          cases hClear
          cases hEq
          rw [← List.append_nil seen]
          exact hInv.keep hNumbered rfl rfl rfl rfl
            fun name => by simp
        next => cases hCall
    | close =>
        cases hCall
        rw [List.append_nil]
        refine ⟨hInv.numbered, fun b hNone => ?_, ?_⟩
        · cases hNone
        · intro hBody
          cases hBody

/- The answer to the search issued last comes. -/
theorem Streams.receive
    {name : String}
    {answer : Except Thrown (List BlogNews)}
    {rest : List SearchModel.Point}
    (hStreams : s.Streams seen pending b)
    (hWaits : .searchBlog name s.model.issued ∈ pending)
    (hIssued : t.model.issued = s.model.issued)
    (hBody : t.body = s.body)
    (hQuery : t.query = s.query)
    (hRest :
      ∀ other,
        .searchBlog other s.model.issued ∈ rest →
          .searchBlog other s.model.issued ∈ pending) :
    t.Streams (seen ++ [(s.model.issued, name, answer)]) rest
      (b.receive s.model.issued (dataOf answer)) := by
  have hName := hStreams.named name hWaits
  have hTaken :
      b.receive s.model.issued (dataOf answer) =
        { b with data := dataOf answer } := by
    rw [StreamBuilder.receive, if_pos hStreams.newest]
  rw [hTaken]
  exact
    { body := hBody.trans hStreams.body
      query := hQuery ▸ hStreams.query
      newest := hStreams.newest.trans hIssued.symm
      named := fun other hMem => by
        rw [hIssued] at hMem
        rw [hQuery]
        exact hStreams.named other (hRest other hMem)
      brings := .inr
        ⟨answer, by rw [hIssued, hQuery, hName]; simp, rfl⟩ }

/- An answer to an earlier search is dropped. -/
theorem receive_of_older
    {number : Nat}
    {data : Option (List BlogNews)}
    (hStreams : s.Streams seen pending b)
    (hOlder : number ≠ s.model.issued) :
    b.receive number data = b := by
  rw [StreamBuilder.receive, hStreams.newest,
    if_neg (Ne.symm hOlder)]

/- Every turn keeps the invariant. -/
theorem PageInvariant.resume
    (hInv : PageInvariant seen s (earlier ++ k :: later)) :
    PageInvariant (seen ++ answered unescape s k reply)
      (CustomSearch.resume unescape k reply s).1
      (earlier ++ later ++
        (CustomSearch.resume unescape k reply s).2) := by
  have hNumbered :
      (SearchModel.resume unescape k reply
        s.model).1.Numbered
        (earlier ++ later ++
          (SearchModel.resume unescape k reply s.model).2) :=
    hInv.numbered.resume
  rcases SearchModel.issued_resume unescape k reply s.model
    with ⟨hIssued, hNext⟩
  by_cases hLast : ∃ name, k = .searchBlog name s.model.issued
  · rcases hLast with ⟨name, rfl⟩
    refine ⟨hNumbered, fun b hMem => ?_, ?_⟩
    · simp only [CustomSearch.resume, Option.mem_def,
        Option.map_eq_some_iff] at hMem
      rcases hMem with ⟨before, hBuilder, rfl⟩
      exact (hInv.streams before hBuilder).receive
        (by simp) hIssued rfl rfl fun other hRest =>
          SearchModel.mem_of_not_searching hNext hRest
    · intro hBody hQuery
      have hMounted := hInv.mounted hBody hQuery
      simpa [CustomSearch.resume] using hMounted
  · have hBuilder :
        (CustomSearch.resume unescape k reply s).1.builder =
          s.builder := by
      cases k with
      | searchBlog name number =>
          simp only [CustomSearch.resume]
          cases hSome : s.builder with
          | none => rfl
          | some b =>
              have hOlder : number ≠ s.model.issued := by
                rintro rfl
                exact hLast ⟨name, rfl⟩
              rw [Option.map_some,
                receive_of_older
                  (hInv.streams b hSome) hOlder]
      | savePrefs keywords => rfl
      | saved => rfl
      | getPrefs => rfl
    refine hInv.keep hNumbered hIssued rfl rfl hBuilder ?_
    intro name
    constructor
    · exact SearchModel.mem_of_not_searching hNext
    · intro hMem
      rw [List.mem_append, List.mem_cons] at hMem
      refine List.mem_append_left _ ?_
      rcases hMem with hLeft | hHere | hRight
      · exact List.mem_append_left _ hLeft
      · exact absurd ⟨name, hHere.symm⟩ hLast
      · exact List.mem_append_right _ hRight

/-
  However the page is used after any use of the search
  model, and in whatever order answers come: once the search
  issued last is answered, results for a text show what this
  search, which was for that text, has found, and go on
  loading if it failed.
-/
theorem view_of_rest
    {recentSearches : Option (List String)}
    {before : List (Event SearchModel.Op SearchModel.Reply)}
    {p : Pool SearchModel SearchModel.Point}
    {es : List (Event Op SearchModel.Reply)}
    {q : Pool CustomSearch SearchModel.Point}
    (hBefore :
      (SearchModel.program unescape).system.Run
        System.anyStep
        (SearchModel.launched recentSearches) before p)
    (hRun :
      (program unescape).system.Run System.anyStep
        (opened p) es q)
    (hResults : q.shared.body = some .results)
    (hQuery : q.shared.query ≠ "")
    (hAnswered :
      .searchBlog q.shared.query q.shared.model.issued ∉
        q.pending) :
    ∃ answer,
      (q.shared.model.issued, q.shared.query, answer) ∈
          answers unescape p es ∧
        q.shared.view = .ofData (dataOf answer) := by
  have hInv :
      PageInvariant (answers unescape p es) q.shared
        q.pending := by
    refine Program.trace_invariant (I := PageInvariant)
      (Program.run_when_true hRun) ?_ ?_ ?_
    · refine ⟨SearchModel.numbered_of_run hBefore,
        fun b hNone => ?_, fun hBody => ?_⟩
      · cases hNone
      · cases hBody
    · intro seen s pending op t next hInv _ hCall
      rw [List.append_nil]
      exact hInv.call hCall
    · intro seen s earlier k later reply hInv _
      exact hInv.resume
  rcases Option.isSome_iff_exists.mp
      (hInv.mounted hResults hQuery) with ⟨b, hBuilder⟩
  rcases (hInv.streams b hBuilder).brings with
    hWaits | ⟨answer, hSeen, hData⟩
  · exact absurd hWaits hAnswered
  · refine ⟨answer, hSeen, ?_⟩
    simp [view, hResults, hQuery, hBuilder, hData]

/- "cup" is overtaken by "rain", and both are answered. -/
def overtaken : List (Event Op SearchModel.Reply) :=
  [ .call (.onChanged "cup"), .call (.onChanged "rain"),
    .resume 2 (SearchModel.online 2),
    .resume 1 SearchModel.offline ]

theorem view_of_overtaken :
    ∃ q,
      (program id).system.Run System.anyStep
        (opened (SearchModel.launched none)) overtaken q ∧
      ∃ answer,
        (q.shared.model.issued, q.shared.query, answer) ∈
            answers id (SearchModel.launched none)
              overtaken ∧
          q.shared.view = .ofData (dataOf answer) := by
  refine ⟨_, System.run_of_exec rfl, ?_⟩
  exact view_of_rest .nil (System.run_of_exec rfl) rfl
    (by decide) (by decide)

end CustomSearch

end NewsCentral
