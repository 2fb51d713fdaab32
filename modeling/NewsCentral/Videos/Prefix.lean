import NewsCentral.Videos.Program

/-
  When the list of videos is a prefix of the playlist.

  A load carries the token of the moment it was started, and
  the token moves on only when an answer arrives.  So the
  list stays a prefix exactly while every page that arrives
  is the one the token then stands for.

  Key definitions include:
    * `NewsCentral.VideosScreen.ShowsPrefix`
    * `NewsCentral.VideosScreen.ArrivesNext`
    * `NewsCentral.VideosScreen.PrefixInvariant`

  Key theorems include:
    * `NewsCentral.VideosScreen.PrefixInvariant.arrive`
    * `NewsCentral.VideosScreen.showsPrefix_iff`
-/

------------------------------------------------------------
-- Pages By Their Tokens
------------------------------------------------------------

namespace NewsCentral

open Dart EventLoop

namespace Playlist

variable {V : Type} {item : Json → Except Thrown V}
variable {pl : Playlist item} {i : Nat}

theorem length_tokens :
    pl.tokens.length = pl.pages.length := by
  simp [tokens]

/- The first page has the empty token. -/
theorem tokens_zero : pl.tokens[0]? = some "" := by
  rw [← List.head?_eq_getElem?]
  exact pl.first

theorem tokens_nodup : pl.tokens.Nodup :=
  pl.distinct

theorem length_pos : 0 < pl.pages.length := by
  rw [← length_tokens]
  exact (List.getElem?_eq_some_iff.mp pl.tokens_zero).1

/- A token asks for its own page. -/
theorem number_of_token
    {pageToken : Option String}
    (hToken : pl.tokens[i]? = some (pageToken.getD "")) :
    pl.number pageToken = i + 1 := by
  rcases List.getElem?_eq_some_iff.mp hToken with
    ⟨hLt, hGet⟩
  unfold number
  rw [← hGet, pl.tokens_nodup.idxOf_getElem]

/- A page is served as it decodes, with the next token. -/
theorem serve_of_token
    {pageToken : Option String}
    (hToken : pl.tokens[i]? = some (pageToken.getD "")) :
    ∃ list,
      (pl.serve pageToken).bind (VideosList.fromJson item) =
          .ok list ∧
        list.videos = pl.page (i + 1) ∧
        list.nextPageToken = pl.tokens[i + 1]? := by
  have hNumber := number_of_token hToken
  have hPage := hToken
  rw [tokens, List.getElem?_map,
    Option.map_eq_some_iff] at hPage
  rcases hPage with ⟨page, hAt, _⟩
  refine ⟨page.list, ?_, ?_, pl.chained i page hAt⟩
  · simp only [serve, hNumber, Nat.add_sub_cancel, hAt]
    exact page.decodes
  · simp only [Playlist.page, hAt]

end Playlist

end NewsCentral

------------------------------------------------------------
-- The Property And Its Condition
------------------------------------------------------------

namespace NewsCentral

open Dart EventLoop

namespace VideosScreen

variable {V : Type} {item : Json → Except Thrown V}

/-
  The pages that have arrived are the first ones, each once
  and in order, and the list is made of them.  Once the last
  page has arrived it is the whole playlist, and stays it.
-/
def ShowsPrefix
    (pl : Playlist item)
    (s : VideosScreen V) : Prop :=
  ∃ k ≤ pl.pages.length,
    s.received = List.range' 1 k ∧
      s.videos = Pages.upTo pl.page k ∧
      (pl.pages.length ∈ s.received →
        s.videos = Pages.upTo pl.page pl.pages.length)

/-
  A page arrives only for the token that the screen has now,
  and not for null.
-/
def ArrivesNext
    (s : VideosScreen V)
    (_ : List Point)
    (point : Point)
    (answer : Answer) : Prop :=
  match point, answer with
  | .getChannelInfo, _ => True
  | .getVideosList _ _, .failed => True
  | .getVideosList _ pageToken, _ =>
      pageToken.isSome ∧ pageToken = s.nextPageToken

/- Scrolling is not restricted. -/
def anyScroll
    (_ : VideosScreen V)
    (_ : List Point)
    (_ : Op) : Prop := True

instance
    (s : VideosScreen V)
    (rest : List Point)
    (op : Op) :
    Decidable (anyScroll s rest op) :=
  isTrue trivial

instance
    (s : VideosScreen V)
    (rest : List Point)
    (point : Point)
    (answer : Answer) :
    Decidable (ArrivesNext s rest point answer) := by
  cases point <;> cases answer <;> unfold ArrivesNext <;>
    infer_instance

/-
  After `k` pages, a parameter is null once they were all,
  or the token of some page.
-/
def Asks
    (pl : Playlist item)
    (k : Nat)
    (pageToken : Option String) : Prop :=
  (pageToken = none ∧ k = pl.pages.length) ∨
    ∃ i < pl.pages.length, pageToken = pl.tokens[i]?

/-
  After `k` pages the screen has the token of the next one,
  and what is asked for is some page.
-/
structure PrefixInvariant
    (pl : Playlist item)
    (k : Nat)
    (s : VideosScreen V)
    (pending : List Point) : Prop where
  bound : k ≤ pl.pages.length
  received : s.received = List.range' 1 k
  videos : s.videos = Pages.upTo pl.page k
  token : s.nextPageToken = pl.tokens[k]?
  asks :
    ∀ awaited pageToken,
      .getVideosList awaited pageToken ∈ pending →
      Asks pl k pageToken

end VideosScreen

end NewsCentral

------------------------------------------------------------
-- Steps
------------------------------------------------------------

namespace NewsCentral

open Dart EventLoop

namespace VideosScreen

variable {V : Type} {item : Json → Except Thrown V}
variable {pl : Playlist item} {k : Nat}
variable {s : VideosScreen V} {pending : List Point}
variable {earlier later : List Point}

theorem PrefixInvariant.showsPrefix
    (hInv : PrefixInvariant pl k s pending) :
    ShowsPrefix pl s := by
  refine ⟨k, hInv.bound, hInv.received, hInv.videos, ?_⟩
  intro hLast
  rw [hInv.received, List.mem_range'_1] at hLast
  have hAll : k = pl.pages.length := by
    have hBound := hInv.bound
    omega
  rw [hInv.videos, hAll]

/- The token of the screen asks for the next page, or none. -/
theorem PrefixInvariant.asks_next
    (hInv : PrefixInvariant pl k s pending) :
    Asks pl k s.nextPageToken := by
  rw [hInv.token]
  rcases Nat.lt_or_eq_of_le hInv.bound with hLt | hEq
  · exact .inr ⟨k, hLt, rfl⟩
  · left
    refine ⟨?_, hEq⟩
    rw [List.getElem?_eq_none_iff, Playlist.length_tokens]
    omega

/- A load that starts changes nothing yet. -/
theorem PrefixInvariant.loadVideos
    {awaited : Bool}
    {s' : VideosScreen V}
    (hInv : PrefixInvariant pl k s pending)
    (hReceived : s'.received = s.received)
    (hVideos : s'.videos = s.videos)
    (hToken : s'.nextPageToken = s.nextPageToken) :
    PrefixInvariant pl k (s'.loadVideos awaited).1
      (pending ++ (s'.loadVideos awaited).2) where
  bound := hInv.bound
  received := hReceived.trans hInv.received
  videos := hVideos.trans hInv.videos
  token := hToken.trans hInv.token
  asks := by
    intro awaited' pageToken hMem
    rcases List.mem_append.mp hMem with hOld | hNew
    · exact hInv.asks awaited' pageToken hOld
    · simp only [VideosScreen.loadVideos,
        List.mem_singleton,
        Point.getVideosList.injEq] at hNew
      rw [hNew.2, hToken]
      exact hInv.asks_next

/- A request that is gone asks for nothing. -/
theorem PrefixInvariant.drop
    {point : Point}
    (hInv :
      PrefixInvariant pl k s (earlier ++ point :: later)) :
    PrefixInvariant pl k s (earlier ++ later) where
  bound := hInv.bound
  received := hInv.received
  videos := hInv.videos
  token := hInv.token
  asks := fun awaited pageToken hMem =>
    hInv.asks awaited pageToken (mem_of_mem_rest hMem)

theorem PrefixInvariant.call
    {op : Op}
    {s' : VideosScreen V}
    {next : List Point}
    (hInv : PrefixInvariant pl k s pending)
    (hCall : call op s = some (s', next)) :
    PrefixInvariant pl k s' (pending ++ next) := by
  rcases op with ⟨atMaxExtent⟩
  simp only [VideosScreen.call] at hCall
  repeat' split at hCall
  all_goals cases hCall
  · simpa using hInv
  · simpa using hInv
  · exact hInv.loadVideos rfl rfl rfl
  · simpa using hInv

/- What an answer with a page does. -/
theorem resume_page
    (s : VideosScreen V)
    (awaited : Bool)
    {i : Nat}
    {pageToken : Option String}
    {answer : Answer}
    (hAnswer : answer ≠ .failed)
    (hToken : pl.tokens[i]? = some (pageToken.getD "")) :
    ∃ list,
      resume pl (.getVideosList awaited pageToken) answer s =
          (s.gotVideos awaited (i + 1) list, []) ∧
        list.videos = pl.page (i + 1) ∧
        list.nextPageToken = pl.tokens[i + 1]? := by
  rcases Playlist.serve_of_token hToken with
    ⟨list, hServe, hVideos, hNext⟩
  have hNumber := Playlist.number_of_token hToken
  refine ⟨list, ?_, hVideos, hNext⟩
  cases answer with
  | failed => exact absurd rfl hAnswer
  | _ => simp only [resume, hServe, hNumber]

/- The page of the screen's token arrives. -/
theorem PrefixInvariant.arrive
    {awaited : Bool}
    {pageToken : Option String}
    {answer : Answer}
    (hInv :
      PrefixInvariant pl k s
        (earlier ++ .getVideosList awaited pageToken :: later))
    (hAnswer : answer ≠ .failed)
    (hSome : pageToken.isSome)
    (hToken : pageToken = s.nextPageToken) :
    PrefixInvariant pl (k + 1)
      (resume pl (.getVideosList awaited pageToken) answer
        s).1
      (earlier ++ later ++
        (resume pl (.getVideosList awaited pageToken) answer
          s).2) := by
  have hAt : pl.tokens[k]? = some (pageToken.getD "") := by
    rw [← hInv.token, ← hToken]
    cases pageToken with
    | none => cases hSome
    | some t => rfl
  have hLt : k < pl.pages.length := by
    rw [← Playlist.length_tokens]
    exact (List.getElem?_eq_some_iff.mp hAt).1
  rcases resume_page s awaited hAnswer hAt with
    ⟨list, hResume, hVideos, hNext⟩
  rw [hResume]
  constructor
  · omega
  · simp only [gotVideos, hInv.received,
      Pages.range'_one_succ]
  · simp only [gotVideos, hInv.videos, hVideos,
      Pages.upTo_succ]
  · exact hNext
  · intro awaited' pageToken' hMem
    rw [List.append_nil] at hMem
    rcases hInv.asks awaited' pageToken'
        (mem_of_mem_rest hMem) with ⟨_, hAll⟩ | hPage
    · omega
    · exact .inr hPage

/- Another page repeats one, or skips one. -/
theorem PrefixInvariant.arrive_breaks
    {awaited : Bool}
    {pageToken : Option String}
    {answer : Answer}
    (hInv :
      PrefixInvariant pl k s
        (earlier ++ .getVideosList awaited pageToken :: later))
    (hAnswer : answer ≠ .failed)
    (hOther :
      ¬ (pageToken.isSome ∧ pageToken = s.nextPageToken)) :
    ¬ ShowsPrefix pl
      (resume pl (.getVideosList awaited pageToken) answer
        s).1 := by
  have hPage :
      ∃ i, i ≠ k ∧
        pl.tokens[i]? = some (pageToken.getD "") := by
    rcases hInv.asks awaited pageToken (by simp) with
      ⟨hNull, hAll⟩ | ⟨i, hLt, hToken⟩
    · refine ⟨0, ?_, ?_⟩
      · have hPos := pl.length_pos
        omega
      · rw [hNull]
        exact pl.tokens_zero
    · have hGet := hToken
      rw [List.getElem?_eq_getElem
        (by rw [Playlist.length_tokens]; exact hLt)] at hGet
      refine ⟨i, ?_, ?_⟩
      · rintro rfl
        exact hOther
          ⟨by rw [hGet]; rfl, hToken.trans hInv.token.symm⟩
      · rw [← hToken, hGet]
        rfl
  rcases hPage with ⟨i, hNe, hToken⟩
  rcases resume_page s awaited hAnswer hToken with
    ⟨list, hResume, _, _⟩
  rw [hResume]
  rintro ⟨k', _, hReceived, _, _⟩
  simp only [gotVideos, hInv.received,
    Pages.range'_one_append_iff] at hReceived
  omega

end VideosScreen

end NewsCentral

------------------------------------------------------------
-- Every Run
------------------------------------------------------------

namespace NewsCentral

open Dart EventLoop

namespace VideosScreen

variable {V : Type} {item : Json → Except Thrown V}
variable {pl : Playlist item}
variable {s : VideosScreen V}
variable {earlier later : List Point} {k : Nat}

theorem PrefixInvariant.opened :
    PrefixInvariant pl 0 (opened (V := V)).shared
      (opened (V := V)).pending where
  bound := Nat.zero_le _
  received := rfl
  videos := rfl
  token := pl.tokens_zero.symm
  asks := by simp [VideosScreen.opened]

/- An answer that arrives next keeps the invariant. -/
theorem PrefixInvariant.resume
    {point : Point}
    {answer : Answer}
    (hInv :
      PrefixInvariant pl k s (earlier ++ point :: later))
    (hNext :
      ArrivesNext s (earlier ++ later) point answer) :
    ∃ k',
      PrefixInvariant pl k' (resume pl point answer s).1
        (earlier ++ later ++
          (resume pl point answer s).2) := by
  have hUnchanged :
      PrefixInvariant pl k s (earlier ++ later ++ []) := by
    rw [List.append_nil]
    exact hInv.drop
  cases point with
  | getChannelInfo =>
      cases answer with
      | channel uploads videoCount =>
          exact ⟨k, hInv.drop.loadVideos rfl rfl rfl⟩
      | _ => exact ⟨k, hUnchanged⟩
  | getVideosList awaited pageToken =>
      cases answer with
      | failed => exact ⟨k, hUnchanged⟩
      | _ =>
          exact ⟨k + 1,
            hInv.arrive (by simp) hNext.1 hNext.2⟩

/- Any other answer leaves no prefix. -/
theorem PrefixInvariant.breaks
    {point : Point}
    {answer : Answer}
    (hInv :
      PrefixInvariant pl k s (earlier ++ point :: later))
    (hOther :
      ¬ ArrivesNext s (earlier ++ later) point answer) :
    ¬ ShowsPrefix pl
      (VideosScreen.resume pl point answer s).1 := by
  cases point with
  | getChannelInfo => exact absurd trivial hOther
  | getVideosList awaited pageToken =>
      cases answer with
      | failed => exact absurd trivial hOther
      | _ => exact hInv.arrive_breaks (by simp) hOther

/-
  Over every playlist, with every count of videos, in every
  run of the screen, the list is at all times a prefix of
  the playlist exactly if only next pages arrive.
-/
theorem showsPrefix_iff
    {es : List (Event Op Answer)}
    {p : Pool (VideosScreen V) Point}
    (hRun :
      (program pl).system.Run System.anyStep opened es p) :
    (program pl).system.Always
        (fun _ u => ShowsPrefix pl u.shared) opened es ↔
      (program pl).system.Run
        (Program.when anyScroll ArrivesNext) opened es p := by
  refine Program.always_iff_run
    (I := fun s pending => ∃ k, PrefixInvariant pl k s pending)
    (G := fun s _ => ShowsPrefix pl s)
    ⟨0, PrefixInvariant.opened⟩ ?_ ?_ ?_ ?_ ?_ hRun
  · rintro s pending op s' next ⟨k, hInv⟩ _ hCall
    exact ⟨k, hInv.call hCall⟩
  · rintro s earlier point later answer ⟨k, hInv⟩ hNext
    exact hInv.resume hNext
  · rintro s pending ⟨k, hInv⟩
    exact hInv.showsPrefix
  · intro s pending op s' next _ hBroken
    exact absurd trivial hBroken
  · rintro s earlier point later answer ⟨k, hInv⟩ hBroken
    exact hInv.breaks hBroken

/- A page with one video. -/
def onePage
    (token id : String)
    (next : Option String) :
    PlaylistPage (fun json => json.text "id") where
  token := token
  body :=
    .obj
      [ ("nextPageToken", .ofString? next),
        ("items", .arr [.obj [("id", .str id)]]),
        ("pageInfo", .obj []) ]
  list :=
    { kind := none
      etag := none
      nextPageToken := next
      videos := [some id]
      pageInfo := ⟨none, none⟩ }
  decodes := by cases next <;> rfl

/- A playlist of two pages. -/
def twoPages : Playlist (fun json => json.text "id") where
  pages := [onePage "" "a" (some "t"), onePage "t" "b" none]
  first := rfl
  distinct := by decide
  chained
    | 0, _, hAt => by
        cases hAt
        rfl
    | 1, _, hAt => by
        cases hAt
        rfl
    | _ + 2, _, hAt => by cases hAt

/- The channel, its first page, and the next one. -/
def loadBoth : List (Event Op Answer) :=
  [ .resume 0 (.channel none (some 3)), .resume 0 .videos,
    .call (.scrollEnd true), .resume 0 .videos ]

theorem showsPrefix_loadBoth :
    ∃ p,
      (program twoPages).system.Run System.anyStep opened
        loadBoth p ∧
      p.shared.videos = [some "a", some "b"] ∧
      (program twoPages).system.Always
        (fun _ u => ShowsPrefix twoPages u.shared) opened
        loadBoth := by
  have hRun :
      ∃ p,
        (program twoPages).system.Run
          (Program.when anyScroll ArrivesNext) opened
          loadBoth p ∧
        p.shared.videos = [some "a", some "b"] :=
    ⟨_, System.run_iff_exec.mpr ⟨by decide, rfl⟩, rfl⟩
  rcases hRun with ⟨p, hRun, hVideos⟩
  exact ⟨p, hRun.any, hVideos,
    (showsPrefix_iff hRun.any).mpr hRun⟩

/-
  The channel counts one video more than the playlist has:
  the scroll after the last page loads the first one again.
-/
theorem first_page_again :
    ∃ p,
      (program twoPages).system.Run System.anyStep opened
        (loadBoth ++
          [.call (.scrollEnd true), .resume 0 .videos]) p ∧
      p.shared.videos = [some "a", some "b", some "a"] ∧
      ¬ ShowsPrefix twoPages p.shared := by
  refine ⟨_, System.run_of_exec rfl, rfl, ?_⟩
  rintro ⟨k, _, hReceived, _⟩
  have hLength := congrArg List.length hReceived
  simp only [List.length_range'] at hLength
  subst hLength
  exact absurd hReceived (by decide)

end VideosScreen

end NewsCentral
