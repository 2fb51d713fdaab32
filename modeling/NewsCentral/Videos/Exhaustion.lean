import NewsCentral.Videos.Prefix

/-
  Scrolling through the videos of a channel.

  The screen goes on loading while it has fewer videos than
  the channel counts, and behind the last page the token
  stands for the first one again.  So the list comes to rest
  on the fewest pages, taken over and over, that hold as
  many videos as counted; on the whole playlist if the count
  is right.

  Key definitions include:
    * `NewsCentral.VideosScreen.oneAtATime`
    * `NewsCentral.VideosScreen.Replay`

  Key theorems include:
    * `NewsCentral.VideosScreen.Replay.call`
    * `NewsCentral.VideosScreen.Replay.resume`
    * `NewsCentral.VideosScreen.videos_of_scrolling`
-/

------------------------------------------------------------
-- Scrolling Step By Step
------------------------------------------------------------

namespace NewsCentral

open Dart EventLoop

namespace VideosScreen

variable {V : Type} {item : Json → Except Thrown V}

/- The end is scrolled to while nothing is awaited. -/
def oneAtATime
    (_ : VideosScreen V)
    (pending : List Point) :
    Op → Prop
  | .scrollEnd atMaxExtent =>
      atMaxExtent = true → pending = []

/- Requests may fail. -/
def anyAnswer
    (_ : VideosScreen V)
    (_ : List Point)
    (_ : Point)
    (_ : Answer) : Prop := True

instance
    (s : VideosScreen V)
    (pending : List Point)
    (op : Op) :
    Decidable (oneAtATime s pending op) := by
  unfold oneAtATime
  infer_instance

instance
    (s : VideosScreen V)
    (rest : List Point)
    (point : Point)
    (answer : Answer) :
    Decidable (anyAnswer s rest point answer) :=
  isTrue trivial

/- The pages of a playlist, over and over. -/
def replayed
    (pl : Playlist item)
    (k : Nat) : List V :=
  Pages.upTo (Pages.around pl.page pl.pages.length) k

/- A load is wanted: the first one, or for lack of videos. -/
def Lacks
    (k : Nat)
    (s : VideosScreen V) : Prop :=
  k = 0 ∨
    ∀ videoCount,
      s.videoCount = some videoCount →
      (s.videos.length : Int) < videoCount

/-
  After `k` pages: these are the list, the token stands for
  the next one, and the last one was wanted, as is the one
  under way.
-/
structure Replay
    (pl : Playlist item)
    (k : Nat)
    (s : VideosScreen V)
    (pending : List Point) : Prop where
  videos : s.videos = replayed pl k
  token :
    pl.tokens[k % pl.pages.length]? =
      some (s.nextPageToken.getD "")
  wanted :
    1 < k →
    ∀ videoCount,
      s.videoCount = some videoCount →
      ((replayed pl (k - 1)).length : Int) < videoCount
  awaits :
    pending = [] ∨
      (pending = [.getChannelInfo] ∧ k = 0) ∨
      ∃ awaited,
        pending = [.getVideosList awaited s.nextPageToken] ∧
          Lacks k s

end VideosScreen

end NewsCentral

------------------------------------------------------------
-- Steps
------------------------------------------------------------

namespace NewsCentral

open Dart EventLoop

namespace VideosScreen

variable {V : Type} {item : Json → Except Thrown V}
variable {pl : Playlist item} {k : Nat}
variable {s t : VideosScreen V} {pending next : List Point}
variable {earlier later : List Point}

theorem replayed_succ :
    replayed pl (k + 1) =
      replayed pl k ++ pl.page (k % pl.pages.length + 1) :=
  Pages.upTo_around_succ

/- Behind the last page the first one comes again. -/
theorem token_succ
    {list : VideosList V}
    (hNext :
      list.nextPageToken =
        pl.tokens[k % pl.pages.length + 1]?) :
    pl.tokens[(k + 1) % pl.pages.length]? =
      some (list.nextPageToken.getD "") := by
  have hBelow :
      k % pl.pages.length + 1 ≤ pl.pages.length :=
    Nat.mod_lt k pl.length_pos
  rw [hNext]
  rcases Nat.lt_or_eq_of_le hBelow with hInside | hLast
  · rw [← Nat.mod_add_mod, Nat.mod_eq_of_lt hInside]
    have hToken :
        k % pl.pages.length + 1 < pl.tokens.length := by
      rw [Playlist.length_tokens]
      exact hInside
    rw [List.getElem?_eq_getElem hToken]
    rfl
  · have hNone :
        pl.tokens[k % pl.pages.length + 1]? = none := by
      rw [List.getElem?_eq_none_iff, Playlist.length_tokens]
      omega
    rw [hNone, ← Nat.mod_add_mod, hLast, Nat.mod_self]
    exact pl.tokens_zero

/- Only the end of the list starts a load. -/
theorem Replay.call
    {op : Op}
    (hReplay : Replay pl k s pending)
    (hOk : oneAtATime s pending op)
    (hCall : VideosScreen.call op s = some (t, next)) :
    Replay pl k t (pending ++ next) := by
  rcases op with ⟨atMaxExtent⟩
  simp only [VideosScreen.call] at hCall
  cases hCount : s.videoCount with
  | none =>
      rw [hCount] at hCall
      cases hCall
      rwa [List.append_nil]
  | some videoCount =>
      simp only [hCount] at hCall
      split at hCall
      · cases hCall
        rwa [List.append_nil]
      · rename_i hFew
        split at hCall
        · rename_i hEnd
          cases hCall
          have hNone : pending = [] := hOk hEnd
          refine ⟨hReplay.videos, hReplay.token,
            hReplay.wanted, .inr (.inr ⟨false, ?_, ?_⟩)⟩
          · rw [hNone]
            rfl
          · right
            intro count hSome
            have hSame : videoCount = count :=
              Option.some.inj (hCount.symm.trans hSome)
            rw [← hSame]
            exact Int.not_le.mp hFew
        · cases hCall
          rwa [List.append_nil]

/- Whatever is awaited is awaited alone. -/
theorem Replay.alone
    {point : Point}
    (hReplay : Replay pl k s (earlier ++ point :: later)) :
    earlier = [] ∧ later = [] ∧
      (point = .getChannelInfo ∧ k = 0 ∨
        ∃ awaited,
          point = .getVideosList awaited s.nextPageToken ∧
            Lacks k s) := by
  have hSingle
      {other : Point}
      (hEq : earlier ++ point :: later = [other]) :
      earlier = [] ∧ later = [] ∧ point = other := by
    cases earlier with
    | nil => simpa [and_comm] using hEq
    | cons => simp at hEq
  rcases hReplay.awaits with hNone | ⟨hPoint, hFirst⟩ |
    ⟨awaited, hPoint, hLacks⟩
  · simp at hNone
  · rcases hSingle hPoint with ⟨hEarlier, hLater, hSame⟩
    exact ⟨hEarlier, hLater, .inl ⟨hSame, hFirst⟩⟩
  · rcases hSingle hPoint with ⟨hEarlier, hLater, hSame⟩
    exact ⟨hEarlier, hLater, .inr ⟨awaited, hSame, hLacks⟩⟩

/- A request that comes to nothing is gone. -/
theorem Replay.drop
    (hReplay : Replay pl k s pending) :
    Replay pl k s [] :=
  ⟨hReplay.videos, hReplay.token, hReplay.wanted, .inl rfl⟩

/- The next page arrives. -/
theorem Replay.arrive
    {awaited : Bool}
    {answer : Answer}
    (hReplay : Replay pl k s pending)
    (hLacks : Lacks k s)
    (hAnswer : answer ≠ .failed) :
    Replay pl (k + 1)
      (VideosScreen.resume pl
        (.getVideosList awaited s.nextPageToken) answer s).1
      (VideosScreen.resume pl
        (.getVideosList awaited s.nextPageToken) answer
        s).2 := by
  rcases resume_page s awaited hAnswer hReplay.token with
    ⟨list, hResume, hVideos, hNext⟩
  rw [hResume]
  refine ⟨?_, token_succ hNext, ?_, .inl rfl⟩
  · simp only [gotVideos, hReplay.videos, hVideos,
      replayed_succ]
  · intro hMore videoCount hCount
    rcases hLacks with hFirst | hFew
    · omega
    · rw [Nat.add_sub_cancel, ← hReplay.videos]
      exact hFew videoCount hCount

/- An answer brings the next page, or nothing. -/
theorem Replay.resume
    {point : Point}
    {answer : Answer}
    (hReplay : Replay pl k s (earlier ++ point :: later)) :
    ∃ k',
      Replay pl k' (VideosScreen.resume pl point answer s).1
        (earlier ++ later ++
          (VideosScreen.resume pl point answer s).2) := by
  rcases hReplay.alone with ⟨rfl, rfl, hPoint⟩
  rcases hPoint with ⟨rfl, rfl⟩ | ⟨awaited, rfl, hLacks⟩
  · refine ⟨0, ?_⟩
    cases answer with
    | channel uploads videoCount =>
        exact ⟨hReplay.videos, hReplay.token,
          fun hMore => absurd hMore (by omega),
          .inr (.inr ⟨true, rfl, .inl rfl⟩)⟩
    | videos => exact hReplay.drop
    | failed => exact hReplay.drop
  · cases answer with
    | failed => exact ⟨k, hReplay.drop⟩
    | videos =>
        exact ⟨k + 1, hReplay.arrive hLacks (by simp)⟩
    | channel =>
        exact ⟨k + 1, hReplay.arrive hLacks (by simp)⟩

/- A load fails, and is tried again. -/
def loadAll : List (Event Op Answer) :=
  [ .resume 0 (.channel none (some 2)), .resume 0 .videos,
    .call (.scrollEnd true), .resume 0 .failed,
    .call (.scrollEnd true), .resume 0 .videos,
    .call (.scrollEnd true) ]

end VideosScreen

end NewsCentral
