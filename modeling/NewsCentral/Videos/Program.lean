import NewsCentral.EventLoop.Program
import NewsCentral.Dart.Json
import NewsCentral.Lists.Pages

/-
  The list of videos: `lib/screens/videos_list_screen.dart`
  over `lib/services/services.dart` and
  `lib/models/videos_list.dart`.

  A load asks with the token the last answer has left, and
  null goes over the wire like the empty token.  Nothing
  looks into a video, so `VideoItem.fromJson` is a
  parameter.

  Key definitions include:
    * `NewsCentral.VideosList.fromJson`
    * `NewsCentral.Playlist`
    * `NewsCentral.VideosScreen`
    * `NewsCentral.VideosScreen.program`
-/

------------------------------------------------------------
-- Decoding
------------------------------------------------------------

namespace NewsCentral

open Dart EventLoop

/- The numbers that come with an answer. -/
structure PageInfo where
  totalResults : Option Int
  resultsPerPage : Option Int

def PageInfo.fromJson
    (json : Json) : Except Thrown PageInfo := do
  let totalResults ← (← json.index "totalResults").asInt
  let resultsPerPage ← (← json.index "resultsPerPage").asInt
  return ⟨totalResults, resultsPerPage⟩

/- An answer of the service. -/
structure VideosList (V : Type) where
  kind : Option String
  etag : Option String
  nextPageToken : Option String
  videos : List V
  pageInfo : PageInfo

variable {V : Type}

def VideosList.fromJson
    (item : Json → Except Thrown V)
    (json : Json) : Except Thrown (VideosList V) := do
  let kind ← json.text "kind"
  let etag ← json.text "etag"
  let nextPageToken ← json.text "nextPageToken"
  let items ← json.index "items"
  let videos ←
    match items with
    | .arr items => items.mapM fun x => x.asMap >>= item
    | _ => .error (.noSuchMethod "map")
  let pageInfo ←
    PageInfo.fromJson (← (← json.index "pageInfo").asMap)
  return ⟨kind, etag, nextPageToken, videos, pageInfo⟩

------------------------------------------------------------
-- Playlists
------------------------------------------------------------

/- A page: the token that asks for it, and its answer. -/
structure PlaylistPage
    (item : Json → Except Thrown V) where
  token : String
  body : Json
  list : VideosList V
  decodes : VideosList.fromJson item body = .ok list

/-
  A playlist served as a chain of pages: each names the
  token of the next one, the last names none, and the empty
  token stands for the first.
-/
structure Playlist
    (item : Json → Except Thrown V) where
  pages : List (PlaylistPage item)
  first : (pages.map (·.token)).head? = some ""
  distinct : (pages.map (·.token)).Nodup
  chained :
    ∀ i (page : PlaylistPage item),
      pages[i]? = some page →
      page.list.nextPageToken =
        (pages.map (·.token))[i + 1]?

namespace Playlist

variable {item : Json → Except Thrown V}

/- The tokens of the pages. -/
def tokens (pl : Playlist item) : List String :=
  pl.pages.map (·.token)

/- The videos of the page with a number. -/
def page
    (pl : Playlist item) : Nat → List V
  | 0 => []
  | n + 1 =>
      match pl.pages[n]? with
      | none => []
      | some page => page.list.videos

/- The number of the page that a parameter asks for. -/
def number
    (pl : Playlist item)
    (pageToken : Option String) : Nat :=
  pl.tokens.idxOf (pageToken.getD "") + 1

/- The answer to a parameter; other tokens are refused. -/
def serve
    (pl : Playlist item)
    (pageToken : Option String) : Except Thrown Json :=
  match pl.pages[pl.number pageToken - 1]? with
  | none => .ok (.obj [("error", .obj [])])
  | some page => .ok page.body

end Playlist

------------------------------------------------------------
-- The Screen
------------------------------------------------------------

/-
  The screen.  `videoCount` is what `int.parse` gives for
  the count of `_item`, none while that throws.  The numbers
  of the pages that have arrived are a history.
-/
structure VideosScreen (V : Type) where
  loading : Bool := true
  playListId : Option String := none
  videoCount : Option Int := none
  nextPageToken : Option String := some ""
  videos : List V := []
  received : List Nat := []

namespace VideosScreen

/- A scroll ends, at the end of the list or not. -/
inductive Op where
  | scrollEnd (atMaxExtent : Bool)
deriving DecidableEq

/- The channel is awaited, or a page, the first one by it. -/
inductive Point where
  | getChannelInfo
  | getVideosList (awaited : Bool) (pageToken : Option String)
deriving DecidableEq

/- A request is answered, or fails. -/
inductive Answer where
  | channel (uploads : Option String) (videoCount : Option Int)
  | videos
  | failed
deriving DecidableEq

/- `_loadVideos`, up to its request. -/
def loadVideos
    (awaited : Bool)
    (s : VideosScreen V) : VideosScreen V × List Point :=
  (s, [.getVideosList awaited s.nextPageToken])

/- What `_loadVideos` does with an answer. -/
def gotVideos
    (awaited : Bool)
    (number : Nat)
    (list : VideosList V)
    (s : VideosScreen V) : VideosScreen V :=
  { s with
    loading := s.loading && !awaited
    nextPageToken := list.nextPageToken
    videos := s.videos ++ list.videos
    received := s.received ++ [number] }

/- `onNotification`; `int.parse` may throw in it. -/
def call
    (op : Op)
    (s : VideosScreen V) :
    Option (VideosScreen V × List Point) :=
  match op, s.videoCount with
  | .scrollEnd _, none => some (s, [])
  | .scrollEnd atMaxExtent, some videoCount =>
      if videoCount ≤ (s.videos.length : Int) then
        some (s, [])
      else if atMaxExtent then
        some (s.loadVideos false)
      else
        some (s, [])

/- An error ends `_getChannelInfo` and `_loadVideos`. -/
def resume
    {item : Json → Except Thrown V}
    (pl : Playlist item)
    (point : Point)
    (answer : Answer)
    (s : VideosScreen V) : VideosScreen V × List Point :=
  match point, answer with
  | .getChannelInfo, .channel uploads videoCount =>
      ({ s with
        playListId := uploads
        videoCount := videoCount }.loadVideos true)
  | .getChannelInfo, _ => (s, [])
  | .getVideosList _ _, .failed => (s, [])
  | .getVideosList awaited pageToken, _ =>
      match (pl.serve pageToken).bind
        (VideosList.fromJson item) with
      | .error _ => (s, [])
      | .ok list =>
          (s.gotVideos awaited (pl.number pageToken) list, [])

/- The screen on the event loop. -/
def program
    {item : Json → Except Thrown V}
    (pl : Playlist item) :
    Program (VideosScreen V) Op Point Answer where
  call := call
  resume := resume pl
  queued := fun _ => false

/- `initState` -/
def opened : Pool (VideosScreen V) Point :=
  ⟨{}, [.getChannelInfo]⟩

end VideosScreen

end NewsCentral
