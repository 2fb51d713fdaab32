import NewsCentral.Videos.Program
import NewsCentral.Dart.DateTime
import NewsCentral.Dart.Members

/-
  The records of a page of videos, and their JSON:
  `lib/models/videos_list.dart`.

  A video may come without its two largest thumbnails, and
  `Thumbnails.toJson` then throws.  So a page is written
  back, and read again as it was, exactly if no video lacks
  one of these.

  Key definitions include:
    * `NewsCentral.VideoItem` and its parts
    * `NewsCentral.VideosList.toJson`
    * `NewsCentral.VideosList.HasAllSizes`

  Key theorems include:
    * `NewsCentral.Thumbnails.fromJson_of_toJson`
    * `NewsCentral.VideosList.roundTrips_iff`
-/

------------------------------------------------------------
-- Points Of Time
------------------------------------------------------------

namespace NewsCentral

open Dart

/- What the records use of `DateTime`. -/
structure DateTimes (D : Type) where
  parse : String → Except Thrown D
  toIso8601String : D → String
  parse_toIso8601String :
    ∀ d, parse (toIso8601String d) = .ok d

/- Points of time that are not UTC. -/
def DateTimes.ofLocal : DateTimes Dart.DateTime where
  parse := fun text =>
    match Dart.DateTime.parse text with
    | some d => .ok d
    | none => .error (.error "FormatException" text)
  toIso8601String := Dart.DateTime.toIso8601String
  parse_toIso8601String := by
    intro d
    rw [Dart.DateTime.parse_toIso8601String]

end NewsCentral

------------------------------------------------------------
-- Records And Their Codecs
------------------------------------------------------------

namespace NewsCentral

open Dart

/- A thumbnail. -/
structure Default where
  url : Option String
  width : Option Int
  height : Option Int
deriving DecidableEq

namespace Default

def fromJson (json : Json) : Except Thrown Default := do
  let url ← json.text "url"
  let width ← json.intAt "width"
  let height ← json.intAt "height"
  return ⟨url, width, height⟩

def toJson (d : Default) : Json :=
  .obj
    [ ("url", .ofString? d.url),
      ("width", .ofInt? d.width),
      ("height", .ofInt? d.height) ]

end Default

/- The sizes; decoding never leaves the first three null. -/
structure Thumbnails where
  thumbnailsDefault : Default
  medium : Default
  high : Default
  standard : Option Default
  maxres : Option Default
deriving DecidableEq

namespace Thumbnails

/- A size that is always there. -/
def size
    (json : Json)
    (key : String) : Except Thrown Default := do
  Default.fromJson (← json.mapAt key)

/- A size that may be null. -/
def optionalSize
    (json : Json)
    (key : String) : Except Thrown (Option Default) := do
  if (← json.index key).isNotNull then
    return some (← size json key)
  else
    return none

def fromJson (json : Json) : Except Thrown Thumbnails := do
  let thumbnailsDefault ← size json "default"
  let medium ← size json "medium"
  let high ← size json "high"
  let standard ← optionalSize json "standard"
  let maxres ← optionalSize json "maxres"
  return ⟨thumbnailsDefault, medium, high, standard, maxres⟩

/- `d.toJson()`, which null does not have. -/
def sizeToJson : Option Default → Except Thrown Json
  | none => .error (.noSuchMethod "toJson")
  | some d => .ok d.toJson

def toJson (t : Thumbnails) : Except Thrown Json := do
  let standard ← sizeToJson t.standard
  let maxres ← sizeToJson t.maxres
  return .obj
    [ ("default", t.thumbnailsDefault.toJson),
      ("medium", t.medium.toJson),
      ("high", t.high.toJson),
      ("standard", standard),
      ("maxres", maxres) ]

end Thumbnails

/- What a playlist item stands for. -/
structure ResourceId where
  kind : Option String
  videoId : Option String
deriving DecidableEq

namespace ResourceId

def fromJson (json : Json) : Except Thrown ResourceId := do
  let kind ← json.text "kind"
  let videoId ← json.text "videoId"
  return ⟨kind, videoId⟩

def toJson (r : ResourceId) : Json :=
  .obj
    [ ("kind", .ofString? r.kind),
      ("videoId", .ofString? r.videoId) ]

end ResourceId

/- The snippet of a playlist item. -/
structure Video (D : Type) where
  publishedAt : D
  channelId : Option String
  title : Option String
  description : Option String
  thumbnails : Thumbnails
  channelTitle : Option String
  playlistId : Option String
  position : Option Int
  resourceId : ResourceId
deriving DecidableEq

namespace Video

variable {D : Type} (dates : DateTimes D)

/- `DateTime.parse(json["publishedAt"])` -/
def publishedAtOf (json : Json) : Except Thrown D := do
  match ← json.text "publishedAt" with
  | none => .error (.error "ArgumentError" "null")
  | some text => dates.parse text

def fromJson (json : Json) : Except Thrown (Video D) := do
  let publishedAt ← publishedAtOf dates json
  let channelId ← json.text "channelId"
  let title ← json.text "title"
  let description ← json.text "description"
  let thumbnails ←
    Thumbnails.fromJson (← json.mapAt "thumbnails")
  let channelTitle ← json.text "channelTitle"
  let playlistId ← json.text "playlistId"
  let position ← json.intAt "position"
  let resourceId ←
    ResourceId.fromJson (← json.mapAt "resourceId")
  return ⟨publishedAt, channelId, title, description,
    thumbnails, channelTitle, playlistId, position,
    resourceId⟩

def toJson (v : Video D) : Except Thrown Json := do
  let thumbnails ← v.thumbnails.toJson
  return .obj
    [ ("publishedAt",
        .str (dates.toIso8601String v.publishedAt)),
      ("channelId", .ofString? v.channelId),
      ("title", .ofString? v.title),
      ("description", .ofString? v.description),
      ("thumbnails", thumbnails),
      ("channelTitle", .ofString? v.channelTitle),
      ("playlistId", .ofString? v.playlistId),
      ("position", .ofInt? v.position),
      ("resourceId", v.resourceId.toJson) ]

end Video

/- A playlist item. -/
structure VideoItem (D : Type) where
  kind : Option String
  etag : Option String
  id : Option String
  video : Video D
deriving DecidableEq

namespace VideoItem

variable {D : Type} (dates : DateTimes D)

def fromJson (json : Json) : Except Thrown (VideoItem D) := do
  let kind ← json.text "kind"
  let etag ← json.text "etag"
  let id ← json.text "id"
  let video ← Video.fromJson dates (← json.mapAt "snippet")
  return ⟨kind, etag, id, video⟩

def toJson (item : VideoItem D) : Except Thrown Json := do
  let snippet ← item.video.toJson dates
  return .obj
    [ ("kind", .ofString? item.kind),
      ("etag", .ofString? item.etag),
      ("id", .ofString? item.id),
      ("snippet", snippet) ]

end VideoItem

def PageInfo.toJson (info : PageInfo) : Json :=
  .obj
    [ ("totalResults", .ofInt? info.totalResults),
      ("resultsPerPage", .ofInt? info.resultsPerPage) ]

deriving instance DecidableEq for PageInfo
deriving instance DecidableEq for VideosList

def VideosList.toJson
    {V : Type}
    (item : V → Except Thrown Json)
    (v : VideosList V) : Except Thrown Json := do
  let items ← v.videos.mapM item
  return .obj
    [ ("kind", .ofString? v.kind),
      ("etag", .ofString? v.etag),
      ("nextPageToken", .ofString? v.nextPageToken),
      ("items", .arr items),
      ("pageInfo", v.pageInfo.toJson) ]

end NewsCentral

------------------------------------------------------------
-- Reading Back
------------------------------------------------------------

namespace NewsCentral

open Dart

theorem Default.fromJson_toJson
    (d : Default) :
    Default.fromJson d.toJson = .ok d := by
  simp only [Default.fromJson, toJson, Json.text_obj,
    Json.intAt_obj, Json.field_cons, String.reduceEq, if_true,
    if_false, Json.asString_ofString?, Json.asInt_ofInt?,
    ok_bind_eq]
  rfl

theorem Default.asMap_toJson
    (d : Default) :
    d.toJson.asMap = .ok d.toJson := rfl

theorem Default.isNotNull_toJson
    (d : Default) :
    d.toJson.isNotNull = true := rfl

theorem ResourceId.asMap_toJson
    (r : ResourceId) :
    r.toJson.asMap = .ok r.toJson := rfl

theorem PageInfo.asMap_toJson
    (info : PageInfo) :
    info.toJson.asMap = .ok info.toJson := rfl

theorem ResourceId.fromJson_toJson
    (r : ResourceId) :
    ResourceId.fromJson r.toJson = .ok r := by
  simp only [ResourceId.fromJson, toJson, Json.text_obj,
    Json.field_cons, String.reduceEq, if_true,
    if_false, Json.asString_ofString?,
    ok_bind_eq]
  rfl

theorem PageInfo.fromJson_toJson
    (info : PageInfo) :
    PageInfo.fromJson info.toJson = .ok info := by
  simp only [PageInfo.fromJson, toJson, Json.index_obj,
    Json.field_cons, String.reduceEq, if_true,
    if_false, Json.asInt_ofInt?,
    ok_bind_eq]
  rfl

namespace Thumbnails

/- Neither of the two largest sizes is missing. -/
def Complete (t : Thumbnails) : Prop :=
  t.standard.isSome ∧ t.maxres.isSome

theorem exists_sizeToJson_iff
    {d : Option Default} :
    (∃ j, sizeToJson d = .ok j) ↔ d.isSome := by
  cases d with
  | none => simp [sizeToJson]
  | some d => simp [sizeToJson]

/- The encoder is total on complete thumbnails only. -/
theorem exists_toJson_iff
    {t : Thumbnails} :
    (∃ j, t.toJson = .ok j) ↔ t.Complete := by
  unfold Complete toJson
  rw [← exists_sizeToJson_iff, ← exists_sizeToJson_iff]
  constructor
  · rintro ⟨j, hWritten⟩
    rcases bind_eq_ok_iff.mp hWritten with
      ⟨standard, hStandard, hRest⟩
    rcases bind_eq_ok_iff.mp hRest with ⟨maxres, hMaxres, _⟩
    exact ⟨⟨standard, hStandard⟩, maxres, hMaxres⟩
  · rintro ⟨⟨standard, hStandard⟩, maxres, hMaxres⟩
    rw [hStandard, hMaxres]
    exact ⟨_, rfl⟩

/- What is written is read back. -/
theorem fromJson_of_toJson
    {t : Thumbnails}
    {j : Json}
    (hWritten : t.toJson = .ok j) :
    (j.asMap >>= Thumbnails.fromJson) = .ok t := by
  rcases exists_toJson_iff.mp ⟨j, hWritten⟩ with
    ⟨hStandard, hMaxres⟩
  rcases Option.isSome_iff_exists.mp hStandard with ⟨s, hS⟩
  rcases Option.isSome_iff_exists.mp hMaxres with ⟨m, hM⟩
  rcases t with ⟨_, _, _, _, _⟩
  simp only at hS hM
  subst hS hM
  cases hWritten
  simp only [Json.asMap_obj, ok_bind_eq, Thumbnails.fromJson,
    optionalSize, size, Json.mapAt_obj, Json.index_obj,
    Json.field_cons, String.reduceEq, if_true, if_false,
    Default.asMap_toJson, Default.isNotNull_toJson,
    Default.fromJson_toJson]
  rfl

end Thumbnails

namespace Video

variable {D : Type} {dates : DateTimes D}
variable {v : Video D} {j : Json}

theorem exists_toJson_iff :
    (∃ j, v.toJson dates = .ok j) ↔
      v.thumbnails.Complete := by
  rw [← Thumbnails.exists_toJson_iff]
  exact exists_bind_pure_iff

theorem fromJson_of_toJson
    (hWritten : v.toJson dates = .ok j) :
    (j.asMap >>= Video.fromJson dates) = .ok v := by
  rcases bind_eq_ok_iff.mp hWritten with
    ⟨thumbnails, hThumbnails, hRest⟩
  have hBack := Thumbnails.fromJson_of_toJson hThumbnails
  rcases bind_eq_ok_iff.mp hBack with ⟨k, hMap, hRead⟩
  cases hRest
  simp only [Json.asMap_obj, ok_bind_eq, Video.fromJson,
    publishedAtOf, Json.text_obj, Json.mapAt_obj,
    Json.intAt_obj, Json.field_cons, String.reduceEq,
    if_true, if_false, Json.asString_str, hMap, hRead,
    ResourceId.asMap_toJson, ResourceId.fromJson_toJson,
    Json.asString_ofString?, Json.asInt_ofInt?,
    dates.parse_toIso8601String]
  rfl

end Video

namespace VideoItem

variable {D : Type} {dates : DateTimes D}
variable {item : VideoItem D} {j : Json}

theorem exists_toJson_iff :
    (∃ j, item.toJson dates = .ok j) ↔
      item.video.thumbnails.Complete := by
  rw [← Video.exists_toJson_iff]
  exact exists_bind_pure_iff

theorem fromJson_of_toJson
    (hWritten : item.toJson dates = .ok j) :
    (j.asMap >>= VideoItem.fromJson dates) = .ok item := by
  rcases bind_eq_ok_iff.mp hWritten with
    ⟨snippet, hSnippet, hRest⟩
  have hBack := Video.fromJson_of_toJson hSnippet
  rcases bind_eq_ok_iff.mp hBack with ⟨k, hMap, hRead⟩
  cases hRest
  simp only [Json.asMap_obj, ok_bind_eq, VideoItem.fromJson,
    Json.text_obj, Json.mapAt_obj, Json.field_cons,
    String.reduceEq, if_true, if_false, hMap, hRead,
    Json.asString_ofString?]
  rfl

end VideoItem

namespace VideosList

variable {V : Type}
variable {encode : V → Except Thrown Json}
variable {decode : Json → Except Thrown V}
variable {v : VideosList V} {j : Json}

theorem exists_toJson_iff :
    (∃ j, v.toJson encode = .ok j) ↔
      ∀ video ∈ v.videos, ∃ j, encode video = .ok j := by
  rw [← exists_mapM_iff]
  exact exists_bind_pure_iff

/- A page is read back if its videos are. -/
theorem fromJson_of_toJson
    (hBack :
      ∀ video j, encode video = .ok j →
        (j.asMap >>= decode) = .ok video)
    (hWritten : v.toJson encode = .ok j) :
    VideosList.fromJson decode j = .ok v := by
  rcases bind_eq_ok_iff.mp hWritten with
    ⟨items, hItems, hRest⟩
  have hEach :
      List.Forall₂
        (fun x video => (x.asMap >>= decode) = .ok video)
        items v.videos := by
    apply List.Forall₂.flip
    exact (forall₂_of_mapM hItems).imp hBack
  have hRead := mapM_of_forall₂ hEach
  cases hRest
  simp only [VideosList.fromJson, ok_bind_eq, Json.text_obj,
    Json.index_obj, Json.field_cons, String.reduceEq, if_true,
    if_false, hRead, PageInfo.asMap_toJson,
    PageInfo.fromJson_toJson, Json.asString_ofString?]
  rfl

end VideosList

end NewsCentral

------------------------------------------------------------
-- When A Page Is Written Back
------------------------------------------------------------

namespace NewsCentral

open Dart

namespace Thumbnails

/- A size is missing exactly if its value is null. -/
theorem isSome_of_optionalSize
    {json : Json}
    {key : String}
    {d : Option Default}
    (hRead : optionalSize json key = .ok d) :
    d.isSome ↔ json.index key ≠ .ok .null := by
  unfold optionalSize at hRead
  rcases bind_eq_ok_iff.mp hRead with ⟨j, hIndex, hRest⟩
  rw [hIndex]
  cases j with
  | null =>
      cases hRest
      simp
  | _ =>
      rcases bind_eq_ok_iff.mp hRest with ⟨size, _, hSome⟩
      cases hSome
      simp

theorem complete_iff
    {json : Json}
    {t : Thumbnails}
    (hRead : Thumbnails.fromJson json = .ok t) :
    t.Complete ↔
      ∀ size ∈ ["standard", "maxres"],
        json.index size ≠ .ok .null := by
  unfold Thumbnails.fromJson at hRead
  rcases bind_eq_ok_iff.mp hRead with ⟨_, _, hRead⟩
  rcases bind_eq_ok_iff.mp hRead with ⟨_, _, hRead⟩
  rcases bind_eq_ok_iff.mp hRead with ⟨_, _, hRead⟩
  rcases bind_eq_ok_iff.mp hRead with
    ⟨standard, hStandard, hRead⟩
  rcases bind_eq_ok_iff.mp hRead with ⟨maxres, hMaxres, hRead⟩
  cases hRead
  unfold Complete
  rw [isSome_of_optionalSize hStandard,
    isSome_of_optionalSize hMaxres]
  simp

end Thumbnails

/- What a playlist item has under a size. -/
def VideoItem.sizeAt
    (x : Json)
    (size : String) : Except Thrown Json := do
  (← (← x.mapAt "snippet").mapAt "thumbnails").index size

theorem VideoItem.complete_iff
    {D : Type}
    {dates : DateTimes D}
    {x : Json}
    {item : VideoItem D}
    (hRead : VideoItem.fromJson dates x = .ok item) :
    item.video.thumbnails.Complete ↔
      ∀ size ∈ ["standard", "maxres"],
        sizeAt x size ≠ .ok .null := by
  unfold VideoItem.fromJson at hRead
  rcases bind_eq_ok_iff.mp hRead with ⟨_, _, hRead⟩
  rcases bind_eq_ok_iff.mp hRead with ⟨_, _, hRead⟩
  rcases bind_eq_ok_iff.mp hRead with ⟨_, _, hRead⟩
  rcases bind_eq_ok_iff.mp hRead with
    ⟨snippet, hSnippet, hRead⟩
  rcases bind_eq_ok_iff.mp hRead with ⟨video, hVideo, hRead⟩
  cases hRead
  unfold Video.fromJson at hVideo
  rcases bind_eq_ok_iff.mp hVideo with ⟨_, _, hVideo⟩
  rcases bind_eq_ok_iff.mp hVideo with ⟨_, _, hVideo⟩
  rcases bind_eq_ok_iff.mp hVideo with ⟨_, _, hVideo⟩
  rcases bind_eq_ok_iff.mp hVideo with ⟨_, _, hVideo⟩
  rcases bind_eq_ok_iff.mp hVideo with ⟨sizes, hSizes, hVideo⟩
  rcases bind_eq_ok_iff.mp hVideo with
    ⟨thumbnails, hThumbnails, hVideo⟩
  have hComplete := Thumbnails.complete_iff hThumbnails
  rcases bind_eq_ok_iff.mp hVideo with ⟨_, _, hVideo⟩
  rcases bind_eq_ok_iff.mp hVideo with ⟨_, _, hVideo⟩
  rcases bind_eq_ok_iff.mp hVideo with ⟨_, _, hVideo⟩
  rcases bind_eq_ok_iff.mp hVideo with ⟨_, _, hVideo⟩
  rcases bind_eq_ok_iff.mp hVideo with ⟨_, _, hVideo⟩
  cases hVideo
  simpa only [sizeAt, hSnippet, hSizes, ok_bind_eq]
    using hComplete

namespace VideosList

variable {D : Type} {dates : DateTimes D}
variable {json : Json} {v : VideosList (VideoItem D)}

/- A page is written as JSON, and read again as it was. -/
def RoundTrips
    (dates : DateTimes D)
    (v : VideosList (VideoItem D)) : Prop :=
  ∃ j, v.toJson (VideoItem.toJson dates) = .ok j ∧
    VideosList.fromJson (VideoItem.fromJson dates) j = .ok v

/- No video of an answer lacks one of the largest sizes. -/
def HasAllSizes (json : Json) : Prop :=
  ∀ items, json.index "items" = .ok (.arr items) →
    ∀ x ∈ items, ∀ size ∈ ["standard", "maxres"],
      VideoItem.sizeAt x size ≠ .ok .null

theorem roundTrips_iff_complete :
    v.RoundTrips dates ↔
      ∀ item ∈ v.videos, item.video.thumbnails.Complete := by
  have hTotal :=
    @exists_toJson_iff _ (VideoItem.toJson dates) v
  simp only [VideoItem.exists_toJson_iff] at hTotal
  rw [← hTotal]
  constructor
  · rintro ⟨j, hWritten, _⟩
    exact ⟨j, hWritten⟩
  · rintro ⟨j, hWritten⟩
    refine ⟨j, hWritten, fromJson_of_toJson ?_ hWritten⟩
    intro item j hItem
    exact VideoItem.fromJson_of_toJson hItem

/- The videos of a page are decoded one by one. -/
theorem exists_items_of_fromJson
    (hAccepted :
      VideosList.fromJson (VideoItem.fromJson dates) json =
        .ok v) :
    ∃ items, json.index "items" = .ok (.arr items) ∧
      List.Forall₂
        (fun x item => VideoItem.fromJson dates x = .ok item)
        items v.videos := by
  unfold VideosList.fromJson at hAccepted
  rcases bind_eq_ok_iff.mp hAccepted with ⟨_, _, hAccepted⟩
  rcases bind_eq_ok_iff.mp hAccepted with ⟨_, _, hAccepted⟩
  rcases bind_eq_ok_iff.mp hAccepted with ⟨_, _, hAccepted⟩
  rcases bind_eq_ok_iff.mp hAccepted with
    ⟨items, hItems, hAccepted⟩
  cases items with
  | arr items =>
      rcases bind_eq_ok_iff.mp hAccepted with
        ⟨videos, hVideos, hRest⟩
      rcases bind_eq_ok_iff.mp hRest with ⟨_, _, hRest⟩
      rcases bind_eq_ok_iff.mp hRest with ⟨_, _, hRest⟩
      rcases bind_eq_ok_iff.mp hRest with ⟨_, _, hRest⟩
      cases hRest
      refine ⟨items, hItems, (forall₂_of_mapM hVideos).imp ?_⟩
      intro x item hItem
      rcases bind_eq_ok_iff.mp hItem with ⟨k, hMap, hRead⟩
      rw [Json.eq_of_asMap hMap] at hRead
      exact hRead
  | _ => cases hAccepted

/-
  An accepted page survives exactly if each of its videos
  has all sizes.
-/
theorem roundTrips_iff
    (hAccepted :
      VideosList.fromJson (VideoItem.fromJson dates) json =
        .ok v) :
    v.RoundTrips dates ↔ HasAllSizes json := by
  rcases exists_items_of_fromJson hAccepted with
    ⟨items, hItems, hEach⟩
  have hSizes :
      HasAllSizes json ↔
        ∀ x ∈ items, ∀ size ∈ ["standard", "maxres"],
          VideoItem.sizeAt x size ≠ .ok .null := by
    unfold HasAllSizes
    rw [hItems]
    constructor
    · intro hAll
      exact hAll items rfl
    · rintro hAll _ ⟨⟩
      exact hAll
  rw [hSizes, roundTrips_iff_complete]
  clear hSizes hItems hAccepted
  generalize v.videos = videos at hEach
  induction hEach with
  | nil => simp
  | cons hHead _ ih =>
      rw [List.forall_mem_cons, List.forall_mem_cons]
      exact and_congr (VideoItem.complete_iff hHead) ih

end VideosList

/- A page of one video, with its sizes and their values. -/
def examplePage (sizes : List (String × Json)) : Json :=
  .obj
    [ ("kind", .str "youtube#playlistItemListResponse"),
      ("items",
        .arr
          [ .obj
            [ ("id", .str "item"),
              ("snippet",
                .obj
                  [ ("publishedAt",
                      .str "2020-10-01T12:00:00.000"),
                    ("title", .str "News"),
                    ("thumbnails",
                      .obj
                        ([ ("default", .obj []),
                            ("medium", .obj []),
                            ("high", .obj []) ] ++ sizes)),
                    ("resourceId", .obj []) ]) ] ]),
      ("pageInfo", .obj [("totalResults", .int 1)]) ]

/- What is decoded of it. -/
def exampleList
    (standard maxres : Option Default) :
    VideosList (VideoItem Dart.DateTime) where
  kind := some "youtube#playlistItemListResponse"
  etag := none
  nextPageToken := none
  videos :=
    [ { kind := none
        etag := none
        id := some "item"
        video :=
          { publishedAt := Dart.DateTime.noon
            channelId := none
            title := some "News"
            description := none
            thumbnails :=
              { thumbnailsDefault := ⟨none, none, none⟩
                medium := ⟨none, none, none⟩
                high := ⟨none, none, none⟩
                standard := standard
                maxres := maxres }
            channelTitle := none
            playlistId := none
            position := none
            resourceId := ⟨none, none⟩ } } ]
  pageInfo := ⟨some 1, none⟩

/- A page whose video has all sizes. -/
theorem VideosList.roundTrips_allSizes :
    (exampleList (some ⟨none, none, none⟩)
      (some ⟨none, none, none⟩)).RoundTrips .ofLocal ↔
      HasAllSizes
        (examplePage
          [("standard", .obj []), ("maxres", .obj [])]) :=
  roundTrips_iff (by decide +kernel)

/- A video without its largest size is decoded all right. -/
theorem VideosList.no_maxres_throws :
    ∃ v,
      VideosList.fromJson (VideoItem.fromJson .ofLocal)
          (examplePage [("standard", .obj [])]) = .ok v ∧
        v.toJson (VideoItem.toJson .ofLocal) =
          .error (.noSuchMethod "toJson") ∧
        ¬ v.RoundTrips .ofLocal := by
  refine ⟨exampleList (some ⟨none, none, none⟩) none, ?_, ?_,
    ?_⟩
  · decide +kernel
  · rfl
  · rintro ⟨j, hWritten, _⟩
    cases hWritten

end NewsCentral
