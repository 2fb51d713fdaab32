import NewsCentral.Dart.JsonRoundTrip
import NewsCentral.Videos.Codec

/-
  The text codec of `lib/models/channel_info.dart`.

  Every record is read back from the map it is written to.
  The map of a record that was itself read from a text can
  be written as a text: its integers are those of the text.

  Key definitions include:
    * `NewsCentral.ChannelInfo`
    * `NewsCentral.channelInfoFromJson` and
      `channelInfoToJson`
    * `Dart.Json.Writable`

  Key theorems include:
    * `NewsCentral.ChannelInfo.fromJson_toJson`
    * `NewsCentral.ChannelInfo.writable_of_fromJson`
    * `NewsCentral.channelInfo_roundTrips`
-/

------------------------------------------------------------
-- Records
------------------------------------------------------------

namespace NewsCentral

open Dart

namespace Channel

structure PageInfo where
  resultsPerPage : Option Int
deriving DecidableEq

namespace PageInfo

def fromJson (json : Json) : Except Thrown PageInfo := do
  let resultsPerPage ← json.intAt "resultsPerPage"
  return ⟨resultsPerPage⟩

def toJson (info : PageInfo) : Json :=
  .obj [("resultsPerPage", .ofInt? info.resultsPerPage)]

end PageInfo

structure Statistics where
  viewCount : Option String
  commentCount : Option String
  subscriberCount : Option String
  hiddenSubscriberCount : Option Bool
  videoCount : Option String
deriving DecidableEq

namespace Statistics

def fromJson (json : Json) : Except Thrown Statistics := do
  let viewCount ← json.text "viewCount"
  let commentCount ← json.text "commentCount"
  let subscriberCount ← json.text "subscriberCount"
  let hiddenSubscriberCount ←
    (← json.index "hiddenSubscriberCount").asBool
  let videoCount ← json.text "videoCount"
  return ⟨viewCount, commentCount, subscriberCount,
    hiddenSubscriberCount, videoCount⟩

def toJson (s : Statistics) : Json :=
  .obj
    [ ("viewCount", .ofString? s.viewCount),
      ("commentCount", .ofString? s.commentCount),
      ("subscriberCount", .ofString? s.subscriberCount),
      ("hiddenSubscriberCount",
        .ofBool? s.hiddenSubscriberCount),
      ("videoCount", .ofString? s.videoCount) ]

end Statistics

/- The sizes, in the records of `Default`. -/
structure Thumbnails where
  thumbnailsDefault : Default
  medium : Default
  high : Default
deriving DecidableEq

namespace Thumbnails

def fromJson (json : Json) : Except Thrown Thumbnails := do
  let thumbnailsDefault ←
    Default.fromJson (← json.mapAt "default")
  let medium ← Default.fromJson (← json.mapAt "medium")
  let high ← Default.fromJson (← json.mapAt "high")
  return ⟨thumbnailsDefault, medium, high⟩

def toJson (t : Thumbnails) : Json :=
  .obj
    [ ("default", t.thumbnailsDefault.toJson),
      ("medium", t.medium.toJson),
      ("high", t.high.toJson) ]

end Thumbnails

structure Localized where
  title : Option String
  description : Option String
deriving DecidableEq

namespace Localized

def fromJson (json : Json) : Except Thrown Localized := do
  let title ← json.text "title"
  let description ← json.text "description"
  return ⟨title, description⟩

def toJson (l : Localized) : Json :=
  .obj
    [ ("title", .ofString? l.title),
      ("description", .ofString? l.description) ]

end Localized

structure Snippet (D : Type) where
  title : Option String
  description : Option String
  publishedAt : D
  thumbnails : Thumbnails
  localized : Localized
  country : Option String
deriving DecidableEq

namespace Snippet

variable {D : Type} (dates : DateTimes D)

def fromJson (json : Json) : Except Thrown (Snippet D) := do
  let title ← json.text "title"
  let description ← json.text "description"
  let publishedAt ← Video.publishedAtOf dates json
  let thumbnails ←
    Thumbnails.fromJson (← json.mapAt "thumbnails")
  let localized ←
    Localized.fromJson (← json.mapAt "localized")
  let country ← json.text "country"
  return ⟨title, description, publishedAt, thumbnails,
    localized, country⟩

def toJson (s : Snippet D) : Json :=
  .obj
    [ ("title", .ofString? s.title),
      ("description", .ofString? s.description),
      ("publishedAt",
        .str (dates.toIso8601String s.publishedAt)),
      ("thumbnails", s.thumbnails.toJson),
      ("localized", s.localized.toJson),
      ("country", .ofString? s.country) ]

end Snippet

structure RelatedPlaylists where
  likes : Option String
  favorites : Option String
  uploads : Option String
  watchHistory : Option String
  watchLater : Option String
deriving DecidableEq

namespace RelatedPlaylists

def fromJson
    (json : Json) : Except Thrown RelatedPlaylists := do
  let likes ← json.text "likes"
  let favorites ← json.text "favorites"
  let uploads ← json.text "uploads"
  let watchHistory ← json.text "watchHistory"
  let watchLater ← json.text "watchLater"
  return ⟨likes, favorites, uploads, watchHistory, watchLater⟩

def toJson (r : RelatedPlaylists) : Json :=
  .obj
    [ ("likes", .ofString? r.likes),
      ("favorites", .ofString? r.favorites),
      ("uploads", .ofString? r.uploads),
      ("watchHistory", .ofString? r.watchHistory),
      ("watchLater", .ofString? r.watchLater) ]

end RelatedPlaylists

structure ContentDetails where
  relatedPlaylists : RelatedPlaylists
deriving DecidableEq

namespace ContentDetails

def fromJson
    (json : Json) : Except Thrown ContentDetails := do
  let relatedPlaylists ←
    RelatedPlaylists.fromJson
      (← json.mapAt "relatedPlaylists")
  return ⟨relatedPlaylists⟩

def toJson (c : ContentDetails) : Json :=
  .obj [("relatedPlaylists", c.relatedPlaylists.toJson)]

end ContentDetails

structure Item (D : Type) where
  kind : Option String
  etag : Option String
  id : Option String
  snippet : Snippet D
  contentDetails : ContentDetails
  statistics : Statistics
deriving DecidableEq

namespace Item

variable {D : Type} (dates : DateTimes D)

def fromJson (json : Json) : Except Thrown (Item D) := do
  let kind ← json.text "kind"
  let etag ← json.text "etag"
  let id ← json.text "id"
  let snippet ←
    Snippet.fromJson dates (← json.mapAt "snippet")
  let contentDetails ←
    ContentDetails.fromJson (← json.mapAt "contentDetails")
  let statistics ←
    Statistics.fromJson (← json.mapAt "statistics")
  return ⟨kind, etag, id, snippet, contentDetails, statistics⟩

def toJson (i : Item D) : Json :=
  .obj
    [ ("kind", .ofString? i.kind),
      ("etag", .ofString? i.etag),
      ("id", .ofString? i.id),
      ("snippet", i.snippet.toJson dates),
      ("contentDetails", i.contentDetails.toJson),
      ("statistics", i.statistics.toJson) ]

end Item

end Channel

/- What is known of a channel. -/
structure ChannelInfo (D : Type) where
  kind : Option String
  etag : Option String
  pageInfo : Channel.PageInfo
  items : List (Channel.Item D)
deriving DecidableEq

namespace ChannelInfo

variable {D : Type} (dates : DateTimes D)

def fromJson (json : Json) : Except Thrown (ChannelInfo D) := do
  let kind ← json.text "kind"
  let etag ← json.text "etag"
  let pageInfo ←
    Channel.PageInfo.fromJson (← json.mapAt "pageInfo")
  let items ←
    match ← json.index "items" with
    | .arr items =>
        items.mapM fun x =>
          x.asMap >>= Channel.Item.fromJson dates
    | _ => .error (.noSuchMethod "map")
  return ⟨kind, etag, pageInfo, items⟩

def toJson (info : ChannelInfo D) : Json :=
  .obj
    [ ("kind", .ofString? info.kind),
      ("etag", .ofString? info.etag),
      ("pageInfo", info.pageInfo.toJson),
      ("items",
        .arr (info.items.map fun x => x.toJson dates)) ]

end ChannelInfo

/- Read from the text of an answer. -/
def channelInfoFromJson
    {D : Type}
    (doubles : Doubles)
    (dates : DateTimes D)
    (str : String) : Except Thrown (ChannelInfo D) := do
  let json ← jsonDecode doubles str
  ChannelInfo.fromJson dates (← json.asMap)

/- Written as such a text. -/
def channelInfoToJson
    {D : Type}
    (dates : DateTimes D)
    (data : ChannelInfo D) : Except Thrown String :=
  jsonEncode (data.toJson dates)

end NewsCentral

------------------------------------------------------------
-- Reading Back A Record
------------------------------------------------------------

namespace NewsCentral

open Dart

namespace Channel

theorem PageInfo.fromJson_toJson
    (info : PageInfo) :
    (info.toJson.asMap >>= PageInfo.fromJson) = .ok info := by
  simp only [toJson, Json.asMap_obj, ok_bind_eq,
    PageInfo.fromJson, Json.intAt_obj, Json.field_cons,
    if_true, Json.asInt_ofInt?]
  rfl

theorem Statistics.fromJson_toJson
    (s : Statistics) :
    (s.toJson.asMap >>= Statistics.fromJson) = .ok s := by
  simp only [toJson, Json.asMap_obj, ok_bind_eq,
    Statistics.fromJson, Json.text_obj, Json.index_obj,
    Json.field_cons, String.reduceEq, if_true, if_false,
    Json.asString_ofString?, Json.asBool_ofBool?]
  rfl

theorem Thumbnails.fromJson_toJson
    (t : Thumbnails) :
    (t.toJson.asMap >>= Thumbnails.fromJson) = .ok t := by
  simp only [toJson, Json.asMap_obj, ok_bind_eq,
    Thumbnails.fromJson, Json.mapAt_obj, Json.field_cons,
    String.reduceEq, if_true, if_false,
    Default.asMap_toJson, Default.fromJson_toJson]
  rfl

theorem Localized.fromJson_toJson
    (l : Localized) :
    (l.toJson.asMap >>= Localized.fromJson) = .ok l := by
  simp only [toJson, Json.asMap_obj, ok_bind_eq,
    Localized.fromJson, Json.text_obj, Json.field_cons,
    String.reduceEq, if_true, if_false,
    Json.asString_ofString?]
  rfl

theorem RelatedPlaylists.fromJson_toJson
    (r : RelatedPlaylists) :
    (r.toJson.asMap >>= RelatedPlaylists.fromJson) =
      .ok r := by
  simp only [toJson, Json.asMap_obj, ok_bind_eq,
    RelatedPlaylists.fromJson, Json.text_obj, Json.field_cons,
    String.reduceEq, if_true, if_false,
    Json.asString_ofString?]
  rfl

/- A nested record is read in its place. -/
theorem read_nested
    {α β : Type}
    {j : Json}
    {read : Json → Except Thrown α}
    {v : α}
    (hBack : (j.asMap >>= read) = .ok v)
    (next : α → Except Thrown β) :
    (do
      let map ← j.asMap
      let v ← read map
      next v) = next v := by
  rcases bind_eq_ok_iff.mp hBack with ⟨map, hMap, hRead⟩
  rw [hMap, ok_bind_eq, hRead, ok_bind_eq]

theorem ContentDetails.fromJson_toJson
    (c : ContentDetails) :
    (c.toJson.asMap >>= ContentDetails.fromJson) = .ok c := by
  simp only [toJson, Json.asMap_obj, ok_bind_eq,
    ContentDetails.fromJson, Json.mapAt_obj, Json.field_cons,
    if_true, read_nested c.relatedPlaylists.fromJson_toJson]
  rfl

variable {D : Type} {dates : DateTimes D}

theorem Snippet.fromJson_toJson
    (s : Snippet D) :
    ((s.toJson dates).asMap >>= Snippet.fromJson dates) =
      .ok s := by
  simp only [toJson, Json.asMap_obj, ok_bind_eq,
    Snippet.fromJson, Video.publishedAtOf, Json.text_obj,
    Json.mapAt_obj, Json.field_cons, String.reduceEq, if_true,
    if_false, Json.asString_ofString?, Json.asString_str,
    dates.parse_toIso8601String,
    read_nested s.thumbnails.fromJson_toJson,
    read_nested s.localized.fromJson_toJson]
  rfl

theorem Item.fromJson_toJson
    (i : Item D) :
    ((i.toJson dates).asMap >>= Item.fromJson dates) =
      .ok i := by
  simp only [toJson, Json.asMap_obj, ok_bind_eq,
    Item.fromJson, Json.text_obj, Json.mapAt_obj,
    Json.field_cons, String.reduceEq, if_true, if_false,
    Json.asString_ofString?,
    read_nested i.snippet.fromJson_toJson,
    read_nested i.contentDetails.fromJson_toJson,
    read_nested i.statistics.fromJson_toJson]
  rfl

end Channel

/- Each record is read back from its map. -/
theorem ChannelInfo.fromJson_toJson
    {D : Type}
    {dates : DateTimes D}
    (info : ChannelInfo D) :
    ((info.toJson dates).asMap >>=
        ChannelInfo.fromJson dates) =
      .ok info := by
  have hItems :
      (info.items.map fun x => x.toJson dates).mapM
          (fun x => x.asMap >>= Channel.Item.fromJson dates) =
        .ok info.items := by
    refine mapM_of_forall₂ ?_
    rw [List.forall₂_map_left_iff]
    exact List.forall₂_same.mpr
      fun i _ => i.fromJson_toJson
  simp only [toJson, Json.asMap_obj, ok_bind_eq,
    ChannelInfo.fromJson, Json.text_obj, Json.mapAt_obj,
    Json.index_obj, Json.field_cons, String.reduceEq, if_true,
    if_false, Json.asString_ofString?, hItems,
    Channel.read_nested info.pageInfo.fromJson_toJson]
  rfl

end NewsCentral

------------------------------------------------------------
-- What Can Be Written
------------------------------------------------------------

namespace Dart

variable {doubles : Doubles}

namespace Json

/- A value whose text decodes to the value. -/
def Writable
    (doubles : Doubles)
    (j : Json) : Prop :=
  j.isDecoded doubles = true ∧ j.isFinite = true

@[simp] theorem writable_ofString?
    (s : Option String) :
    (ofString? s).Writable doubles :=
  ⟨isDecoded_ofString? s, isFinite_ofString? s⟩

@[simp] theorem writable_ofBool?
    (b : Option Bool) :
    (ofBool? b).Writable doubles :=
  ⟨isDecoded_ofBool? b, isFinite_ofBool? b⟩

@[simp] theorem writable_str
    (s : String) :
    (str s).Writable doubles :=
  writable_ofString? (some s)

theorem writable_ofInt?
    {n : Option Int}
    (hFits : ∀ k ∈ n, isInt64 k = true) :
    (ofInt? n).Writable doubles :=
  ⟨isDecoded_ofInt? hFits, isFinite_ofInt? n⟩

theorem writable_arr_iff
    (items : List Json) :
    (arr items).Writable doubles ↔
      ∀ j ∈ items, j.Writable doubles := by
  simp only [Writable, isDecoded, isFinite,
    isDecodedItems_iff, isFiniteItems_iff]
  exact (forall₂_and).symm

theorem writable_obj_iff
    (fields : List (String × Json)) :
    (obj fields).Writable doubles ↔
      (fields.map Prod.fst).Nodup ∧
        ∀ entry ∈ fields, entry.2.Writable doubles := by
  simp only [Writable, isDecoded, isFinite,
    Bool.and_eq_true, decide_eq_true_iff,
    isDecodedFields_iff, isFiniteFields_iff]
  constructor
  · rintro ⟨⟨hKeys, hDecoded⟩, hFinite⟩
    exact ⟨hKeys, fun entry hMem =>
      ⟨hDecoded entry hMem, hFinite entry hMem⟩⟩
  · rintro ⟨hKeys, hEach⟩
    exact ⟨⟨hKeys, fun entry hMem => (hEach entry hMem).1⟩,
      fun entry hMem => (hEach entry hMem).2⟩

/- The members of a decoded value are decoded. -/
theorem isDecoded_of_index
    {j x : Json}
    {key : String}
    (hDecoded : j.isDecoded doubles = true)
    (hIndex : j.index key = .ok x) :
    x.isDecoded doubles = true := by
  cases j with
  | obj fields =>
      cases hIndex
      exact isDecoded_field hDecoded key
  | _ => cases hIndex

theorem isDecoded_of_mapAt
    {j x : Json}
    {key : String}
    (hDecoded : j.isDecoded doubles = true)
    (hMap : j.mapAt key = .ok x) :
    x.isDecoded doubles = true := by
  rcases bind_eq_ok_iff.mp hMap with ⟨y, hIndex, hMap⟩
  rw [eq_of_asMap hMap]
  exact isDecoded_of_index hDecoded hIndex

theorem isInt64_of_intAt
    {j : Json}
    {key : String}
    {n : Option Int}
    (hDecoded : j.isDecoded doubles = true)
    (hInt : j.intAt key = .ok n) :
    ∀ k ∈ n, isInt64 k = true := by
  rcases bind_eq_ok_iff.mp hInt with ⟨x, hIndex, hInt⟩
  exact isInt64_of_asInt
    (isDecoded_of_index hDecoded hIndex) hInt

end Json

end Dart

namespace NewsCentral

open Dart

variable {doubles : Doubles} {j : Json}

theorem Default.writable_of_fromJson
    {d : Default}
    (hDecoded : j.isDecoded doubles = true)
    (hRead : Default.fromJson j = .ok d) :
    d.toJson.Writable doubles := by
  rcases bind_eq_ok_iff.mp hRead with ⟨url, _, hRead⟩
  rcases bind_eq_ok_iff.mp hRead with ⟨width, hWidth, hRead⟩
  rcases bind_eq_ok_iff.mp hRead with
    ⟨height, hHeight, hRead⟩
  cases hRead
  simp [Default.toJson, Json.writable_obj_iff,
    Json.writable_ofInt? (Json.isInt64_of_intAt hDecoded hWidth),
    Json.writable_ofInt?
      (Json.isInt64_of_intAt hDecoded hHeight)]

namespace Channel

theorem PageInfo.writable_of_fromJson
    {info : PageInfo}
    (hDecoded : j.isDecoded doubles = true)
    (hRead : PageInfo.fromJson j = .ok info) :
    info.toJson.Writable doubles := by
  rcases bind_eq_ok_iff.mp hRead with ⟨n, hInt, hRead⟩
  cases hRead
  simp [PageInfo.toJson, Json.writable_obj_iff,
    Json.writable_ofInt? (Json.isInt64_of_intAt hDecoded hInt)]

theorem Thumbnails.writable_of_fromJson
    {t : Thumbnails}
    (hDecoded : j.isDecoded doubles = true)
    (hRead : Thumbnails.fromJson j = .ok t) :
    t.toJson.Writable doubles := by
  -- each size is read from the map under its key
  have hSize
      {key : String}
      {map : Json}
      {d : Default}
      (hMap : j.mapAt key = .ok map)
      (hSize : Default.fromJson map = .ok d) :
      d.toJson.Writable doubles :=
    Default.writable_of_fromJson
      (Json.isDecoded_of_mapAt hDecoded hMap) hSize
  rcases bind_eq_ok_iff.mp hRead with ⟨_, hFirst, hRead⟩
  rcases bind_eq_ok_iff.mp hRead with ⟨_, hDefault, hRead⟩
  rcases bind_eq_ok_iff.mp hRead with ⟨_, hSecond, hRead⟩
  rcases bind_eq_ok_iff.mp hRead with ⟨_, hMedium, hRead⟩
  rcases bind_eq_ok_iff.mp hRead with ⟨_, hThird, hRead⟩
  rcases bind_eq_ok_iff.mp hRead with ⟨_, hHigh, hRead⟩
  cases hRead
  simp [Thumbnails.toJson, Json.writable_obj_iff,
    hSize hFirst hDefault, hSize hSecond hMedium,
    hSize hThird hHigh]

/- Records of texts and flags can always be written. -/
theorem Statistics.writable_toJson
    (s : Statistics) :
    s.toJson.Writable doubles := by
  simp [Statistics.toJson, Json.writable_obj_iff]

theorem Localized.writable_toJson
    (l : Localized) :
    l.toJson.Writable doubles := by
  simp [Localized.toJson, Json.writable_obj_iff]

theorem ContentDetails.writable_toJson
    (c : ContentDetails) :
    c.toJson.Writable doubles := by
  simp [ContentDetails.toJson, RelatedPlaylists.toJson,
    Json.writable_obj_iff]

variable {D : Type} {dates : DateTimes D}

theorem Snippet.writable_of_fromJson
    {s : Snippet D}
    (hDecoded : j.isDecoded doubles = true)
    (hRead : Snippet.fromJson dates j = .ok s) :
    (s.toJson dates).Writable doubles := by
  rcases bind_eq_ok_iff.mp hRead with ⟨_, _, hRead⟩
  rcases bind_eq_ok_iff.mp hRead with ⟨_, _, hRead⟩
  rcases bind_eq_ok_iff.mp hRead with ⟨_, _, hRead⟩
  rcases bind_eq_ok_iff.mp hRead with ⟨_, hMap, hRead⟩
  rcases bind_eq_ok_iff.mp hRead with ⟨_, hSizes, hRead⟩
  rcases bind_eq_ok_iff.mp hRead with ⟨_, _, hRead⟩
  rcases bind_eq_ok_iff.mp hRead with ⟨_, _, hRead⟩
  rcases bind_eq_ok_iff.mp hRead with ⟨_, _, hRead⟩
  cases hRead
  simp [Snippet.toJson, Json.writable_obj_iff,
    Localized.writable_toJson,
    Thumbnails.writable_of_fromJson
      (Json.isDecoded_of_mapAt hDecoded hMap) hSizes]

theorem Item.writable_of_fromJson
    {i : Item D}
    (hDecoded : j.isDecoded doubles = true)
    (hRead : Item.fromJson dates j = .ok i) :
    (i.toJson dates).Writable doubles := by
  rcases bind_eq_ok_iff.mp hRead with ⟨_, _, hRead⟩
  rcases bind_eq_ok_iff.mp hRead with ⟨_, _, hRead⟩
  rcases bind_eq_ok_iff.mp hRead with ⟨_, _, hRead⟩
  rcases bind_eq_ok_iff.mp hRead with ⟨_, hMap, hRead⟩
  rcases bind_eq_ok_iff.mp hRead with ⟨_, hSnippet, hRead⟩
  rcases bind_eq_ok_iff.mp hRead with ⟨_, _, hRead⟩
  rcases bind_eq_ok_iff.mp hRead with ⟨_, _, hRead⟩
  rcases bind_eq_ok_iff.mp hRead with ⟨_, _, hRead⟩
  rcases bind_eq_ok_iff.mp hRead with ⟨_, _, hRead⟩
  cases hRead
  simp [Item.toJson, Json.writable_obj_iff,
    ContentDetails.writable_toJson, Statistics.writable_toJson,
    Snippet.writable_of_fromJson
      (Json.isDecoded_of_mapAt hDecoded hMap) hSnippet]

end Channel

/- Each result of a loop comes from one of its items. -/
theorem exists_source
    {α β : Type}
    {R : α → β → Prop}
    {xs : List α}
    {ys : List β}
    (hEach : List.Forall₂ R xs ys)
    {y : β}
    (hMem : y ∈ ys) :
    ∃ x ∈ xs, R x y := by
  induction hEach with
  | nil => cases hMem
  | cons hHead _ ih =>
      rcases List.mem_cons.mp hMem with rfl | hTail
      · exact ⟨_, List.mem_cons_self, hHead⟩
      · rcases ih hTail with ⟨x, hSource, hRelated⟩
        exact ⟨x, List.mem_cons_of_mem _ hSource, hRelated⟩

/- What was read from a decoded value can be written. -/
theorem ChannelInfo.writable_of_fromJson
    {D : Type}
    {dates : DateTimes D}
    {info : ChannelInfo D}
    (hDecoded : j.isDecoded doubles = true)
    (hRead : ChannelInfo.fromJson dates j = .ok info) :
    (info.toJson dates).Writable doubles := by
  rcases bind_eq_ok_iff.mp hRead with ⟨_, _, hRead⟩
  rcases bind_eq_ok_iff.mp hRead with ⟨_, _, hRead⟩
  rcases bind_eq_ok_iff.mp hRead with ⟨_, hMap, hRead⟩
  rcases bind_eq_ok_iff.mp hRead with ⟨_, hPage, hRead⟩
  rcases bind_eq_ok_iff.mp hRead with ⟨list, hIndex, hRead⟩
  have hList := Json.isDecoded_of_index hDecoded hIndex
  cases list with
  | arr list =>
      rcases bind_eq_ok_iff.mp hRead with
        ⟨items, hItems, hRead⟩
      cases hRead
      have hEach :
          ∀ i ∈ items, (i.toJson dates).Writable doubles := by
        intro i hMem
        rcases exists_source (forall₂_of_mapM hItems) hMem with
          ⟨x, hSource, hItem⟩
        rcases bind_eq_ok_iff.mp hItem with
          ⟨map, hMap, hItem⟩
        rw [Json.eq_of_asMap hMap] at hItem
        exact Channel.Item.writable_of_fromJson
          ((Json.isDecodedItems_iff list).mp hList x hSource)
          hItem
      simpa [ChannelInfo.toJson, Json.writable_obj_iff,
        Json.writable_arr_iff,
        Channel.PageInfo.writable_of_fromJson
          (Json.isDecoded_of_mapAt hDecoded hMap) hPage]
        using hEach
  | _ => cases hRead

/-
  A channel read from any text can be written, and the text
  it is written to gives the same channel back.
-/
theorem channelInfo_roundTrips
    {D : Type}
    {dates : DateTimes D}
    {str : String}
    {data : ChannelInfo D}
    (hRead :
      channelInfoFromJson doubles dates str = .ok data) :
    ∃ text,
      channelInfoToJson dates data = .ok text ∧
        channelInfoFromJson doubles dates text =
          .ok data := by
  rcases bind_eq_ok_iff.mp hRead with ⟨json, hText, hRead⟩
  rcases bind_eq_ok_iff.mp hRead with ⟨map, hMap, hRead⟩
  rw [Json.eq_of_asMap hMap] at hRead
  have hWritable :=
    ChannelInfo.writable_of_fromJson
      (isDecoded_of_jsonDecode hText) hRead
  rcases exists_jsonEncode_iff.mpr hWritable.2 with
    ⟨text, hWritten⟩
  refine ⟨text, hWritten, ?_⟩
  rw [channelInfoFromJson,
    jsonDecode_of_jsonEncode hWritable.1 hWritten, ok_bind_eq]
  exact data.fromJson_toJson

/- The answer of the service for a channel. -/
def channelAnswer : Json :=
  .obj
    [ ("kind", .str "youtube#channelListResponse"),
      ("pageInfo", .obj [("resultsPerPage", .int 5)]),
      ("items",
        .arr
          [ .obj
            [ ("snippet",
                .obj
                  [ ("publishedAt",
                      .str "2020-10-01T12:00:00.000"),
                    ("thumbnails",
                      .obj
                        [ ("default",
                            .obj [("width", .int 88)]),
                          ("medium", .obj []),
                          ("high", .obj []) ]),
                    ("localized", .obj []) ]),
              ("contentDetails",
                .obj
                  [ ("relatedPlaylists",
                      .obj [("uploads", .str "UU")]) ]),
              ("statistics",
                .obj [("videoCount", .str "12")]) ] ]) ]

/- Such an answer is read and written. -/
theorem channelAnswer_roundTrips :
    ∃ str data,
      jsonEncode channelAnswer = .ok str ∧
        channelInfoFromJson .asWritten .ofLocal str =
          .ok data ∧
        ∃ text,
          channelInfoToJson .ofLocal data = .ok text ∧
            channelInfoFromJson .asWritten .ofLocal text =
              .ok data := by
  have hAccepted :
      (ChannelInfo.fromJson .ofLocal
        channelAnswer).isOk = true := by
    decide +kernel
  rcases exists_jsonEncode_iff.mpr
      (show channelAnswer.isFinite = true by decide) with
    ⟨str, hText⟩
  cases hData : ChannelInfo.fromJson .ofLocal channelAnswer with
  | error e =>
      rw [hData] at hAccepted
      cases hAccepted
  | ok data =>
      have hRead :
          channelInfoFromJson .asWritten .ofLocal str =
            .ok data := by
        rw [channelInfoFromJson,
          jsonDecode_of_jsonEncode (by decide) hText,
          ok_bind_eq]
        exact hData
      exact ⟨str, data, hText, hRead,
        channelInfo_roundTrips hRead⟩

end NewsCentral
