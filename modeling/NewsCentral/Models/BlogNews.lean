import NewsCentral.Dart.Json

/-
  Posts, as `lib/models/blog_news.dart` decodes and stores
  them.

  Null is modelled by `none`.  Both decoding constructors
  swallow their errors and keep what was assigned before.
  The `HtmlUnescape` package is the parameter `unescape`.

  Key definitions include:
    * `NewsCentral.BlogNews`
    * `NewsCentral.BlogNews.fromJson`
    * `NewsCentral.BlogNews.toJson`
    * `NewsCentral.BlogNews.fromLocalJson`
-/

------------------------------------------------------------
-- Posts
------------------------------------------------------------

namespace NewsCentral

open Dart

/- A post; the fields are those of the source class. -/
structure BlogNews where
  id : Option Int := none
  date : Option String := none
  title : Option String := none
  author : Option String := none
  content : Option String := none
  excerpt : Option String := none
  slug : Option String := none
  imageFeature : Option String := none
  categoryId : Option Int := none
deriving DecidableEq

namespace BlogNews

/- The placeholder shown while posts are loading. -/
def empty (id : Int) : BlogNews where
  id := some id
  date := some ""
  title := some "Loading..."
  author := some ""
  content := some ""
  excerpt := some ""
  imageFeature := some ""

/- `HtmlUnescape().convert` of a dynamic value. -/
def unescaped
    (unescape : String → String)
    (j : Json) : Except Thrown String := do
  match ← j.asString with
  | none => .error (.noSuchMethod "indexOf")
  | some s => .ok (unescape s)

/- The large image of an image object, when it has one. -/
def sizedImage
    (image : Json)
    (size : String) : Except Thrown (Option Json) := do
  let details ← image.index "media_details"
  let sizes ← details.index "sizes"
  let sized ← sizes.index size
  if sized.isNotNull then
    return some (← sized.index "source_url")
  else
    return none

/- The text under `key`, then `rendered`. -/
def rendered
    (parsedJson : Json)
    (key : String) : Except Thrown Json := do
  (← parsedJson.index key).index "rendered"

/-
  The image of the post itself, when there is one.  The
  statements below keep the image they find as a JSON value
  until it is assigned.
-/
def featuredImage
    (parsedJson : Json) : Except Thrown (Option Json) := do
  let imgJson ← parsedJson.index "better_featured_image"
  if imgJson.isNotNull then
    sizedImage imgJson "medium_large"
  else
    return none

/- The first image embedded with the post. -/
def embeddedImage
    (parsedJson : Json) : Except Thrown (Option Json) := do
  let embedded ← parsedJson.index "_embedded"
  let imgMedia ← embedded.index "wp:featuredmedia"
  if imgMedia.isNotNull then
    sizedImage (← imgMedia.itemAt 0) "large"
  else
    return none

/- The image address added by the Jetpack plugin. -/
def jetpackImage
    (parsedJson : Json) : Except Thrown (Option Json) := do
  let url ← parsedJson.index "jetpack_featured_media_url"
  return if url.isNotNull then some url else none

/- Assign an image that was found to the post. -/
def assignImage
    (image : Except Thrown (Option Json))
    (blog : BlogNews) : Except Thrown BlogNews := do
  match ← image with
  | none => return blog
  | some url =>
      return { blog with imageFeature := ← url.asString }

/- Do so only while the post has no image. -/
def assignMissingImage
    (image : Except Thrown (Option Json))
    (blog : BlogNews) : Except Thrown BlogNews :=
  if blog.imageFeature.isNone then
    assignImage image blog
  else
    .ok blog

/- The statements of `fromJson`, in source order. -/
def fromJsonBody
    (unescape : String → String)
    (parsedJson : Json) :
    List (BlogNews → Except Thrown BlogNews) :=
  [ assign
      (do
        let categories ← parsedJson.index "categories"
        (← categories.itemAt 0).asInt)
      fun blog v => { blog with categoryId := v },
    assign (do (← parsedJson.index "id").asInt)
      fun blog v => { blog with id := v },
    assign (parsedJson.text "slug")
      fun blog v => { blog with slug := v },
    assign
      (do unescaped unescape (← rendered parsedJson "title"))
      fun blog v => { blog with title := some v },
    assign (do (← rendered parsedJson "content").asString)
      fun blog v => { blog with content := v },
    assign (parsedJson.text "date")
      fun blog v => { blog with date := v },
    assignImage (featuredImage parsedJson),
    assignMissingImage (embeddedImage parsedJson),
    assignMissingImage (jetpackImage parsedJson),
    assign
      (do
        unescaped unescape (← rendered parsedJson "excerpt"))
      fun blog v => { blog with excerpt := some v } ]

/- Decode a post of the WordPress API. -/
def fromJson
    (unescape : String → String)
    (parsedJson : Json) : BlogNews :=
  tryEach (fromJsonBody unescape parsedJson) {}

/- An image is assigned to the image field alone. -/
theorem hidden_assignImage
    {γ : Type}
    {view : BlogNews → γ}
    (hView :
      ∀ blog v,
        view { blog with imageFeature := v } = view blog)
    (image : Except Thrown (Option Json)) :
    Hidden view (assignImage image) := by
  intro a b hResult
  unfold assignImage at hResult
  cases image with
  | error e => cases hResult
  | ok found =>
      cases found with
      | none =>
          cases hResult
          rfl
      | some url =>
          simp only [bind, Except.bind] at hResult
          split at hResult
          · cases hResult
          · cases hResult
            exact hView a _

theorem hidden_assignMissingImage
    {γ : Type}
    {view : BlogNews → γ}
    (hView :
      ∀ blog v,
        view { blog with imageFeature := v } = view blog)
    (image : Except Thrown (Option Json)) :
    Hidden view (assignMissingImage image) := by
  intro a b hResult
  unfold assignMissingImage at hResult
  split at hResult
  · exact hidden_assignImage hView image a b hResult
  · cases hResult
    rfl

/- A decoded post has no author. -/
@[simp] theorem author_fromJson
    (unescape : String → String)
    (parsedJson : Json) :
    (fromJson unescape parsedJson).author = none := by
  refine @tryEach_view _ _ BlogNews.author _ ?_ {}
  intro statement hMem
  simp only [fromJsonBody, List.mem_cons, List.not_mem_nil,
    or_false] at hMem
  rcases hMem with rfl | rfl | rfl | rfl | rfl | rfl | rfl |
    rfl | rfl | rfl
  all_goals first
    | exact hidden_assign fun _ _ => rfl
    | exact hidden_assignImage (fun _ _ => rfl) _
    | exact hidden_assignMissingImage (fun _ _ => rfl) _

/- So it is no placeholder. -/
theorem fromJson_ne_empty
    (unescape : String → String)
    (parsedJson : Json)
    (id : Int) :
    fromJson unescape parsedJson ≠ empty id := by
  intro hEq
  have hAuthor := congrArg BlogNews.author hEq
  rw [author_fromJson] at hAuthor
  cases hAuthor

/- What is stored of a post. -/
def toJson (blog : BlogNews) : Json :=
  .obj
    [ ("id", .ofInt? blog.id),
      ("title", .ofString? blog.title),
      ("slug", .ofString? blog.slug),
      ("content", .ofString? blog.content),
      ("imageFeature", .ofString? blog.imageFeature),
      ("categoryId", .ofInt? blog.categoryId),
      ("excerpt", .ofString? blog.excerpt),
      ("date", .ofString? blog.date) ]

/- Read a stored post back. -/
def fromLocalJson (json : Json) : BlogNews :=
  tryEach
    [ assign (do (← json.index "id").asInt)
        fun blog v => { blog with id := v },
      assign (json.text "title")
        fun blog v => { blog with title := v },
      assign (json.text "slug")
        fun blog v => { blog with slug := v },
      assign (json.text "content")
        fun blog v => { blog with content := v },
      assign (json.text "imageFeature")
        fun blog v => { blog with imageFeature := v },
      assign (json.text "excerpt")
        fun blog v => { blog with excerpt := v },
      assign (json.text "date")
        fun blog v => { blog with date := v },
      assign (do (← json.index "categoryId").asInt)
        fun blog v => { blog with categoryId := v } ]
    {}

end BlogNews

end NewsCentral
