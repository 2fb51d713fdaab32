import NewsCentral.Dart.Members
import NewsCentral.Services.WordPress

/-
  What is left of a post after `BlogNews.fromJson`.

  The statements of the constructor share one `try`, so an
  optional member that is not as they expect it cuts off all
  that come behind, the excerpt last of all.

  Key definitions include:
    * `NewsCentral.Required`
    * `NewsCentral.BlogNews.firstImage`
    * `NewsCentral.BlogNews.Keeps`
    * `NewsCentral.BlogNews.readable`

  Key theorems include:
    * `Dart.Json.walk_eq_ok_iff`
    * `NewsCentral.BlogNews.foundImage_eq_ok_iff`
    * `NewsCentral.BlogNews.keeps_fromJson_iff`
-/

------------------------------------------------------------
-- Members Behind Members
------------------------------------------------------------

namespace Dart

namespace Json

def isMap : Json → Bool
  | .obj _ => true
  | _ => false

/- The member of a map; nothing has no members. -/
def member (j : Json) (key : String) : Json :=
  match j with
  | .obj fields => field fields key
  | _ => .null

/- `j[k₁][k₂]...` -/
def walk (j : Json) (keys : List String) : Except Thrown Json :=
  keys.foldlM index j

/- What is there at the end of a path, if anything. -/
def follow (j : Json) (keys : List String) : Json :=
  keys.foldl member j

/- All values on the way along a path are maps. -/
def mapsAlong (j : Json) : List String → Bool
  | [] => true
  | key :: keys => j.isMap && (j.member key).mapsAlong keys

/- A text, if it is one. -/
def text? : Json → Option String
  | .str s => some s
  | _ => none

variable {j v : Json} {key : String} {keys : List String}

theorem index_eq_ok_iff :
    j.index key = .ok v ↔ j.isMap = true ∧ v = j.member key := by
  cases j <;> simp [index, isMap, member, eq_comm]

/- A path can be walked if there are maps along it. -/
theorem walk_eq_ok_iff :
    j.walk keys = .ok v ↔
      j.mapsAlong keys = true ∧ v = j.follow keys := by
  induction keys generalizing j with
  | nil => simp [walk, mapsAlong, follow, pure, Except.pure,
      eq_comm]
  | cons key keys ih =>
      have hStep :
          j.walk (key :: keys) =
            (j.index key >>= fun next => next.walk keys) :=
        List.foldlM_cons
      rw [hStep, bind_eq_ok_iff]
      simp only [index_eq_ok_iff, ih, mapsAlong, follow,
        List.foldl_cons, Bool.and_eq_true]
      constructor
      · rintro ⟨_, ⟨hMap, rfl⟩, hRest, rfl⟩
        exact ⟨⟨hMap, hRest⟩, rfl⟩
      · rintro ⟨⟨hMap, hRest⟩, rfl⟩
        exact ⟨_, ⟨hMap, rfl⟩, hRest, rfl⟩

/- Null and texts are what a `String` variable takes. -/
theorem asString_eq_ok_iff
    {s : Option String} :
    j.asString = .ok s ↔
      j.isNullableText = true ∧ s = j.text? := by
  cases j <;> simp [asString, isNullableText, text?, eq_comm]

end Json

end Dart

------------------------------------------------------------
-- The Property And Its Condition
------------------------------------------------------------

namespace NewsCentral

open Dart

/- The members that every post has, with their values. -/
structure Required where
  id : Int
  slug : String
  title : String
  content : String
  date : String
  excerpt : String

/- A decoded post object has those members. -/
structure Required.Of
    (r : Required)
    (parsedJson : Json) : Prop where
  id : parsedJson.index "id" = .ok (.int r.id)
  slug : parsedJson.index "slug" = .ok (.str r.slug)
  title :
    BlogNews.rendered parsedJson "title" =
      .ok (.str r.title)
  content :
    BlogNews.rendered parsedJson "content" =
      .ok (.str r.content)
  date : parsedJson.index "date" = .ok (.str r.date)
  excerpt :
    BlogNews.rendered parsedJson "excerpt" =
      .ok (.str r.excerpt)

namespace BlogNews

/- The address of a size of an image, if there is one. -/
def sizedUrl (image : Json) (size : String) : Option String :=
  (image.follow
    ["media_details", "sizes", size, "source_url"]).text?

def featuredUrl (parsedJson : Json) : Option String :=
  sizedUrl (parsedJson.member "better_featured_image")
    "medium_large"

/- The first item of a list, if there is one. -/
def firstItem : Json → Json
  | .arr (item :: _) => item
  | _ => .null

/- The media embedded with a post. -/
def embeddedMedia (parsedJson : Json) : Json :=
  parsedJson.follow ["_embedded", "wp:featuredmedia"]

def embeddedUrl (parsedJson : Json) : Option String :=
  sizedUrl (firstItem (embeddedMedia parsedJson)) "large"

def jetpackUrl (parsedJson : Json) : Option String :=
  (parsedJson.member "jetpack_featured_media_url").text?

/- The first image that is available. -/
def firstImage (parsedJson : Json) : Option String :=
  (featuredUrl parsedJson).or
    ((embeddedUrl parsedJson).or (jetpackUrl parsedJson))

/- The post has what its object has. -/
structure Keeps
    (unescape : String → String)
    (r : Required)
    (parsedJson : Json)
    (blog : BlogNews) : Prop where
  id : blog.id = some r.id
  slug : blog.slug = some r.slug
  title : blog.title = some (unescape r.title)
  content : blog.content = some r.content
  date : blog.date = some r.date
  excerpt : blog.excerpt = some (unescape r.excerpt)
  imageFeature : blog.imageFeature = firstImage parsedJson

/- Null and whole numbers are what an `int` variable takes. -/
def isNullableInt : Json → Bool
  | .null => true
  | .int _ => true
  | _ => false

/- A list that starts with an id, or a map, which has none. -/
def categoriesReadable (parsedJson : Json) : Bool :=
  match parsedJson.member "categories" with
  | .obj _ => true
  | .arr (item :: _) => isNullableInt item
  | _ => false

/- The details of an image have their sizes. -/
def sizedReadable (image : Json) (size : String) : Bool :=
  let sized := image.follow ["media_details", "sizes", size]
  image.mapsAlong ["media_details", "sizes", size] &&
    (!sized.isNotNull ||
      (sized.isMap &&
        (sized.member "source_url").isNullableText))

def featuredReadable (parsedJson : Json) : Bool :=
  let image := parsedJson.member "better_featured_image"
  !image.isNotNull || sizedReadable image "medium_large"

def embeddedReadable (parsedJson : Json) : Bool :=
  let media := embeddedMedia parsedJson
  parsedJson.mapsAlong ["_embedded", "wp:featuredmedia"] &&
    (!media.isNotNull ||
      sizedReadable (firstItem media) "large")

def jetpackReadable (parsedJson : Json) : Bool :=
  (parsedJson.member
    "jetpack_featured_media_url").isNullableText

/-
  The optional members are as the statements expect them, as
  far as they are read: each image only if there was none
  before it.
-/
def readable (parsedJson : Json) : Bool :=
  categoriesReadable parsedJson &&
    (featuredReadable parsedJson &&
      ((featuredUrl parsedJson).isSome ||
        (embeddedReadable parsedJson &&
          ((embeddedUrl parsedJson).isSome ||
            jetpackReadable parsedJson))))

end BlogNews

end NewsCentral

------------------------------------------------------------
-- Images
------------------------------------------------------------

namespace NewsCentral

open Dart

namespace BlogNews

variable {parsedJson image : Json} {size : String}
variable {v : Option String} {blog : BlogNews}
variable {found featured embedded jetpack :
  Except Thrown (Option Json)}

/- What is assigned to the image field of a post without. -/
def assigned
    (found : Except Thrown (Option Json)) :
    Except Thrown (Option String) := do
  match ← found with
  | none => return none
  | some url => url.asString

theorem assignImage_eq
    (hImage : blog.imageFeature = none)
    (found : Except Thrown (Option Json)) :
    assignImage found blog =
      (assigned found).map fun url =>
        { blog with imageFeature := url } := by
  cases found with
  | error e => rfl
  | ok image =>
      cases image with
      | none =>
          rcases blog
          cases hImage
          rfl
      | some url =>
          cases hUrl : url.asString with
          | error e =>
              simp [assignImage, assigned, hUrl, bind,
                Except.bind, Except.map]
          | ok text =>
              simp [assignImage, assigned, hUrl, bind,
                Except.bind, Except.map, pure, Except.pure]

/- The first address, or the second if there is none. -/
def orFound
    (first second : Except Thrown (Option String)) :
    Except Thrown (Option String) := do
  let url ← first
  if url.isSome then return url else second

/- The second is read only if the first was none. -/
theorem orFound_eq_ok_iff
    {first second : Except Thrown (Option String)}
    {a b v : Option String}
    {p q : Bool}
    (hFirst : ∀ v, first = .ok v ↔ p = true ∧ v = a)
    (hSecond : ∀ v, second = .ok v ↔ q = true ∧ v = b) :
    orFound first second = .ok v ↔
      (p && (a.isSome || q)) = true ∧ v = a.or b := by
  unfold orFound
  rw [bind_eq_ok_iff]
  simp only [hFirst, Bool.and_eq_true, Bool.or_eq_true]
  constructor
  · rintro ⟨url, ⟨hRead, rfl⟩, hNext⟩
    cases url with
    | some url =>
        cases hNext
        exact ⟨⟨hRead, .inl rfl⟩, rfl⟩
    | none =>
        rcases (hSecond v).mp hNext with ⟨hOther, rfl⟩
        exact ⟨⟨hRead, .inr hOther⟩, rfl⟩
  · rintro ⟨⟨hRead, hOther⟩, rfl⟩
    refine ⟨a, ⟨hRead, rfl⟩, ?_⟩
    cases a with
    | some url => rfl
    | none =>
        rcases hOther with hNone | hOther
        · cases hNone
        · exact (hSecond b).mpr ⟨hOther, rfl⟩

/- The image that the three statements find, in turn. -/
def foundImage
    (featured embedded jetpack :
      Except Thrown (Option Json)) :
    Except Thrown (Option String) :=
  orFound (assigned featured)
    (orFound (assigned embedded) (assigned jetpack))

theorem assigned_bind
    {α : Type}
    (x : Except Thrown α)
    (f : α → Except Thrown (Option Json)) :
    assigned (x >>= f) = (x >>= fun a => assigned (f a)) := by
  cases x with
  | error e => rfl
  | ok a => rfl

/- The address of a size that may be null is a text or not. -/
theorem assigned_source_url_iff
    {sized : Json} :
    assigned
          (if sized.isNotNull then do
            return some (← sized.index "source_url")
          else
            return none) =
        .ok v ↔
      (!sized.isNotNull ||
          (sized.isMap &&
            (sized.member "source_url").isNullableText)) =
          true ∧
        v = (sized.member "source_url").text? := by
  cases hNull : sized.isNotNull with
  | false =>
      cases sized with
      | null =>
          simp [assigned, pure, Except.pure, bind, Except.bind,
            Json.member, Json.text?, eq_comm]
      | _ => cases hNull
  | true =>
      simp only [if_true, Bool.not_true, Bool.false_or,
        Bool.and_eq_true]
      rw [assigned_bind, bind_eq_ok_iff]
      constructor
      · rintro ⟨url, hUrl, hText⟩
        rcases Json.index_eq_ok_iff.mp hUrl with ⟨hMap, rfl⟩
        rcases Json.asString_eq_ok_iff.mp hText with
          ⟨hNullable, rfl⟩
        exact ⟨⟨hMap, hNullable⟩, rfl⟩
      · rintro ⟨⟨hMap, hNullable⟩, rfl⟩
        exact ⟨_, Json.index_eq_ok_iff.mpr ⟨hMap, rfl⟩,
          Json.asString_eq_ok_iff.mpr ⟨hNullable, rfl⟩⟩

/- A size is found if its path can be walked. -/
theorem assigned_sizedImage_iff :
    assigned (sizedImage image size) = .ok v ↔
      sizedReadable image size = true ∧
        v = sizedUrl image size := by
  have hWalk :
      sizedImage image size =
        (image.walk ["media_details", "sizes", size] >>=
          fun sized =>
            if sized.isNotNull then do
              return some (← sized.index "source_url")
            else
              return none) := by
    simp only [sizedImage, Json.walk, List.foldlM_cons,
      List.foldlM_nil, bind_assoc, bind_pure]
  rw [hWalk, assigned_bind, bind_eq_ok_iff]
  simp only [Json.walk_eq_ok_iff, assigned_source_url_iff,
    sizedReadable, Bool.and_eq_true]
  constructor
  · rintro ⟨_, ⟨hMaps, rfl⟩, hUrl, rfl⟩
    exact ⟨⟨hMaps, hUrl⟩, rfl⟩
  · rintro ⟨⟨hMaps, hUrl⟩, rfl⟩
    exact ⟨_, ⟨hMaps, rfl⟩, hUrl, rfl⟩

theorem assigned_none_iff :
    assigned (.ok none) = .ok v ↔ v = none := by
  simp [assigned, pure, Except.pure, bind, Except.bind,
    eq_comm]

/- Null has no sizes. -/
theorem sizedUrl_null :
    sizedUrl .null size = none := rfl

/- The image of the post itself. -/
theorem assigned_featuredImage_iff
    (hMap : parsedJson.isMap = true) :
    assigned (featuredImage parsedJson) = .ok v ↔
      featuredReadable parsedJson = true ∧
        v = featuredUrl parsedJson := by
  have hIndex := Json.index_eq_ok_iff.mpr
    ⟨hMap, @rfl _ (parsedJson.member "better_featured_image")⟩
  unfold featuredImage featuredReadable featuredUrl
  rw [hIndex, ok_bind_eq]
  cases hImage : parsedJson.member "better_featured_image" with
  | null =>
      refine assigned_none_iff.trans ?_
      rw [sizedUrl_null]
      simp [Json.isNotNull]
  | _ =>
      simp only [Json.isNotNull, if_true, Bool.not_true,
        Bool.false_or]
      exact assigned_sizedImage_iff

/- The first item of what is no list has no sizes. -/
theorem itemAt_zero_bind_iff
    {media : Json} :
    assigned
          (media.itemAt 0 >>= fun item =>
            sizedImage item size) =
        .ok v ↔
      sizedReadable (firstItem media) size = true ∧
        v = sizedUrl (firstItem media) size := by
  rw [← assigned_sizedImage_iff]
  cases media with
  | arr items =>
      cases items with
      | nil => simp [Json.itemAt, firstItem, assigned,
          sizedImage, Json.index, bind, Except.bind]
      | cons item items => rfl
  | obj fields => rfl
  | str s =>
      -- a letter has no sizes either
      cases hAt : s.toList[0]? with
      | none =>
          simp [Json.itemAt, hAt, firstItem, assigned,
            sizedImage, Json.index, bind, Except.bind]
      | some c =>
          simp [Json.itemAt, hAt, firstItem, assigned,
            sizedImage, Json.index, bind, Except.bind]
  | _ =>
      simp [Json.itemAt, firstItem, assigned, sizedImage,
        Json.index, bind, Except.bind]

/- The first image embedded with the post. -/
theorem assigned_embeddedImage_iff :
    assigned (embeddedImage parsedJson) = .ok v ↔
      embeddedReadable parsedJson = true ∧
        v = embeddedUrl parsedJson := by
  have hWalk :
      embeddedImage parsedJson =
        (parsedJson.walk ["_embedded", "wp:featuredmedia"] >>=
          fun media =>
            if media.isNotNull then
              media.itemAt 0 >>= fun item =>
                sizedImage item "large"
            else
              return none) := by
    simp only [embeddedImage, Json.walk, List.foldlM_cons,
      List.foldlM_nil, bind_assoc, bind_pure]
  have hMedia :
      assigned
            (if (embeddedMedia parsedJson).isNotNull then
              (embeddedMedia parsedJson).itemAt 0 >>=
                fun item => sizedImage item "large"
            else
              return none) =
          .ok v ↔
        (!(embeddedMedia parsedJson).isNotNull ||
            sizedReadable
              (firstItem (embeddedMedia parsedJson))
              "large") =
            true ∧
          v = embeddedUrl parsedJson := by
    unfold embeddedUrl
    cases hNull : (embeddedMedia parsedJson).isNotNull with
    | false =>
        have hFirst :
            firstItem (embeddedMedia parsedJson) = .null := by
          cases hIs : embeddedMedia parsedJson with
          | null => rfl
          | _ =>
              rw [hIs] at hNull
              cases hNull
        rw [hFirst, sizedUrl_null]
        refine assigned_none_iff.trans ?_
        simp
    | true =>
        simp only [if_true, Bool.not_true, Bool.false_or]
        exact itemAt_zero_bind_iff
  rw [hWalk, assigned_bind, bind_eq_ok_iff]
  simp only [Json.walk_eq_ok_iff]
  unfold embeddedReadable
  rw [Bool.and_eq_true, and_assoc, ← hMedia]
  constructor
  · rintro ⟨_, ⟨hMaps, rfl⟩, hUrl⟩
    exact ⟨hMaps, hUrl⟩
  · rintro ⟨hMaps, hUrl⟩
    exact ⟨_, ⟨hMaps, rfl⟩, hUrl⟩

/- The address of the Jetpack plugin. -/
theorem assigned_jetpackImage_iff
    (hMap : parsedJson.isMap = true) :
    assigned (jetpackImage parsedJson) = .ok v ↔
      jetpackReadable parsedJson = true ∧
        v = jetpackUrl parsedJson := by
  have hIndex := Json.index_eq_ok_iff.mpr
    ⟨hMap,
      @rfl _ (parsedJson.member "jetpack_featured_media_url")⟩
  unfold jetpackImage jetpackReadable jetpackUrl
  rw [hIndex, ok_bind_eq, ← Json.asString_eq_ok_iff]
  cases parsedJson.member "jetpack_featured_media_url" with
  | _ => rfl

/- Together they find the first image, if all can be read. -/
theorem foundImage_eq_ok_iff
    (hMap : parsedJson.isMap = true) :
    foundImage (featuredImage parsedJson)
          (embeddedImage parsedJson)
          (jetpackImage parsedJson) =
        .ok v ↔
      (featuredReadable parsedJson &&
          ((featuredUrl parsedJson).isSome ||
            (embeddedReadable parsedJson &&
              ((embeddedUrl parsedJson).isSome ||
                jetpackReadable parsedJson)))) =
          true ∧
        v = firstImage parsedJson := by
  refine orFound_eq_ok_iff
    (fun _ => assigned_featuredImage_iff hMap) fun _ => ?_
  exact orFound_eq_ok_iff
    (fun _ => assigned_embeddedImage_iff)
    fun _ => assigned_jetpackImage_iff hMap

end BlogNews

end NewsCentral

------------------------------------------------------------
-- The Whole Body
------------------------------------------------------------

namespace NewsCentral

open Dart

namespace BlogNews

variable {unescape : String → String} {r : Required}
variable {parsedJson : Json} {blog : BlogNews}
variable {rest : List (BlogNews → Except Thrown BlogNews)}
variable {v : Option String}

/- A post that has an image is passed on. -/
theorem tryEach_missing_of_isSome
    (hImage : blog.imageFeature.isSome = true)
    (image : Except Thrown (Option Json)) :
    tryEach (assignMissingImage image :: rest) blog =
      tryEach rest blog := by
  have hNone : blog.imageFeature.isNone = false := by
    simpa using hImage
  simp [tryEach, assignMissingImage, hNone]

/- One that has none gets what is assigned, or it ends. -/
theorem tryEach_missing_of_none
    (hImage : blog.imageFeature = none)
    (image : Except Thrown (Option Json)) :
    tryEach (assignMissingImage image :: rest) blog =
      match assigned image with
      | .error _ => blog
      | .ok url =>
          tryEach rest { blog with imageFeature := url } := by
  have hNone : blog.imageFeature.isNone = true := by
    rw [hImage]
    rfl
  rw [tryEach, assignMissingImage, if_pos hNone,
    assignImage_eq hImage]
  cases assigned image with
  | error e => rfl
  | ok url => rfl

/-
  The three statements about images find one, or they end
  the body on a post without an image.
-/
theorem tryEach_images
    (hImage : blog.imageFeature = none)
    (featured embedded jetpack :
      Except Thrown (Option Json)) :
    tryEach
        (assignImage featured :: assignMissingImage embedded ::
          assignMissingImage jetpack :: rest)
        blog =
      match foundImage featured embedded jetpack with
      | .error _ => blog
      | .ok url =>
          tryEach rest { blog with imageFeature := url } := by
  have hBlog : { blog with imageFeature := none } = blog := by
    rw [← hImage]
  rw [tryEach, assignImage_eq hImage]
  unfold foundImage orFound
  cases assigned featured with
  | error e => rfl
  | ok url =>
      cases url with
      | some url =>
          simp only [Except.map]
          rw [tryEach_missing_of_isSome rfl,
            tryEach_missing_of_isSome rfl]
          rfl
      | none =>
          simp only [Except.map, hBlog]
          rw [tryEach_missing_of_none hImage]
          cases assigned embedded with
          | error e => rfl
          | ok url =>
              cases url with
              | some url =>
                  simp only
                  rw [tryEach_missing_of_isSome rfl]
                  rfl
              | none =>
                  simp only [hBlog]
                  rw [tryEach_missing_of_none hImage]
                  cases assigned jetpack with
                  | error e => rfl
                  | ok url => rfl

/- The first category is an id, or null for a map. -/
theorem exists_category_iff
    (hMap : parsedJson.isMap = true) :
    (∃ c,
      (do
        let categories ← parsedJson.index "categories"
        (← categories.itemAt 0).asInt) =
        (.ok c : Except Thrown (Option Int))) ↔
      categoriesReadable parsedJson = true := by
  have hIndex := Json.index_eq_ok_iff.mpr
    ⟨hMap, @rfl _ (parsedJson.member "categories")⟩
  unfold categoriesReadable
  rw [hIndex, ok_bind_eq]
  cases parsedJson.member "categories" with
  | obj fields => simp [Json.itemAt, Json.asInt, bind,
      Except.bind]
  | arr items =>
      cases items with
      | nil => simp [Json.itemAt, bind, Except.bind]
      | cons item items =>
          cases item <;>
            simp [Json.itemAt, Json.asInt, isNullableInt, bind,
              Except.bind]
  | str s =>
      cases hAt : s.toList[0]? <;>
        simp [Json.itemAt, hAt, Json.asInt, bind, Except.bind]
  | _ => simp [Json.itemAt, bind, Except.bind]

theorem Required.Of.isMap
    (hRequired : r.Of parsedJson) :
    parsedJson.isMap = true :=
  (Json.index_eq_ok_iff.mp hRequired.id).1

/-
  The body runs up to the categories, up to the images, or
  to its end.
-/
theorem fromJson_eq_of_required
    (hRequired : r.Of parsedJson) :
    fromJson unescape parsedJson =
      match
        (do
          let categories ← parsedJson.index "categories"
          (← categories.itemAt 0).asInt :
          Except Thrown (Option Int)) with
      | .error _ => {}
      | .ok c =>
          let blog : BlogNews :=
            { id := some r.id
              slug := some r.slug
              title := some (unescape r.title)
              content := some r.content
              date := some r.date
              categoryId := c }
          match foundImage (featuredImage parsedJson)
              (embeddedImage parsedJson)
              (jetpackImage parsedJson) with
          | .error _ => blog
          | .ok url =>
              { blog with
                imageFeature := url
                excerpt := some (unescape r.excerpt) } := by
  have hId :
      (do (← parsedJson.index "id").asInt) =
        (.ok (some r.id) : Except Thrown (Option Int)) := by
    rw [hRequired.id]
    rfl
  have hSlug : parsedJson.text "slug" = .ok (some r.slug) := by
    rw [Json.text, hRequired.slug]
    rfl
  have hTitle :
      (do unescaped unescape (← rendered parsedJson "title")) =
        (.ok (unescape r.title) : Except Thrown String) := by
    rw [hRequired.title]
    rfl
  have hContent :
      (do (← rendered parsedJson "content").asString) =
        (.ok (some r.content) :
          Except Thrown (Option String)) := by
    rw [hRequired.content]
    rfl
  have hDate : parsedJson.text "date" = .ok (some r.date) := by
    rw [Json.text, hRequired.date]
    rfl
  have hExcerpt :
      (do unescaped unescape (← rendered parsedJson "excerpt")) =
        (.ok (unescape r.excerpt) : Except Thrown String) := by
    rw [hRequired.excerpt]
    rfl
  unfold fromJson fromJsonBody
  rw [hId, hSlug, hTitle, hContent, hDate, hExcerpt]
  split
  next e hCategory =>
    rw [hCategory]
    rfl
  next c hCategory =>
    rw [hCategory]
    simp only [tryEach_assign_ok]
    rw [tryEach_images rfl]
    split
    · rfl
    · rfl

/-
  A post with all required members keeps what its object has
  exactly if the optional ones can be read.
-/
theorem keeps_fromJson_iff
    (hRequired : r.Of parsedJson) :
    Keeps unescape r parsedJson (fromJson unescape parsedJson) ↔
      readable parsedJson = true := by
  have hMap := Required.Of.isMap hRequired
  have hFound := fun url => @foundImage_eq_ok_iff _ url hMap
  unfold readable
  rw [Bool.and_eq_true, ← exists_category_iff hMap,
    fromJson_eq_of_required hRequired]
  split
  next e hCategory =>
    refine iff_of_false ?_ ?_
    · intro hKeeps
      cases hKeeps.excerpt
    · rintro ⟨⟨c, hOther⟩, _⟩
      rw [hCategory] at hOther
      cases hOther
  next c hCategory =>
    rw [and_iff_right ⟨c, hCategory⟩]
    simp only
    split
    next e hImages =>
      refine iff_of_false ?_ ?_
      · intro hKeeps
        cases hKeeps.excerpt
      · intro hReadable
        have hOther := (hFound _).mpr ⟨hReadable, rfl⟩
        rw [hImages] at hOther
        cases hOther
    next url hImages =>
      rcases (hFound url).mp hImages with ⟨hReadable, rfl⟩
      exact iff_of_true ⟨rfl, rfl, rfl, rfl, rfl, rfl, rfl⟩
        hReadable

/- Texts without entities are left as they are. -/
def noEntities (text : String) : String := text

/- A post with categories and an embedded image. -/
def embeddedPost : Json :=
  .obj
    [ ("id", .int 7),
      ("slug", .str "a-story"),
      ("title", .obj [("rendered", .str "A story")]),
      ("content", .obj [("rendered", .str "Text")]),
      ("date", .str "2020-08-01T10:00:00"),
      ("excerpt", .obj [("rendered", .str "Te")]),
      ("categories", .arr [.int 5]),
      ("_embedded", .obj
        [("wp:featuredmedia", .arr
          [.obj
            [("media_details", .obj
              [("sizes", .obj
                [("large", .obj
                  [("source_url",
                    .str "http://x/large.jpg")])])])]])]) ]

def aStory : Required where
  id := 7
  slug := "a-story"
  title := "A story"
  content := "Text"
  date := "2020-08-01T10:00:00"
  excerpt := "Te"

/- It keeps all it has. -/
theorem keeps_embeddedPost :
    Keeps noEntities aStory embeddedPost
      (fromJson noEntities embeddedPost) :=
  (keeps_fromJson_iff ⟨rfl, rfl, rfl, rfl, rfl, rfl⟩).mpr
    (by decide)

/- A post of an answer without embedded members. -/
def plainPost : Json :=
  .obj
    [ ("id", .int 7),
      ("slug", .str "a-story"),
      ("title", .obj [("rendered", .str "A story")]),
      ("content", .obj [("rendered", .str "Text")]),
      ("date", .str "2020-08-01T10:00:00"),
      ("excerpt", .obj [("rendered", .str "Te")]),
      ("categories", .arr [.int 5]),
      ("jetpack_featured_media_url",
        .str "http://x/jetpack.jpg") ]

/-
  `getBlog` does not ask for embedded members, and so gets a
  post without its image and its excerpt.
-/
theorem getBlog_drops_excerpt :
    aStory.Of plainPost ∧
      firstImage plainPost = some "http://x/jetpack.jpg" ∧
      (∃ blog,
        newsService.getBlog
              (fun _ => .ok
                { statusCode := 200
                  decoded := some plainPost })
              noEntities "7" =
            .ok blog ∧
          blog.id = some 7 ∧
          blog.excerpt = none ∧
          blog.imageFeature = none ∧
          ¬ Keeps noEntities aStory plainPost blog) := by
  refine ⟨⟨rfl, rfl, rfl, rfl, rfl, rfl⟩, rfl,
    _, rfl, rfl, rfl, rfl, ?_⟩
  intro hKeeps
  cases hKeeps.excerpt

end BlogNews

end NewsCentral
