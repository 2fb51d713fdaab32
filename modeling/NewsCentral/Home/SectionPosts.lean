import Mathlib.Data.List.Forall2
import NewsCentral.Models.Decoded

/-
  The categories of the posts of a home section, and the
  related posts that are chosen by them.

  `fetchBlogLayout` overwrites the category of each post by
  that of the config, also when the config has none, and a
  post without a category is related to the latest posts.

  Key definitions include:
    * `NewsCentral.RelatedBlogList.getBlogLayout`
    * `NewsCentral.SectionPosts.expected`
    * `NewsCentral.SectionPosts.Kept`
    * `NewsCentral.SectionPosts.KeepsCategory`

  Key theorems include:
    * `NewsCentral.BlogNews.categoryId_fromJson`
    * `NewsCentral.SectionPosts.decodeLayoutBlogs_eq_ok_iff`
    * `NewsCentral.SectionPosts.kept_fetchBlogLayout_iff`
-/

------------------------------------------------------------
-- Related Posts
------------------------------------------------------------

namespace NewsCentral

open Dart

namespace RelatedBlogList

/- The posts that are asked for. -/
def endPoint (categoryId : Option Int) : String :=
  match categoryId with
  | none => "posts"
  | some id => "posts?_embed&categories=" ++ toString id

def getBlogLayout
    (wp : WordPress)
    (http : Http)
    (unescape : String → String)
    (categoryId : Option Int) :
    Except Thrown (List BlogNews) :=
  match categoryId with
  | some id => wp.getBlogsByCategory http unescape id
  | none => wp.getBlogs http unescape

/- Both requests read the posts at their end point. -/
theorem getBlogLayout_eq
    (wp : WordPress)
    (http : Http)
    (unescape : String → String)
    (categoryId : Option Int) :
    getBlogLayout wp http unescape categoryId =
      (wp.getAsync http (endPoint categoryId) >>=
        WordPress.decodeBlogs unescape) := by
  cases categoryId with
  | none => rfl
  | some id => rfl

end RelatedBlogList

end NewsCentral

------------------------------------------------------------
-- The Property And Its Condition
------------------------------------------------------------

namespace NewsCentral

open Dart

/- A decoded map. -/
abbrev Fields := List (String × Json)

/- The whole number that a value is. -/
def intOf : Json → Option Int
  | .int n => some n
  | _ => none

/- The first category of a post object. -/
def BlogNews.firstCategory (parsedJson : Json) : Option Int :=
  match parsedJson.member "categories" with
  | .arr (item :: _) => intOf item
  | _ => none

namespace SectionPosts

variable (unescape : String → String)

/- A post with the category of the config, if it has one. -/
def expected (config object : Fields) : BlogNews :=
  let blog := BlogNews.fromJson unescape (.obj object)
  match config.lookup "category" with
  | none => blog
  | some category => { blog with categoryId := intOf category }

/-
  There is one post for each object, in order, and without a
  category in the config the related posts are those of the
  decoded categories.
-/
structure Kept
    (config : Fields)
    (objects : List Fields)
    (fetched : Except Thrown (List BlogNews)) : Prop where
  posts : fetched = .ok (objects.map (expected unescape config))
  related :
    config.lookup "category" = none →
      ∀ blogs,
        fetched = .ok blogs →
          (blogs.map fun blog =>
              RelatedBlogList.endPoint blog.categoryId) =
            objects.map fun object =>
              RelatedBlogList.endPoint
                (BlogNews.fromJson unescape
                  (.obj object)).categoryId

/-
  The config has a category that is a whole number or null,
  or the object has none.
-/
def KeepsCategory (config object : Fields) : Prop :=
  match config.lookup "category" with
  | none => BlogNews.firstCategory (.obj object) = none
  | some category => BlogNews.isNullableInt category = true

instance
    (config object : Fields) :
    Decidable (KeepsCategory config object) := by
  unfold KeepsCategory
  split <;> infer_instance

end SectionPosts

end NewsCentral

------------------------------------------------------------
-- Categories Of Posts
------------------------------------------------------------

namespace NewsCentral

open Dart

namespace BlogNews

/- The statement reads the first category, or throws. -/
theorem firstCategory_cases
    (object : Fields) :
    let read : Except Thrown (Option Int) := do
      let categories ← (Json.obj object).index "categories"
      (← categories.itemAt 0).asInt
    read = .ok (firstCategory (.obj object)) ∨
      ((∃ e, read = .error e) ∧
        firstCategory (.obj object) = none) := by
  unfold firstCategory
  simp only [Json.index, Json.member, ok_bind_eq]
  cases Json.field object "categories" with
  | arr items =>
      cases items with
      | nil => simp [Json.itemAt, bind, Except.bind]
      | cons item items =>
          cases item <;>
            simp [Json.itemAt, Json.asInt, intOf, bind,
              Except.bind]
  | str s =>
      cases hAt : s.toList[0]? <;>
        simp [Json.itemAt, hAt, Json.asInt, bind, Except.bind]
  | _ => simp [Json.itemAt, Json.asInt, bind, Except.bind]

/- It stays whatever the rest of the body does. -/
theorem categoryId_fromJson
    (unescape : String → String)
    (object : Fields) :
    (fromJson unescape (.obj object)).categoryId =
      firstCategory (.obj object) := by
  unfold fromJson fromJsonBody
  rcases firstCategory_cases object with
    hRead | ⟨⟨e, hRead⟩, hNone⟩
  · rw [hRead, tryEach_assign_ok]
    refine @tryEach_view _ _ BlogNews.categoryId _ ?_
      { categoryId := firstCategory (.obj object) }
    intro statement hMem
    simp only [List.mem_cons, List.not_mem_nil, or_false]
      at hMem
    rcases hMem with rfl | rfl | rfl | rfl | rfl | rfl |
      rfl | rfl | rfl
    all_goals first
      | exact hidden_assign fun _ _ => rfl
      | exact hidden_assignImage (fun _ _ => rfl) _
      | exact hidden_assignMissingImage (fun _ _ => rfl) _
  · rw [hRead, tryEach_assign_error, hNone]

end BlogNews

end NewsCentral

------------------------------------------------------------
-- Posts Of A Section
------------------------------------------------------------

namespace NewsCentral

open Dart

namespace SectionPosts

variable {unescape : String → String} {wp : WordPress}
variable {http : Http} {lang : String}
variable {config object : Fields} {objects : List Fields}

/- One turn of the loop of `fetchBlogLayout`. -/
def turn
    (unescape : String → String)
    (config object : Fields) : Except Thrown BlogNews :=
  (Json.field config "category").asInt.map fun category =>
    { BlogNews.fromJson unescape (.obj object) with
      categoryId := category }

/- A turn gives the expected post if this keeps it so. -/
theorem turn_eq_ok_iff :
    turn unescape config object =
        .ok (expected unescape config object) ↔
      KeepsCategory config object := by
  have hOwn := BlogNews.categoryId_fromJson unescape object
  unfold turn expected KeepsCategory Json.field
  cases config.lookup "category" with
  | none =>
      simp only [Option.getD_none, Json.asInt, Except.map]
      rw [← hOwn, Except.ok.injEq]
      constructor
      · intro hEq
        exact (congrArg BlogNews.categoryId hEq).symm
      · intro hNone
        rw [← hNone]
  | some category =>
      simp only [Option.getD_some]
      cases category <;>
        simp [Json.asInt, intOf, BlogNews.isNullableInt,
          Except.map]

/- The loop gives one post for each object, or throws. -/
theorem decodeLayoutBlogs_eq_ok_iff
    {blogs : List BlogNews} :
    WordPress.decodeLayoutBlogs unescape (.obj config)
          (.arr (objects.map .obj)) =
        .ok blogs ↔
      List.Forall₂
        (fun object blog =>
          turn unescape config object = .ok blog)
        objects blogs := by
  have hTurn :
      ∀ object blog,
        (do
          let blog := BlogNews.fromJson unescape
            (← (Json.obj object).asMap)
          let category ← (Json.obj config).index "category"
          return { blog with categoryId := ← category.asInt } :
          Except Thrown BlogNews) =
            .ok blog ↔
          turn unescape config object = .ok blog := by
    intro object blog
    unfold turn
    cases hInt : (Json.field config "category").asInt with
    | error e =>
        simp [Json.asMap, Json.index, hInt, bind, Except.bind,
          Except.map]
    | ok category =>
        simp [Json.asMap, Json.index, hInt, bind, Except.bind,
          Except.map, pure, Except.pure]
  unfold WordPress.decodeLayoutBlogs
  simp only [Json.asIterable, ok_bind_eq]
  constructor
  · intro hLoop
    have hEach := forall₂_of_mapM hLoop
    rw [List.forall₂_map_left_iff] at hEach
    exact hEach.imp fun object blog => (hTurn object blog).mp
  · intro hEach
    refine mapM_of_forall₂ ?_
    rw [List.forall₂_map_left_iff]
    exact hEach.imp fun object blog => (hTurn object blog).mpr

/-
  For whatever posts the server returns, a section keeps
  their categories exactly if its config has one or the
  posts have none.
-/
theorem kept_fetchBlogLayout_iff
    (hAnswer :
      (WordPress.layoutEndPoint (.obj config) lang >>=
        fun endPoint => wp.getAsync http endPoint) =
      .ok (.arr (objects.map .obj))) :
    Kept unescape config objects
        (wp.fetchBlogLayout http unescape (.obj config) lang) ↔
      ∀ object ∈ objects, KeepsCategory config object := by
  have hFetch :
      wp.fetchBlogLayout http unescape (.obj config) lang =
        WordPress.decodeLayoutBlogs unescape (.obj config)
          (.arr (objects.map .obj)) := by
    unfold WordPress.fetchBlogLayout
    rw [← bind_assoc, hAnswer, ok_bind_eq]
  have hPosts :
      wp.fetchBlogLayout http unescape (.obj config) lang =
          .ok (objects.map (expected unescape config)) ↔
        ∀ object ∈ objects, KeepsCategory config object := by
    rw [hFetch, decodeLayoutBlogs_eq_ok_iff,
      List.forall₂_map_right_iff, List.forall₂_same]
    simp only [turn_eq_ok_iff]
  rw [← hPosts]
  constructor
  · exact Kept.posts
  · intro hAll
    refine ⟨hAll, ?_⟩
    intro hNone blogs hBlogs
    rw [hAll] at hBlogs
    cases hBlogs
    rw [List.map_map]
    refine List.map_congr_left fun object _ => ?_
    simp only [Function.comp_apply, expected, hNone]

/- A post of the category 5. -/
def politics : Fields :=
  [("categories", .arr [.int 5]), ("id", .int 1)]

/- A network that gives that post and one without any. -/
def twoPosts : Http := fun _ =>
  .ok
    { statusCode := 200
      decoded :=
        some (.arr [.obj politics, .obj [("id", .int 2)]]) }

/- The section of the category 7 has both under it. -/
theorem kept_with_category :
    Kept (fun text => text) [("category", .int 7)]
      [politics, [("id", .int 2)]]
      (newsService.fetchBlogLayout twoPosts (fun text => text)
        (.obj [("category", .int 7)]) "en") :=
  (kept_fetchBlogLayout_iff rfl).mpr (by decide)

/-
  A section without a category loses that of the post, and
  its related posts are the latest ones.
-/
theorem category_is_lost :
    ∃ first second,
      newsService.fetchBlogLayout twoPosts (fun text => text)
          (.obj [("layout", .str "list")]) "en" =
        .ok [first, second] ∧
      (BlogNews.fromJson (fun text => text)
        (.obj politics)).categoryId = some 5 ∧
      first.categoryId = none ∧
      RelatedBlogList.endPoint first.categoryId = "posts" ∧
      ¬ Kept (fun text => text) [("layout", .str "list")]
        [politics, [("id", .int 2)]]
        (newsService.fetchBlogLayout twoPosts
          (fun text => text)
          (.obj [("layout", .str "list")]) "en") := by
  refine ⟨_, _, rfl, rfl, rfl, rfl, ?_⟩
  intro hKept
  have hSame := congrArg
    (fun fetched : Except Thrown (List BlogNews) =>
      (fetched.toOption.bind List.head?).map
        BlogNews.categoryId)
    hKept.posts
  cases hSame

end SectionPosts

end NewsCentral
