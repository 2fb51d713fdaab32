import NewsCentral.EventLoop.Program
import NewsCentral.Services.WordPress

/-
  The posts page over the one `BlogNewsModel` of the app.

  The list and its flags live in the model of
  `lib/models/blog_news.dart`, the selected category in the
  page of `lib/screens/posts.dart`, and the page counter in
  the widget of `lib/widgets/blog_news/blog_list.dart`.  The
  prices and the order of posts, which the page passes on
  and `getBlogsList` does not use, are left out.

  Key definitions include:
    * `NewsCentral.BlogNewsModel`
    * `NewsCentral.Posts`
    * `NewsCentral.Posts.call` and `resume`
    * `NewsCentral.Posts.program`

  Key theorems include:
    * `NewsCentral.Posts.call_cases`
-/

------------------------------------------------------------
-- The Model
------------------------------------------------------------

namespace NewsCentral

open Dart EventLoop

/- The model; null is modelled by `none`. -/
structure BlogNewsModel where
  blogList : Option (List BlogNews) := none
  isFetching : Bool := false
  isEnd : Option Bool := none
  categoryId : Option Int := none
  categoryName : Option String := none
  errMsg : Option String := none

namespace BlogNewsModel

/- Show posts that are at hand. -/
def setBlogNewsList
    (blogs : List BlogNews)
    (m : BlogNewsModel) : BlogNewsModel :=
  { m with
    blogList := some blogs
    isFetching := false
    isEnd := some false }

/- The same under another name. -/
def setBlogsList
    (blogs : List BlogNews)
    (m : BlogNewsModel) : BlogNewsModel :=
  m.setBlogNewsList blogs

def fetchBlogsByCategory
    (categoryId : Option Int)
    (categoryName : Option String)
    (m : BlogNewsModel) : BlogNewsModel :=
  { m with
    categoryId := categoryId
    categoryName := categoryName }

/- `getBlogsList` up to its request. -/
def getBlogsList
    (categoryId : Option Int)
    (m : BlogNewsModel) : BlogNewsModel :=
  { m with
    categoryId :=
      match categoryId with
      | none => m.categoryId
      | some id => some id
    isFetching := true
    isEnd := some false }

/- What `getBlogsList` does with an error. -/
def failed
    (thrown : Thrown)
    (m : BlogNewsModel) : BlogNewsModel :=
  { m with
    errMsg := some thrown.toText
    isFetching := false }

/-
  What `getBlogsList` does with the posts of a page: those
  of a first page replace the list, others are appended, and
  appending to null throws.
-/
def gotBlogs
    (page : Nat)
    (blogs : List BlogNews)
    (m : BlogNewsModel) : BlogNewsModel :=
  let ended : BlogNewsModel :=
    if blogs = [] then { m with isEnd := some true } else m
  if page = 0 ∨ page = 1 then
    { ended with blogList := some blogs, isFetching := false }
  else
    match ended.blogList with
    | none => ended.failed (.noSuchMethod "iterator")
    | some old =>
        { ended with
          blogList := some (old ++ blogs)
          isFetching := false }

end BlogNewsModel

------------------------------------------------------------
-- The Page
------------------------------------------------------------

/-
  The model, whether a posts page was opened, and of the
  page opened last its category and the counter `_page`.
  The last two fields are histories: the page number that
  was put into the list last, and the posts that were
  answered, each with the category it was requested for.
-/
structure Posts where
  blog : BlogNewsModel := {}
  opened : Bool := false
  newCategoryId : Option Int := some (-1)
  page : Nat := 1
  listed : Nat := 0
  answered : List (Option Int × BlogNews) := []

/- The entries `showList` reads of a layout's config. -/
structure BlogsConfig where
  category : Option Int
  name : Option String

/- A request for a page of a category. -/
structure Fetch where
  categoryId : Option Int
  page : Nat
deriving DecidableEq

namespace Posts

/- The events of the posts page. -/
inductive Op where
  | showList
      (cateId : Option Int)
      (cateName : Option String)
      (config : Option BlogsConfig)
      (blogs : Option (List BlogNews))
  | onFilter (categoryId : Option Int)
  | onSort
  | onRefresh
  | onLoading

/- `given ?? config[...]`, none where it throws. -/
def orConfig
    {α : Type}
    (given : Option α)
    (config : Option BlogsConfig)
    (read : BlogsConfig → Option α) : Option (Option α) :=
  match given, config with
  | some v, _ => some (some v)
  | none, some c => some (read c)
  | none, none => none

/- The category and the posts of a cached list. -/
def Op.cached : Op → Option (Option Int × List BlogNews)
  | .showList cateId _ config (some blogs) =>
      (orConfig cateId config BlogsConfig.category).map
        (·, blogs)
  | _ => none

/- Request a page of a category through the model. -/
def getBlogsList
    (fetch : Fetch)
    (s : Posts) : Posts × List Fetch :=
  ({ s with blog := s.blog.getBlogsList fetch.categoryId },
    [fetch])

/- Open a page over what the model shows. -/
def opening
    (categoryId : Option Int)
    (s : Posts) : Posts :=
  { s with
    opened := true
    newCategoryId := categoryId
    page := 1 }

/- Show the cached posts of a category. -/
def showCached
    (categoryId : Option Int)
    (categoryName : Option String)
    (blogs : List BlogNews)
    (s : Posts) : Posts :=
  opening categoryId
    { s with
      blog :=
        { s.blog.setBlogNewsList blogs with
          categoryName := categoryName }
      listed := 1
      answered :=
        blogs.map (categoryId, ·) ++ s.answered }

/- Clear the list and request the posts of a category. -/
def showFetched
    (categoryId : Option Int)
    (categoryName : Option String)
    (s : Posts) : Posts × List Fetch :=
  let named :=
    match categoryId with
    | none => s.blog
    | some id =>
        s.blog.fetchBlogsByCategory (some id) categoryName
  getBlogsList ⟨categoryId, 1⟩
    (opening categoryId
      { s with blog := named.setBlogsList [], listed := 0 })

/- `BlogNews.showList`. -/
def showList
    (cateId : Option Int)
    (cateName : Option String)
    (config : Option BlogsConfig)
    (blogs : Option (List BlogNews))
    (s : Posts) : Posts × List Fetch :=
  match orConfig cateId config BlogsConfig.category,
      orConfig cateName config BlogsConfig.name with
  | some categoryId, some categoryName =>
      match blogs with
      | some blogs =>
          (s.showCached categoryId categoryName blogs, [])
      | none => s.showFetched categoryId categoryName
  | _, _ => (s, [])

/-
  The list can be pulled: it is not empty, and the guard of
  `_onRefresh` admits it.
-/
def canRefresh (s : Posts) : Bool :=
  s.opened && !(s.blog.blogList.getD []).isEmpty &&
    !s.blog.isFetching

/- The guard of `_onLoading` admits it, too. -/
def canLoad (s : Posts) : Bool :=
  s.canRefresh && s.blog.isEnd == some false

/- Start an event; one that is not admitted is refused. -/
def call : Op → Posts → Option (Posts × List Fetch)
  | .showList cateId cateName config blogs, s =>
      some (s.showList cateId cateName config blogs)
  | .onFilter categoryId, s =>
      if s.opened then
        some
          (getBlogsList ⟨categoryId, 1⟩
            { s with
              blog := s.blog.setBlogNewsList []
              newCategoryId := categoryId
              listed := 0 })
      else
        none
  | .onSort, s =>
      if s.opened then
        some (getBlogsList ⟨s.newCategoryId, 1⟩ s)
      else
        none
  | .onRefresh, s =>
      if s.canRefresh then
        some
          (getBlogsList ⟨s.newCategoryId, 1⟩
            { s with page := 1 })
      else
        none
  | .onLoading, s =>
      if s.canLoad then
        some
          (getBlogsList ⟨s.newCategoryId, s.page + 1⟩
            { s with page := s.page + 1 })
      else
        none

/- Take in the posts of a page. -/
def accept
    (fetch : Fetch)
    (blogs : List BlogNews)
    (s : Posts) : Posts :=
  { s with
    blog := s.blog.gotBlogs fetch.page blogs
    listed := fetch.page
    answered :=
      blogs.map (fetch.categoryId, ·) ++ s.answered }

/-
  What a request brings; `lang` is the app's language, and
  `unescape` the `HtmlUnescape` package.
-/
def fetched
    (unescape : String → String)
    (lang : String)
    (fetch : Fetch)
    (http : Http) : Except Thrown (List BlogNews) :=
  newsService.fetchBlogsByCategory http unescape
    fetch.categoryId fetch.page lang

/- Go on when a request is answered. -/
def resume
    (unescape : String → String)
    (lang : String)
    (fetch : Fetch)
    (http : Http)
    (s : Posts) : Posts × List Fetch :=
  match fetched unescape lang fetch http with
  | .error thrown =>
      ({ s with blog := s.blog.failed thrown }, [])
  | .ok blogs => (s.accept fetch blogs, [])

/- The posts page as a program of the event loop. -/
def program
    (unescape : String → String)
    (lang : String) :
    Program Posts Op Fetch Http where
  call := call
  resume := resume unescape lang
  queued := fun _ => false

/- The launch of the app. -/
def launched : Pool Posts Fetch where
  shared := {}
  pending := []

/- A tap on a category of the menu. -/
def tapCategory (id : Int) : Op :=
  .showList (some id) (some "News") none none

/- An answer with one post of a category. -/
def postOf (categoryId id : Int) : Http := fun _ => .ok
  { statusCode := 200
    decoded := some (.arr
      [ .obj
          [ ("categories", .arr [.int categoryId]),
            ("id", .int id) ] ]) }

end Posts

end NewsCentral

------------------------------------------------------------
-- What An Event Can Do
------------------------------------------------------------

namespace NewsCentral

namespace Posts

/- The state of a request: emptied, or the list as it was. -/
structure Requesting (s t : Posts) : Prop where
  answered : t.answered = s.answered
  list :
    (t.blog.blogList = some [] ∧ t.listed = 0) ∨
      (t.blog.blogList = s.blog.blogList ∧
        t.listed = s.listed ∧
        t.newCategoryId = s.newCategoryId)

/- `showList` throws, shows cached posts or requests some. -/
theorem showList_cases
    (cateId : Option Int)
    (cateName : Option String)
    (config : Option BlogsConfig)
    (blogs : Option (List BlogNews))
    (s : Posts) :
    s.showList cateId cateName config blogs = (s, []) ∨
      (∃ categoryId categoryName cached,
        (Op.showList cateId cateName config blogs).cached =
            some (categoryId, cached) ∧
          s.showList cateId cateName config blogs =
            (s.showCached categoryId categoryName cached,
              [])) ∨
      ∃ fetch t,
        s.showList cateId cateName config blogs =
            getBlogsList fetch t ∧
          Requesting s t := by
  unfold showList
  split
  next categoryId categoryName hId _ =>
    cases blogs with
    | none =>
        exact .inr (.inr ⟨⟨categoryId, 1⟩, _, rfl,
          rfl, .inl ⟨rfl, rfl⟩⟩)
    | some blogs =>
        exact .inr (.inl
          ⟨categoryId, categoryName, blogs,
            by simp [Op.cached, hId], rfl⟩)
  next => exact .inl rfl

/-
  An event leaves the state, shows cached posts or makes one
  request.
-/
theorem call_cases
    {op : Op}
    {s t : Posts}
    {next : List Fetch}
    (hCall : call op s = some (t, next)) :
    (t, next) = (s, []) ∨
      (∃ categoryId categoryName cached,
        op.cached = some (categoryId, cached) ∧
          (t, next) =
            (s.showCached categoryId categoryName cached,
              [])) ∨
      ∃ fetch u,
        (t, next) = getBlogsList fetch u ∧
          Requesting s u := by
  cases op with
  | showList cateId cateName config blogs =>
      have hSame :
          (t, next) =
            s.showList cateId cateName config blogs :=
        (Option.some.inj hCall).symm
      rw [hSame]
      exact showList_cases cateId cateName config blogs s
  | onFilter categoryId =>
      rcases Option.ite_none_right_eq_some.mp hCall with
        ⟨_, hTurn⟩
      exact .inr (.inr ⟨_, _, (Option.some.inj hTurn).symm,
        rfl, .inl ⟨rfl, rfl⟩⟩)
  | onSort =>
      rcases Option.ite_none_right_eq_some.mp hCall with
        ⟨_, hTurn⟩
      exact .inr (.inr ⟨_, _, (Option.some.inj hTurn).symm,
        rfl, .inr ⟨rfl, rfl, rfl⟩⟩)
  | onRefresh =>
      rcases Option.ite_none_right_eq_some.mp hCall with
        ⟨_, hTurn⟩
      exact .inr (.inr ⟨_, _, (Option.some.inj hTurn).symm,
        rfl, .inr ⟨rfl, rfl, rfl⟩⟩)
  | onLoading =>
      rcases Option.ite_none_right_eq_some.mp hCall with
        ⟨_, hTurn⟩
      exact .inr (.inr ⟨_, _, (Option.some.inj hTurn).symm,
        rfl, .inr ⟨rfl, rfl, rfl⟩⟩)

end Posts

end NewsCentral
